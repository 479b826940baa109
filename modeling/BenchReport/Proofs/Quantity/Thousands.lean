import BenchReport.Proofs.Decimal.Digits
import BenchReport.Quantity

/-!
# Counts in groups of three digits

The digits of a count are written from the front, and a comma follows each digit that has a multiple
of three digits behind it. Read from the commas, these are groups of three digits after a first of one
to three (`areThousands_groupThousands`). There is one way only to cut digits into such groups
(`AreThousands.eq_of_flatten_eq`), so a count is shown by one text and no other
(`count_shows_thousands`).
-/

namespace BenchReport

/-! ### Pieces between separators -/

namespace Text

variable {α : Type} [DecidableEq α] {sep : α}

theorem splitOn_cons_self (s : List α) : (sep :: s).splitOn sep = [] :: s.splitOn sep := by
  simp [List.splitOn_cons_eq_if_modifyHead]

theorem splitOn_cons_of_ne {a : α} (ha : a ≠ sep) {s piece : List α} {pieces : List (List α)}
    (hs : s.splitOn sep = piece :: pieces) : (a :: s).splitOn sep = (a :: piece) :: pieces := by
  simp [List.splitOn_cons_eq_if_modifyHead, ha, hs]

theorem splitOn_injective (sep : α) : Function.Injective (List.splitOn sep) := by
  intro s t heq
  calc
    s = [sep].intercalate (s.splitOn sep) := (List.intercalate_splitOn sep).symm
    _ = [sep].intercalate (t.splitOn sep) := by rw [heq]
    _ = t := List.intercalate_splitOn sep

/-- Without its separators a list is its pieces. -/
theorem flatten_splitOn (s : List α) : (s.splitOn sep).flatten = s.filter (· != sep) := by
  induction s with
  | nil => simp
  | cons a s ih =>
    by_cases ha : a = sep
    · subst ha
      simp [splitOn_cons_self, ih]
    · obtain ⟨piece, pieces, hs⟩ := List.exists_cons_of_ne_nil (List.splitOn_ne_nil sep s)
      rw [hs, List.flatten_cons] at ih
      simp [splitOn_cons_of_ne ha hs, ha, ih]

/-- There is one piece more than separators. -/
theorem length_splitOn (s : List α) : (s.splitOn sep).length = s.count sep + 1 := by
  induction s with
  | nil => simp
  | cons a s ih =>
    by_cases ha : a = sep
    · subst ha
      simp [splitOn_cons_self, ih]
    · obtain ⟨piece, pieces, hs⟩ := List.exists_cons_of_ne_nil (List.splitOn_ne_nil sep s)
      rw [splitOn_cons_of_ne ha hs, List.count_cons_of_ne ha, ← ih, hs]
      simp

/-- A separator at either end leaves an empty piece there. -/
theorem ends_ne_of_nil_not_mem {s : List α} (h : [] ∉ s.splitOn sep) :
    s.head? ≠ some sep ∧ s.getLast? ≠ some sep := by
  constructor
  · intro hhead
    obtain ⟨r, rfl⟩ := List.head?_eq_some_iff.mp hhead
    apply h
    simp [splitOn_cons_self]
  · intro hlast
    obtain ⟨r, rfl⟩ := List.getLast?_eq_some_iff.mp hlast
    apply h
    simp [List.splitOn_append_cons_self]

end Text

/-! ### Groups of three -/

namespace Quantity

open Text

/-- Whether pieces are groups of three characters, after a first of one to three. -/
def AreThousands : List (List Char) → Prop
  | [] => False
  | first :: rest =>
    (1 ≤ first.length ∧ first.length ≤ 3) ∧ ∀ group ∈ rest, group.length = 3

namespace AreThousands

variable {c : Char} {first : List Char} {rest groups others : List (List Char)}

theorem singleton (c : Char) : AreThousands [[c]] := by simp [AreThousands]

/-- A character before a full group is a group of its own. -/
theorem cons_of_full (h : AreThousands (first :: rest)) (hfull : first.length = 3) :
    AreThousands ([c] :: first :: rest) := by
  obtain ⟨-, hrest⟩ := h
  refine ⟨by simp, ?_⟩
  rw [List.forall_mem_cons]
  exact ⟨hfull, hrest⟩

/-- A character before a group that is not full belongs to it. -/
theorem cons_of_not_full (h : AreThousands (first :: rest)) (hroom : first.length ≠ 3) :
    AreThousands ((c :: first) :: rest) := by
  obtain ⟨⟨-, hthree⟩, hrest⟩ := h
  rw [AreThousands, List.length_cons]
  exact ⟨by omega, hrest⟩

theorem nil_not_mem (h : AreThousands groups) : [] ∉ groups := by
  intro hnil
  cases groups with
  | nil => exact h
  | cons first rest =>
    obtain ⟨⟨hfirst, -⟩, hrest⟩ := h
    rcases List.mem_cons.mp hnil with rfl | hnil
    · simp at hfirst
    · simpa using hrest [] hnil

theorem map_length (h : AreThousands (first :: rest)) :
    (first :: rest).map List.length = first.length :: List.replicate rest.length 3 := by
  simpa [List.eq_replicate_iff] using h.2

theorem length_flatten (h : AreThousands (first :: rest)) :
    (first :: rest).flatten.length = first.length + rest.length * 3 := by
  rw [List.length_flatten, h.map_length]
  simp

/-- There is a first group, and one for every three characters that follow the first. -/
theorem length_eq (h : AreThousands groups) :
    groups.length = (groups.flatten.length - 1) / 3 + 1 := by
  cases groups with
  | nil => exact h.elim
  | cons first rest =>
    have hlength := h.length_flatten
    obtain ⟨hfirst, -⟩ := h
    rw [hlength, List.length_cons]
    omega

/-- There is one way only to cut a text into groups. -/
theorem eq_of_flatten_eq (h : AreThousands groups) (h' : AreThousands others)
    (heq : groups.flatten = others.flatten) : groups = others := by
  -- as many characters are cut into as many groups, so the first groups are equally long as well
  have hlength : groups.length = others.length := by
    rw [h.length_eq, h'.length_eq, heq]
  cases groups with
  | nil => exact h.elim
  | cons first rest =>
    cases others with
    | nil => exact h'.elim
    | cons first' rest' =>
      have htotal : first.length + rest.length * 3 = first'.length + rest'.length * 3 := by
        rw [← h.length_flatten, ← h'.length_flatten, heq]
      rw [List.length_cons, List.length_cons] at hlength
      have hrest : rest.length = rest'.length := by omega
      have hfirst : first.length = first'.length := by omega
      rw [List.eq_iff_flatten_eq, h.map_length, h'.map_length, hfirst, hrest]
      exact ⟨heq, rfl⟩

end AreThousands

/-! ### Counts -/

/-- A digit is a group of its own just if the digits behind it fill theirs. The groups behind it hold
all of these digits, so that is seen from the number of digits. -/
theorem areThousands_groupThousands {ds : List Char} (hne : ds ≠ []) (hcomma : ',' ∉ ds) :
    AreThousands ((groupThousands ds).splitOn ',') := by
  induction ds with
  | nil => exact absurd rfl hne
  | cons d ds ih =>
    rw [List.mem_cons, not_or] at hcomma
    obtain ⟨hd, hcomma⟩ := hcomma
    by_cases hds : ds = []
    · subst hds
      have hlast : [d].splitOn ',' = [[d]] := splitOn_cons_of_ne (Ne.symm hd) (by simp)
      simpa [groupThousands, hlast] using AreThousands.singleton d
    · have hgroups := ih hds hcomma
      have hflatten : ((groupThousands ds).splitOn ',').flatten = ds := by
        rw [flatten_splitOn, groupThousands_filter ds hcomma]
      obtain ⟨first, rest, hsplit⟩ :=
        List.exists_cons_of_ne_nil (List.splitOn_ne_nil ',' (groupThousands ds))
      rw [hsplit] at hgroups hflatten
      have hlength : ds.length = first.length + rest.length * 3 := by
        rw [← hgroups.length_flatten, hflatten]
      have hfirst := hgroups.1
      rw [groupThousands]
      split
      · next hfull =>
        rw [splitOn_cons_of_ne (Ne.symm hd) (splitOn_cons_self _), hsplit]
        exact hgroups.cons_of_full (by omega)
      · next hroom =>
        rw [splitOn_cons_of_ne (Ne.symm hd) hsplit]
        apply hgroups.cons_of_not_full
        intro hfull
        exact hroom ⟨hds, by omega⟩

/-- Whether a text shows a number with its digits in groups of three. -/
structure ShowsThousands (text : String) (n : Nat) : Prop where
  /-- Without commas it is the decimal text of the number. -/
  digits : text.toList.filter (· != ',') = (toString n).toList
  /-- It does not start with a comma. -/
  head : text.toList.head? ≠ some ','
  /-- It does not end with a comma. -/
  last : text.toList.getLast? ≠ some ','
  /-- Three digits follow each comma, and one to three stand before the first. -/
  groups : AreThousands (text.toList.splitOn ',')
  /-- There is one comma for every three digits that follow the first. -/
  commas : text.toList.count ',' = ((toString n).length - 1) / 3

/-- The digits and the groups say it all. -/
theorem showsThousands_iff {text : String} {n : Nat} :
    ShowsThousands text n ↔ text.toList.filter (· != ',') = (toString n).toList ∧
      AreThousands (text.toList.splitOn ',') := by
  constructor
  · intro h
    exact ⟨h.digits, h.groups⟩
  · rintro ⟨hdigits, hgroups⟩
    obtain ⟨hhead, hlast⟩ := ends_ne_of_nil_not_mem hgroups.nil_not_mem
    have hcommas := hgroups.length_eq
    rw [length_splitOn, flatten_splitOn, hdigits, String.length_toList] at hcommas
    exact ⟨hdigits, hhead, hlast, hgroups, by omega⟩

theorem showsThousands_count (n : Nat) : ShowsThousands (count n) n := by
  have hcomma := Decimal.comma_not_mem_digits n
  rw [showsThousands_iff, count, String.toList_ofList, Decimal.toList_toString]
  exact ⟨groupThousands_filter _ hcomma,
    areThousands_groupThousands (Decimal.digits_ne_nil n) hcomma⟩

/-- Two texts of one number are the same. -/
theorem ShowsThousands.text_eq {text other : String} {n : Nat} (h : ShowsThousands text n)
    (h' : ShowsThousands other n) : text = other := by
  rw [← String.toList_inj]
  apply splitOn_injective ','
  apply h.groups.eq_of_flatten_eq h'.groups
  rw [flatten_splitOn, flatten_splitOn, h.digits, h'.digits]

/-- Two numbers of one text are the same. -/
theorem ShowsThousands.number_eq {text : String} {m n : Nat} (h : ShowsThousands text m)
    (h' : ShowsThousands text n) : m = n := by
  apply Decimal.digits_injective
  rw [← Decimal.toList_toString, ← Decimal.toList_toString, ← h.digits, h'.digits]

/-- **A count is shown in groups of three digits.** The text of a count without its commas is its
decimal text, it neither starts nor ends with a comma, a first group of one to three digits and groups
of three digits stand between the commas, and so there is one comma for every three digits that follow
the first. It is the only such text, and no two counts are shown alike. -/
theorem count_shows_thousands :
    (∀ n text, ShowsThousands text n ↔ text = count n) ∧ Function.Injective count := by
  constructor
  · intro n text
    constructor
    · intro h
      exact h.text_eq (showsThousands_count n)
    · rintro rfl
      exact showsThousands_count n
  · intro m n heq
    have hn := showsThousands_count n
    rw [← heq] at hn
    exact (showsThousands_count m).number_eq hn

end Quantity

end BenchReport
