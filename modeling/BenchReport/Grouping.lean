import BenchReport.Keyed

/-!
# Groups in order of encounter

A grouping collects values under keys. A group stands where its key was first met, and its
members stand in the order in which they came. An index leads from a key to the place of its
group, so that a key is never looked for among the groups.
-/

namespace BenchReport

/-- The values collected under one key. -/
structure Group (α : Type) where
  /-- The key. -/
  key : String
  /-- The values. -/
  members : List α
  deriving Repr, DecidableEq

/-- Groups in the order in which their keys were first met. -/
structure Grouping (α : Type) where
  /-- The groups. -/
  groups : List (Group α)
  /-- The place of the group of each key. -/
  index : Keyed Nat

variable {α : Type}

/-- The group with a value added at its end. -/
def Group.add (g : Group α) (a : α) : Group α := ⟨g.key, g.members ++ [a]⟩

namespace Grouping

/-- The grouping of nothing. -/
def empty : Grouping α := ⟨[], .empty⟩

/-- Adds a value to the group of its key, which is opened at the end if it is new. -/
def push (t : Grouping α) (key : String) (a : α) : Grouping α :=
  match t.index.get? key with
  | some place => { t with groups := t.groups.modify place (·.add a) }
  | none => ⟨t.groups ++ [⟨key, [a]⟩], t.index.insert key t.groups.length⟩

/-- Adds values one after the other, each under its key. -/
def pushAll (t : Grouping α) (steps : List (String × α)) : Grouping α :=
  steps.foldl (fun t step => t.push step.1 step.2) t

/-- The members under a key. -/
def get? (t : Grouping α) (key : String) : Option (List α) :=
  match t.index.get? key with
  | some place => t.groups[place]?.map (·.members)
  | none => none

/-- The keys in order of encounter. -/
def keys (t : Grouping α) : List String := t.groups.map (·.key)

/-- The number of groups. -/
def size (t : Grouping α) : Nat := t.groups.length

/-- Whether there is no group. -/
def isEmpty (t : Grouping α) : Bool := t.groups.isEmpty

/-- The number of members of all groups. -/
def total (t : Grouping α) : Nat := (t.groups.map (·.members.length)).foldr (· + ·) 0

/-- All members, group after group. -/
def members (t : Grouping α) : List α := t.groups.flatMap (·.members)

/-- Values grouped by a key. -/
def groupBy (key : α → String) (xs : List α) : Grouping α :=
  empty.pushAll (xs.map fun a => (key a, a))

/-- The grouping with the members of each group rearranged. -/
def rearrange (f : List α → List α) (t : Grouping α) : Grouping α :=
  { t with groups := t.groups.map fun g => ⟨g.key, f g.members⟩ }

end Grouping

end BenchReport
