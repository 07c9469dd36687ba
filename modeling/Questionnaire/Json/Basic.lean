import Questionnaire.Decimal.Numeral

/-!
# Document values

`Json` is a value of the document format. An object lists its members as they were given, so it
may name a key twice. `withoutRepeats` keeps the last member of each key, `sorted` orders the
members by ascending key, and `present` builds the members of an object from optional ones.
-/

namespace Questionnaire

/-- A value of the document format. -/
inductive Json where
  | null
  | bool (value : Bool)
  | number (value : Number)
  | text (value : String)
  | list (items : List Json)
  | object (members : List (String × Json))
  deriving Inhabited

namespace Json

/-- The number of a count or position. -/
def nat (n : Nat) : Json := .number (.int n)

/-- The value when there is one, and `null` otherwise. -/
def orNull : Option Json → Json
  | some j => j
  | none => .null

/-- A list of texts. -/
def texts (items : List String) : Json := .list (items.map .text)

/-- The members that are there, in the given order. -/
def present : List (String × Option Json) → List (String × Json)
  | [] => []
  | (_, none) :: rest => present rest
  | (name, some j) :: rest => (name, j) :: present rest

/-- The first member of an object with this name. -/
def member? (name : String) : Json → Option Json
  | .object members => members.lookup name
  | _ => none

mutual

/-- The same value without the members that a later member of the same name overrides. -/
def withoutRepeats : Json → Json
  | .list items => .list (itemsWithoutRepeats items)
  | .object members => .object (membersWithoutRepeats members)
  | j => j

/-- `withoutRepeats` on every item. -/
def itemsWithoutRepeats : List Json → List Json
  | [] => []
  | j :: rest => withoutRepeats j :: itemsWithoutRepeats rest

/-- `withoutRepeats` on every member that no later one overrides. -/
def membersWithoutRepeats : List (String × Json) → List (String × Json)
  | [] => []
  | (name, j) :: rest =>
    if (membersWithoutRepeats rest).any (·.1 == name) then membersWithoutRepeats rest
    else (name, withoutRepeats j) :: membersWithoutRepeats rest

end

mutual

/-- The same value with the members of every object by ascending name. -/
def sorted : Json → Json
  | .list items => .list (sortedItems items)
  | .object members => .object ((sortedMembers members).mergeSort fun a b => a.1 ≤ b.1)
  | j => j

/-- `sorted` on every item. -/
def sortedItems : List Json → List Json
  | [] => []
  | j :: rest => sorted j :: sortedItems rest

/-- `sorted` on the value of every member, without ordering the members themselves. -/
def sortedMembers : List (String × Json) → List (String × Json)
  | [] => []
  | (name, j) :: rest => (name, sorted j) :: sortedMembers rest

end

end Json

end Questionnaire
