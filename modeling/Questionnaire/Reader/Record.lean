import Questionnaire.Reader.Basic

/-!
# Reading records

A record type has named fields in a fixed order. A document gives a record either by members, in
any order and among members with other names, or by a list of its fields in their order. Members
are taken in the order of the document, so that the first one that cannot be read is reported;
only then a missing field is, the first one in the order of the type.
-/

namespace Questionnaire.Reader

open Json (Document)

/-- A field of the record type `α`: how its value is read and stored. A field that is not required
keeps the value of the blank record. -/
structure Field (α : Type) where
  name : String
  isRequired : Bool
  store : Reader (α → α)

namespace Field

variable {α β : Type}

/-- A field that must be given. -/
def required (name : String) (r : Reader β) (set : β → α → α) : Field α :=
  ⟨name, true, fun o d => (r o d).map set⟩

/-- A field that may be left out. -/
def optional (name : String) (r : Reader β) (set : β → α → α) : Field α :=
  ⟨name, false, fun o d => (r o d).map set⟩

end Field

/-- A record type: its name in messages, its fields in order, the record before any field is
stored, and whether members of other names are set aside to be read later. -/
structure Shape (α : Type) where
  name : String
  fields : List (Field α)
  blank : α
  keepsOthers : Bool := false

/-- A number of elements, in words. -/
def elements (n : Nat) : String :=
  toString n ++ if n = 1 then " element" else " elements"

namespace Shape

variable {α : Type}

/-- The field with this name. -/
def field? (s : Shape α) (name : String) : Option (Field α) :=
  s.fields.find? fun f => f.name == name

/-- The first required field that is not among the names seen. -/
def missing? (s : Shape α) (seen : List String) : Option (Field α) :=
  s.fields.find? fun f => f.isRequired && !seen.contains f.name

/-- Whether a member of another name is acceptable: readable where it is set aside, and well
formed where nobody looks at it. -/
def acceptsOther (s : Shape α) (o : Origin) (d : Document) : Bool :=
  if s.keepsOthers then (content o d).isOk else d.isIntact

/-- Stores the members of a document in a record; `seen` lists the fields stored before. A member
of another name is passed over. -/
def readMembers (s : Shape α) (o : Origin) :
    List (Option String × Document) → (seen : List String) → α → Except Refusal α
  | [], seen, a => match s.missing? seen with
    | some f => .error (.problem (.missing f.name))
    | none => .ok a
  | (none, _) :: _, _, _ => .error .malformed
  | (some name, d) :: rest, seen, a => match s.field? name with
    | none => if s.acceptsOther o d then s.readMembers o rest seen a else .error .malformed
    | some f =>
      if seen.contains name then .error (.problem (.repeated name))
      else (f.store o d).bind fun set => s.readMembers o rest (name :: seen) (set a)

/-- The refusal of a list that goes on after the last field. -/
def tooLong (s : Shape α) (o : Origin) (length : Nat) : Refusal :=
  match o with
  | .value => .problem (.wrongLength length "fewer elements in array")
  | .text _ => .malformed
  | .setAside => .problem (.wrongLength length (elements s.fields.length ++ " in sequence"))

/-- Stores the items of a list in the remaining fields; `index` counts the fields before them. -/
def readItems (s : Shape α) (o : Origin) (length : Nat) :
    List (Field α) → (index : Nat) → List Document → α → Except Refusal α
  | [], _, [], a => .ok a
  | [], _, _ :: _, _ => .error (s.tooLong o length)
  | f :: fields, index, [], a =>
    if f.isRequired then
      .error (.problem (.wrongLength index
        ("struct " ++ s.name ++ " with " ++ elements s.fields.length)))
    else s.readItems o length fields (index + 1) [] a
  | f :: fields, index, d :: rest, a =>
    (f.store o d).bind fun set => s.readItems o length fields (index + 1) rest (set a)

/-- Reads a record. -/
def read (s : Shape α) : Reader α
  | o, .record members => o.enter.bind fun inner => s.readMembers inner members [] s.blank
  | o, .list items =>
    o.enter.bind fun inner => s.readItems inner items.length s.fields 0 items s.blank
  | _, d => .error (refuse d ("struct " ++ s.name))

end Shape

end Questionnaire.Reader
