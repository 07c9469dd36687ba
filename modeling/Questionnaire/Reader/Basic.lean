import Questionnaire.Entries
import Questionnaire.Reader.Error

/-!
# Readers

A `Reader α` takes a document to an `α` or refuses it. It is told where the document comes from,
because the same shape is refused in different words, or at a different point, when it comes
straight from a text, from a value, or from a part of a document that was set aside first.
-/

namespace Questionnaire.Reader

open Json (Document)

/-- Where a document comes from: a value, a text (with the depth reached in it), or a part that
was set aside until its kind was known. -/
inductive Origin where
  | value
  | text (depth : Nat)
  | setAside
  deriving DecidableEq

/-- One level deeper; a text must not nest too deeply. -/
def Origin.enter : Origin → Except Refusal Origin
  | .text depth =>
    if depth < Document.maxDepth then .ok (.text (depth + 1)) else .error .malformed
  | o => .ok o

end Reader

/-- Takes a document to a value, or refuses it. -/
abbrev Reader (α : Type) := Reader.Origin → Json.Document → Except Reader.Refusal α

namespace Reader

open Json (Document)

/-- A text. -/
def text : Reader String
  | _, .text s => .ok s
  | _, d => .error (refuse d "a string")

/-- A truth value. -/
def bool : Reader Bool
  | _, .bool b => .ok b
  | _, d => .error (refuse d "a boolean")

/-- A whole number below `bound`; `expected` names the range. -/
def natBelow (bound : Nat) (expected : String) : Reader { n : Nat // n < bound }
  | _, .number (.int n) =>
    if h : 0 ≤ n ∧ n.toNat < bound then .ok ⟨n.toNat, h.2⟩
    else .error (.problem (.wrongValue (.int n) expected))
  | _, d => .error (refuse d expected)

/-- A whole number of 32 bits. -/
def word32 : Reader UInt32 := fun o d =>
  (natBelow UInt32.size "u32" o d).map fun n => UInt32.ofNatLT n.1 n.2

/-- A position, a whole number of 64 bits. -/
def position : Reader UInt64 := fun o d =>
  (natBelow UInt64.size "usize" o d).map fun n => UInt64.ofNatLT n.1 n.2

/-- Reads `null` as nothing. -/
def optional {α : Type} (r : Reader α) : Reader (Option α)
  | _, .null => .ok none
  | o, d => (r o d).map some

/-- Reads the items of a list one after another. -/
def items {α : Type} (r : Reader α) (o : Origin) : List Document → Except Refusal (List α)
  | [] => .ok []
  | d :: rest => (r o d).bind fun a => (items r o rest).map (a :: ·)

/-- A list. -/
def list {α : Type} (r : Reader α) : Reader (List α)
  | o, .list docs => o.enter.bind fun inner => items r inner docs
  | _, d => .error (refuse d "a sequence")

/-- Reads the members of a record one after another; the last of several with one name counts. -/
def entries {α : Type} (r : Reader α) (o : Origin) :
    List (Option String × Document) → Entries α → Except Refusal (Entries α)
  | [], m => .ok m
  | (none, _) :: _, _ => .error .malformed
  | (some name, d) :: rest, m => (r o d).bind fun a => entries r o rest (m.put name a)

/-- A record with any names. -/
def map {α : Type} (r : Reader α) : Reader (Entries α)
  | o, .record members => o.enter.bind fun inner => entries r inner members .empty
  | _, d => .error (refuse d "a map")

/-- The variant of a name. -/
def named {α : Type} (known : List (String × α)) (name : String) : Except Refusal α :=
  match known.lookup name with
  | some a => .ok a
  | none => .error (.problem (.unknownVariant name (known.map (·.1))))

/-- What stands beside the name of a variant that carries nothing. A part that was set aside may
also be an empty record. -/
def nothing : Reader Unit
  | _, .null => .ok ()
  | .setAside, .record [] => .ok ()
  | _, d => .error (refuse d "unit")

/-- A variant, given by its name alone or by a record of its name and nothing. A text is refused
at the first token that fits neither. -/
def variant {α : Type} (known : List (String × α)) : Reader α
  | _, .text name => named known name
  | .text depth, .record members =>
    (Origin.text depth).enter.bind fun inner =>
      match members with
      | (some name, d) :: rest =>
        (named known name).bind fun a => (nothing inner d).bind fun _ =>
          if rest.isEmpty then .ok a else .error .malformed
      | _ => .error .malformed
  | .text _, _ => .error .malformed
  | o, .record [(some name, d)] => (named known name).bind fun a => (nothing o d).map fun _ => a
  | _, .record _ => .error (.problem (.wrongValue .record "map with a single key"))
  | _, d => .error (refuse d "string or map")

/-- A part of a document as a value, to be looked at later. -/
def content : Reader Json := fun o d =>
  let tooDeep : Bool := match o with
    | .text depth => Document.maxDepth < depth + d.depth
    | _ => false
  match d.toJson? with
  | some j => if tooDeep then .error .malformed else .ok j
  | none => .error .malformed

/-- Reads the document of a value. -/
def ofJson {α : Type} (r : Reader α) (j : Json) : Except Refusal α := r .value (.ofJson j)

/-- Reads the document of a text. Something after the document makes the text malformed, unless
the document is refused before. -/
def ofText {α : Type} (r : Reader α) (s : String) : Except Refusal α :=
  let (d, more) := Document.ofText s
  (r (.text 0) d).bind fun a => if more then .error .malformed else .ok a

end Questionnaire.Reader
