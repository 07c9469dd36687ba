import Questionnaire.Json.Basic
import Questionnaire.Json.Token

/-!
# Documents

A `Document` is what a reader meets: a value with its members in the order in which they were
written, repeated names included, and with marks where the text holds something that cannot be
read. `unreadable` stands for a token that is well formed and has no value; it is no obstacle
while nobody asks for it. `damaged` stands where a text stops being well formed: everything
before it can still be read, and everything around it is closed there.

`Document.ofTokens` builds the document of a text, `Document.ofJson` that of a value, and
`Document.toJson?` gives back the value of a document without such marks.
-/

namespace Questionnaire.Json

/-- What a reader meets. A member without a name has a name that cannot be read. -/
inductive Document where
  | null
  | bool (value : Bool)
  | number (value : Number)
  | text (value : String)
  | list (items : List Document)
  | record (members : List (Option String × Document))
  | unreadable
  | damaged
  deriving Inhabited

namespace Document

mutual

/-- The document of a value. -/
def ofJson : Json → Document
  | .null => .null
  | .bool b => .bool b
  | .number n => .number n
  | .text s => .text s
  | .list items => .list (ofItems items)
  | .object members => .record (ofMembers members)

/-- The documents of the items of a list. -/
def ofItems : List Json → List Document
  | [] => []
  | j :: rest => ofJson j :: ofItems rest

/-- The documents of the members of an object. -/
def ofMembers : List (String × Json) → List (Option String × Document)
  | [] => []
  | (name, j) :: rest => (some name, ofJson j) :: ofMembers rest

end

mutual

/-- The value of a document; `none` where something cannot be read. -/
def toJson? : Document → Option Json
  | .null => some .null
  | .bool b => some (.bool b)
  | .number n => some (.number n)
  | .text s => some (.text s)
  | .list items => (toItems? items).map .list
  | .record members => (toMembers? members).map .object
  | .unreadable => none
  | .damaged => none

/-- The values of the items of a list. -/
def toItems? : List Document → Option (List Json)
  | [] => some []
  | d :: rest => (toJson? d).bind fun j => (toItems? rest).map (j :: ·)

/-- The values of the members of a record. -/
def toMembers? : List (Option String × Document) → Option (List (String × Json))
  | [] => some []
  | (none, _) :: _ => none
  | (some name, d) :: rest => (toJson? d).bind fun j => (toMembers? rest).map ((name, j) :: ·)

end

mutual

/-- Whether the text of the document is well formed throughout. -/
def isIntact : Document → Bool
  | .list items => itemsIntact items
  | .record members => membersIntact members
  | .damaged => false
  | _ => true

/-- Whether every item is intact. -/
def itemsIntact : List Document → Bool
  | [] => true
  | d :: rest => isIntact d && itemsIntact rest

/-- Whether the value of every member is intact. -/
def membersIntact : List (Option String × Document) → Bool
  | [] => true
  | (_, d) :: rest => isIntact d && membersIntact rest

end

mutual

/-- How deep lists and records are nested. -/
def depth : Document → Nat
  | .list items => itemsDepth items + 1
  | .record members => membersDepth members + 1
  | _ => 0

/-- The depth of the deepest item. -/
def itemsDepth : List Document → Nat
  | [] => 0
  | d :: rest => max (depth d) (itemsDepth rest)

/-- The depth of the deepest member. -/
def membersDepth : List (Option String × Document) → Nat
  | [] => 0
  | (_, d) :: rest => max (depth d) (membersDepth rest)

end

/-- A list or record that is still open, with what it holds so far, last first. An open record
waits for the value of its last name. -/
inductive Frame where
  | items (done : List Document)
  | member (done : List (Option String × Document)) (name : Option String)

/-- Closes all open lists and records around a document. -/
def closeAll : List Frame → Document → Document
  | [], d => d
  | .items done :: outer, d => closeAll outer (.list (d :: done).reverse)
  | .member done name :: outer, d => closeAll outer (.record ((name, d) :: done).reverse)

/-- What the next token is to be: a value, a name of a record, the colon after a name, or what
follows a value. -/
inductive Expecting where
  | value
  | name (done : List (Option String × Document))
  | colon (done : List (Option String × Document)) (name : Option String)
  | after (value : Document)

/-- The document of a text that ends or goes wrong at this point. -/
def broken : Expecting → List Frame → Document
  | .value, outer => closeAll outer .damaged
  | .name done, outer => closeAll outer (.record ((none, .damaged) :: done).reverse)
  | .colon done name, outer => closeAll outer (.record ((name, .damaged) :: done).reverse)
  | .after d, [] => d
  | .after d, .items done :: outer => closeAll outer (.list (.damaged :: d :: done).reverse)
  | .after d, .member done name :: outer =>
    closeAll outer (.record ((none, .damaged) :: (name, d) :: done).reverse)

/-- The document of a single token, if it is a value by itself. -/
def ofToken? : Token → Option Document
  | .null => some .null
  | .bool b => some (.bool b)
  | .number n => some (.number n)
  | .text s => some (.text s)
  | .halfText => some .unreadable
  | .hugeNumber => some .unreadable
  | _ => none

/-- Builds a document from tokens inside open lists and records, and says whether tokens are left
over. -/
def grow : List Token → Expecting → List Frame → Document × Bool
  | rest, .after d, [] => (d, !rest.isEmpty)
  | [], state, outer => (broken state outer, false)
  | t :: rest, .value, outer =>
    match ofToken? t with
    | some d => grow rest (.after d) outer
    | none => match t, outer with
      | .openList, outer => grow rest .value (.items [] :: outer)
      | .openRecord, outer => grow rest (.name []) outer
      | .closeList, .items [] :: outer => grow rest (.after (.list [])) outer
      | _, outer => (broken .value outer, false)
  | t :: rest, .name done, outer =>
    match t, done with
    | .text s, done => grow rest (.colon done (some s)) outer
    | .halfText, done => grow rest (.colon done none) outer
    | .closeRecord, [] => grow rest (.after (.record [])) outer
    | _, done => (broken (.name done) outer, false)
  | .colon :: rest, .colon done name, outer => grow rest .value (.member done name :: outer)
  | _ :: _, .colon done name, outer => (broken (.colon done name) outer, false)
  | t :: rest, .after d, .items done :: outer =>
    match t with
    | .comma => grow rest .value (.items (d :: done) :: outer)
    | .closeList => grow rest (.after (.list (d :: done).reverse)) outer
    | _ => (broken (.after d) (.items done :: outer), false)
  | t :: rest, .after d, .member done name :: outer =>
    match t with
    | .comma => grow rest (.name ((name, d) :: done)) outer
    | .closeRecord => grow rest (.after (.record ((name, d) :: done).reverse)) outer
    | _ => (broken (.after d) (.member done name :: outer), false)

/-- The document of a text, and whether something follows it. -/
def ofText (s : String) : Document × Bool := grow (tokens s.toList) .value []

/-- A text nests at most this many lists and records. -/
def maxDepth : Nat := 127

end Document

/-- The value of a text. Members are listed by ascending name, and of members with one name the
last counts. -/
def parse? (s : String) : Option Json :=
  let (d, more) := Document.ofText s
  if more || Document.maxDepth < d.depth then none
  else d.toJson?.map fun j => j.withoutRepeats.sorted

end Questionnaire.Json
