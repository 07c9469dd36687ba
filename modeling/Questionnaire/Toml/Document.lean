import Questionnaire.Toml.Scalar
import Questionnaire.Toml.Table

/-!
# Settings documents

A settings document is a sequence of statements, one per line: headers that open a table and keys
with values. `Table.parse?` takes a text to the table that its statements build.
-/

namespace Questionnaire.Toml

/-- The last part of a key, and the parts before it. -/
def splitKey (parts : List String) : List String × String := (parts.dropLast, parts.getLastD "")

mutual

/-- A value, and the rest of the text; `fuel` bounds the length of the text and `depth` how deep
its lists and inline tables nest. -/
def value? : (fuel depth : Nat) → List Char → Option (Value × List Char)
  | 0, _, _ => none
  | fuel + 1, depth, cs => match depth, cs with
    | depth + 1, '[' :: rest => (items? fuel depth rest).map fun p => (.list p.1, p.2)
    | depth + 1, '\x7b' :: rest =>
      (pairs? fuel depth [] rest).map fun p => (.table .inline p.1, p.2)
    | _, '"' :: _ => (text? cs).map fun p => (.text p.1, p.2)
    | _, '\'' :: _ => (text? cs).map fun p => (.text p.1, p.2)
    | _, _ => match moment? cs with
      | some rest => some (.moment, rest)
      | none => (scalar? cs).map fun p => (.scalar p.1, p.2)

/-- The items of a list up to its closing bracket. -/
def items? : (fuel depth : Nat) → List Char → Option (List Value × List Char)
  | 0, _, _ => none
  | fuel + 1, depth, cs => match skipLines cs.length cs with
    | ']' :: rest => some ([], rest)
    | cs => do
      let (v, rest) ← value? fuel depth cs
      match skipLines rest.length rest with
      | ',' :: rest => do
        let (more, rest) ← items? fuel depth rest
        some (v :: more, rest)
      | ']' :: rest => some ([v], rest)
      | _ => none

/-- The entries of an inline table up to its closing brace. -/
def pairs? : (fuel depth : Nat) → Table → List Char → Option (Table × List Char)
  | 0, _, _, _ => none
  | fuel + 1, depth, t, cs => match skipLines cs.length cs with
    | '\x7d' :: rest => some (t, rest)
    | cs => do
      let (parts, rest) ← key? cs
      let rest ← expect? '=' (skipLines rest.length rest)
      let (v, rest) ← value? fuel depth (skipLines rest.length rest)
      let (path, key) := splitKey parts
      let t ← t.store path key v
      match skipLines rest.length rest with
      | ',' :: rest => pairs? fuel depth t rest
      | '\x7d' :: rest => some (t, rest)
      | _ => none

end

/-- A statement of a settings document. -/
inductive Statement where
  | table (key : List String)
  | next (key : List String)
  | pair (key : List String) (v : Value)

/-- The statement at the start of a line, and the rest of the text. -/
def statement? (cs : List Char) : Option (Statement × List Char) := do
  match cs with
  | '[' :: '[' :: rest => do
    let (parts, rest) ← key? rest
    let rest ← expect? ']' (skipBlanks rest)
    let rest ← expect? ']' rest
    some (.next parts, rest)
  | '[' :: rest => do
    let (parts, rest) ← key? rest
    let rest ← expect? ']' (skipBlanks rest)
    some (.table parts, rest)
  | cs => do
    let (parts, rest) ← key? cs
    let rest ← expect? '=' (skipBlanks rest)
    let (v, rest) ← value? (cs.length + 1) depthLimit (skipBlanks rest)
    some (.pair parts v, rest)

/-- The statements of a text; `fuel` bounds its length. -/
def statements? : (fuel : Nat) → List Char → Option (List Statement)
  | 0, _ => none
  | fuel + 1, cs => match skipLines cs.length cs with
    | [] => some []
    | cs => do
      let (s, rest) ← statement? cs
      let rest ← endLine? rest
      (statements? fuel rest).map (s :: ·)

/-- A document under construction: its table, and the path of the table that is open. -/
structure Builder where
  root : Table
  current : List String

/-- Carries out a statement. -/
def Builder.add (b : Builder) : Statement → Option Builder
  | .table parts =>
    let (path, key) := splitKey parts
    (b.root.openTable path key).map fun root => ⟨root, parts⟩
  | .next parts =>
    let (path, key) := splitKey parts
    (b.root.openNext path key).map fun root => ⟨root, parts⟩
  | .pair parts v =>
    let (path, key) := splitKey parts
    (b.root.within (Table.store path key v) b.current).map fun root => { b with root }

/-- Carries out statements one after another. -/
def Builder.addAll (b : Builder) : List Statement → Option Builder
  | [] => some b
  | s :: rest => (b.add s).bind fun b => b.addAll rest

/-- Drops a byte-order mark at the start of a text. -/
def dropMark : List Char → List Char
  | '\ufeff' :: rest => rest
  | cs => cs

/-- The table of a settings document; `none` when it is malformed or gives something twice. -/
def Table.parse? (s : String) : Option Table := do
  let cs := dropMark s.toList
  let statements ← statements? (cs.length + 1) cs
  (Builder.addAll ⟨[], []⟩ statements).map (·.root)

end Questionnaire.Toml
