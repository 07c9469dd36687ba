/-!
# Tables of settings

A settings document builds one table out of many statements. Which statement may still add to a
table depends on how the table came about, so each has an origin: `implied` by the header of a
table within it, opened by a `header`, built by `dotted` keys, written `inline`, or an `item` of an
array of tables.
-/

namespace Questionnaire.Toml

/-- How a table came about. -/
inductive Origin where
  | implied
  | header
  | dotted
  | inline
  | item
  deriving DecidableEq, Repr

/-- A value of a settings document. Of a number or truth value it is only known whether it is
`sound`, that is, has a value; and of a date or time, a `moment`, only that it is one. An array of
tables lists the tables before the one that is still open. -/
inductive Value where
  | text (s : String)
  | scalar (sound : Bool)
  | moment
  | list (items : List Value)
  | table (origin : Origin) (entries : List (String × Value))
  | tables (done : List (List (String × Value))) (last : List (String × Value))

/-- The entries of a table. -/
abbrev Table := List (String × Value)

mutual

/-- Whether every number in a value has a value itself. -/
def Value.isSound : Value → Bool
  | .text _ => true
  | .scalar sound => sound
  | .moment => true
  | .list items => soundItems items
  | .table _ entries => soundEntries entries
  | .tables done last => soundTables done && soundEntries last

/-- Whether the items of a list are sound. -/
def soundItems : List Value → Bool
  | [] => true
  | v :: rest => v.isSound && soundItems rest

/-- Whether the value of an entry is sound. -/
def soundEntry : String × Value → Bool
  | (_, v) => v.isSound

/-- Whether the entries of a table are sound. -/
def soundEntries : List (String × Value) → Bool
  | [] => true
  | entry :: rest => soundEntry entry && soundEntries rest

/-- Whether the tables of an array are sound. -/
def soundTables : List (List (String × Value)) → Bool
  | [] => true
  | t :: rest => soundEntries t && soundTables rest

end

/-- Sets an entry, in the place of an earlier one or at the end. -/
def Table.set (key : String) (v : Value) : Table → Table
  | [] => [(key, v)]
  | (k, w) :: rest => if k = key then (k, v) :: rest else (k, w) :: Table.set key v rest

/-- Changes the entry at the end of a path; `leaf` is given the earlier value. Whether a table on
the way may be entered is for `enters` to say, which is told whether the table holds the entry
itself. Missing tables are made, of origin `fresh`. In an array of tables the way goes through the
one that is still open. -/
def Table.update (enters : (holder : Bool) → Origin → Bool) (fresh : Origin)
    (leaf : Option Value → Option Value) :
    (path : List String) → (key : String) → Table → Option Table
  | [], key, t => (leaf (t.lookup key)).map fun v => t.set key v
  | part :: path, key, t => match t.lookup part with
    | none =>
      (update enters fresh leaf path key []).map fun sub => t.set part (.table fresh sub)
    | some (.table origin sub) =>
      if enters path.isEmpty origin then
        (update enters fresh leaf path key sub).map fun sub => t.set part (.table origin sub)
      else none
    | some (.tables done last) =>
      if enters path.isEmpty .item then
        (update enters fresh leaf path key last).map fun last => t.set part (.tables done last)
      else none
    | some _ => none

/-- Changes the table at the end of a path that headers have opened. -/
def Table.within (change : Table → Option Table) : (path : List String) → Table → Option Table
  | [], t => change t
  | part :: path, t => match t.lookup part with
    | some (.table origin sub) =>
      (within change path sub).map fun sub => t.set part (.table origin sub)
    | some (.tables done last) =>
      (within change path last).map fun last => t.set part (.tables done last)
    | _ => none

/-- Whether a dotted key may enter a table: the one that holds the entry must itself be built by
dotted keys; a table before it may also be implied or the open item of an array. -/
def Origin.opensToKey (holder : Bool) (o : Origin) : Bool :=
  o = .dotted || (!holder && (o = .implied || o = .item))

/-- Whether a header may enter a table: every one that is not complete. -/
def Origin.opensToHeader (_holder : Bool) (o : Origin) : Bool := o ≠ .inline

/-- Stores a value under a dotted key, which must be new. -/
def Table.store (path : List String) (key : String) (v : Value) (t : Table) : Option Table :=
  Table.update Origin.opensToKey .dotted
    (fun old => match old with
      | none => some v
      | some _ => none) path key t

/-- Opens a table by a header. -/
def Table.openTable (path : List String) (key : String) (t : Table) : Option Table :=
  Table.update Origin.opensToHeader .implied
    (fun old => match old with
      | none => some (.table .header [])
      | some (.table .implied entries) => some (.table .header entries)
      | some _ => none) path key t

/-- Opens the next table of an array by a header. -/
def Table.openNext (path : List String) (key : String) (t : Table) : Option Table :=
  Table.update Origin.opensToHeader .implied
    (fun old => match old with
      | none => some (.tables [] [])
      | some (.tables done last) => some (.tables (done ++ [last]) [])
      | some _ => none) path key t

end Questionnaire.Toml
