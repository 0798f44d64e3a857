import Patchbay.Toml.Basic
import Patchbay.Toml.Datetime

/-!
# Tables in the making

A settings file is a list of statements: headers, which open tables, and assignments, which put a
value under a dotted key in the open table. Each value is given once, and so is each table: by a
header, or by the dotted keys of one table. A header may also open a table that so far was only
named on the way to another one; it then counts as the latest entry.

The entries of a table stay in the order in which they were given until the table is finished. A
table whose first key is `datetimeKey` stands for a date or a time.
-/

namespace Patchbay.Toml

/-- How a table was given. -/
inductive TableOrigin where
  /-- Only as part of the key of a header. -/
  | named
  /-- By the key of an assignment. -/
  | dotted
  /-- By a header of its own. -/
  | opened
deriving DecidableEq

/-- What stands under a key of a table in the making. -/
inductive Draft where
  /-- A value without parts. -/
  | value (v : Toml)
  | array (items : List Draft)
  /-- A table within a line, to which nothing is added later. -/
  | closed (entries : List (String × Draft))
  | table (origin : TableOrigin) (entries : List (String × Draft))
  /-- The tables of an array, the last one first. -/
  | tables (last : List (String × Draft)) (earlier : List (List (String × Draft)))

/-- A statement of a settings file. A key has at least one part. -/
inductive Statement where
  /-- Opens a table. -/
  | header (key : List String)
  /-- Opens the next table of an array of tables. -/
  | itemHeader (key : List String)
  | assignment (key : List String) (value : Draft)

/-- The key of a date or a time that is written as a table. -/
def datetimeKey : String := "$__toml_private_datetime"

namespace Draft

/-- What stands under the keys of a table in the making, in the order of the keys' coming. -/
abbrev Entries := List (String × Draft)

/-! ### Finished tables -/

def datetime? : Draft → Option Toml
  | .value (.string text) => (Datetime.ofText? text).map .datetime
  | _ => none

mutual

/-- The finished value, unless a table in it has to be a date or a time and is none. -/
def finish : Draft → Option Toml
  | .value v => some v
  | .array items => (finishItems items).map .array
  | .closed es => finishTable es
  | .table _ es => finishTable es
  | .tables last earlier => do
    let last ← finishTable last
    return .array ((← finishTables earlier).reverse ++ [last])

/-- The finished table of entries, or the date or time that it stands for. -/
def finishTable : Entries → Option Toml
  | [] => some (.table [])
  | (key, d) :: es =>
    if key = datetimeKey then d.datetime?
    else do
      let v ← d.finish
      return .table (Keyed.insert key v (← finishEntries es))

/-- The finished entries of a table in ascending order. -/
def finishEntries : Entries → Option Table
  | [] => some []
  | (key, d) :: es => do
    let v ← d.finish
    return Keyed.insert key v (← finishEntries es)

def finishItems : List Draft → Option (List Toml)
  | [] => some []
  | d :: items => do
    let v ← d.finish
    return v :: (← finishItems items)

def finishTables : List Entries → Option (List Toml)
  | [] => some []
  | es :: items => do
    let v ← finishTable es
    return v :: (← finishTables items)

end

/-! ### Assignments -/

/-- Puts a value under a new key. -/
def addValue (key : String) (v : Draft) (es : Entries) : Option Entries :=
  match Keyed.get? key es with
  | none => some (Keyed.put key v es)
  | some _ => none

def assign (es : Entries) (v : Draft) : List String → Option Entries
  | [] => none
  | [key] => addValue key v es
  | key :: next :: path =>
    match Keyed.get? key es with
    | none => do
      let inner ← assign [] v (next :: path)
      return Keyed.put key (.table .dotted inner) es
    | some (.table origin inner) =>
      if origin = .opened ∨ (path = [] ∧ origin ≠ .dotted) then none
      else do
        let inner ← assign inner v (next :: path)
        return Keyed.put key (.table origin inner) es
    | some (.tables last earlier) =>
      if path = [] then none
      else do
        let last ← assign last v (next :: path)
        return Keyed.put key (.tables last earlier) es
    | some _ => none

/-! ### Headers -/

/-- Changes the table that a header's key leads to. Missing tables are named on the way. -/
def within (change : Entries → Option Entries) (es : Entries) : List String → Option Entries
  | [] => change es
  | key :: path =>
    match Keyed.get? key es with
    | none => do
      let inner ← within change [] path
      return Keyed.put key (.table .named inner) es
    | some (.table origin inner) => do
      let inner ← within change inner path
      return Keyed.put key (.table origin inner) es
    | some (.tables last earlier) => do
      let last ← within change last path
      return Keyed.put key (.tables last earlier) es
    | some _ => none

/-- Opens a table that no header and no dotted key has given. -/
def openTable (key : String) (es : Entries) : Option Entries :=
  match Keyed.get? key es with
  | none => some (Keyed.put key (.table .opened []) es)
  | some (.table .named inner) => some (Keyed.erase key es ++ [(key, .table .opened inner)])
  | some _ => none

/-- Opens the next table of an array. -/
def openItem (key : String) (es : Entries) : Option Entries :=
  match Keyed.get? key es with
  | none => some (Keyed.put key (.tables [] []) es)
  | some (.tables last earlier) => some (Keyed.put key (.tables [] (last :: earlier)) es)
  | some _ => none

/-! ### Statements -/

/-- A file in the making: its outermost table, and the key of the open table in it. -/
structure File where
  root : Entries
  current : List String

/-- Takes a statement. -/
def File.take (f : File) : Statement → Option File
  | .header key => do
    let last ← key.getLast?
    return ⟨← within (openTable last) f.root key.dropLast, key⟩
  | .itemHeader key => do
    let last ← key.getLast?
    return ⟨← within (openItem last) f.root key.dropLast, key⟩
  | .assignment key v => do
    return ⟨← within (assign · v key) f.root f.current, f.current⟩

end Draft

/-- The table that statements give. -/
def Table.ofStatements? (statements : List Statement) : Option Table := do
  let f ← statements.foldlM Draft.File.take ⟨[], []⟩
  Draft.finishEntries f.root

/-- The table within a line that assignments give. -/
def Draft.ofAssignments? (assignments : List (List String × Draft)) : Option Draft := do
  let es ← assignments.foldlM (fun es a => Draft.assign es a.2 a.1) []
  return .closed es

end Patchbay.Toml
