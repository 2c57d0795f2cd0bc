import TemplateEngine.Toml.Key

/-!
# `Toml` · Growing tables

How keys and headers add to a document.

* **Keys** (`insertKey`): the last name of a dotted key must be new, and the names in front of it
  lead through tables that were made by dotted keys. A table with a header or between braces is
  complete as it stands.
* **Headers** (`openTable`, `openNext`): the names in front of the last one lead through tables of
  any kind, or through the last table of an array of tables; missing ones are made. The last name
  is new, is a table that was only implied so far, or is the array that gets one more table. A
  table that gets its header moves behind the others.
-/

namespace TemplateEngine.Toml

/-- The entries with an item under a key; a key that is there already keeps its place. -/
def put (key : Key) (item : Item) (entries : Entries) : Entries :=
  if (itemAt? key.name entries).isSome then
    entries.map fun e => if e.1.name = key.name then (e.1, item) else e
  else entries ++ [(key, item)]

/-- Changes the last table of an array of tables. -/
def changeLast (change : Table → Except Cause Table) (items : List Item) :
    Except Cause (List Item) :=
  match items.getLast? with
  | some (.table kind entries) => do
    let table ← change (kind, entries)
    return items.dropLast ++ [.ofTable table]
  | _ => .ok items

/-! ## Keys -/

/-- Adds a value under a dotted key. `home` are the names that lead to the table it is added to;
between braces there are none to tell. `walked` are the names of the key that lead there. -/
def insertKey (home : Option (List String)) (value : Item) (walked : List String) :
    List Key → Table → Except Cause Table
  | [], table => .ok table
  | [key], (kind, entries) =>
    if (itemAt? key.name entries).isSome then .error (.duplicate key.name home)
    else .ok (kind, entries ++ [(key, value)])
  | key :: next :: rest, (kind, entries) => do
    let path := walked ++ [key.name]
    let more := insertKey home value path (next :: rest)
    let item ←
      match itemAt? key.name entries with
      | none => Item.ofTable <$> more (.dotted, [])
      | some (.table .dotted inner) => Item.ofTable <$> more (.dotted, inner)
      | some (.table .implied inner) =>
        if rest = [] then .error (.duplicate next.name none)
        else Item.ofTable <$> more (.implied, inner)
      | some (.table (.header _) _) => .error (.duplicate key.name none)
      | some (.tables items) =>
        if rest = [] then .error (.duplicate next.name none)
        else Item.tables <$> changeLast more items
      | some other =>
        if home = none ∧ other.word = "inline table" then .error (.duplicate key.name none)
        else .error (.notTable path other.word)
    return (kind, put key item entries)

/-- A table with one more value under a dotted key below its header. -/
def addValue (home : List String) (value : Item) (path : List Key) (table : Table) :
    Except Cause Table := do
  let (kind, entries) ← insertKey (some home) value [] path table
  match kind, value.span? with
  | .header span, some later => return (.header (span.through later), entries)
  | _, _ => return (kind, entries)

/-! ## Headers -/

/-- Changes the table that the names of a header lead to; missing tables are implied. -/
def changeAt (change : Table → Except Cause Table) (walked : List String) :
    List Key → Table → Except Cause Table
  | [], table => change table
  | key :: rest, (kind, entries) => do
    let path := walked ++ [key.name]
    let more := changeAt change path rest
    let item ←
      match itemAt? key.name entries with
      | none => Item.ofTable <$> more (.implied, [])
      | some (.tables items) => Item.tables <$> changeLast more items
      | some (.table (.inline span) inner) =>
        .error (.notTable path (Item.table (.inline span) inner).word)
      | some (.table kind inner) => Item.ofTable <$> more (kind, inner)
      | some other => .error (.notTable path other.word)
    return (kind, put key item entries)

/-- Gives a table its header; `parents` are the names in front of its own. -/
def giveHeader (span : Span) (parents : List String) (key : Key) (table : Table) :
    Except Cause Table :=
  match table, itemAt? key.name table.2 with
  | (kind, entries), none => .ok (kind, entries ++ [(key, .table (.header span) [])])
  | (kind, entries), some (.table .implied inner) =>
    .ok (kind, entries.filter (·.1.name != key.name) ++ [(key, .table (.header span) inner)])
  | _, some _ => .error (.duplicate key.shown (some parents))

/-- Adds a table to an array of tables. -/
def giveNext (span : Span) (parents : List String) (key : Key) (table : Table) :
    Except Cause Table :=
  let next := Item.table (.header span) []
  match table, itemAt? key.name table.2 with
  | (kind, entries), none => .ok (kind, entries ++ [(key, .tables [next])])
  | (kind, entries), some (.tables items) => .ok (kind, put key (.tables (items ++ [next])) entries)
  | _, some _ => .error (.duplicate key.shown (some parents))

/-- A change of the table that holds the one a header names. -/
def changeParent (give : List String → Key → Table → Except Cause Table) (path : List Key)
    (root : Table) : Except Cause Table :=
  match path.getLast? with
  | none => .ok root
  | some key => changeAt (give (path.dropLast.map Key.name) key) [] path.dropLast root

/-- The document with the header of a table. -/
def openTable (span : Span) (path : List Key) (root : Table) : Except Cause Table :=
  changeParent (giveHeader span) path root

/-- The document with the header of one more table of an array. -/
def openNext (span : Span) (path : List Key) (root : Table) : Except Cause Table :=
  changeParent (giveNext span) path root

end TemplateEngine.Toml
