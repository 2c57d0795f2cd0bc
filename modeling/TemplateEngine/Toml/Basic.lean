import TemplateEngine.Text.Blank

/-!
# `Toml` · Items

What a TOML document holds, with the places that messages point to.

* **`Span`**: a stretch of a document is two of its rests, so it needs no account of what was read
  before it.
* **`Item`**: a value, a table, or an array of tables. Entries of tables are in the order of the
  document.
* **`TableKind`** says how a table came about, which decides whether it may still grow, and where
  it is written. A table that only keys and headers of other tables name is written nowhere.
-/

namespace TemplateEngine.Toml

open TemplateEngine.Text

/-- A stretch of a document. -/
structure Span where
  /-- The rest of the document from the start of the stretch on. -/
  start : List Char
  /-- The rest of the document behind the stretch. -/
  rest : List Char
  deriving Repr, DecidableEq, Inhabited

namespace Span

/-- The first character of a rest of a document; at the end of the document it is empty. -/
def first (cs : List Char) : Span := ⟨cs, cs.drop 1⟩

/-- The stretch from the start of one stretch to the end of a later one. -/
def through (span later : Span) : Span := ⟨span.start, later.rest⟩

/-- The number of bytes of a stretch. -/
def size (span : Span) : Nat := byteLength span.start - byteLength span.rest

end Span

/-- A name, and where it is written. -/
structure Key where
  /-- The name. -/
  name : String
  /-- Where it is written. -/
  span : Span
  deriving Repr, DecidableEq, Inhabited

/-- How a table came about. -/
inductive TableKind where
  /-- It has a header; its stretch ends with the last value below the header. -/
  | header (span : Span)
  /-- A header of a table within it names it. -/
  | implied
  /-- A dotted key names it. -/
  | dotted
  /-- It is written between braces. -/
  | inline (span : Span)
  deriving Repr, DecidableEq, Inhabited

/-- What stands under a key. -/
inductive Item where
  /-- A text. -/
  | string (span : Span) (text : String)
  /-- An integer of 64 bits. -/
  | integer (span : Span) (n : Int)
  /-- A number with a fraction or an exponent, or one of the special ones. -/
  | float (span : Span) (x : Float)
  /-- A truth value. -/
  | boolean (span : Span) (b : Bool)
  /-- A date, a time, or both. -/
  | dateTime (span : Span)
  /-- An array. -/
  | array (span : Span) (items : List Item)
  /-- A table. -/
  | table (kind : TableKind) (entries : List (Key × Item))
  /-- Tables with one header each. -/
  | tables (items : List Item)
  deriving Repr, Inhabited

/-- Items under their keys. -/
abbrev Entries := List (Key × Item)

/-- A table: how it came about, and what it holds. -/
abbrev Table := TableKind × Entries

/-- A table as an item. -/
def Item.ofTable (table : Table) : Item := .table table.1 table.2

/-- Where a table is written. -/
def TableKind.span? : TableKind → Option Span
  | header span => some span
  | inline span => some span
  | implied => none
  | dotted => none

/-- Where a table with a header is written, and every value. -/
def Item.ownSpan? : Item → Option Span
  | .string span _ => some span
  | .integer span _ => some span
  | .float span _ => some span
  | .boolean span _ => some span
  | .dateTime span => some span
  | .array span _ => some span
  | .table kind _ => kind.span?
  | .tables _ => none

/-- Where an item is written, if it is. -/
def Item.span? : Item → Option Span
  | .tables items => do
    let first ← items.head?
    let last ← items.getLast?
    return (← first.ownSpan?).through (← last.ownSpan?)
  | item => item.ownSpan?

/-- Where an item is written, or else `place`. -/
def Item.spanOr (place : Span) (item : Item) : Span := item.span?.getD place

/-- The item under a name. -/
def itemAt? (name : String) (entries : Entries) : Option Item :=
  (entries.find? (·.1.name = name)).map (·.2)

/-- The kind of a value, in a word. -/
def Item.word : Item → String
  | .string .. => "string"
  | .integer .. => "integer"
  | .float .. => "float"
  | .boolean .. => "boolean"
  | .dateTime _ => "datetime"
  | .array .. => "array"
  | .table (.inline _) _ => "inline table"
  | .table .. => "table"
  | .tables _ => "array of tables"

end TemplateEngine.Toml
