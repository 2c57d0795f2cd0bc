import TemplateEngine.Decimal.Notation
import TemplateEngine.Text.Printable
import TemplateEngine.Toml.Fault

/-!
# `Toml` · Records

Settings out of items: how an item becomes a text, a number, one of some words or a record, and what
is said if it is of another kind.

* **Places.** A message points to the item; one that is written nowhere is pointed to by its key.
* **Words** (`readWord`) stand for themselves, or as the only key of a table with something empty
  under it.
* **Records** start from defaults. A table sets the fields it has keys for, and other keys are
  ignored; an array sets the first fields in their order. A date counts as a table without known
  keys.
-/

namespace TemplateEngine.Toml

/-- The text of a float in a message, which always has a point. -/
def floatText (x : Float) : String :=
  let text := Decimal.plainText x
  if text.toList.contains '.' || !Decimal.isFinite x then text else text ++ ".0"

/-- What kind of item was found. -/
def Item.describe : Item → String
  | .string _ text => "string " ++ Text.printable text
  | .integer _ n => "integer " ++ marked (toString n)
  | .float _ x => "floating point " ++ marked (floatText x)
  | .boolean _ b => "boolean " ++ marked (if b then "true" else "false")
  | .dateTime _ => "map"
  | .array .. => "sequence"
  | .table .. => "map"
  | .tables .. => "sequence"

/-- The fault for an item of another kind than expected. -/
def Item.unexpected (expected : String) (place : Span) (item : Item) : Fault :=
  ⟨.wrongType item.describe expected, place⟩

/-- How a setting is read from an item, given the place for messages. -/
abbrev Read (α : Type) := Span → Item → Except Fault α

/-- A text. -/
def readString : Read String
  | _, .string _ text => .ok text
  | place, item => .error (item.unexpected "a string" place)

/-- A natural number below a limit, which a message calls `expected`. -/
def readNat (limit : Nat) (expected : String) : Read Nat
  | place, .integer span n =>
    if 0 ≤ n ∧ n < limit then .ok n.toNat
    else .error ⟨.wrongValue (Item.integer span n).describe expected, place⟩
  | place, item => .error (item.unexpected expected place)

/-! ## Words -/

/-- What a word stands for. -/
def wordMeaning {α : Type} (words : List (String × α)) (word : String) (place : Span) :
    Except Fault α :=
  match words.lookup word with
  | some value => .ok value
  | none => .error ⟨.unknownVariant word (words.map (·.1)), place⟩

/-- Refuses what holds something, and what could not hold anything. -/
def checkEmpty : Read Unit
  | _, .array _ [] => .ok ()
  | _, .table _ [] => .ok ()
  | _, .tables [] => .ok ()
  | place, .array .. => .error ⟨.notEmpty "table", place⟩
  | place, .table .. => .error ⟨.notEmpty "table", place⟩
  | place, .tables _ => .error ⟨.notEmpty "array", place⟩
  | place, item => .error ⟨.noTable item.word, place⟩

/-- One of some words, which has nothing to say besides. -/
def readWord {α : Type} (words : List (String × α)) : Read α
  | place, .string _ word => wordMeaning words word place
  | place, .table _ [] => .error ⟨.noEntry, place⟩
  | place, .table _ [(key, item)] => do
    let value ← wordMeaning words key.name key.span
    checkEmpty (item.spanOr place) item
    return value
  | place, .table _ (_ :: _ :: _) => .error ⟨.manyEntries, place⟩
  | place, _ => .error ⟨.noVariant, place⟩

/-! ## Records -/

/-- The entries of a table or a date. -/
def Item.entries? : Item → Option Entries
  | .table _ entries => some entries
  | .dateTime _ => some []
  | _ => none

/-- The items of an array. -/
def Item.items? : Item → Option (List Item)
  | .array _ items => some items
  | .tables items => some items
  | _ => none

/-- The fields of a record: their keys, and what an item under the key changes. -/
abbrev Fields (α : Type) := List (String × (Span → Item → α → Except Fault α))

/-- A field that an item sets once it is read. -/
def field {α β : Type} (key : String) (read : Read β) (set : β → α → α) :
    String × (Span → Item → α → Except Fault α) :=
  (key, fun place item record => (read place item).map fun value => set value record)

/-- Sets the fields of a record that have keys. -/
def readEntries {α : Type} (fields : Fields α) (record : α) (entries : Entries) : Except Fault α :=
  entries.foldlM (fun record (key, item) =>
    match fields.lookup key.name with
    | some read => read (item.spanOr key.span) item record
    | none => .ok record) record

/-- A record, which a message calls `expected`. -/
def readRecord {α : Type} (expected : String) (fields : Fields α) (record : α) : Read α :=
  fun place item =>
    match item.entries?, item.items? with
    | some entries, _ => readEntries fields record entries
    | none, some items =>
      (fields.zip items).foldlM (fun record (f, item) => f.2 (item.spanOr place) item record) record
    | none, none => .error (item.unexpected expected place)

end TemplateEngine.Toml
