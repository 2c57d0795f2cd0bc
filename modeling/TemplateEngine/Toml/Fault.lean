import TemplateEngine.Reader
import TemplateEngine.Template.Position
import TemplateEngine.Toml.Basic

/-!
# `Toml` · Faults

What is wrong with a document, and where.

* **`Complaint`**: a text cannot be read. It may tell what was being read, what is expected, and
  the cause; one that tells nothing has an empty wording.
* **`Problem`**: a complaint, or an item that is not what the settings need.
* **`Fault.render`** shows the line with the stretch underlined, and then the wording of the
  problem.
-/

namespace TemplateEngine.Toml

open TemplateEngine.Template TemplateEngine.Text

/-- A word in a message. -/
def marked (word : String) : String := "\x60" ++ word ++ "\x60"

/-! ## Problems -/

/-- What was being read. -/
inductive Subject where
  | tableHeader | key | string | basicString | multilineBasicString | literalString
  | multilineLiteralString | escapeSequence | shortCode | longCode | integer | hexadecimalInteger
  | octalInteger | binaryInteger | float | dateTime | time | timeOffset | array | inlineTable
  deriving Repr, DecidableEq

/-- The name of what was being read. -/
def Subject.name : Subject → String
  | tableHeader => "table header"
  | key => "key"
  | string => "string"
  | basicString => "basic string"
  | multilineBasicString => "multiline basic string"
  | literalString => "literal string"
  | multilineLiteralString => "multiline literal string"
  | escapeSequence => "escape sequence"
  | shortCode => "unicode 4-digit hex code"
  | longCode => "unicode 8-digit hex code"
  | integer => "integer"
  | hexadecimalInteger => "hexadecimal integer"
  | octalInteger => "octal integer"
  | binaryInteger => "binary integer"
  | float => "floating-point number"
  | dateTime => "date-time"
  | time => "time"
  | timeOffset => "time offset"
  | array => "array"
  | inlineTable => "inline table"

/-- Why a text that is written well cannot be taken. -/
inductive Cause where
  /-- A key is there already, in the table that `table` leads to if that is told. -/
  | duplicate (key : String) (table : Option (List String))
  /-- The names lead to an item that is no table but of the kind `found`. -/
  | notTable (path : List String) (found : String)
  /-- A number is not among the ones allowed. -/
  | outOfRange
  /-- Values or names nest too deep. -/
  | tooDeep
  /-- An integer is too large. -/
  | tooLarge
  /-- An integer is too small. -/
  | tooSmall
  deriving Repr, DecidableEq

/-- The wording of a cause. -/
def Cause.message : Cause → String
  | duplicate key none => "duplicate key " ++ marked key
  | duplicate key (some []) => "duplicate key " ++ marked key ++ " in document root"
  | duplicate key (some path) =>
    "duplicate key " ++ marked key ++ " in table " ++ marked (String.intercalate "." path)
  | notTable path found =>
    "dotted key " ++ marked (String.intercalate "." path) ++
      s!" attempted to extend non-table type ({found})"
  | outOfRange => "value is out of range"
  | tooDeep => "recursion limit exceeded"
  | tooLarge => "number too large to fit in target type"
  | tooSmall => "number too small to fit in target type"

/-- Why a text cannot be read. -/
structure Complaint where
  /-- What was being read. -/
  subject : Option Subject := none
  /-- What may stand there. -/
  expected : List String := []
  /-- Why what stands there cannot be taken. -/
  cause : Option Cause := none
  deriving Repr, DecidableEq

/-- The wording of a complaint. -/
def Complaint.message (complaint : Complaint) : String :=
  let subject := complaint.subject.map fun subject => "invalid " ++ subject.name
  let expected :=
    if complaint.expected = [] then none
    else some ("expected " ++ String.intercalate ", " complaint.expected)
  String.intercalate "\n" ([subject, expected, complaint.cause.map Cause.message].filterMap id)

/-- What is wrong with a document. -/
inductive Problem where
  /-- The text is not written as it has to be. -/
  | malformed (complaint : Complaint)
  /-- An item is of another kind than expected. -/
  | wrongType (found expected : String)
  /-- An item of the right kind is not one of the values that are allowed. -/
  | wrongValue (found expected : String)
  /-- A text is none of the given words. -/
  | unknownVariant (text : String) (words : List String)
  /-- An item is neither a word nor a table with a word as its key. -/
  | noVariant
  /-- A table that should hold one word holds none. -/
  | noEntry
  /-- A table that should hold one word holds more. -/
  | manyEntries
  /-- What stands under a word holds something. -/
  | notEmpty (kind : String)
  /-- What stands under a word is no table. -/
  | noTable (found : String)
  deriving Repr, DecidableEq

/-- The wording of a problem. -/
def Problem.message : Problem → String
  | malformed complaint => complaint.message
  | wrongType found expected => s!"invalid type: {found}, expected {expected}"
  | wrongValue found expected => s!"invalid value: {found}, expected {expected}"
  | unknownVariant text words =>
    "unknown variant " ++ marked text ++ ", expected " ++
      String.intercalate " or " (words.map marked)
  | noVariant => "wanted string or table"
  | noEntry => "wanted exactly 1 element, found 0 elements"
  | manyEntries => "wanted exactly 1 element, more than 1 element"
  | notEmpty kind => s!"expected empty {kind}"
  | noTable found => s!"expected table, found {found}"

/-! ## Faults -/

/-- A problem and where it is. -/
structure Fault where
  /-- The problem. -/
  problem : Problem
  /-- The stretch of the document it is found in. -/
  span : Span
  deriving Repr, DecidableEq

namespace Fault

/-- A complaint about the start of a rest. -/
def here (cs : List Char) (complaint : Complaint) : Fault := ⟨.malformed complaint, .first cs⟩

/-- A fault met while `subject` was being read; what was being read within it comes first. -/
def within (subject : Subject) (fault : Fault) : Fault :=
  match fault.problem with
  | .malformed complaint =>
    let subject := complaint.subject.or (some subject)
    { fault with problem := .malformed { complaint with subject := subject } }
  | _ => fault

/-- A fault that says what else may stand there. -/
def expecting (expected : String) (fault : Fault) : Fault :=
  match fault.problem with
  | .malformed complaint =>
    let expected := complaint.expected ++ [expected]
    { fault with problem := .malformed { complaint with expected := expected } }
  | _ => fault

end Fault

/-- What a reading step finds at the start of a text, and the rest behind it. -/
abbrev Reading (α : Type) (cs : List Char) := Except Fault (α × Shorter cs)

/-- The place behind some text. A column counts characters; one that starts with a character of
several bytes counts bytes. At the end of a document it is behind the last character. -/
def placeAfter (before rest : List Char) : Position :=
  match rest with
  | [] =>
    let last := Position.after ⟨1, 1⟩ before.dropLast
    if before = [] then last else ⟨last.line, last.column + 1⟩
  | c :: _ =>
    let place := Position.after ⟨1, 1⟩ before
    if c.utf8Size = 1 then place
    else ⟨place.line, byteLength (before.reverse.takeWhile (· != '\n')) + 1⟩

/-- The text of a fault in a document. -/
def Fault.render (source : String) (fault : Fault) : String :=
  let before := source.toList.take (source.length - fault.span.start.length)
  let position := placeAfter before fault.span.start
  let content := ((source.splitOn "\n")[position.line - 1]?).getD ""
  let length := min fault.span.size (content.utf8ByteSize - (position.column - 1))
  let number := toString position.line
  let spaces (n : Nat) := String.ofList (List.replicate n ' ')
  let gutter := spaces (number.length + 1) ++ "|"
  s!"TOML parse error at line {position.line}, column {position.column}\n" ++
    gutter ++ "\n" ++ number ++ " | " ++ content ++ "\n" ++
    gutter ++ spaces position.column ++ String.ofList (List.replicate (max length 1) '^') ++ "\n" ++
    fault.problem.message ++ "\n"

end TemplateEngine.Toml
