import TemplateEngine.Decimal.Notation
import TemplateEngine.Decimal.Reading
import TemplateEngine.Reader
import TemplateEngine.Template.Part

/-!
# `Expr` · Lexemes

An expression is a sequence of numbers, texts, words and punctuators, with blanks between them.

* **Numbers** take all digits, points, underscores and the letter `e` that follow, without regard
  to the grammar of numbers, and are then read without their underscores.
* **Texts** stand in one of three quotes; a backslash takes the next character as it is, except for
  four letters that stand for control characters.
* **Words** start with a letter, an underscore or a dollar sign; the longest one counts.
* **Punctuators**: the longest one counts, except that a question mark and a point before a digit
  are a question mark and a number.
* **`Lexeme.split`** gives the lexemes with their byte offsets.
-/

namespace TemplateEngine

open TemplateEngine.Text TemplateEngine.Template

/-- A lexical element of an expression. -/
inductive Lexeme where
  /-- A number. -/
  | number (x : Float)
  /-- A text, without quotes and escapes. -/
  | string (s : String)
  /-- A name or a reserved word. -/
  | word (name : String)
  /-- An operator or a bracket. -/
  | punct (text : String)
  deriving Repr, BEq, Inhabited

/-- Why a text is no sequence of lexemes; each at a byte offset. -/
inductive LexemeFault where
  /-- A number that does not follow the grammar of numbers. -/
  | badNumber (text : String) (offset : Nat)
  /-- A text without closing quote. -/
  | openString (offset : Nat)
  /-- A character that starts no lexeme. -/
  | badCharacter (c : Char) (offset : Nat)
  deriving Repr, DecidableEq

/-- The wording of a fault. -/
def LexemeFault.message : LexemeFault → String
  | badNumber text offset => s!"invalid number '{text}' at {offset}"
  | openString offset => s!"unterminated string starting at {offset}"
  | badCharacter c offset => s!"unexpected character '{c}' at {offset}"

namespace Lexeme

/-! ## Classes of characters -/

/-- The punctuators, each in front of those that it starts with. -/
def punctuators : List String :=
  ["===", "!==", "?.", "??", "==", "!=", "<=", ">=", "&&", "||", "(", ")", "[", "]", "\x7b", "\x7d",
    ",", ":", ";", "?", ".", "+", "-", "*", "/", "%", "!", "<", ">", "="]

/-- A character that a word starts with. -/
def isWordStart (c : Char) : Bool := isLetter c || c == '_' || c == '$'

/-- A character of a word. -/
def isWordChar (c : Char) : Bool := isAlphanumeric c || c == '_' || c == '$'

/-- A character that is taken for a part of a number. -/
def isNumberChar (c : Char) : Bool :=
  isAsciiDigit c || c == '.' || c == 'e' || c == 'E' || c == '_'

/-- A text that starts with a digit. -/
def startsWithDigit : List Char → Bool
  | c :: _ => isAsciiDigit c
  | [] => false

/-- The character that an escaped character stands for. -/
def unescape : Char → Char
  | 'n' => '\n'
  | 't' => '\t'
  | 'r' => '\r'
  | '0' => Char.ofNat 0
  | c => c

/-! ## Single lexemes -/

/-- A quoted text after its opening quote: its value, and what follows the closing quote. -/
def stringEnd? (quote : Char) : (cs : List Char) → Option (List Char × Shorter cs)
  | [] => none
  | '\\' :: [] => none
  | '\\' :: c :: rest =>
    (stringEnd? quote rest).map fun (value, more) => (unescape c :: value, more.cons.cons)
  | c :: rest =>
    if c = quote then some ([], .tail c rest)
    else (stringEnd? quote rest).map fun (value, more) => (c :: value, more.cons)

/-- The characters after a punctuator that a text starts with. -/
def afterPunctuator? (text : String) (cs : List Char) : Option (List Char) :=
  match text.toList.isPrefixOf? cs with
  | some rest => if text = "?." ∧ startsWithDigit rest then none else some rest
  | none => none

/-- The lexeme at the front of a text that starts with `c`, which is not blank and stands at byte
`offset`. -/
def next (offset : Nat) (c : Char) (cs : List Char) :
    Except LexemeFault (Lexeme × NoLonger cs) :=
  if isAsciiDigit c || (c == '.' && startsWithDigit cs) then
    let text := (c :: cs.takeWhile isNumberChar).filter (· != '_')
    match Decimal.parse? text with
    | some x => .ok (.number x, dropLeading isNumberChar cs)
    | none => .error (.badNumber (String.ofList text) offset)
  else if isWordStart c then
    .ok (.word (String.ofList (c :: cs.takeWhile isWordChar)), dropLeading isWordChar cs)
  else if isQuote c then
    match stringEnd? c cs with
    | some (value, rest) => .ok (.string (String.ofList value), rest.noLonger)
    | none => .error (.openString offset)
  else
    match punctuators.find? fun p => (afterPunctuator? p (c :: cs)).isSome with
    | some p =>
      .ok (.punct p, ⟨cs.drop (p.length - 1), by simp only [List.length_drop]; omega⟩)
    | none => .error (.badCharacter c offset)

/-! ## Sequences -/

/-- The lexemes of a text that stands at byte `offset`. -/
def splitFrom (offset : Nat) (cs : List Char) : Except LexemeFault (List (Lexeme × Nat)) :=
  match cs with
  | [] => .ok []
  | c :: rest =>
    if isBlank c then splitFrom (offset + c.utf8Size) rest
    else
      match next offset c rest with
      | .error fault => .error fault
      | .ok (lexeme, ⟨more, _⟩) =>
        (splitFrom (offset + (byteLength (c :: rest) - byteLength more)) more).map fun later =>
          (lexeme, offset) :: later
termination_by cs.length
decreasing_by all_goals (simp only [List.length_cons]; omega)

/-- The lexemes of an expression with their byte offsets. -/
def split (source : String) : Except LexemeFault (List (Lexeme × Nat)) := splitFrom 0 source.toList

/-- A lexeme as a message shows it. -/
def describe : Lexeme → String
  | .number x => s!"number {Decimal.plainText x}"
  | .string s => s!"string '{s}'"
  | .word name => s!"'{name}'"
  | .punct text => s!"'{text}'"

end Lexeme

end TemplateEngine
