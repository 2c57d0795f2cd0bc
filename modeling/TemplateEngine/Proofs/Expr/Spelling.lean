import TemplateEngine.Expr.Parser
import TemplateEngine.Expr.RootPath

/-!
# `Expr` · A spelling of expressions

One way to write every expression, and the lexemes that it is made of.

* **`Expr.spell`**: lexemes are separated by single spaces, except that `.name` stands directly
  behind its object. An operand, an object or a callee that is not a name, the root or a chain
  stands in parentheses (`wrapped`), so no operator binds another one's operand. Texts and the keys
  of objects stand in single quotes.
* **Two spellings in one**: a member of the root is `.name` with a text `front` before it. A
  template leaves that out (`[]`); what is read after the roots were written has it (`['$']`).
* **`Expr.lexemes`** are the lexemes of the spelling with the root.
* **`Expr.Spellable`**: the names are names, the digits of numbers are read as these numbers, and
  assignments have targets.
-/

namespace TemplateEngine

open TemplateEngine.Text TemplateEngine.Template TemplateEngine.Lexeme

/-! ## Words and texts -/

/-- The sign or word of an operator with one operand. -/
def UnaryOp.text : UnaryOp → String
  | .not => "!"
  | .neg => "-"
  | .plus => "+"
  | .typeOf => "typeof"

/-- The sign of an operator that evaluates both operands. -/
def BinaryOp.text : BinaryOp → String
  | .add => "+"
  | .sub => "-"
  | .mul => "*"
  | .div => "/"
  | .rem => "%"
  | .looseEq => "=="
  | .looseNe => "!="
  | .strictEq => "==="
  | .strictNe => "!=="
  | .lt => "<"
  | .le => "<="
  | .gt => ">"
  | .ge => ">="

/-- The sign of an operator that may leave out its right operand. -/
def LogicalOp.text : LogicalOp → String
  | .and => "&&"
  | .or => "||"
  | .nullish => "??"

/-- The sign of an operator with two operands. -/
def Operator.text : Operator → String
  | .binary op => op.text
  | .logical op => op.text

/-- A text in which quotes and backslashes have a backslash in front. -/
def escaped : List Char → List Char
  | [] => []
  | c :: cs => if c = '\\' ∨ c = '\x27' then '\\' :: c :: escaped cs else c :: escaped cs

/-- A text in single quotes. -/
def quoted (s : String) : List Char := '\x27' :: (escaped s.toList ++ ['\x27'])

namespace Expr

/-! ## Spelling -/

/-- A name, the root, or a chain: what needs no parentheses as an operand. -/
def isChain : Expr → Bool
  | .root => true
  | .ident _ => true
  | .member .. => true
  | .index .. => true
  | .call .. => true
  | _ => false

/-- The root of the data. -/
def isRoot : Expr → Bool
  | .root => true
  | _ => false

/-- The spelling of an operand. -/
def wrapped (e : Expr) (text : List Char) : List Char :=
  if e.isChain then text else '(' :: ' ' :: (text ++ [' ', ')'])

/-- What stands between an object or callee and the bracket of a key or of arguments. -/
def linkText (optional : Bool) : List Char := if optional then " ?. ".toList else [' ']

/-- What stands behind an element of a list: a comma if more follow. -/
def gap {α : Type} : List α → List Char
  | [] => [' ']
  | _ :: _ => [' ', ',', ' ']

section Spelling

variable (digits : Float → List Char) (front : List Char)

mutual

/-- The spelling of an expression, given that of numbers and what stands in front of `.name` for a
member of the root. -/
def spell : Expr → List Char
  | .number x => digits x
  | .string s => quoted s
  | .bool b => if b then "true".toList else "false".toList
  | .null => "null".toList
  | .undefined => "undefined".toList
  | .root => ['$']
  | .ident name => name.toList
  | .array items => '[' :: ' ' :: (spellItems items ++ [']'])
  | .object entries => '\x7b' :: ' ' :: (spellEntries entries ++ ['\x7d'])
  | .member holder name optional =>
    if optional then wrapped holder (spell holder) ++ " ?. ".toList ++ name.toList
    else (if holder.isRoot then front else wrapped holder (spell holder)) ++ '.' :: name.toList
  | .index holder key optional =>
    wrapped holder (spell holder) ++ linkText optional ++ '[' :: ' ' :: (spell key ++ [' ', ']'])
  | .call callee args optional =>
    wrapped callee (spell callee) ++ linkText optional ++ '(' :: ' ' :: (spellItems args ++ [')'])
  | .unary op operand => op.text.toList ++ ' ' :: wrapped operand (spell operand)
  | .await operand => "await".toList ++ ' ' :: wrapped operand (spell operand)
  | .binary op left right =>
    wrapped left (spell left) ++ ' ' :: (op.text.toList ++ ' ' :: wrapped right (spell right))
  | .logical op left right =>
    wrapped left (spell left) ++ ' ' :: (op.text.toList ++ ' ' :: wrapped right (spell right))
  | .conditional test consequent alternate =>
    wrapped test (spell test) ++ " ? ".toList ++ wrapped consequent (spell consequent) ++
      " : ".toList ++ wrapped alternate (spell alternate)
  | .assign target value =>
    wrapped target (spell target) ++ " = ".toList ++ wrapped value (spell value)

/-- The spelling of expressions with commas between them. -/
def spellItems : List Expr → List Char
  | [] => []
  | e :: rest => spell e ++ gap rest ++ spellItems rest

/-- The spelling of entries with commas between them. -/
def spellEntries : List (String × Expr) → List Char
  | [] => []
  | (key, e) :: rest => quoted key ++ " : ".toList ++ spell e ++ gap rest ++ spellEntries rest

end

/-! Equations of the spelling. -/

variable (holder key callee test consequent alternate : Expr) (args : List Expr) (name : String)
  (optional : Bool)

theorem spell_number (x : Float) : spell digits front (.number x) = digits x := rfl

theorem spell_member_optional : spell digits front (.member holder name true) =
    wrapped holder (spell digits front holder) ++ " ?. ".toList ++ name.toList := rfl

theorem spell_member : spell digits front (.member holder name false) =
    (if holder.isRoot then front else wrapped holder (spell digits front holder)) ++
      '.' :: name.toList := rfl

theorem spell_index : spell digits front (.index holder key optional) =
    wrapped holder (spell digits front holder) ++ linkText optional ++
      '[' :: ' ' :: (spell digits front key ++ [' ', ']']) := rfl

theorem spell_call : spell digits front (.call callee args optional) =
    wrapped callee (spell digits front callee) ++ linkText optional ++
      '(' :: ' ' :: (spellItems digits front args ++ [')']) := rfl

theorem spell_conditional : spell digits front (.conditional test consequent alternate) =
    wrapped test (spell digits front test) ++ " ? ".toList ++
      wrapped consequent (spell digits front consequent) ++ " : ".toList ++
        wrapped alternate (spell digits front alternate) := rfl

theorem spell_assign (target value : Expr) : spell digits front (.assign target value) =
    wrapped target (spell digits front target) ++ " = ".toList ++
      wrapped value (spell digits front value) := rfl

theorem spellEntries_cons (key : String) (e : Expr) (later : List (String × Expr)) :
    spellEntries digits front ((key, e) :: later) =
      quoted key ++ " : ".toList ++ spell digits front e ++ gap later ++
        spellEntries digits front later := rfl

end Spelling

/-! ## Lexemes -/

/-- The lexemes of an operand. -/
def wrappedLexemes (e : Expr) (ls : List Lexeme) : List Lexeme :=
  if e.isChain then ls else .punct "(" :: (ls ++ [.punct ")"])

/-- The lexemes between an object or callee and its bracket. -/
def linkLexemes (optional : Bool) : List Lexeme := if optional then [.punct "?."] else []

/-- The lexemes behind an element of a list. -/
def gapLexemes {α : Type} : List α → List Lexeme
  | [] => []
  | _ :: _ => [.punct ","]

/-- The lexeme of an operator with one operand. -/
def unaryLexeme : UnaryOp → Lexeme
  | .typeOf => .word "typeof"
  | op => .punct op.text

mutual

/-- The lexemes of an expression. -/
def lexemes : Expr → List Lexeme
  | .number x => [.number x]
  | .string s => [.string s]
  | .bool b => [.word (if b then "true" else "false")]
  | .null => [.word "null"]
  | .undefined => [.word "undefined"]
  | .root => [.word "$"]
  | .ident name => [.word name]
  | .array items => .punct "[" :: (itemLexemes items ++ [.punct "]"])
  | .object entries => .punct "\x7b" :: (entryLexemes entries ++ [.punct "\x7d"])
  | .member holder name optional =>
    wrappedLexemes holder (lexemes holder) ++ [.punct (if optional then "?." else "."), .word name]
  | .index holder key optional =>
    wrappedLexemes holder (lexemes holder) ++ linkLexemes optional ++
      .punct "[" :: (lexemes key ++ [.punct "]"])
  | .call callee args optional =>
    wrappedLexemes callee (lexemes callee) ++ linkLexemes optional ++
      .punct "(" :: (itemLexemes args ++ [.punct ")"])
  | .unary op operand => unaryLexeme op :: wrappedLexemes operand (lexemes operand)
  | .await operand => .word "await" :: wrappedLexemes operand (lexemes operand)
  | .binary op left right =>
    wrappedLexemes left (lexemes left) ++ .punct op.text :: wrappedLexemes right (lexemes right)
  | .logical op left right =>
    wrappedLexemes left (lexemes left) ++ .punct op.text :: wrappedLexemes right (lexemes right)
  | .conditional test consequent alternate =>
    wrappedLexemes test (lexemes test) ++ .punct "?" ::
      (wrappedLexemes consequent (lexemes consequent) ++ .punct ":" ::
        wrappedLexemes alternate (lexemes alternate))
  | .assign target value =>
    wrappedLexemes target (lexemes target) ++ .punct "=" :: wrappedLexemes value (lexemes value)

/-- The lexemes of expressions with commas between them. -/
def itemLexemes : List Expr → List Lexeme
  | [] => []
  | e :: rest => lexemes e ++ gapLexemes rest ++ itemLexemes rest

/-- The lexemes of entries with commas between them. -/
def entryLexemes : List (String × Expr) → List Lexeme
  | [] => []
  | (key, e) :: rest =>
    .string key :: .punct ":" :: (lexemes e ++ gapLexemes rest ++ entryLexemes rest)

end

/-! ## What can be spelled -/

/-- A text is one word. -/
def IsWord (name : String) : Prop :=
  ∃ c rest, name.toList = c :: rest ∧ isWordStart c ∧ ∀ d ∈ rest, isWordChar d

/-- The check that a text is one word. -/
def isWordText : List Char → Bool
  | [] => false
  | c :: rest => isWordStart c && rest.all isWordChar

theorem IsWord.of_text {name : String} (h : isWordText name.toList) : IsWord name := by
  unfold isWordText at h
  split at h
  · cases h
  · next c rest hname =>
    obtain ⟨hc, hrest⟩ := Bool.and_eq_true_iff.1 h
    exact ⟨c, rest, hname, hc, List.all_eq_true.1 hrest⟩

/-- A word after which no operand is expected. -/
structure IsName (name : String) : Prop where
  /-- It is one word. -/
  word : IsWord name
  /-- No operand is expected after it. -/
  ends : name ∉ RootPath.operandWords

/-- The words that are no names where an operand is expected. -/
def reservedWords : List String := ["true", "false", "null", "undefined", "$", "typeof", "await"]

/-- Digits are read as a number. -/
def Writes (ds : List Char) (x : Float) : Prop :=
  (∃ c rest, ds = c :: rest ∧ isAsciiDigit c ∧ ∀ d ∈ rest, isNumberChar d) ∧
    Decimal.parse? (ds.filter (· != '_')) = some x

section Spellable

variable (digits : Float → List Char)

mutual

/-- An expression can be spelled. -/
def Spellable : Expr → Prop
  | .number x => Writes (digits x) x
  | .string _ => True
  | .bool _ => True
  | .null => True
  | .undefined => True
  | .root => True
  | .ident name => IsName name ∧ name ∉ reservedWords
  | .array items => AllSpellable items
  | .object entries => EntriesSpellable entries
  | .member holder name _ => Spellable holder ∧ IsName name
  | .index holder key _ => Spellable holder ∧ Spellable key
  | .call callee args _ => Spellable callee ∧ AllSpellable args
  | .unary _ operand => Spellable operand
  | .await operand => Spellable operand
  | .binary _ left right => Spellable left ∧ Spellable right
  | .logical _ left right => Spellable left ∧ Spellable right
  | .conditional test consequent alternate =>
    Spellable test ∧ Spellable consequent ∧ Spellable alternate
  | .assign target value => target.isTarget ∧ Spellable target ∧ Spellable value

/-- Expressions can be spelled. -/
def AllSpellable : List Expr → Prop
  | [] => True
  | e :: rest => Spellable e ∧ AllSpellable rest

/-- Entries can be spelled, whatever their keys are. -/
def EntriesSpellable : List (String × Expr) → Prop
  | [] => True
  | (_, e) :: rest => Spellable e ∧ EntriesSpellable rest

end

end Spellable

end Expr

end TemplateEngine
