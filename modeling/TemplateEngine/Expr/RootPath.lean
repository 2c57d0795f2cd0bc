import TemplateEngine.Expr.Lexeme

/-!
# `Expr` · Root paths

Before an expression is read, each path that starts with a dot gets the root of the data in front
(`.user.name` becomes `$.user.name`), and doubled braces become single ones.

* **Left alone** are quoted texts (`skipString`), regular expressions (`skipRegex`) and what stands
  in double square brackets (`skipBrackets`).
* **A dot starts a path** where no operand stands in front of it, and a slash starts a regular
  expression where one is expected; both are decided on the text written so far (`startsPath`,
  `regexAllowed`). After some words (`operandWords`) an operand is expected, after others not.
* **`writeRoots`** runs over the text once; the text written so far is kept backwards.
-/

namespace TemplateEngine.RootPath

open TemplateEngine.Text TemplateEngine.Template TemplateEngine.Lexeme

/-- The words after which an operand is expected. -/
def operandWords : List String :=
  ["await", "typeof", "return", "in", "of", "new", "void", "delete", "case"]

/-! ## Regions that are left alone -/

/-- A quoted text after its opening quote, up to its closing quote or the end. A backslash takes
the next character with it. -/
def skipString (quote : Char) : (cs : List Char) → List Char × NoLonger cs
  | [] => ([], .all [])
  | '\\' :: [] => (['\\'], Shorter.noLonger (.tail _ []))
  | '\\' :: c :: rest =>
    match skipString quote rest with
    | (text, more) => ('\\' :: c :: text, more.cons.cons.noLonger)
  | c :: rest =>
    if c = quote then ([c], Shorter.noLonger (.tail c rest))
    else
      match skipString quote rest with
      | (text, more) => (c :: text, more.cons.noLonger)

/-- What follows double opening brackets, up to double closing brackets or the end. -/
def skipBrackets : (cs : List Char) → List Char × NoLonger cs
  | [] => ([], .all [])
  | ']' :: ']' :: rest => ([']', ']'], Shorter.noLonger (.cons (.tail _ rest)))
  | c :: rest =>
    match skipBrackets rest with
    | (text, more) => (c :: text, more.cons.noLonger)

/-- A regular expression after its opening slash: up to the next slash outside of square brackets
and the letters after it, or up to the end of the line. A backslash takes the next character with
it. -/
def skipRegex (inClass : Bool) : (cs : List Char) → List Char × NoLonger cs
  | [] => ([], .all [])
  | '\\' :: [] => (['\\'], Shorter.noLonger (.tail _ []))
  | '\\' :: c :: rest =>
    match skipRegex inClass rest with
    | (text, more) => ('\\' :: c :: text, more.cons.cons.noLonger)
  | c :: rest =>
    if c = '/' ∧ !inClass then
      (c :: rest.takeWhile isAsciiLetter, (dropLeading isAsciiLetter rest).cons.noLonger)
    else if c = '\n' then ([], .all (c :: rest))
    else
      match skipRegex (if c = '[' then true else if c = ']' then false else inClass) rest with
      | (text, more) => (c :: text, more.cons.noLonger)

/-! ## What the text so far asks for -/

/-- The word that a text, given backwards, ends with. -/
def lastWord (written : List Char) : String := String.ofList (written.takeWhile isWordChar).reverse

/-- Whether an operand is expected after a text, given backwards, whose last character that is not
blank is none of `closers`. -/
def expectsOperand (closers : Char → Bool) (written : List Char) : Bool :=
  let trimmed := written.dropWhile isBlank
  match trimmed with
  | [] => true
  | c :: _ => if isWordChar c then operandWords.contains (lastWord trimmed) else !closers c

/-- A character that ends an operand: a closing bracket or a quote. -/
def endsOperand (c : Char) : Bool := c == ')' || c == ']' || c == '\x7d' || isQuote c

/-- A slash after this text, given backwards, starts a regular expression. -/
def regexAllowed (written : List Char) : Bool := expectsOperand endsOperand written

/-- A dot after this text, given backwards, starts a path: no operand stands in front of it, and no
question mark directly so. -/
def startsPath (written : List Char) : Bool :=
  written.head? != some '?' && expectsOperand (fun c => endsOperand c || c == '.') written

/-! ## The pass -/

/-- A text with the first characters of one kind: a word's start follows. -/
def wordFollows : List Char → Bool
  | c :: _ => isWordStart c
  | [] => false

/-- Writes the roots into the text `cs` after `written`, given backwards; `afterRegex` says that a
regular expression has just ended. Gives the whole text backwards. -/
def writeRootsFrom (written : List Char) (afterRegex : Bool) (cs : List Char) : List Char :=
  match cs with
  | [] => written
  | c :: rest =>
    if isQuote c then
      match skipString c rest with
      | (text, ⟨more, _⟩) => writeRootsFrom (text.reverse ++ c :: written) false more
    else
      match c, rest with
      | '[', '[' :: inner =>
        match skipBrackets inner with
        | (text, ⟨more, _⟩) => writeRootsFrom (text.reverse ++ '[' :: '[' :: written) false more
      | '\x7b', '\x7b' :: more => writeRootsFrom ('\x7b' :: written) false more
      | '\x7d', '\x7d' :: more => writeRootsFrom ('\x7d' :: written) false more
      | '/', rest =>
        if !afterRegex && regexAllowed written && rest.head? != some '/' then
          match skipRegex false rest with
          | (text, ⟨more, _⟩) => writeRootsFrom (text.reverse ++ '/' :: written) true more
        else writeRootsFrom ('/' :: written) false rest
      | '.', rest =>
        if !afterRegex && wordFollows rest && startsPath written then
          writeRootsFrom ('.' :: '$' :: written) false rest
        else writeRootsFrom ('.' :: written) false rest
      | c, rest => writeRootsFrom (c :: written) false rest
termination_by cs.length
decreasing_by all_goals (simp only [List.length_cons] at *; omega)

/-- The text with its roots written out. -/
def writeRootsChars (cs : List Char) : List Char := (writeRootsFrom [] false cs).reverse

/-- An expression with its root paths written out and its doubled braces single. -/
def writeRoots (source : String) : String := String.ofList (writeRootsChars source.toList)

/-- The word `await` stands in a text that follows the character `before`. -/
def awaitAfter (before : Option Char) (cs : List Char) : Bool :=
  match cs with
  | [] => false
  | c :: rest =>
    (match ['a', 'w', 'a', 'i', 't'].isPrefixOf? (c :: rest) with
      | some after => !before.any isWordChar && !after.head?.any isWordChar
      | none => false) || awaitAfter (some c) rest

/-- The word `await` stands in a text as a whole word. -/
def usesAwait (text : String) : Bool := awaitAfter none text.toList

end TemplateEngine.RootPath
