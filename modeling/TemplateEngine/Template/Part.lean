import TemplateEngine.Reader
import TemplateEngine.Text.Letter

/-!
# `Template` · Parts

A template text is cut into parts: literal text, and between two literals one token.

* **Openers** (`opener?`): a token starts with a dollar sign and a brace, with `<$:` and a name, or
  with `</$:` and a name. Everything else is literal text, up to the next opener (`literal`).
* **Ends**: an expression ends where its braces balance (`braced`), an opening tag at the first
  `>` (`tagEnd`), both outside of quoted text (`quoted?`); a closing tag has a name, ASCII blanks
  and a `>` (`closerEnd`).
* **`parts`** alternates literals and tokens, starts and ends with a literal, and loses nothing.
  It fails at the first token without an end.

All steps leave a shorter rest of the text, which is why cutting ends.
-/

namespace TemplateEngine.Template

open TemplateEngine.Text

/-- What a part of a template is. -/
inductive Kind where
  /-- Text that is copied to the output. -/
  | literal
  /-- An expression or a directive in braces. -/
  | expression
  /-- A server tag that opens, or closes itself. -/
  | openTag
  /-- A server tag that closes. -/
  | closeTag
  deriving Repr, DecidableEq, Inhabited

/-- Why a token has no end. -/
inductive ScanFault where
  /-- A quoted text in an expression is not closed. -/
  | openString
  /-- A quoted attribute value is not closed. -/
  | openAttribute
  /-- The braces of an expression do not balance. -/
  | openExpression
  /-- An opening tag has no `>`. -/
  | openTag
  /-- A closing tag has something other than a name and a `>`. -/
  | badCloser
  deriving Repr, DecidableEq

/-- The wording of a fault in the token that starts at a byte offset. -/
def ScanFault.message (offset : Nat) : ScanFault → String
  | openString => "unterminated string inside expression token"
  | openAttribute => "unterminated attribute value in server tag"
  | openExpression => s!"unterminated expression token starting at offset {offset}"
  | openTag => s!"unterminated server tag starting at offset {offset}"
  | badCloser => s!"malformed server tag closer at offset {offset}"

/-- A part of a template, without its place. -/
structure Part where
  /-- What the part is. -/
  kind : Kind
  /-- Its text, delimiters included. -/
  text : List Char
  deriving Repr, DecidableEq

/-! ## Characters -/

/-- A character that a tag name starts with. -/
def isNameStart (c : Char) : Bool := isAsciiLetter c || c == '_'

/-- A character of a tag name. -/
def isNameChar (c : Char) : Bool := isAsciiLetter c || isAsciiDigit c || c == '_' || c == '-'

/-- A quote around an attribute value. -/
def isTagQuote (c : Char) : Bool := c == '"' || c == '\x27'

/-- A quote around a text in an expression. -/
def isQuote (c : Char) : Bool := isTagQuote c || c == '\x60'

/-! ## Ends of tokens -/

/-- A quoted text after its opening quote: what belongs to it, the closing quote included, and the
rest. A backslash takes the next character with it. -/
def quoted? (quote : Char) : (cs : List Char) → Option (List Char × Shorter cs)
  | [] => none
  | '\\' :: [] => none
  | '\\' :: c :: rest =>
    (quoted? quote rest).map fun (text, more) => ('\\' :: c :: text, more.cons.cons)
  | c :: rest =>
    if c = quote then some ([c], .tail c rest)
    else (quoted? quote rest).map fun (text, more) => (c :: text, more.cons)

/-- An expression after its opening brace, or after further text that left `depth` braces open:
what belongs to it, its last closing brace included, and the rest. -/
def braced (depth : Nat) (cs : List Char) : Except ScanFault (List Char × Shorter cs) :=
  match cs with
  | [] => .error .openExpression
  | c :: rest =>
    if isQuote c then
      match quoted? c rest with
      | none => .error .openString
      | some (text, ⟨more, h⟩) =>
        (braced depth more).map fun (tail, final) =>
          (c :: (text ++ tail), (Shorter.trans ⟨more, h⟩ final).cons)
    else if c = '\x7d' ∧ depth ≤ 1 then .ok ([c], .tail c rest)
    else
      let depth := if c = '\x7b' then depth + 1 else if c = '\x7d' then depth - 1 else depth
      (braced depth rest).map fun (tail, final) => (c :: tail, final.cons)
termination_by cs.length
decreasing_by all_goals (simp only [List.length_cons]; omega)

/-- An opening tag after `<$:`: what belongs to it, its `>` included, and the rest. -/
def tagEnd (cs : List Char) : Except ScanFault (List Char × Shorter cs) :=
  match cs with
  | [] => .error .openTag
  | c :: rest =>
    if isTagQuote c then
      match quoted? c rest with
      | none => .error .openAttribute
      | some (text, ⟨more, h⟩) =>
        (tagEnd more).map fun (tail, final) =>
          (c :: (text ++ tail), (Shorter.trans ⟨more, h⟩ final).cons)
    else if c = '>' then .ok ([c], .tail c rest)
    else (tagEnd rest).map fun (tail, final) => (c :: tail, final.cons)
termination_by cs.length
decreasing_by all_goals (simp only [List.length_cons]; omega)

/-- A closing tag after `</$:`: what belongs to it, its `>` included, and the rest. -/
def closerEnd (cs : List Char) : Except ScanFault (List Char × Shorter cs) :=
  match dropLeading isNameChar cs with
  | ⟨afterName, hn⟩ =>
    match dropLeading isAsciiBlank afterName with
    | ⟨[], _⟩ => .error .badCloser
    | ⟨c :: rest, hr⟩ =>
      if c = '>' then
        have hr : rest.length < afterName.length := hr
        .ok (cs.takeWhile isNameChar ++ afterName.takeWhile isAsciiBlank ++ [c],
          ⟨rest, Nat.lt_of_lt_of_le hr hn⟩)
      else .error .badCloser

/-! ## Openers and literals -/

/-- The opener that a text starts with, and what follows it. -/
def opener? (cs : List Char) : Option (Kind × List Char × Shorter cs) :=
  match cs with
  | '$' :: '\x7b' :: rest =>
    some (.expression, ['$', '\x7b'], .cons (.tail _ rest))
  | '<' :: '$' :: ':' :: c :: rest =>
    if isNameStart c then
      some (.openTag, ['<', '$', ':'], .cons (.cons (.tail _ (c :: rest))))
    else none
  | '<' :: '/' :: '$' :: ':' :: c :: rest =>
    if isNameStart c then
      some (.closeTag, ['<', '/', '$', ':'], .cons (.cons (.cons (.tail _ (c :: rest)))))
    else none
  | _ => none

/-- The literal text that a template starts with, up to its first opener. -/
def literal : (cs : List Char) → List Char × NoLonger cs
  | [] => ([], .all [])
  | c :: cs =>
    if (opener? (c :: cs)).isSome then ([], .all (c :: cs))
    else
      match literal cs with
      | (text, rest) => (c :: text, rest.cons.noLonger)

/-- The end of a token of the given kind, after its opener. -/
def tokenEnd (kind : Kind) (cs : List Char) : Except ScanFault (List Char × Shorter cs) :=
  match kind with
  | .openTag => tagEnd cs
  | .closeTag => closerEnd cs
  | _ => braced 1 cs

/-! ## Parts -/

/-- The parts of a text, or the first fault with the byte offset of its token; the text stands at
`offset` in its template. -/
def partsFrom (offset : Nat) (cs : List Char) : Except (ScanFault × Nat) (List Part) :=
  match literal cs with
  | (text, ⟨rest, _⟩) =>
    match opener? rest with
    | none => .ok [⟨.literal, text⟩]
    | some (kind, opener, ⟨inner, _⟩) =>
      let start := offset + byteLength text
      match tokenEnd kind inner with
      | .error fault => .error (fault, start)
      | .ok (body, ⟨more, _⟩) =>
        let token := opener ++ body
        (partsFrom (start + byteLength token) more).map fun later =>
          ⟨.literal, text⟩ :: ⟨kind, token⟩ :: later
termination_by cs.length
decreasing_by omega

/-- The parts of a template. -/
def parts (cs : List Char) : Except (ScanFault × Nat) (List Part) := partsFrom 0 cs

end TemplateEngine.Template
