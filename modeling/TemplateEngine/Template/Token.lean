import TemplateEngine.Template.Part

/-!
# `Template` · Tokens

The parts of a template with their places.

* **`Token`** is a part with the byte offset at which it stands; `tokenize` gives the parts of a
  source with their offsets.
* **Views**: `Token.body` is an expression without its braces, `Token.closerName` the name in a
  closing tag.
* **`withoutLineEnd`** drops one line terminator from the front of a literal.
-/

namespace TemplateEngine.Template

open TemplateEngine.Text

/-- A part of a template and where it stands. -/
structure Token where
  /-- What the part is. -/
  kind : Kind
  /-- Its text, delimiters included. -/
  text : String
  /-- The byte offset of its first character in the source. -/
  offset : Nat
  deriving Repr, DecidableEq, Inhabited

/-- Parts with their offsets, the first one standing at `offset`. -/
def place (offset : Nat) : List Part → List Token
  | [] => []
  | part :: rest =>
    ⟨part.kind, String.ofList part.text, offset⟩ :: place (offset + byteLength part.text) rest

/-- The tokens and literals of a source, or the first fault with the offset of its token. -/
def tokenize (source : String) : Except (ScanFault × Nat) (List Token) :=
  (parts source.toList).map (place 0)

namespace Token

/-- The text between the braces of an expression; empty for other parts. -/
def body (token : Token) : String :=
  match token.kind, token.text.toList with
  | .expression, '$' :: '\x7b' :: rest => String.ofList rest.dropLast
  | _, _ => ""

/-- The name in a closing tag; empty for other parts. -/
def closerName (token : Token) : String :=
  match token.kind, token.text.toList with
  | .closeTag, '<' :: '/' :: '$' :: ':' :: rest => String.ofList (trim rest.dropLast)
  | _, _ => ""

end Token

/-- A text without the line terminator it starts with: a carriage return with a line feed, or
either of them alone. -/
def withoutLineEnd (cs : List Char) : List Char :=
  match cs with
  | '\r' :: '\n' :: rest => rest
  | '\n' :: rest => rest
  | '\r' :: rest => rest
  | rest => rest

/-- A string without the line terminator it starts with. -/
def stripLineEnd (text : String) : String := String.ofList (withoutLineEnd text.toList)

end TemplateEngine.Template
