import TemplateEngine.Template.Position
import TemplateEngine.Template.Token

/-!
# `Template` · Excerpts

The part of a template at which something failed, with its place and its surroundings.

* **Window**: `radius` parts on either side. A literal of more than `literalWidth` characters is
  cut to those next to the failing part, with three points on the far side.
* **`Excerpt.render`** marks the failing part.
-/

namespace TemplateEngine.Template

/-- Number of parts shown on either side. -/
def radius : Nat := 3

/-- Number of characters to which a literal is cut. -/
def literalWidth : Nat := 40

/-- A part of a template in its surroundings. -/
structure Excerpt where
  /-- The text shown before the part. -/
  before : String
  /-- The text of the part. -/
  token : String
  /-- The text shown after the part. -/
  after : String
  /-- The place of the part. -/
  position : Position
  deriving Repr, DecidableEq, Inhabited

/-- A literal that is too long to be shown whole. -/
def Token.isLong (token : Token) : Bool :=
  token.kind == .literal && literalWidth < token.text.length

/-- A part shown before the failing one: the end of a long literal. -/
def Token.shownBefore (token : Token) : String :=
  if token.isLong then
    "..." ++ String.ofList (token.text.toList.drop (token.text.length - literalWidth))
  else token.text

/-- A part shown after the failing one: the start of a long literal. -/
def Token.shownAfter (token : Token) : String :=
  if token.isLong then String.ofList (token.text.toList.take literalWidth) ++ "..."
  else token.text

/-- The excerpt at the part with the given index; an index behind the end stands for the end. -/
def Excerpt.at (source : String) (tokens : List Token) (index : Nat) : Excerpt :=
  let (text, offset) :=
    match tokens[index]? with
    | some token => (token.text, token.offset)
    | none => ("", source.utf8ByteSize)
  { before := String.join (((tokens.take index).drop (index - radius)).map Token.shownBefore)
    token := text
    after := String.join (((tokens.drop (index + 1)).take radius).map Token.shownAfter)
    position := Position.ofOffset source offset }

/-- The text of an excerpt. -/
def Excerpt.render (excerpt : Excerpt) : String :=
  s!"line {excerpt.position.line}, column {excerpt.position.column}:\n" ++
    excerpt.before ++ ">>>" ++ excerpt.token ++ "<<<" ++ excerpt.after

end TemplateEngine.Template
