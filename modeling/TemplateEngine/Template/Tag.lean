import TemplateEngine.Template.Token

/-!
# `Template` · Server tags

A server tag is a name with attributes, as in `<$:view $path="card" wide />`.

* **Attributes** (`attributes`): a bare name, or a name, an equals sign and a value, which is free
  of blanks and quotes or stands in single or double quotes. Blanks separate attributes. Names are
  free of blanks, quotes and equals signs; a name may occur more than once.
* **`ServerTag.parse`** takes the name off the front of the tag's text and reads the attributes of
  the rest; a slash before the `>` closes the tag itself.
-/

namespace TemplateEngine.Template

open TemplateEngine.Text

/-- Why a text is no list of attributes. -/
inductive AttributeFault where
  /-- A quote inside a name, at a byte position. -/
  | quoteInName (position : Nat)
  /-- An equals sign without a name, at a byte position. -/
  | missingName (position : Nat)
  /-- The value of the named attribute starts, ends or holds a quote without its partner. -/
  | mismatchedQuote (name : String)
  deriving Repr, DecidableEq

/-- The wording of a fault. -/
def AttributeFault.message : AttributeFault → String
  | quoteInName position => s!"unexpected quote in attribute name at position {position}"
  | missingName position => s!"missing attribute name at position {position}"
  | mismatchedQuote name => s!"attribute '{name}' has a mismatched quote"

/-! ## Attributes -/

/-- A character that an attribute name may hold. -/
def isAttributeChar (c : Char) : Bool := !isAsciiBlank c && c != '='

/-- The value of the attribute `name`, after its equals sign. -/
def attributeValue (name : List Char) (cs : List Char) :
    Except AttributeFault (List Char × NoLonger cs) :=
  let mismatched := AttributeFault.mismatchedQuote (String.ofList name)
  match cs with
  | [] => .ok ([], .all [])
  | c :: rest =>
    if isTagQuote c then
      match dropLeading (· != c) rest with
      | ⟨[], _⟩ => .error mismatched
      | ⟨_ :: after, h⟩ =>
        have h : after.length < rest.length := h
        match after.head? with
        | none => .ok (rest.takeWhile (· != c), Shorter.noLonger (.cons ⟨after, h⟩))
        | some d =>
          if isAsciiBlank d then
            .ok (rest.takeWhile (· != c), Shorter.noLonger (.cons ⟨after, h⟩))
          else .error mismatched
    else
      let value := (c :: rest).takeWhile (!isAsciiBlank ·)
      if value.any isTagQuote then .error mismatched
      else .ok (value, dropLeading (!isAsciiBlank ·) (c :: rest))

/-- The attributes of a text that stands at byte position `position`. -/
def attributesFrom (position : Nat) (cs : List Char) :
    Except AttributeFault (List (List Char × List Char)) :=
  match dropLeading isAsciiBlank cs with
  | ⟨[], _⟩ => .ok []
  | ⟨c :: rest, hc⟩ =>
    have _ : rest.length < cs.length := hc
    let start := position + byteLength (cs.takeWhile isAsciiBlank)
    let name := (c :: rest).takeWhile isAttributeChar
    -- a quote in front of the name's end is reported before anything else
    match name.findIdx? isTagQuote with
    | some i => .error (.quoteInName (start + byteLength (name.take i)))
    | none =>
      if c = '=' then .error (.missingName start)
      else
        match dropLeading isAttributeChar rest with
        | ⟨afterName, hn⟩ =>
          match afterName, hn with
          | [], _ => .ok [(name, [])]
          | d :: more, hn =>
            have _ : more.length < rest.length := hn
            if d = '=' then
              match attributeValue name more with
              | .error fault => .error fault
              | .ok (value, ⟨final, _⟩) =>
                let used := byteLength cs - byteLength final
                (attributesFrom (position + used) final).map fun later => (name, value) :: later
            else
              let used := byteLength cs - byteLength (d :: more)
              (attributesFrom (position + used) (d :: more)).map fun later => (name, []) :: later
termination_by cs.length
decreasing_by
  · omega
  · simp only [List.length_cons]; omega

/-- The attributes of a text, names and values in order. -/
def attributes (text : String) : Except AttributeFault (List (String × String)) :=
  (attributesFrom 0 text.toList).map fun pairs =>
    pairs.map fun (name, value) => (String.ofList name, String.ofList value)

/-! ## Tags -/

/-- A server tag that opens or closes itself. -/
structure ServerTag where
  /-- The name after `<$:`. -/
  name : String
  /-- Names and values of the attributes, in order. -/
  attributes : List (String × String)
  /-- The tag has no body. -/
  selfClosing : Bool
  deriving Repr, DecidableEq, Inhabited

/-- The text of a tag between `<$:` and `>`, without the slash of a self-closing one. -/
def tagInner (cs : List Char) : List Char × Bool :=
  match (trimEnd cs).reverse with
  | '/' :: rest => (rest.reverse, true)
  | _ => (cs, false)

/-- Reads an opening tag; `none` for a text that is no tag. -/
def ServerTag.parse (text : String) : Except (Option AttributeFault) ServerTag :=
  match text.toList with
  | '<' :: '$' :: ':' :: rest =>
    if rest.getLast? = some '>' then
      let (inner, selfClosing) := tagInner rest.dropLast
      let name := inner.takeWhile isNameChar
      match Template.attributes (String.ofList (inner.drop name.length)) with
      | .error fault => .error (some fault)
      | .ok attributes => .ok ⟨String.ofList name, attributes, selfClosing⟩
    else .error none
  | _ => .error none

end TemplateEngine.Template
