import TemplateEngine.Json.Number
import TemplateEngine.Reader
import TemplateEngine.Text.Hex

/-!
# `Json` · Reading values

A whole text is one value with white space around it (`parse?`); what went wrong is not told.

* **Texts**: control characters have to be escaped, `\u` takes four hexadecimal digits, and a
  surrogate has to stand in a pair.
* **Objects**: entries are kept sorted by key; of two values of one key the last wins.
* **Depth**: arrays and objects nest to at most `maxNesting` levels.

Every reading step leaves a shorter rest, which is why reading ends.
-/

namespace TemplateEngine.Json

open TemplateEngine.Text

/-- How deep arrays and objects may nest. -/
def maxNesting : Nat := 127

/-- White space between the tokens of a value. -/
def isSpace (c : Char) : Bool := c == ' ' || c == '\t' || c == '\n' || c == '\r'

/-- The value of four hexadecimal digits. -/
def hex4? (a b c d : Char) : Option Nat := hexRun? 0 [a, b, c, d]

/-- The character of an escape with a letter. -/
def unescape? : Char → Option Char
  | '"' => some '"'
  | '\\' => some '\\'
  | '/' => some '/'
  | 'b' => some (Char.ofNat 8)
  | 'f' => some (Char.ofNat 12)
  | 'n' => some '\n'
  | 'r' => some '\r'
  | 't' => some '\t'
  | _ => none

/-- The characters of a text after its opening quote, with its closing quote taken off. -/
def chars? : (cs : List Char) → Option (List Char × Shorter cs)
  | [] => none
  | '"' :: rest => some ([], .tail _ rest)
  | '\\' :: 'u' :: a :: b :: c :: d :: rest =>
    match hex4? a b c d with
    | none => none
    | some unit =>
      if 0xD800 ≤ unit ∧ unit ≤ 0xDBFF then
        match rest with
        | '\\' :: 'u' :: e :: f :: g :: h :: rest =>
          match hex4? e f g h with
          | none => none
          | some second =>
            if 0xDC00 ≤ second ∧ second ≤ 0xDFFF then
              (chars? rest).map fun (cs, ⟨more, h⟩) =>
                (Char.ofNat (0x10000 + 1024 * (unit - 0xD800) + (second - 0xDC00)) :: cs,
                  ⟨more, by simp only [List.length_cons]; omega⟩)
            else none
        | _ => none
      else if 0xDC00 ≤ unit ∧ unit ≤ 0xDFFF then none
      else
        (chars? rest).map fun (cs, ⟨more, h⟩) =>
          (Char.ofNat unit :: cs, ⟨more, by simp only [List.length_cons]; omega⟩)
  | '\\' :: c :: rest =>
    match unescape? c with
    | none => none
    | some d =>
      (chars? rest).map fun (cs, more) => (d :: cs, more.cons.cons)
  | c :: rest =>
    if c.toNat < 32 ∨ c = '\\' then none
    else (chars? rest).map fun (cs, more) => (c :: cs, more.cons)

/-- Takes a given word off the front. -/
def word? (word : List Char) (cs : List Char) : Option (NoLonger cs) :=
  match word, cs with
  | [], cs => some (.all cs)
  | _ :: _, [] => none
  | w :: ws, c :: cs =>
    if w = c then
      (word? ws cs).map fun rest => rest.cons.noLonger
    else none

mutual

/-- The value that a text starts with; `depth` more levels may be opened. -/
def value? (depth : Nat) (cs : List Char) : Option (Json × Shorter cs) :=
  match dropLeading isSpace cs with
  | ⟨[], _⟩ => none
  | ⟨c :: rest, hl⟩ =>
    have hl : rest.length < cs.length := hl
    if c = 'n' then
      (word? ['u', 'l', 'l'] rest).map fun ⟨r, h⟩ => (.null, ⟨r, by omega⟩)
    else if c = 't' then
      (word? ['r', 'u', 'e'] rest).map fun ⟨r, h⟩ => (.bool true, ⟨r, by omega⟩)
    else if c = 'f' then
      (word? ['a', 'l', 's', 'e'] rest).map fun ⟨r, h⟩ => (.bool false, ⟨r, by omega⟩)
    else if c = '"' then
      (chars? rest).map fun (s, ⟨r, h⟩) => (.str (String.ofList s), ⟨r, by omega⟩)
    else if c = '[' then
      match depth, dropLeading isSpace rest with
      | 0, _ => none
      | _ + 1, ⟨[], _⟩ => none
      | depth + 1, ⟨d :: more, hm⟩ =>
        have hm : more.length < rest.length := hm
        if d = ']' then some (.arr [], ⟨more, by omega⟩)
        else
          (items? depth rest).map fun (items, ⟨r, h⟩) => (.arr items, ⟨r, by omega⟩)
    else if c = '\x7b' then
      match depth, dropLeading isSpace rest with
      | 0, _ => none
      | _ + 1, ⟨[], _⟩ => none
      | depth + 1, ⟨d :: more, hm⟩ =>
        have hm : more.length < rest.length := hm
        if d = '\x7d' then some (.obj [], ⟨more, by omega⟩)
        else
          (entries? depth [] rest).map fun (entries, ⟨r, h⟩) => (.obj entries, ⟨r, by omega⟩)
    else if isNumberChar c then
      (Number.ofText? (c :: rest.takeWhile isNumberChar)).map fun n =>
        match dropLeading isNumberChar rest with
        | ⟨r, h⟩ => (.num n, ⟨r, by omega⟩)
    else none
termination_by (cs.length, 0)

/-- The items of an array up to its closing bracket; at least one is needed. -/
def items? (depth : Nat) (cs : List Char) : Option (List Json × Shorter cs) :=
  match value? depth cs with
  | none => none
  | some (first, ⟨rest, hr⟩) =>
    match dropLeading isSpace rest with
    | ⟨[], _⟩ => none
    | ⟨c :: more, hm⟩ =>
      have hm : more.length < rest.length := hm
      if c = ']' then some ([first], ⟨more, by omega⟩)
      else if c = ',' then
        (items? depth more).map fun (later, ⟨r, h⟩) => (first :: later, ⟨r, by omega⟩)
      else none
termination_by (cs.length, 1)

/-- The entries of an object up to its closing brace, added to `before`; at least one is needed. -/
def entries? (depth : Nat) (before : List (String × Json)) (cs : List Char) :
    Option (List (String × Json) × Shorter cs) :=
  match dropLeading isSpace cs with
  | ⟨[], _⟩ => none
  | ⟨c :: rest, hl⟩ =>
    have hl : rest.length < cs.length := hl
    if c ≠ '"' then none
    else
      match chars? rest with
      | none => none
      | some (key, ⟨afterKey, hk⟩) =>
        match dropLeading isSpace afterKey with
        | ⟨[], _⟩ => none
        | ⟨d :: more, hm⟩ =>
          have hm : more.length < afterKey.length := hm
          if d ≠ ':' then none
          else
            match value? depth more with
            | none => none
            | some (value, ⟨afterValue, hv⟩) =>
              let entries := insertEntry (String.ofList key) value before
              match dropLeading isSpace afterValue with
              | ⟨[], _⟩ => none
              | ⟨e :: final, hf⟩ =>
                have hf : final.length < afterValue.length := hf
                if e = '\x7d' then some (entries, ⟨final, by omega⟩)
                else if e = ',' then
                  (entries? depth entries final).map fun (all, ⟨r, h⟩) => (all, ⟨r, by omega⟩)
                else none
termination_by (cs.length, 1)

end

/-- The value that a whole text writes. -/
def parse? (text : String) : Option Json :=
  match value? maxNesting text.toList with
  | some (json, rest) => if rest.val.all isSpace then some json else none
  | none => none

end TemplateEngine.Json
