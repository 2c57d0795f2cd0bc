import TemplateEngine.Decimal.Notation
import TemplateEngine.Decimal.Reading
import TemplateEngine.Toml.DateTime

/-!
# `Toml` · Numbers and other words

The values that are neither texts nor arrays nor tables.

* **Digits** may have single underscores between them (`digits?`).
* **Integers** are decimal without superfluous zeros, or hexadecimal, octal or binary after `0x`,
  `0o` or `0b`; they have to fit in 64 bits.
* **Floats** have a fraction or an exponent or both; a positive one must not be too large. `inf` and
  `nan` may have a sign.
* **`scalar?`** reads one of them, a date or a truth value. `startsValue` says where one begins, as
  opposed to a place that holds no value at all.
-/

namespace TemplateEngine.Toml

open TemplateEngine.Text

/-! ## Digits -/

/-- The wording for a digit that is missing. -/
def digitWord : String := "digit"

/-- The digits behind a digit, without the underscores between them. -/
def moreDigits? (isDigit : Char → Bool) :
    (cs : List Char) → Except Fault (List Char × NoLonger cs)
  | [] => .ok ([], .all [])
  | ['_'] => .error (.here [] { expected := [digitWord] })
  | '_' :: d :: rest =>
    if isDigit d then do
      let (ds, left) ← moreDigits? isDigit rest
      return (d :: ds, left.cons.cons.noLonger)
    else .error (.here (d :: rest) { expected := [digitWord] })
  | d :: rest =>
    if isDigit d then do
      let (ds, left) ← moreDigits? isDigit rest
      return (d :: ds, left.cons.noLonger)
    else .ok ([], .all (d :: rest))

/-- Digits without the underscores between them; at least one is needed. -/
def digits? (isDigit : Char → Bool) : (cs : List Char) → Reading (List Char) cs
  | [] => .error (.here [] {})
  | d :: rest =>
    if isDigit d then do
      let (ds, left) ← moreDigits? isDigit rest
      return (d :: ds, left.cons)
    else .error (.here (d :: rest) {})

/-- Decimal digits without superfluous zeros in front: behind a zero there is no more. -/
def whole? : (cs : List Char) → Reading (List Char) cs
  | '0' :: rest => .ok (['0'], .tail '0' rest)
  | cs => digits? isAsciiDigit cs

/-- A sign, which may be left out, and if it is a minus. -/
def sign : (cs : List Char) → Bool × NoLonger cs
  | '-' :: rest => (true, (Shorter.tail '-' rest).noLonger)
  | '+' :: rest => (false, (Shorter.tail '+' rest).noLonger)
  | cs => (false, .all cs)

/-! ## Integers -/

/-- An integer that fits in 64 bits; `cs` is where it starts. -/
def fitting? (cs : List Char) (n : Int) : Except Fault Int :=
  if Decimal.fitsSigned n then .ok n
  else .error (.here cs { cause := some (if n < 0 then .tooSmall else .tooLarge) })

/-- The bases that a letter behind a zero stands for. -/
def baseOf? : Char → Option (Nat × Subject)
  | 'x' => some (16, .hexadecimalInteger)
  | 'o' => some (8, .octalInteger)
  | 'b' => some (2, .binaryInteger)
  | _ => none

/-- An integer that is not decimal. -/
def basedInteger? (cs : List Char) : Except Fault (Option (Int × Shorter cs)) :=
  match cs with
  | '0' :: letter :: rest =>
    match baseOf? letter with
    | none => .ok none
    | some (base, subject) => do
      let (ds, left) ← (digits? (fun d => (hexValue? d).any (· < base)) rest).mapError
        (Fault.within subject)
      let n ← fitting? ('0' :: letter :: rest) (valueOf base ds)
      return some (n, left.cons.cons)
  | _ => .ok none

/-! ## Floats -/

/-- The mark of an exponent. -/
def isExponentMark (c : Char) : Bool := c == 'e' || c == 'E'

/-- An exponent behind its mark, without the underscores. -/
def exponentDigits? (cs : List Char) : Reading (List Char) cs := do
  let (negative, start) := sign cs
  let (ds, left) ← digits? isAsciiDigit start.val
  return ('e' :: (if negative then '-' :: ds else ds), start.trans left)

/-- An exponent, which may be left out. -/
def exponent? (cs : List Char) : Except Fault (List Char × NoLonger cs) :=
  match cs with
  | [] => .ok ([], .all [])
  | c :: rest =>
    if isExponentMark c then do
      let (exponent, left) ← exponentDigits? rest
      return (exponent, left.cons.noLonger)
    else .ok ([], .all (c :: rest))

/-- A fraction with an exponent, or an exponent, without the underscores; nothing if the number is
an integer. -/
def fractional? (cs : List Char) : Except Fault (Option (List Char × Shorter cs)) :=
  match cs with
  | [] => .ok none
  | c :: rest =>
    if c = '.' then do
      let (ds, left) ← (digits? isAsciiDigit rest).mapError (Fault.expecting digitWord)
      let (exponent, behind) ← exponent? left.val
      return some ('.' :: ds ++ exponent, (left.onward behind).cons)
    else if isExponentMark c then do
      let (exponent, left) ← exponentDigits? rest
      return some (exponent, left.cons)
    else .ok none

/-- A special number behind its sign. -/
def special? : (cs : List Char) → Option (Float × Shorter cs)
  | 'i' :: 'n' :: 'f' :: rest => some (1.0 / 0.0, .cons (.cons (.tail 'f' rest)))
  | 'n' :: 'a' :: 'n' :: rest => some (0.0 / 0.0, .cons (.cons (.tail 'n' rest)))
  | _ => none

/-! ## Values -/

/-- A value that still has to be given its place. -/
abbrev Unplaced := Span → Item

/-- A decimal number behind its sign; `start` is where it starts with it. -/
def decimal? (start : List Char) (negative : Bool) (cs : List Char) : Reading Unplaced cs := do
  let (ds, rest) ← (whole? cs).mapError (Fault.within .integer)
  match ← (fractional? rest.val).mapError (Fault.within .float) with
  | none =>
    let n : Int := valueOf 10 ds
    let n ← fitting? start (if negative then -n else n)
    return (fun span => .integer span n, rest)
  | some (more, left) =>
    let x := (Decimal.parse? (ds ++ more)).getD 0
    if Decimal.isFinite x || negative then
      return (fun span => .float span (if negative then -x else x), rest.trans left)
    else throw (.here start { subject := some .float })

/-- A number. -/
def number? (cs : List Char) : Reading Unplaced cs := do
  match ← basedInteger? cs with
  | some (n, rest) => return (fun span => .integer span n, rest)
  | none =>
    let (negative, start) := sign cs
    match special? start.val with
    | some (x, rest) =>
      return (fun span => .float span (if negative then -x else x), start.trans rest)
    | none =>
      let (item, rest) ← decimal? cs negative start.val
      return (item, start.trans rest)

/-- Takes letters off. -/
def dropWord? : (letters cs : List Char) → Option (NoLonger cs)
  | [], cs => some (.all cs)
  | _ :: _, [] => none
  | a :: letters, c :: cs =>
    if a = c then (dropWord? letters cs).map fun rest => rest.cons.noLonger else none

/-- A place where a text should stand, if any value does. -/
def textMissing (cs : List Char) : Fault :=
  .here cs { subject := some .string, expected := [marked "\"", marked "'"] }

/-- A word whose first letter stands here already. -/
def word? (word : String) (item : Unplaced) (c : Char) (cs : List Char) :
    Reading Unplaced (c :: cs) :=
  match dropWord? (word.toList.drop 1) cs with
  | some rest => .ok (item, rest.cons)
  | none => .error (textMissing (c :: cs))

/-- A character that a number or a date may start with. -/
def startsNumber (c : Char) : Bool := c == '+' || c == '-' || isAsciiDigit c

/-- A value that is neither a text nor an array nor a table. -/
def scalar? (cs : List Char) : Reading Unplaced cs :=
  match cs with
  | [] => .error (.here [] {})
  | c :: rest =>
    if startsNumber c then do
      match ← dateTime? (c :: rest) with
      | some left => return (.dateTime, left)
      | none => number? (c :: rest)
    else if c = '_' then
      .error (.here (c :: rest) { subject := some .integer, expected := ["leading " ++ digitWord] })
    else if c = '.' then
      .error (.here (c :: rest) { subject := some .float, expected := ["leading " ++ digitWord] })
    else if c = 't' then word? "true" (.boolean · true) c rest
    else if c = 'f' then word? "false" (.boolean · false) c rest
    else if c = 'i' then word? "inf" (.float · (1.0 / 0.0)) c rest
    else if c = 'n' then word? "nan" (.float · (0.0 / 0.0)) c rest
    else .error (textMissing (c :: rest))

/-- A value starts here, be it right or wrong. -/
def startsValue (cs : List Char) : Bool :=
  match cs with
  | [] => false
  | c :: rest =>
    isQuote c || c == '[' || c == '\x7b' || isAsciiDigit c || c == 't' || c == 'f' ||
      (special? (c :: rest)).isSome ||
      (startsNumber c && ((special? rest).isSome || rest.head?.any isAsciiDigit))

end TemplateEngine.Toml
