import TemplateEngine.Decimal.Shortest

/-!
# `Decimal` · Written numbers

How a number is written in a page, in a message and in JSON.

* **`numberText`**, the text of a value: whole numbers below `10 ^ 21` with all their digits, other
  numbers with their shortest digits, and never an exponent.
* **`plainText`**, the text of a number inside a message about an expression: always the shortest
  digits, without exponent.
* **`jsonText`**: whole numbers are written by `Json`; here are the others, with their shortest
  digits, positional if the leading digit's exponent lies between -5 and 15.
-/

namespace TemplateEngine.Decimal

/-- The decimal digits of a natural number. -/
def digits (n : Nat) : String := String.ofList (Nat.toDigits 10 n)

/-- A run of zeros. -/
def zeros (n : Nat) : String := String.ofList (List.replicate n '0')

/-- The number `d · 10 ^ k` without exponent. -/
def positional (d : Nat) (k : Int) : String :=
  match k with
  | .ofNat n => digits d ++ if d = 0 then "" else zeros n
  | .negSucc n =>
    let places := n + 1
    let text := Nat.toDigits 10 d
    if text.length ≤ places then
      "0." ++ zeros (places - text.length) ++ String.ofList text
    else
      String.ofList (text.take (text.length - places)) ++ "." ++
        String.ofList (text.drop (text.length - places))

/-- The sign in front of a number. -/
def signText (negative : Bool) : String := if negative then "-" else ""

/-- The text of a number as a page shows it. -/
def numberText (x : Float) : String :=
  match Parts.ofFloat x with
  | .nan => "NaN"
  | .infinite negative => signText negative ++ "Infinity"
  | .finite negative m q =>
    match Parts.whole? m q with
    | some n =>
      if n < Nat.pow 10 21 then signText negative ++ digits n
      else
        let (d, k) := shortest .up m q
        signText negative ++ positional d k
    | none =>
      let (d, k) := shortest .up m q
      signText negative ++ positional d k

/-- The text of a number in a message about an expression. -/
def plainText (x : Float) : String :=
  match Parts.ofFloat x with
  | .nan => "NaN"
  | .infinite negative => signText negative ++ "inf"
  | .finite negative m q =>
    let (d, k) := shortest .up m q
    signText negative ++ positional d k

/-- The number `d · 10 ^ k` with one digit before the point and an exponent. -/
def scientific (d : Nat) (k : Int) : String :=
  let text := Nat.toDigits 10 d
  let exponent := k + (text.length : Int) - 1
  let mantissa :=
    match text with
    | [] => ""
    | [c] => String.ofList [c]
    | c :: rest => String.ofList (c :: '.' :: rest)
  mantissa ++ "e" ++ (if exponent < 0 then "-" else "+") ++ digits exponent.natAbs

/-- The JSON text of a double; a number that is not finite has none. -/
def jsonText? (x : Float) : Option String :=
  match Parts.ofFloat x with
  | .nan => none
  | .infinite _ => none
  | .finite negative m q =>
    let (d, k) := shortest .even m q
    let lead := k + ((Nat.toDigits 10 d).length : Int) - 1
    if -5 ≤ lead ∧ lead ≤ 15 then
      if 0 ≤ k then some (signText negative ++ positional d k ++ ".0")
      else some (signText negative ++ positional d k)
    else some (signText negative ++ scientific d k)

end TemplateEngine.Decimal
