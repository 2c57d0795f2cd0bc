import TemplateEngine.Reader

/-!
# `Text` · UTF-8

Characters out of bytes that may be ill-formed.

* **Lead and tail.** The first byte of a character says how many bytes follow and in which range
  the first of them lies (`lead?`); this range is narrower where a longer form than needed, a
  surrogate or a number that is no character would arise. All later bytes are `80`-`BF`.
* **`scalars`** reads all bytes. A piece that is the beginning of a character but does not go on as
  one, and a byte that begins none, count as one missing character each.
* **`decodeLossy`** puts the replacement character in the place of a missing one, **`decode?`**
  refuses it.
-/

namespace TemplateEngine.Text

/-- The bytes that follow the first byte of a character. -/
structure Tail where
  /-- The bits that the first byte gives. -/
  bits : Nat
  /-- How many bytes follow. -/
  count : Nat
  /-- The least value of the next byte. -/
  low : UInt8
  /-- The greatest value of the next byte. -/
  high : UInt8
  deriving Repr, DecidableEq

/-- What follows a byte that begins a character. -/
def lead? (byte : UInt8) : Option Tail :=
  let n := byte.toNat
  if n < 0x80 then some ⟨n, 0, 0x80, 0xBF⟩
  else if 0xC2 ≤ n ∧ n ≤ 0xDF then some ⟨n - 0xC0, 1, 0x80, 0xBF⟩
  else if n = 0xE0 then some ⟨0, 2, 0xA0, 0xBF⟩
  else if n = 0xED then some ⟨13, 2, 0x80, 0x9F⟩
  else if 0xE1 ≤ n ∧ n ≤ 0xEF then some ⟨n - 0xE0, 2, 0x80, 0xBF⟩
  else if n = 0xF0 then some ⟨0, 3, 0x90, 0xBF⟩
  else if 0xF1 ≤ n ∧ n ≤ 0xF3 then some ⟨n - 0xF0, 3, 0x80, 0xBF⟩
  else if n = 0xF4 then some ⟨4, 3, 0x80, 0x8F⟩
  else none

/-- Reads the bytes that have to follow; gives the character's number and the rest. -/
def followers (bits : Nat) (low high : UInt8) :
    (count : Nat) → (bytes : List UInt8) → Option Nat × NoLonger bytes
  | 0, bytes => (some bits, .all bytes)
  | _ + 1, [] => (none, .all [])
  | count + 1, byte :: rest =>
    if low ≤ byte ∧ byte ≤ high then
      match followers (64 * bits + (byte.toNat - 0x80)) 0x80 0xBF count rest with
      | (scalar, left) => (scalar, left.cons.noLonger)
    else (none, .all (byte :: rest))

/-- The characters of bytes, with nothing for each ill-formed piece. -/
def scalars (bytes : List UInt8) : List (Option Char) :=
  match bytes with
  | [] => []
  | byte :: rest =>
    match lead? byte with
    | none => none :: scalars rest
    | some tail =>
      match followers tail.bits tail.low tail.high tail.count rest with
      | (scalar, ⟨left, _⟩) => scalar.map Char.ofNat :: scalars left
termination_by bytes.length
decreasing_by all_goals (simp only [List.length_cons]; omega)

/-- What stands in the place of an ill-formed piece. -/
def replacement : Char := Char.ofNat 0xFFFD

/-- The text of bytes with the replacement character for each ill-formed piece. -/
def decodeLossy (bytes : List UInt8) : String :=
  String.ofList ((scalars bytes).map fun scalar => scalar.getD replacement)

/-- The text of well-formed bytes. -/
def decode? (bytes : List UInt8) : Option String := ((scalars bytes).mapM id).map String.ofList

end TemplateEngine.Text
