import TemplateEngine.Dictionary
import TemplateEngine.Text.Hex
import TemplateEngine.Text.Utf8

/-!
# Query strings

The parameters of a request: pairs `name=value` between `&`, in the encoding of HTML forms.

* **Decoding**: a plus sign is a space, `%` and two hexadecimal digits are a byte (`unescape`), any
  other `%` is itself; the bytes are then read as UTF-8, ill-formed ones being replaced.
* **Parameters**: empty pairs and empty names are left out, and of two values of one name the last
  counts.
-/

namespace TemplateEngine.Query

open TemplateEngine.Text

/-- The value of a hexadecimal digit. -/
def digit? (byte : UInt8) : Option Nat := hexValue? (Char.ofNat byte.toNat)

/-- The byte that a percent sign and two hexadecimal digits stand for. -/
def escaped? (mark high low : UInt8) : Option UInt8 :=
  if mark = 37 then do return UInt8.ofNat (16 * (← digit? high) + (← digit? low)) else none

/-- The bytes that escaped bytes stand for. -/
def unescape : List UInt8 → List UInt8
  | mark :: high :: low :: rest =>
    match escaped? mark high low with
    | some byte => byte :: unescape rest
    | none => mark :: unescape (high :: low :: rest)
  | short => short

/-- A plus sign is a space. -/
def plusToSpace (byte : UInt8) : UInt8 := if byte = 43 then 32 else byte

/-- The text of an encoded name or value. -/
def decode (bytes : List UInt8) : String := decodeLossy (unescape (bytes.map plusToSpace))

/-- The name and the value of a pair; without `=` the value is empty. -/
def pair (bytes : List UInt8) : String × String :=
  (decode (bytes.takeWhile (· != 61)), decode ((bytes.dropWhile (· != 61)).drop 1))

/-- The pairs of a query in their order. -/
def pairs (query : String) : List (String × String) :=
  ((query.toUTF8.toList.splitOnP (· == 38)).filter (!·.isEmpty)).map pair

/-- The parameters of a query. -/
def parameters (query : String) : Dictionary String :=
  .ofList ((pairs query).filter fun parameter => !parameter.1.isEmpty)

end TemplateEngine.Query
