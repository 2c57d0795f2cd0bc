import TemplateEngine.Decimal.Notation
import TemplateEngine.Json.Basic

/-!
# `Json` · Writing

The compact text of a JSON value: no white space, entries in their order.

* **Texts** are written raw except for the quote, the backslash and the control characters
  (`escape`): five of them have a letter of their own, the others are `\u00xx` in lower case.
* **Numbers**: integers as digits, doubles with the shortest digits (`Decimal.jsonText?`); what is
  not finite becomes `null`.
-/

namespace TemplateEngine.Json

/-- A digit of base sixteen, in lower case. -/
def hexDigit (n : Nat) : Char := Nat.digitChar (n % 16)

/-- A character inside a quoted text. -/
def escape (c : Char) : List Char :=
  if c = '"' then ['\\', '"']
  else if c = '\\' then ['\\', '\\']
  else
    match c.toNat with
    | 8 => ['\\', 'b']
    | 9 => ['\\', 't']
    | 10 => ['\\', 'n']
    | 12 => ['\\', 'f']
    | 13 => ['\\', 'r']
    | n => if n < 32 then ['\\', 'u', '0', '0', hexDigit (n / 16), hexDigit n] else [c]

/-- A quoted text. -/
def quote (s : String) : String := "\"" ++ String.ofList (s.toList.flatMap escape) ++ "\""

/-- The text of a number. -/
def Number.render : Number → String
  | .int n => toString n
  | .float x => (Decimal.jsonText? x).getD "null"

mutual

/-- The text of a value. -/
def render : Json → String
  | .null => "null"
  | .bool b => if b then "true" else "false"
  | .num n => n.render
  | .str s => quote s
  | .arr items => "[" ++ String.intercalate "," (renderItems items) ++ "]"
  | .obj entries => "\x7b" ++ String.intercalate "," (renderEntries entries) ++ "\x7d"

/-- The texts of the items of an array. -/
def renderItems : List Json → List String
  | [] => []
  | item :: rest => render item :: renderItems rest

/-- The texts of the entries of an object. -/
def renderEntries : List (String × Json) → List String
  | [] => []
  | (key, value) :: rest => (quote key ++ ":" ++ render value) :: renderEntries rest

end

end TemplateEngine.Json
