import TemplateEngine.Text.Letter
import TemplateEngine.Toml.Quoted

/-!
# `Toml` · Keys

* **Reading** (`key?`): a key is one or more names with dots between them, and a name is a bare word
  or a text of one line. A dot that no name follows is not part of the key.
* **Showing** (`Key.shown`): a message shows a name bare if it can be, and else between quotes: the
  single ones only if the double ones would need escapes and the single ones do not.
-/

namespace TemplateEngine.Toml

open TemplateEngine.Text

/-- A character of a bare name. -/
def isBareChar (c : Char) : Bool := isAsciiLetter c || isAsciiDigit c || c == '_' || c == '-'

/-- A character that a name may start with. -/
def startsKey (cs : List Char) : Bool := cs.head?.any fun c => isQuote c || isBareChar c

/-- A name. -/
def name? (cs : List Char) : Reading Key cs :=
  match cs with
  | [] => .error (.here [] { subject := some .key })
  | c :: rest =>
    if isQuote c then do
      let (text, left) ← line? c rest
      return (⟨String.ofList text, c :: rest, left.val⟩, left.cons)
    else if isBareChar c then
      let left := dropLeading isBareChar rest
      .ok (⟨String.ofList (c :: rest.takeWhile isBareChar), c :: rest, left.val⟩,
        left.cons)
    else .error (.here (c :: rest) { subject := some .key })

/-- The names of a key, with the blanks around them. -/
def key? (cs : List Char) : Reading (List Key) cs :=
  match dropLeading isBlank cs with
  | ⟨start, hs⟩ => do
    let (key, ⟨rest, hr⟩) ← name? start
    match dropLeading isBlank rest with
    | ⟨more, hm⟩ =>
      let ending : Shorter cs := (NoLonger.trans ⟨start, hs⟩ ⟨rest, hr⟩).onward ⟨more, hm⟩
      match take? '.' more with
      | none => return ([key], ending)
      | some ⟨next, hn⟩ =>
        if startsKey (dropLeading isBlank next).val then do
          let (keys, left) ← key? next
          return (key :: keys, (ending.trans ⟨next, hn⟩).trans left)
        else return ([key], ending)
termination_by cs.length
decreasing_by exact Nat.lt_of_lt_of_le hn (Nat.le_trans hm (Nat.le_trans (Nat.le_of_lt hr) hs))

/-! ## Names in messages -/

/-- A control character that only an escape can write. -/
def isControl (c : Char) : Bool := (c.toNat < 32 && c != '\t') || c.toNat == 127

/-- A number as four hexadecimal digits with capital letters. -/
def fourDigits (n : Nat) : List Char :=
  let ds := (Nat.toDigits 16 n).map Char.toUpper
  List.replicate (4 - ds.length) '0' ++ ds

/-- A character between double quotes. -/
def escapeName (c : Char) : List Char :=
  if c = '"' ∨ c = '\\' then ['\\', c]
  else if c = '\n' then ['\\', 'n']
  else if c = '\r' then ['\\', 'r']
  else if c = '\t' then ['\\', 't']
  else if c = Char.ofNat 8 then ['\\', 'b']
  else if c = Char.ofNat 12 then ['\\', 'f']
  else if isControl c then '\\' :: 'u' :: fourDigits c.toNat
  else [c]

/-- A name as a message shows it. -/
def Key.shown (key : Key) : String :=
  let cs := key.name.toList
  if cs ≠ [] ∧ cs.all isBareChar then key.name
  else if cs.any (fun c => c == '"' || c == '\\') && !cs.any (fun c => c == '\x27' || isControl c)
  then "'" ++ key.name ++ "'"
  else "\"" ++ String.ofList (cs.flatMap escapeName) ++ "\""

end TemplateEngine.Toml
