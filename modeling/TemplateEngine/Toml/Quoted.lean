import TemplateEngine.Text.Hex
import TemplateEngine.Toml.Line

/-!
# `Toml` · Texts

* **Quotes.** Texts stand between double quotes, where the backslash escapes, or between single
  quotes, where nothing does. Between three of either they may run over several lines
  (`long?`): a line terminator right after the opening quotes is left out, every other one is a
  line feed, and a backslash at the end of a line takes away all blanks up to the next character.
* **Faults.** A text that is not closed is at fault where its content ends, an escape behind its
  letter. One or two quotes in front of what no text holds count as content where escapes do.
-/

namespace TemplateEngine.Toml

open TemplateEngine.Text

/-! ## Escapes -/

/-- The character of an escape with a letter. -/
def unescape? : Char → Option Char
  | 'b' => some (Char.ofNat 8)
  | 't' => some '\t'
  | 'n' => some '\n'
  | 'f' => some (Char.ofNat 12)
  | 'r' => some '\r'
  | '"' => some '"'
  | '\\' => some '\\'
  | _ => none

/-- The character with the number that the first `count` hexadecimal digits write. -/
def coded? (count : Nat) (subject : Subject) (cs : List Char) :
    Except Fault (Char × NoLonger cs) :=
  let ds := cs.take count
  match hexRun? 0 ds with
  | none => .error (.here cs { subject := subject })
  | some n =>
    if ds.length < count then .error (.here cs { subject := subject })
    else if n.isValidChar then .ok (Char.ofNat n, .drop count cs)
    else .error (.here cs { subject := subject, cause := some .outOfRange })

/-- The letters of escapes, in the order of messages. -/
def escapeLetters : List String := ["b", "f", "n", "r", "t", "u", "U", "\\", "\""]

/-- The character of an escape, given the first character behind the backslash. -/
def escaped? (c : Char) (cs : List Char) : Except Fault (Char × NoLonger cs) :=
  if c = 'u' then coded? 4 .shortCode cs
  else if c = 'U' then coded? 8 .longCode cs
  else
    match unescape? c with
    | some ch => .ok (ch, .all cs)
    | none =>
      .error (.here (if c.utf8Size = 1 then cs else c :: cs)
        { subject := some .escapeSequence, expected := escapeLetters.map marked })

/-! ## Texts on one line -/

/-- The text up to a double quote, with escapes. -/
def basic? (cs : List Char) : Reading (List Char) cs :=
  match cs with
  | [] => .error (.here [] { subject := some .basicString })
  | c :: rest =>
    if c = '"' then .ok ([], .tail c rest)
    else if c = '\\' then
      match rest with
      | [] => .error (.here [c] { subject := some .basicString })
      | letter :: more => do
        let (ch, ⟨next, hn⟩) ← escaped? letter more
        let (text, left) ← basic? next
        return (ch :: text, (NoLonger.trans (.mk next hn) left).cons.cons)
    else if isTextChar c then do
      let (text, left) ← basic? rest
      return (c :: text, left.cons)
    else .error (.here (c :: rest) { subject := some .basicString })
termination_by cs.length
decreasing_by all_goals (simp only [List.length_cons]; omega)

/-- The text up to a single quote. -/
def literal? : (cs : List Char) → Reading (List Char) cs
  | [] => .error (.here [] { subject := some .literalString })
  | c :: rest =>
    if c = '\x27' then .ok ([], .tail c rest)
    else if isTextChar c then do
      let (text, left) ← literal? rest
      return (c :: text, left.cons)
    else .error (.here (c :: rest) { subject := some .literalString })

/-! ## Texts on several lines -/

/-- Takes blanks and line terminators off. -/
def blankLines (cs : List Char) : NoLonger cs :=
  match cs with
  | [] => .all []
  | c :: rest =>
    if isBlank c then
      (blankLines rest).cons.noLonger
    else
      match lineEnd? (c :: rest) with
      | none => .all (c :: rest)
      | some ⟨more, hm⟩ => (Shorter.noLonger ⟨more, hm⟩).onward (blankLines more)
termination_by cs.length
decreasing_by all_goals (simp only [List.length_cons] at *; omega)

/-- The line terminator after blanks, with all blanks and line terminators behind it. -/
def foldedLine? (cs : List Char) : Option (Shorter cs) :=
  let blanks := dropLeading isBlank cs
  (lineEnd? blanks.val).map fun next => (blanks.trans next).onward (blankLines next.val)

/-- One piece of a text, if one starts here: neither a quote nor a character that no text holds. -/
def piece? (quote : Char) (escapes : Bool) :
    (cs : List Char) → Except Fault (Option (List Char × Shorter cs))
  | [] => .ok none
  | c :: rest =>
    if c = quote then .ok none
    else if c = '\\' ∧ escapes then
      match foldedLine? rest with
      | some next => .ok (some ([], next.cons))
      | none =>
        match rest with
        | [] => .ok none
        | letter :: more => do
          let (ch, next) ← escaped? letter more
          return some ([ch], next.cons.cons)
    else if isTextChar c then .ok (some ([c], .tail c rest))
    else .ok ((lineEnd? (c :: rest)).map fun next => (['\n'], next))

/-- The text up to three quotes, which may hold line terminators, with or without escapes. One or
two quotes belong to the text if more of it follows, and up to two may stand before the three
that end it. -/
def long? (subject : Subject) (quote : Char) (escapes : Bool) (cs : List Char) :
    Reading (List Char) cs :=
  match cs with
  | [] => .error (.here [] { subject := some subject })
  | c :: rest =>
    let quotes := (c :: rest).takeWhile (· == quote)
    if 3 ≤ quotes.length then
      let more := min (quotes.length - 3) 2
      .ok (quotes.take more, (NoLonger.drop (2 + more) rest).cons)
    else
      match dropLeading (· == quote) (c :: rest) with
      | ⟨behind, hb⟩ =>
        match piece? quote escapes behind with
        | .error fault => .error fault
        | .ok none =>
          let place := if escapes ∧ behind ≠ [] then behind else c :: rest
          .error (.here place { subject := some subject })
        | .ok (some (text, ⟨next, hn⟩)) => do
          let (more, left) ← long? subject quote escapes next
          return (quotes ++ text ++ more, (NoLonger.trans ⟨behind, hb⟩ ⟨next, hn⟩).trans left)
termination_by cs.length
decreasing_by exact Nat.lt_of_lt_of_le hn hb

/-- The text of several lines behind its three opening quotes. -/
def lines? (quote : Char) (cs : List Char) : Reading (List Char) cs := do
  let start : NoLonger cs := ((lineEnd? cs).map Shorter.noLonger).getD (.all cs)
  let (text, left) ←
    if quote = '"' then long? .multilineBasicString quote true start.val
    else long? .multilineLiteralString quote false start.val
  return (text, start.trans left)

/-- The text of one line behind its opening quote. -/
def line? (quote : Char) (cs : List Char) : Reading (List Char) cs :=
  if quote = '"' then basic? cs else literal? cs

/-- The text behind its first quote. -/
def quoted? (quote : Char) (cs : List Char) : Reading (List Char) cs :=
  match cs with
  | a :: b :: rest =>
    if a = quote ∧ b = quote then do
      let (text, left) ← lines? quote rest
      return (text, left.cons.cons)
    else line? quote (a :: b :: rest)
  | cs => line? quote cs

end TemplateEngine.Toml
