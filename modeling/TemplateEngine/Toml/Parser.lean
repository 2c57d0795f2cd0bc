import TemplateEngine.Toml.Number
import TemplateEngine.Toml.Table

/-!
# `Toml` · Documents

A document is a list of statements, each on a line of its own: a key with a value, or the header of
the table that the keys after it belong to.

* **Values**: texts, scalars, arrays, which may run over lines and end in a comma, and tables
  between braces, which may do neither. Values nest less than `nestingLimit` deep, and a key has
  less names than that.
* **What ends a list.** An array or a table between braces ends where no more of it follows, and the
  bracket is missed there. An item of an array that a broken comment or line follows does not
  count; nor does a comma between braces that no key follows.
* **`parse`** gives the entries of the document, or the first thing that is wrong with it. A
  statement is read to the end of its line before it changes the document.

Every reading step leaves a shorter rest, which is why reading ends.
-/

namespace TemplateEngine.Toml

/-- How deep values may not nest any more. -/
def nestingLimit : Nat := 80

/-- An array that ends here without its bracket. -/
def openArray (cs : List Char) : Fault :=
  .here cs { subject := some .array, expected := [marked "]"] }

/-- Values or names that nest too deep from here on. -/
def tooDeep (cs : List Char) : Fault := .here cs { cause := some .tooDeep }

/-- The table between braces that holds the pairs of a key and a value. -/
def inlineEntries (pairs : List (List Key × Item)) : Except Cause Entries := do
  let (_, entries) ← pairs.foldlM (fun table (path, value) => insertKey none value [] path table)
    (.implied, [])
  return entries

/-! ## Values -/

mutual

/-- The value that a text starts with; `depth` more levels may be opened. -/
def value? (depth : Nat) (cs : List Char) : Reading Item cs :=
  match cs with
  | [] => .error (.here [] {})
  | c :: rest =>
    if isQuote c then do
      let (text, left) ← quoted? c rest
      return (.string ⟨c :: rest, left.val⟩ (String.ofList text), left.cons)
    else if c = '[' then
      match depth with
      | 0 => .error (tooDeep (c :: rest))
      | depth + 1 => do
        let (items, left) ← items? depth rest
        return (.array ⟨c :: rest, left.val⟩ items, left.cons)
    else if c = '\x7b' then
      match depth with
      | 0 => .error (tooDeep (c :: rest))
      | depth + 1 =>
        match dropLeading isBlank rest with
        | ⟨start, hs⟩ => do
          let (pairs, behind) ← pairs? depth start
          let entries ← (inlineEntries pairs).mapError fun cause =>
            .here rest { cause := some cause }
          match take? '\x7d' behind.val with
          | some left =>
            return (.table (.inline ⟨c :: rest, left.val⟩) entries,
              ((NoLonger.onward ⟨start, hs⟩ behind).trans left).cons)
          | none =>
            throw (.here behind.val { subject := some .inlineTable, expected := [marked "\x7d"] })
    else do
      let (item, left) ← scalar? (c :: rest)
      return (item ⟨c :: rest, left.val⟩, left)
termination_by 2 * cs.length

/-- The items of an array up to its closing bracket. -/
def items? (depth : Nat) (cs : List Char) : Reading (List Item) cs :=
  match gap? cs with
  | .error fault => .error fault
  | .ok ⟨start, hs⟩ =>
    match take? ']' start with
    | some left => .ok ([], NoLonger.trans ⟨start, hs⟩ left)
    | none =>
      if startsValue start then do
        let (item, ⟨rest, hr⟩) ← value? depth start
        match gap? rest with
        | .error _ => throw (openArray start)
        | .ok ⟨more, hm⟩ =>
          match take? ',' more with
          | some ⟨next, hn⟩ =>
            let (items, left) ← items? depth next
            return (item :: items,
              NoLonger.trans ⟨start, hs⟩
                (.trans (.onward ⟨rest, hr⟩ ⟨more, hm⟩) (.trans ⟨next, hn⟩ left)))
          | none =>
            match take? ']' more with
            | some left =>
              return ([item],
                NoLonger.trans ⟨start, hs⟩ (.trans (.onward ⟨rest, hr⟩ ⟨more, hm⟩) left))
            | none => throw (openArray more)
      else .error (openArray start)
termination_by 2 * cs.length + 1

/-- The equals sign and the value behind a key, with the blanks around them. -/
def assigned? (depth : Nat) (cs : List Char) : Reading Item cs :=
  match take? '=' cs with
  | none => .error (.here cs { expected := [marked ".", marked "="] })
  | some ⟨next, hn⟩ =>
    match dropLeading isBlank next with
    | ⟨start, hs⟩ => do
      let (item, rest) ← value? depth start
      return (item, (Shorter.onward ⟨next, hn⟩ ⟨start, hs⟩).trans
        (rest.onward (dropLeading isBlank rest.val)))
termination_by 2 * cs.length

/-- The keys and values between braces, as many as there are; a comma that no key follows is
left. -/
def pairs? (depth : Nat) (cs : List Char) :
    Except Fault (List (List Key × Item) × NoLonger cs) :=
  if startsKey cs then do
    let (path, ⟨rest, hr⟩) ← key? cs
    if nestingLimit ≤ path.length then return ([], .all cs)
    else
      let (item, ⟨more, hm⟩) ← assigned? depth rest
      let behind : Shorter cs := .trans ⟨rest, hr⟩ ⟨more, hm⟩
      match take? ',' more with
      | none => return ([(path, item)], behind.noLonger)
      | some ⟨next, hn⟩ =>
        match dropLeading isBlank next with
        | ⟨key, hk⟩ =>
          let (pairs, last) ← pairs? depth key
          if pairs.isEmpty then return ([(path, item)], behind.noLonger)
          else
            return ((path, item) :: pairs,
              Shorter.noLonger (.trans ⟨rest, hr⟩ (.trans ⟨more, hm⟩
                (.onward ⟨next, hn⟩ (.onward ⟨key, hk⟩ last)))))
  else .ok ([], .all cs)
termination_by 2 * cs.length

end

/-! ## Statements -/

/-- A statement of a document. -/
inductive Statement where
  /-- The header of a table. -/
  | table (span : Span) (path : List Key)
  /-- The header of one more table of an array. -/
  | nextTable (span : Span) (path : List Key)
  /-- A value under a key. -/
  | assignment (path : List Key) (value : Item)

/-- The closing brackets of a header, one or two. -/
def closing? (double : Bool) (cs : List Char) : Option (Shorter cs) := do
  let rest ← take? ']' cs
  if double then return rest.trans (← take? ']' rest.val) else return rest

/-- The names of a header behind its opening brackets, with the closing ones. -/
def header? (double : Bool) (cs : List Char) : Reading (List Key) cs := do
  let (path, rest) ← key? cs
  if nestingLimit ≤ path.length then throw (tooDeep cs)
  match closing? double rest.val with
  | some left => return (path, rest.trans left)
  | none =>
    throw (.here rest.val { expected := [marked ".", marked (if double then "]]" else "]")] })

/-- The statement that a line starts with. -/
def statement? (cs : List Char) : Reading Statement cs :=
  match cs with
  | ['['] => .error (.here ['['] {})
  | '[' :: '[' :: rest => do
    let (path, left) ← header? true rest
    return (.nextTable ⟨'[' :: '[' :: rest, left.val⟩ path, left.cons.cons)
  | '[' :: rest => do
    let (path, left) ← header? false rest
    return (.table ⟨'[' :: rest, left.val⟩ path, left.cons)
  | cs => do
    let (path, rest) ← key? cs
    if nestingLimit ≤ path.length then throw (tooDeep cs)
    let (value, left) ← assigned? (nestingLimit - 1) rest.val
    return (.assignment path value, rest.trans left)

/-- The statement on a line, and what follows the line if anything does. -/
def statementLine? (cs : List Char) : Except Fault (Statement × Option (Shorter cs)) := do
  let (statement, rest) ← statement? cs
  let next ← nextLine? ["newline", marked "#"] rest.val
  return (statement, next.map rest.trans)

/-- A document as far as it is read: its root, and the names of the table that is open. -/
structure Draft where
  /-- The root. -/
  root : Table
  /-- The names in the last header. -/
  path : List Key

/-- The document with one more statement. -/
def Draft.add (statement : Statement) (draft : Draft) : Except Cause Draft :=
  match statement with
  | .table span path => (openTable span path draft.root).map (⟨·, path⟩)
  | .nextTable span path => (openNext span path draft.root).map (⟨·, path⟩)
  | .assignment path value =>
    (changeAt (addValue (draft.path.map Key.name) value path) [] draft.path draft.root).map
      (⟨·, draft.path⟩)

/-- The document with the statement on a line, and what follows the line if anything does. -/
def Draft.addLine (draft : Draft) (cs : List Char) : Except Fault (Draft × Option (Shorter cs)) :=
  let whole := do
    let (statement, next) ← statementLine? cs
    let draft ← (draft.add statement).mapError fun cause => .here cs { cause := some cause }
    return (draft, next)
  if cs.head? = some '[' then whole.mapError (Fault.within .tableHeader) else whole

/-- No statement stands on the line that a text starts with. -/
def startsEmptyLine (cs : List Char) : Bool :=
  cs.head?.all fun c => c == '#' || c == '\n' || c == '\r'

/-- Adds the statements of a text to a document. -/
def statements (draft : Draft) (cs : List Char) : Except Fault Draft :=
  match dropLeading isBlank cs with
  | ⟨start, _hs⟩ => do
    let (draft, next) ←
      if startsEmptyLine start then (draft, ·) <$> nextLine? [] start else draft.addLine start
    match next with
    | none => return draft
    | some ⟨rest, _hr⟩ => statements draft rest
termination_by cs.length
decreasing_by exact Nat.lt_of_lt_of_le _hr _hs

/-- The mark of the byte order that a document may start with. -/
def byteOrderMark : Char := Char.ofNat 0xFEFF

/-- The entries of a document. -/
def parse (source : String) : Except Fault Entries := do
  let cs := source.toList
  let draft ← statements ⟨(.implied, []), []⟩
    (if cs.head? = some byteOrderMark then cs.drop 1 else cs)
  return draft.root.2

end TemplateEngine.Toml
