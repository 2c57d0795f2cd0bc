import TemplateEngine.Text.Hex
import TemplateEngine.Text.Letter
import TemplateEngine.Toml.Line

/-!
# `Toml` · Dates and times

Dates and times are checked, but not kept.

* **Where they begin.** Four digits and a hyphen begin a date, an hour and a colon begin a time;
  what follows has to be right then. Anything else is no date, and `none` is no fault.
* **Parts.** A time may follow a date, and the distance from universal time may follow that.
-/

namespace TemplateEngine.Toml

open TemplateEngine.Text

/-- The value of digits to a base. -/
def valueOf (base : Nat) (ds : List Char) : Nat :=
  ds.foldl (fun n d => base * n + (hexValue? d).getD 0) 0

/-- Two digits with a value between two others. -/
def twoDigits? (least greatest : Nat) (cs : List Char) : Reading Nat cs :=
  match cs with
  | a :: b :: rest =>
    if isAsciiDigit a && isAsciiDigit b then
      let n := valueOf 10 [a, b]
      if least ≤ n ∧ n ≤ greatest then .ok (n, .cons (.tail b rest))
      else .error (.here (a :: b :: rest) { cause := some .outOfRange })
    else .error (.here (a :: b :: rest) {})
  | cs => .error (.here cs {})

/-- A mark that has to stand here. -/
def mark? (c : Char) (cs : List Char) : Except Fault (Shorter cs) :=
  match take? c cs with
  | some rest => .ok rest
  | none => .error (.here cs {})

/-- The days of a month. -/
def daysIn (year month : Nat) : Nat :=
  if month = 2 then
    if year % 4 = 0 ∧ (year % 100 ≠ 0 ∨ year % 400 = 0) then 29 else 28
  else if month = 4 ∨ month = 6 ∨ month = 9 ∨ month = 11 then 30 else 31

/-- The month and the day of a year, with the hyphen between them. -/
def monthDay? (year : Nat) (cs : List Char) : Except Fault (Shorter cs) := do
  let (month, afterMonth) ← twoDigits? 1 12 cs
  let afterMark ← mark? '-' afterMonth.val
  let (_, rest) ← twoDigits? 1 (daysIn year month) afterMark.val
  return (afterMonth.trans afterMark).trans rest

/-- What follows a date. -/
def date? : (cs : List Char) → Except Fault (Option (Shorter cs))
  | a :: b :: c :: d :: '-' :: rest =>
    if [a, b, c, d].all isAsciiDigit then do
      let left ← monthDay? (valueOf 10 [a, b, c, d]) rest
      return some left.cons.cons.cons.cons.cons
    else .ok none
  | _ => .ok none

/-- What follows the fraction of a second. -/
def fraction : (cs : List Char) → NoLonger cs
  | '.' :: d :: rest =>
    if isAsciiDigit d then (dropLeading isAsciiDigit rest).cons.cons.noLonger
    else .all ('.' :: d :: rest)
  | cs => .all cs

/-- The minute, the second and its fraction. -/
def minuteSecond? (cs : List Char) : Except Fault (Shorter cs) := do
  let (_, afterMinute) ← twoDigits? 0 59 cs
  let afterMark ← mark? ':' afterMinute.val
  let (_, rest) ← twoDigits? 0 60 afterMark.val
  return ((afterMinute.trans afterMark).trans rest).onward (fraction rest.val)

/-- What follows a time. -/
def time? (cs : List Char) : Except Fault (Option (Shorter cs)) :=
  match twoDigits? 0 23 cs with
  | .error _ => .ok none
  | .ok (_, afterHour) =>
    match take? ':' afterHour.val with
    | none => .ok none
    | some afterMark => do
      let rest ← minuteSecond? afterMark.val
      return some ((afterHour.trans afterMark).trans rest)

/-- What follows the distance from universal time, which may be left out. -/
def offset? (cs : List Char) : Except Fault (NoLonger cs) :=
  match cs with
  | [] => .ok (.all [])
  | c :: rest =>
    if c = 'Z' ∨ c = 'z' then .ok (Shorter.tail c rest).noLonger
    else if c = '+' ∨ c = '-' then do
      let (_, afterHour) ← twoDigits? 0 23 rest
      let afterMark ← mark? ':' afterHour.val
      let (_, left) ← twoDigits? 0 59 afterMark.val
      return ((afterHour.trans afterMark).trans left).cons.noLonger
    else .ok (.all (c :: rest))

/-- What follows the time and the distance behind a date. -/
def timeOfDay? (cs : List Char) : Except Fault (NoLonger cs) :=
  match cs with
  | [] => .ok (.all [])
  | c :: rest =>
    if c = 'T' ∨ c = 't' ∨ c = ' ' then do
      match ← time? rest with
      | none => return .all (c :: rest)
      | some left =>
        let behind ← (offset? left.val).mapError (Fault.within .timeOffset)
        return (left.onward behind).cons.noLonger
    else .ok (.all (c :: rest))

/-- What follows a date, a time, or both. -/
def dateTime? (cs : List Char) : Except Fault (Option (Shorter cs)) := do
  match ← (date? cs).mapError (Fault.within .dateTime) with
  | some rest =>
    let left ← (timeOfDay? rest.val).mapError (Fault.within .dateTime)
    return some (rest.onward left)
  | none => (time? cs).mapError (Fault.within .time)

end TemplateEngine.Toml
