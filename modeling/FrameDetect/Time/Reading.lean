import FrameDetect.Time.Timestamp

/-!
# Written moments

Which texts name a moment after RFC 3339: a day that the calendar has, the time of the day, and how
far the local time is from universal time.
-/

namespace FrameDetect.Time

/-- Whether a year has a day more than others. -/
def isLeap (year : Nat) : Bool := year % 4 = 0 && (year % 100 != 0 || year % 400 = 0)

/-- The number of days in a month, zero for a number that names no month. -/
def monthLength (year month : Nat) : Nat :=
  if month = 2 then (if isLeap year then 29 else 28)
  else if [4, 6, 9, 11].contains month then 30
  else if 1 ≤ month ∧ month ≤ 12 then 31
  else 0

/-- Whether the calendar has a day. -/
def Date.exists (date : Date) : Bool :=
  1 ≤ date.day && date.day ≤ monthLength date.year date.month

/-- Takes a number of exactly `width` digits off the start of a text. -/
def takeNumber? (width : Nat) (cs : List Char) : Option (Nat × List Char) :=
  let digits := cs.take width
  if digits.length = width ∧ digits.all Char.isDigit then
    some (digits.foldl (fun n c => 10 * n + (c.toNat - '0'.toNat)) 0, cs.drop width)
  else none

/-- Takes one of the given characters off the start of a text. -/
def takeMark? (marks : List Char) : List Char → Option (List Char)
  | c :: rest => if marks.contains c then some rest else none
  | [] => none

/-- Takes a day off the start of a text. -/
def takeDate? (cs : List Char) : Option (List Char) := do
  let (year, cs) ← takeNumber? 4 cs
  let (month, cs) ← takeNumber? 2 (← takeMark? ['-'] cs)
  let (day, cs) ← takeNumber? 2 (← takeMark? ['-'] cs)
  if Date.exists ⟨year, month, day⟩ then some cs else none

/-- Takes hours and minutes off the start of a text. -/
def takeClock? (cs : List Char) : Option (List Char) := do
  let (hours, cs) ← takeNumber? 2 cs
  let (minutes, cs) ← takeNumber? 2 (← takeMark? [':'] cs)
  if hours ≤ 23 ∧ minutes ≤ 59 then some cs else none

/-- Takes the seconds of a minute off the start of a text.  A minute may have a second more than
others, and a point must have digits behind it. -/
def takeSeconds? (cs : List Char) : Option (List Char) := do
  let (seconds, cs) ← takeNumber? 2 cs
  if 60 < seconds then none
  else match cs with
    | '.' :: fraction =>
      let (digits, cs) := fraction.span Char.isDigit
      if digits.isEmpty then none else some cs
    | _ => some cs

/-- Whether a text tells how far the local time is from universal time. -/
def isOffset (cs : List Char) : Bool :=
  match cs with
  | ['Z'] | ['z'] => true
  | _ => ((takeMark? ['+', '-', '\u2212'] cs).bind takeClock?) == some []

/-- Whether a text names a moment. -/
def isMoment (text : String) : Bool :=
  let rest := do
    let cs ← takeMark? ['T', 't', ' '] (← takeDate? text.toList)
    takeSeconds? (← takeMark? [':'] (← takeClock? cs))
  rest.any isOffset

end FrameDetect.Time
