import SchemaCompiler.Text.CharClass

/-!
Dates and times: their text in a TOML document and the form in which messages show them.
-/

namespace SchemaCompiler.Toml

open Text

structure Date where
  year : Nat
  month : Nat
  day : Nat
  deriving DecidableEq, Repr

structure Time where
  hour : Nat
  minute : Nat
  second : Nat
  microsecond : Nat
  deriving DecidableEq, Repr

inductive Moment where
  | date (date : Date)
  | time (time : Time)
  /-- A local time has no offset; any other has one in minutes from universal time. -/
  | dateTime (date : Date) (time : Time) (offset : Option Int)
  deriving DecidableEq, Repr

namespace Date

def isLeap (year : Nat) : Bool := year % 4 == 0 && (year % 100 != 0 || year % 400 == 0)

def daysInMonth (year month : Nat) : Nat :=
  if month == 2 then (if isLeap year then 29 else 28)
  else if month == 4 || month == 6 || month == 9 || month == 11 then 30
  else 31

def isValid (d : Date) : Bool := 1 ≤ d.year && d.day ≤ daysInMonth d.year d.month

end Date

def Moment.isValid : Moment → Bool
  | .date d => d.isValid
  | .time _ => true
  | .dateTime d _ _ => d.isValid

def number? (count : Nat) (text : List Char) : Option (Nat × List Char) :=
  let front := text.take count
  if front.length == count && front.all isAsciiDigit then
    some (decimalValue front, text.drop count)
  else none

def behind? (mark : Char) : List Char → Option (List Char)
  | [] => none
  | c :: rest => if c == mark then some rest else none

def readDate? (text : List Char) : Option (Date × List Char) := do
  let (year, text) ← number? 4 text
  let (month, text) ← number? 2 (← behind? '-' text)
  let (day, text) ← number? 2 (← behind? '-' text)
  if 1 ≤ month && month ≤ 12 && 1 ≤ day && day ≤ 31 then some (⟨year, month, day⟩, text)
  else none

def readClock? (text : List Char) : Option (Nat × Nat × List Char) := do
  let (hour, text) ← number? 2 text
  let (minute, text) ← number? 2 (← behind? ':' text)
  if hour ≤ 23 && minute ≤ 59 then some (hour, minute, text) else none

/-- The microseconds of a fraction, whose digits behind the sixth do not count. -/
def microseconds (digits : List Char) : Nat :=
  let counted := digits.take 6
  decimalValue counted * Nat.pow 10 (6 - counted.length)

def readTime? (text : List Char) : Option (Time × List Char) := do
  let (hour, minute, text) ← readClock? text
  let (second, text) ← number? 2 (← behind? ':' text)
  if 59 < second then none
  else match text with
    | '.' :: rest =>
      let digits := rest.takeWhile isAsciiDigit
      if digits.isEmpty then some (⟨hour, minute, second, 0⟩, text)
      else
        some (⟨hour, minute, second, microseconds digits⟩, rest.dropWhile isAsciiDigit)
    | _ => some (⟨hour, minute, second, 0⟩, text)

def readOffset (text : List Char) : Option Int × List Char :=
  match text with
  | [] => (none, [])
  | c :: rest =>
    if c == 'Z' || c == 'z' then (some 0, rest)
    else if c == '+' || c == '-' then
      match readClock? rest with
      | some (hours, minutes, behind) =>
        let size : Int := hours * 60 + minutes
        (some (if c == '-' then -size else size), behind)
      | none => (none, text)
    else (none, text)

def readMoment? (text : List Char) : Option (Moment × List Char) :=
  match readDate? text with
  | none => (readTime? text).map fun (time, rest) => (.time time, rest)
  | some (date, behindDate) =>
    match behindDate with
    | [] => some (.date date, [])
    | gap :: clock =>
      if gap == 'T' || gap == 't' || gap == ' ' then
        match readTime? clock with
        | some (time, behindTime) =>
          let (offset, rest) := readOffset behindTime
          some (.dateTime date time offset, rest)
        | none => some (.date date, behindDate)
      else some (.date date, behindDate)

def Date.parts (d : Date) : List Nat := [d.year, d.month, d.day]

/-- Seconds and microseconds are left out from the end when they are zero. -/
def Time.parts (t : Time) : List Nat :=
  [t.hour, t.minute] ++
    (if t.microsecond != 0 then [t.second, t.microsecond]
    else if t.second != 0 then [t.second]
    else [])

def partsText (parts : List Nat) : String := ", ".intercalate (parts.map toString)

/-- An offset west of universal time is shown as the rest of the day before. -/
def offsetText (minutes : Int) : String :=
  if minutes == 0 then "datetime.timezone.utc"
  else
    let seconds := minutes * 60 % 86400
    let span := if minutes < 0 then s!"days=-1, seconds={seconds}" else s!"seconds={seconds}"
    s!"datetime.timezone(datetime.timedelta({span}))"

def Moment.display : Moment → String
  | .date d => s!"datetime.date({partsText d.parts})"
  | .time t => s!"datetime.time({partsText t.parts})"
  | .dateTime d t offset =>
    let zone := match offset with
      | some minutes => ", tzinfo=" ++ offsetText minutes
      | none => ""
    s!"datetime.datetime({partsText (d.parts ++ t.parts)}{zone})"

end SchemaCompiler.Toml
