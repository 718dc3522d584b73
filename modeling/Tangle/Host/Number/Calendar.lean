import Tangle.Text.LetterCase

/-! # The calendar

A moment as a date and a time of day, and how it is written as a format asks for. Years are counted as if
the calendar of today had always been in use. -/
namespace Tangle

/-- A day of the calendar with a time of day. -/
structure Civil where
  year : Int
  month : Nat
  day : Nat
  hour : Nat := 0
  minute : Nat := 0
  second : Nat := 0
deriving DecidableEq, Repr

namespace Civil

def isLeap (y : Int) : Bool := y % 4 == 0 && (y % 100 != 0 || y % 400 == 0)

def monthLength (y : Int) (m : Nat) : Nat :=
  if m = 2 then (if isLeap y then 29 else 28)
  else if m = 4 ∨ m = 6 ∨ m = 9 ∨ m = 11 then 30 else 31

/-- The days from the start of the epoch to a day, which may lie outside its month. -/
def daysTo (y : Int) (month : Nat) (day : Int) : Int :=
  let y := if month < 3 then y - 1 else y
  let k : Int := if month < 3 then month + 9 else month - 3
  365 * y + y.fdiv 4 - y.fdiv 100 + y.fdiv 400 + (153 * k + 2) / 5 + day - 1 - 719468

/-- The seconds from the start of the epoch. -/
def seconds (c : Civil) : Int :=
  daysTo c.year c.month c.day * 86400 + (c.hour * 3600 + c.minute * 60 + c.second : Nat)

/-- The day that is so many days after the start of the epoch. -/
def ofDays (days : Int) : Civil :=
  let z := days + 719468
  let era := z.fdiv 146097
  let e : Int := z - era * 146097
  let yearOfEra := (e - e / 1460 + e / 36524 - e / 146096) / 365
  let dayOfYear := e - (365 * yearOfEra + yearOfEra / 4 - yearOfEra / 100)
  let k := (5 * dayOfYear + 2) / 153
  let day := dayOfYear - (153 * k + 2) / 5 + 1
  let month := if k < 10 then k + 3 else k - 9
  let year := yearOfEra + era * 400
  { year := if month ≤ 2 then year + 1 else year, month := month.toNat, day := day.toNat }

def ofSeconds (s : Int) : Civil :=
  let days := s.fdiv 86400
  let rest := (s - days * 86400).toNat
  { ofDays days with hour := rest / 3600, minute := rest / 60 % 60, second := rest % 60 }

/-- The day of the week, from Sunday on. -/
def weekday (c : Civil) : Nat := ((daysTo c.year c.month c.day + 4) % 7).toNat

/-- The day of the year, from zero on. -/
def yearday (c : Civil) : Nat := (daysTo c.year c.month c.day - daysTo c.year 1 1).toNat

def yearLength (y : Int) : Int := if isLeap y then 366 else 365

/-- The number of a week that begins on a certain day of the week; days before the first are in week 0. -/
def weekFrom (first : Nat) (c : Civil) : Nat := (c.yearday + 7 - (c.weekday + 7 - first) % 7) / 7

/-- The year and the number of the week, where a week belongs to the year that has most of it. -/
def standardWeek (c : Civil) : Int × Nat :=
  let monday : Int := (c.weekday + 6) % 7
  /- The Thursday of the week decides. -/
  let thursday : Int := c.yearday - monday + 3
  if thursday < 0 then
    let y := c.year - 1
    (y, ((thursday + yearLength y) / 7 + 1).toNat)
  else if yearLength c.year ≤ thursday then (c.year + 1, ((thursday - yearLength c.year) / 7 + 1).toNat)
  else (c.year, (thursday / 7 + 1).toNat)

def weekdayNames : List String :=
  ["Sunday", "Monday", "Tuesday", "Wednesday", "Thursday", "Friday", "Saturday"]

def monthNames : List String :=
  ["January", "February", "March", "April", "May", "June", "July", "August", "September", "October",
    "November", "December"]

/-! Formats -/

/-- How a field of a format is filled up. -/
inductive Filling where
  | standard
  | spaces
  | zeros
  | bare
deriving DecidableEq, Repr

/-- The marks and the width between the sign of a field and its letter. -/
structure Field where
  filling : Filling := .standard
  width : Nat := 0
  isUpper : Bool := false
  isSwapped : Bool := false
  colons : Nat := 0
deriving DecidableEq, Repr

/-- A zone of time: its name, and how many seconds it is ahead of universal time. -/
structure Zone where
  name : Text := "UTC"
  offset : Int := 0

/-- A moment to be written: a civil time of a zone, with what is known beside it. -/
structure Shown where
  civil : Civil
  seconds : Int
  nanosecond : Nat := 0
  zone : Zone := {}

def filled (c : Char) (width : Nat) (t : Text) : Text := List.replicate (width - t.length) (.char c) ++ t

/-- A number with its usual width and filling, unless the field asks for others. -/
def numberField (f : Field) (usual : Char) (width : Nat) (n : Int) : Text :=
  let digits := Text.ofNat n.natAbs
  let sign : Text := if n < 0 then "-" else ""
  let width := if f.width = 0 then width else f.width
  match f.filling with
  | .bare => sign ++ digits
  | .spaces => filled ' ' width (sign ++ digits)
  | .zeros => sign ++ filled '0' (width - sign.length) digits
  | .standard =>
    if usual = '0' then sign ++ filled '0' (width - sign.length) digits else filled ' ' width (sign ++ digits)

def textField (f : Field) (t : Text) : Text :=
  let t : Text := if f.isUpper then t.map Symbol.toUpper else t
  filled (if f.filling = .zeros then '0' else ' ') f.width t

/-- A name, which may be asked for in capitals. -/
def nameField (f : Field) (s : String) : Text :=
  let t := Text.ofString s
  textField f (if f.isSwapped then t.map Symbol.toUpper else t)

def zoneText (f : Field) (offset : Int) : Text :=
  let sign : Text := if offset < 0 then "-" else "+"
  let n := offset.natAbs
  let two (k : Nat) : Text := filled '0' 2 (Text.ofNat k)
  let h := two (n / 3600)
  let m := two (n / 60 % 60)
  let s := two (n % 60)
  sign ++ (match f.colons with
    | 0 => h ++ m
    | 1 => h ++ ":" ++ m
    | 2 => h ++ ":" ++ m ++ ":" ++ s
    | _ => if n % 60 ≠ 0 then h ++ ":" ++ m ++ ":" ++ s else if n / 60 % 60 ≠ 0 then h ++ ":" ++ m else h)

def hourOfHalf (c : Civil) : Nat := if c.hour % 12 = 0 then 12 else c.hour % 12

/-- The format that a letter stands for, if it stands for one. -/
def compoundFormat? : Char → Option String
  | 'c' => some "%a %b %e %H:%M:%S %Y"
  | 'D' => some "%m/%d/%y"
  | 'F' => some "%Y-%m-%d"
  | 'r' => some "%I:%M:%S %p"
  | 'R' => some "%H:%M"
  | 'T' => some "%H:%M:%S"
  | 'x' => some "%m/%d/%y"
  | 'X' => some "%H:%M:%S"
  | _ => none

def fieldText? (w : Shown) (f : Field) (letter : Char) : Option Text :=
  let c := w.civil
  let zeros (width : Nat) (n : Int) : Option Text := some (numberField f '0' width n)
  let blanks (width : Nat) (n : Int) : Option Text := some (numberField f ' ' width n)
  let name (names : List String) (i : Nat) : String := names.getD i ""
  match letter with
  | '%' => some "%"
  | 'n' => some "\n"
  | 't' => some "\t"
  | 'a' => some (nameField f (String.ofList ((name weekdayNames c.weekday).toList.take 3)))
  | 'A' => some (nameField f (name weekdayNames c.weekday))
  | 'b' => some (nameField f (String.ofList ((name monthNames (c.month - 1)).toList.take 3)))
  | 'h' => some (nameField f (String.ofList ((name monthNames (c.month - 1)).toList.take 3)))
  | 'B' => some (nameField f (name monthNames (c.month - 1)))
  | 'C' => zeros 2 (c.year.fdiv 100)
  | 'd' => zeros 2 c.day
  | 'e' => blanks 2 c.day
  | 'g' => zeros 2 ((standardWeek c).1 % 100)
  | 'G' => zeros 4 (standardWeek c).1
  | 'H' => zeros 2 c.hour
  | 'I' => zeros 2 (hourOfHalf c)
  | 'j' => zeros 3 (c.yearday + 1)
  | 'k' => blanks 2 c.hour
  | 'l' => blanks 2 (hourOfHalf c)
  | 'm' => zeros 2 c.month
  | 'M' => zeros 2 c.minute
  | 'N' =>
    let digits := filled '0' 9 (Text.ofNat w.nanosecond)
    some (if 0 < f.width ∧ f.width < 9 then digits.take f.width else digits)
  | 'p' =>
    let t : String := if c.hour < 12 then "AM" else "PM"
    some (if f.isSwapped then textField f ((Text.ofString t).map Symbol.toLower) else textField f (Text.ofString t))
  | 'P' => some (textField f (if c.hour < 12 then "am" else "pm"))
  | 'q' => zeros 1 ((c.month - 1) / 3 + 1 : Nat)
  | 's' => zeros 1 w.seconds
  | 'S' => zeros 2 c.second
  | 'u' => zeros 1 (if c.weekday = 0 then 7 else c.weekday)
  | 'U' => zeros 2 (weekFrom 0 c)
  | 'V' => zeros 2 (standardWeek c).2
  | 'w' => zeros 1 c.weekday
  | 'W' => zeros 2 (weekFrom 1 c)
  | 'y' => zeros 2 (c.year % 100)
  | 'Y' => zeros 4 c.year
  | 'z' => some (textField f (zoneText f w.zone.offset))
  | 'Z' => some (textField f (if f.isSwapped then w.zone.name.map Symbol.toLower else w.zone.name))
  | _ => none

def fieldMarks : Text → Field → Field × Text
  | .char '_' :: t, f => fieldMarks t { f with filling := .spaces }
  | .char '-' :: t, f => fieldMarks t { f with filling := .bare }
  | .char '0' :: t, f => fieldMarks t { f with filling := .zeros }
  | .char '^' :: t, f => fieldMarks t { f with isUpper := true }
  | .char '#' :: t, f => fieldMarks t { f with isSwapped := true }
  | t, f => (f, t)

/-- A moment as a format asks for. A letter that is not known stays as it is, with all that stands before
it. -/
def format (w : Shown) : Nat → Text → Text
  | 0, _ => []
  | _, [] => []
  | n + 1, .char '%' :: t =>
    let (f, r) := fieldMarks t {}
    let digits := r.takeWhile Symbol.isDigit
    let r := r.drop digits.length
    let width := digits.foldl (fun n s => match s with
      | .char d => n * 10 + (d.toNat - '0'.toNat)
      | _ => n) 0
    let colons := (r.takeWhile (·.is ':')).length
    let r := r.drop colons
    let r := match r with
      | .char 'E' :: s :: r => s :: r
      | .char 'O' :: s :: r => s :: r
      | r => r
    let f := { f with width, colons }
    match r with
    | .char letter :: rest =>
      match compoundFormat? letter with
      | some inner => textField f (format w n (Text.ofString inner)) ++ format w n rest
      | none =>
        match fieldText? w f letter with
        | some u => u ++ format w n rest
        | none => "%" ++ t.take (t.length - rest.length) ++ format w n rest
    | _ => "%" ++ t
  | n + 1, s :: t => s :: format w n t

end Civil

/-- The moment that is so many seconds after the start of the epoch. -/
def Civil.Shown.ofSeconds (s : Int) (nanosecond : Nat) (zone : Civil.Zone := {}) : Civil.Shown :=
  { civil := .ofSeconds (s + zone.offset), seconds := s, nanosecond, zone }

/-- Reads a zone such as `EST5` or `<+03>-3`: a name, and how many hours it is behind universal time. Of a zone
with a second name for the summer only the first one counts. -/
def Civil.Zone.read (t : Text) : Civil.Zone :=
  let t : Text := match t with
    | .char ':' :: r => r
    | r => r
  let (name, rest) : Text × Text := match t with
    | .char '<' :: r =>
      let name := r.takeWhile (!·.is '>')
      (name, r.drop (name.length + 1))
    | r =>
      let name := r.takeWhile fun s => s.holds Char.isAlpha
      (name, r.drop name.length)
  let (sign, rest) : Int × Text := match rest with
    | .char '-' :: r => (1, r)
    | .char '+' :: r => (-1, r)
    | r => (-1, r)
  let fields := Text.pieces (.char ':') (rest.takeWhile fun s => s.isDigit || s.is ':')
  let number (ds : Text) : Int := ds.foldl (fun n s => match s with
    | .char c => n * 10 + (c.toNat - '0'.toNat)
    | _ => n) 0
  let part (i : Nat) : Int := number (fields.getD i [])
  if name.length < 3 then {}
  else { name, offset := sign * (part 0 * 3600 + part 1 * 60 + part 2) }

/-- A moment of universal time as a format asks for. -/
def formatMoment (w : Civil.Shown) (t : Text) : Text := Civil.format w (t.length + 30) t

end Tangle
