import Tangle.Text.Basic

/-! # Moments

A date, or a date with a time of day and possibly an offset from universal time. -/
namespace Tangle

structure Time where
  hour : Nat
  minute : Nat
  second : Nat
  microsecond : Nat := 0
  /-- Minutes ahead of universal time. -/
  offset : Option Int := none
deriving DecidableEq, Repr

structure Moment where
  year : Nat
  month : Nat
  day : Nat
  time : Option Time := none
deriving DecidableEq, Repr

inductive MomentFault where
  | unreadable
  | year (n : Nat)
  | month
  | day
  | hour
  | minute
  | second
  /-- An offset of a day or more, in minutes. -/
  | offset (minutes : Int)
deriving DecidableEq, Repr

namespace Moment

def isLeap (y : Nat) : Bool := y % 4 == 0 && (y % 100 != 0 || y % 400 == 0)

def monthLength (y m : Nat) : Nat :=
  if m = 2 then (if isLeap y then 29 else 28)
  else if m = 4 ∨ m = 6 ∨ m = 9 ∨ m = 11 then 30 else 31

def check (m : Moment) : Except MomentFault Moment := do
  match m.time.bind Time.offset with
  | some o => if 24 * 60 ≤ o.natAbs then throw (.offset o)
  | none => pure ()
  if m.year = 0 then throw (.year 0)
  if m.month = 0 ∨ 12 < m.month then throw .month
  if m.day = 0 ∨ monthLength m.year m.month < m.day then throw .day
  match m.time with
  | none => return m
  | some t =>
    if 23 < t.hour then throw .hour
    if 59 < t.minute then throw .minute
    if 59 < t.second then throw .second
    return m

/-- The number of days since the first of March of the year zero. -/
def dayNumber (m : Moment) : Int :=
  let (y, k) : Int × Int := if m.month < 3 then ((m.year : Int) - 1, m.month + 9) else (m.year, m.month - 3)
  365 * y + y.fdiv 4 - y.fdiv 100 + y.fdiv 400 + (153 * k + 2) / 5 + m.day - 1

/-- The microseconds of universal time, for a time with an offset. -/
def instant? (m : Moment) : Option Int := do
  let t ← m.time
  let o ← t.offset
  return ((m.dayNumber * 1440 + t.hour * 60 + t.minute - o) * 60 + t.second) * 1000000 + t.microsecond

/-- Moments are the same if they are written alike, or are one instant. -/
def isSame (m n : Moment) : Bool := m == n || (m.instant?.isSome && m.instant? == n.instant?)

/-! Reading -/

def number (ds : List Char) : Nat := ds.foldl (fun n d => n * 10 + (d.toNat - '0'.toNat)) 0

/-- Between `least` and `most` digits. -/
def digits (least most : Nat) (cs : List Char) : Option (List Char × List Char) :=
  let ds := (cs.take most).takeWhile Char.isDigit
  if ds.length < least then none else some (ds, cs.drop ds.length)

def literal (c : Char) : List Char → Option (List Char)
  | d :: r => if d = c then some r else none
  | [] => none

def isGap (c : Char) : Bool := c == ' ' || c == '\t'

def offset? (cs : List Char) : Option (Option Int) :=
  match cs, cs.dropWhile isGap with
  | [], _ => some none
  | _, ['Z'] => some (some 0)
  | _, s :: r => do
    if s != '+' && s != '-' then none
    let (h, r) ← digits 1 2 r
    let minutes ← match r with
      | [] => some 0
      | ':' :: r => do
        let (m, r) ← digits 2 2 r
        if r.isEmpty then some (number m) else none
      | _ => none
    let size : Int := number h * 60 + minutes
    return some (if s == '-' then -size else size)
  | _, [] => none

def time? (cs : List Char) : Option Time := do
  let (h, r) ← digits 1 2 cs
  let (m, r) ← digits 2 2 (← literal ':' r)
  let (s, r) ← digits 2 2 (← literal ':' r)
  let (fraction, r) := match r with
    | '.' :: r => (r.takeWhile Char.isDigit, r.dropWhile Char.isDigit)
    | r => ([], r)
  let micro := fraction.take 6
  let offset ← offset? r
  return {
    hour := number h, minute := number m, second := number s
    microsecond := number (micro ++ List.replicate (6 - micro.length) '0')
    offset }

/-- A moment whose numbers need not be in range; the flag tells that month and day have two digits
each. -/
def read? (cs : List Char) : Option (Moment × Bool) := do
  let (y, r) ← digits 4 4 cs
  let (m, r) ← digits 1 2 (← literal '-' r)
  let (d, r) ← digits 1 2 (← literal '-' r)
  let date : Moment := ⟨number y, number m, number d, none⟩
  let isFull := m.length == 2 && d.length == 2
  match r with
  | [] => return (date, isFull)
  | x :: r' =>
    let rest ← if x == 'T' || x == 't' then some r' else if isGap x then some (r.dropWhile isGap) else none
    let t ← time? rest
    return ({ date with time := some t }, isFull)

/-- A date on its own is recognised only if month and day have two digits. -/
def isPlain (cs : List Char) : Bool :=
  match read? cs with
  | some (m, isFull) => m.time.isSome || isFull
  | none => false

/-! Writing -/

def padded (width n : Nat) : List Char :=
  let ds := Nat.toDigits 10 n
  List.replicate (width - ds.length) '0' ++ ds

def offsetText (o : Int) : List Char :=
  (if o < 0 then '-' else '+') :: padded 2 (o.natAbs / 60) ++ ':' :: padded 2 (o.natAbs % 60)

def timeText (t : Time) : List Char :=
  padded 2 t.hour ++ ':' :: padded 2 t.minute ++ ':' :: padded 2 t.second ++
    (if t.microsecond = 0 then [] else '.' :: padded 6 t.microsecond) ++
    (t.offset.map offsetText).getD []

def text (m : Moment) : Text :=
  Text.ofChars (padded 4 m.year ++ '-' :: padded 2 m.month ++ '-' :: padded 2 m.day ++
    (m.time.map fun t => ' ' :: timeText t).getD [])

end Moment
end Tangle
