import Tangle.Host.Number.Calendar

/-! # Dates in words

How a moment is read from a text such as `2021-03-04 05:06 UTC` or `next monday + 2 hours`. The parts may come
in any order. What is said about distances counts from the date and the time that are told, or from now. -/
namespace Tangle.Dating

inductive Unit where
  | second
  | day
  | month
deriving DecidableEq, Repr

inductive Token where
  /-- Digits, with the sign before them and what follows a point. -/
  | number (sign : Option Char) (digits : List Char) (fraction : List Char)
  | word (w : String)
  | mark (c : Char)
deriving DecidableEq, Repr

/-- What has been told so far. -/
structure Told where
  seconds : Option (Int × Nat) := none
  date : Option (Int × Nat × Nat) := none
  /-- Whether the year of the date has been told. -/
  hasYear : Bool := false
  time : Option (Nat × Nat × Nat × Nat) := none
  zone : Option Int := none
  weekday : Option (Int × Nat) := none
  months : Int := 0
  days : Int := 0
  shift : Int := 0
  /-- Whether a distance has been told. -/
  isRelative : Bool := false
deriving Repr

def isSpace (c : Char) : Bool := c = ' ' || c = '\t' || c = '\n'

/-- The tokens of a text. What stands between parentheses is passed over. -/
def tokens : Nat → List Char → List Token
  | 0, _ => []
  | _, [] => []
  | n + 1, c :: cs =>
    if isSpace c then tokens n cs
    else if c = '(' then tokens n ((cs.dropWhile (· ≠ ')')).drop 1)
    else
      let digitsAfter (sign : Option Char) (cs : List Char) : List Token :=
        let ds := cs.takeWhile Char.isDigit
        match cs.drop ds.length with
        | '.' :: rest =>
          let fs := rest.takeWhile Char.isDigit
          if fs.isEmpty then .number sign ds [] :: tokens n rest
          else .number sign ds fs :: tokens n (rest.drop fs.length)
        | rest => .number sign ds [] :: tokens n rest
      if c.isDigit then digitsAfter none (c :: cs)
      else if c = '+' || c = '-' then
        let rest := cs.dropWhile isSpace
        if rest.head?.any Char.isDigit then digitsAfter (some c) rest else .mark c :: tokens n cs
      else if c.isAlpha then
        let w := (c :: cs).takeWhile fun d => d.isAlpha || d = '.'
        .word (String.ofList ((w.filter (· ≠ '.')).map Char.toLower)) :: tokens n ((c :: cs).drop w.length)
      else .mark c :: tokens n cs

def natural (ds : List Char) : Nat := ds.foldl (fun n c => n * 10 + (c.toNat - '0'.toNat)) 0

/-- A fraction of a second in nanoseconds. -/
def nanoseconds (fs : List Char) : Nat :=
  natural ((fs ++ List.replicate 9 '0').take 9)

/-- The number of a name, which may be shortened to three letters. -/
def nameIndex? (names : List String) (w : String) : Option Nat :=
  names.findIdx? fun n =>
    let n := n.toLower
    w = n || w = String.ofList (n.toList.take 3) || (n = "september" && w = "sept") ||
      (n = "tuesday" && w = "tues") || (n = "wednesday" && w = "wednes") || (n = "thursday" && (w = "thur" || w = "thurs"))

def month? (w : String) : Option Nat := (nameIndex? Civil.monthNames w).map (· + 1)
def weekday? (w : String) : Option Nat := nameIndex? Civil.weekdayNames w

/-- A unit of time, as a number of seconds, days or months. -/
def unit? (w : String) : Option (Unit × Int) :=
  let w := if w.length > 3 && w.endsWith "s" then String.ofList w.toList.dropLast else w
  match w with
  | "year" => some (.month, 12)
  | "month" => some (.month, 1)
  | "fortnight" => some (.day, 14)
  | "week" => some (.day, 7)
  | "day" => some (.day, 1)
  | "hour" => some (.second, 3600)
  | "minute" => some (.second, 60)
  | "min" => some (.second, 60)
  | "second" => some (.second, 1)
  | "sec" => some (.second, 1)
  | _ => none

/-- Words that count. -/
def ordinal? : String → Option Int
  | "last" => some (-1)
  | "this" => some 0
  | "next" => some 1
  | "first" => some 1
  | "third" => some 3
  | "fourth" => some 4
  | "fifth" => some 5
  | "sixth" => some 6
  | "seventh" => some 7
  | "eighth" => some 8
  | "ninth" => some 9
  | "tenth" => some 10
  | "eleventh" => some 11
  | "twelfth" => some 12
  | _ => none

def zone? : String → Option Int
  | "z" => some 0
  | "utc" => some 0
  | "gmt" => some 0
  | "ut" => some 0
  | "est" => some (-18000)
  | "edt" => some (-14400)
  | "cst" => some (-21600)
  | "cdt" => some (-18000)
  | "mst" => some (-25200)
  | "mdt" => some (-21600)
  | "pst" => some (-28800)
  | "pdt" => some (-25200)
  | "cet" => some 3600
  | "cest" => some 7200
  | "bst" => some 3600
  | "jst" => some 32400
  | _ => none

def Told.moved (t : Told) (u : Unit × Int) (count : Int) : Told :=
  let t := { t with isRelative := true }
  match u.1 with
  | .second => { t with shift := t.shift + u.2 * count }
  | .day => { t with days := t.days + u.2 * count }
  | .month => { t with months := t.months + u.2 * count }

/-- The offset that digits behind a sign tell: hours, or hours and minutes. -/
def offset (sign : Char) (ds : List Char) (minutes : Option Nat) : Int :=
  let n : Nat := match minutes with
    | some m => natural ds * 60 + m
    | none => if ds.length ≤ 2 then natural ds * 60 else natural ds / 100 * 60 + natural ds % 100
  (if sign = '-' then -1 else 1) * (n * 60 : Int)

/-- A year of two digits belongs to the time around now. -/
def fullYear (ds : List Char) : Int :=
  let n := natural ds
  if ds.length ≤ 2 then (if n < 69 then 2000 + n else 1900 + n) else n

def withDate (t : Told) (year : Int) (month day : Nat) (hasYear : Bool := true) : Option Told :=
  if t.date.isSome || month = 0 || 12 < month || day = 0 || Civil.monthLength year month < day then none
  else some { t with date := some (year, month, day), hasYear }

def withTime (t : Told) (hour minute second : Nat) (fraction : List Char) : Option Told :=
  if t.time.isSome || 24 ≤ hour || 60 ≤ minute || 61 ≤ second then none
  else some { t with time := some (hour, minute, second, nanoseconds fraction) }

/-- The hour of a clock of twelve hours. -/
def hourOf? (hour : Nat) (half : String) : Option Nat :=
  if hour = 0 || 12 < hour then none
  else if half = "am" then some (hour % 12)
  else if half = "pm" then some (hour % 12 + 12)
  else none

/-- What tokens tell. `year` is that of now. -/
def read (year : Int) : Nat → Told → List Token → Option Told
  | 0, _, _ => none
  | _, t, [] => some t
  | n + 1, t, ts =>
    let go := read year n
    /- The time of day behind its minutes, with a half of the day and an offset. -/
    let clock (hour minute second : Nat) (fraction : List Char) (rest : List Token) : Option Told := do
      match rest with
      | .word "am" :: rest => go (← withTime t (← hourOf? hour "am") minute second fraction) rest
      | .word "pm" :: rest => go (← withTime t (← hourOf? hour "pm") minute second fraction) rest
      | .number (some sign) ds [] :: .mark ':' :: .number none ms [] :: rest =>
        go { (← withTime t hour minute second fraction) with zone := some (offset sign ds (some (natural ms))) } rest
      | .number (some sign) ds [] :: .word w :: rest =>
        if (unit? w).isSome then go (← withTime t hour minute second fraction) (.number (some sign) ds [] :: .word w :: rest)
        else go { (← withTime t hour minute second fraction) with zone := some (offset sign ds none) } (.word w :: rest)
      | .number (some sign) ds [] :: rest =>
        go { (← withTime t hour minute second fraction) with zone := some (offset sign ds none) } rest
      | rest => go (← withTime t hour minute second fraction) rest
    match ts with
    | .mark '@' :: .number sign ds fs :: rest =>
      let s : Int := natural ds
      if sign = some '-' then
        if natural fs = 0 then go { t with seconds := some (-s, 0) } rest
        else go { t with seconds := some (-s - 1, 1000000000 - nanoseconds fs) } rest
      else go { t with seconds := some (s, nanoseconds fs) } rest
    | .number none y [] :: .number (some '-') m [] :: .number (some '-') d [] :: rest => do
      let year := fullYear y
      let t ← withDate t year (natural m) (natural d)
      match rest with
      | .word "t" :: rest => go t rest
      | rest => go t rest
    | .number none y [] :: .mark '/' :: .number none m [] :: .mark '/' :: .number none d [] :: rest => do
      if 3 ≤ y.length then go (← withDate t (natural y) (natural m) (natural d)) rest
      else go (← withDate t (fullYear d) (natural y) (natural m)) rest
    | .number none m [] :: .mark '/' :: .number none d [] :: rest => do
      go (← withDate t year (natural m) (natural d) false) rest
    | .number none d [] :: .mark '-' :: .word w :: .number (some '-') y [] :: rest => do
      go (← withDate t (fullYear y) (← month? w) (natural d)) rest
    | .number none h [] :: .mark ':' :: .number none m [] :: .mark ':' :: .number none s fs :: rest =>
      clock (natural h) (natural m) (natural s) fs rest
    | .number none h [] :: .mark ':' :: .number none m [] :: rest => clock (natural h) (natural m) 0 [] rest
    | .word w :: .number none d [] :: rest =>
      match month? w with
      | some m =>
        match rest with
        | .mark ',' :: .number none y [] :: rest => do go (← withDate t (fullYear y) m (natural d)) rest
        | .number none y [] :: .mark ':' :: rest => do
          go (← withDate t year m (natural d) false) (.number none y [] :: .mark ':' :: rest)
        | .number none y [] :: rest => do
          if d.length ≤ 2 && 3 ≤ y.length then go (← withDate t (natural y) m (natural d)) rest
          else go (← withDate t year m (natural d) false) (.number none y [] :: rest)
        | rest => do
          if 3 ≤ d.length then go (← withDate t (natural d) m 1) rest
          else go (← withDate t year m (natural d) false) rest
      | none => word go t w (.number none d [] :: rest)
    | .word w :: rest => word go t w rest
    | .number sign ds [] :: .word w :: rest =>
      let count : Int := (if sign = some '-' then -1 else 1) * (natural ds : Int)
      match unit? w with
      | some u =>
        match rest with
        | .word "ago" :: rest => go (t.moved u (-count)) rest
        | rest => go (t.moved u count) rest
      | none =>
        match month? w, sign with
        | some m, none =>
          match rest with
          | .number none y [] :: .mark ':' :: rest => do
            go (← withDate t year m (natural ds) false) (.number none y [] :: .mark ':' :: rest)
          | .number none y [] :: rest => do go (← withDate t (fullYear y) m (natural ds)) rest
          | rest => do go (← withDate t year m (natural ds) false) rest
        | _, _ =>
          match w, sign with
          | "am", none => do go (← withTime t (← hourOf? (natural ds) "am") 0 0 []) rest
          | "pm", none => do go (← withTime t (← hourOf? (natural ds) "pm") 0 0 []) rest
          | "t", none =>
            if ds.length = 8 then compact go t ds rest else none
          | _, none => compact go t ds (.word w :: rest)
          | _, _ => none
    | .number none ds [] :: rest => compact go t ds rest
    | .mark ',' :: rest => go t rest
    | _ => none
where
  /-- A word that stands for itself. -/
  word (go : Told → List Token → Option Told) (t : Told) (w : String) (rest : List Token) : Option Told :=
    match w with
    | "now" => go { t with isRelative := true } rest
    | "today" => go { t with isRelative := true } rest
    | "tomorrow" => go (t.moved (.day, 1) 1) rest
    | "yesterday" => go (t.moved (.day, 1) (-1)) rest
    | "midnight" => none
    | "noon" => none
    | _ =>
      match ordinal? w, rest with
      | some k, .word u :: rest =>
        match unit? u, weekday? u with
        | some u, _ =>
          match rest with
          | .word "ago" :: rest => go (t.moved u (-k)) rest
          | rest => go (t.moved u k) rest
        | none, some d => go { t with weekday := some (k, d) } rest
        | none, none => none
      | some _, _ => none
      | none, _ =>
        match weekday? w, zone? w, unit? w with
        | some d, _, _ => go { t with weekday := some (0, d) } rest
        | none, some o, _ =>
          match rest with
          | .number (some sign) ds [] :: .word u :: rest =>
            go { t with zone := some o } (.number (some sign) ds [] :: .word u :: rest)
          | .number (some sign) ds [] :: rest => go { t with zone := some (o + offset sign ds none) } rest
          | rest => go { t with zone := some o } rest
        | none, none, some u =>
          match rest with
          | .word "ago" :: rest => go (t.moved u (-1)) rest
          | rest => go (t.moved u 1) rest
        | none, none, none => none
  /-- Digits alone: a date, a time of day, or a year. -/
  compact (go : Told → List Token → Option Told) (t : Told) (ds : List Char) (rest : List Token) : Option Told := do
    let n := natural ds
    let takesYear := t.date.isSome && !t.hasYear && (t.time.isSome || 2 < ds.length)
    if takesYear then
      let (_, month, day) := t.date.getD (1970, 1, 1)
      go (← withDate { t with date := none } (fullYear ds) month day) rest
    else if t.date.isSome && ds.length = 6 then go (← withTime t (n / 10000) (n / 100 % 100) (n % 100) []) rest
    else if t.date.isSome && t.time.isNone && ds.length ≤ 4 then
      if ds.length ≤ 2 then go (← withTime t n 0 0 []) rest else go (← withTime t (n / 100) (n % 100) 0 []) rest
    else if 4 < ds.length then go (← withDate t (n / 10000 : Nat) (n / 100 % 100) (n % 100)) rest
    else if ds.length ≤ 2 then go (← withTime t n 0 0 []) rest
    else go (← withTime t (n / 100) (n % 100) 0 []) rest

/-- The moment that a text tells, in seconds from the start of the epoch and nanoseconds. `now` is the moment
from which distances count if nothing else is told. -/
def moment? (now : Int) (nanosecond : Nat) (zone : Civil.Zone) (text : List Char) : Option (Int × Nat) := do
  let today := Civil.ofSeconds (now + zone.offset)
  let ts := tokens (text.length + 1) text
  let t ← read today.year (ts.length + 2) {} ts
  match t.seconds with
  | some (s, ns) => if ts.length ≤ 2 then some (s, ns) else none
  | none =>
    let (year, month, day) := t.date.getD (today.year, today.month, today.day)
    let isBare := t.date.isNone && t.time.isNone && t.weekday.isNone && t.zone.isNone && t.isRelative
    let (hour, minute, second, ns) := t.time.getD (
      if isBare then (today.hour, today.minute, today.second, nanosecond) else (0, 0, 0, 0))
    let index := year * 12 + (month - 1 : Nat) + t.months
    let days := Civil.daysTo (index.fdiv 12) ((index % 12).toNat + 1) (day + t.days)
    let days := match t.weekday with
      | some (k, d) =>
        let current := (days + 4) % 7
        let ahead := (d - current) % 7
        days + ahead + 7 * (if 0 < k && ahead ≠ 0 then k - 1 else k)
      | none => days
    let offset := t.zone.getD zone.offset
    return (days * 86400 + (hour * 3600 + minute * 60 + second : Nat) - offset + t.shift, ns)

end Tangle.Dating
