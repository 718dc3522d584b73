import Tangle.Host.Shell.Program.Making

/-! # Times

The programs that tell a moment and that let time pass. -/
namespace Tangle.Shell.Program
open Run

/-! Moments -/

/-- How much of a moment is told in a standard form: each word, with the format of the form. -/
def standardForms : List (String × String) := [
  ("hours", "%Y-%m-%dT%H%:z"), ("minutes", "%Y-%m-%dT%H:%M%:z"), ("date", "%Y-%m-%d"),
  ("seconds", "%Y-%m-%dT%H:%M:%S%:z"), ("ns", "%Y-%m-%dT%H:%M:%S,%N%:z")]

/-- The same with a blank before the time. -/
def spacedForms : List (String × String) := [
  ("date", "%Y-%m-%d"), ("seconds", "%Y-%m-%d %H:%M:%S%:z"), ("ns", "%Y-%m-%d %H:%M:%S.%N%:z")]

/-- The format that a word asks for, which may be shortened. -/
def formOf (flag : Text) (forms : List (String × String)) (word : Text) : Run Text := do
  let candidates := forms.filter fun f => !word.isEmpty && word.isPrefixOf (f.1 : Text)
  match candidates with
  | [f] => return f.2
  | _ =>
    report "date" ((if candidates.isEmpty then ("invalid" : Text) else "ambiguous") ++ " argument " ++ curved word ++
      " for " ++ curved flag)
    let _ ← write 2 ("Valid arguments are:\n" ++ forms.flatMap fun f => ("  - " ++ curved f.1 ++ "\n" : Text))
    let _ ← write 2 "Try 'date --help' for more information.\n"
    quit 1

/-- The formats that flags ask for. -/
def dateForms (cs : Chosen) : Run (List Text) := do
  let asked ← cs.mapM fun c => do
    match c with
    | ('I', t) => return some (← formOf "--iso-8601" standardForms (if t.isEmpty then "date" else t))
    | ('\x02', t) => return some (← formOf "--rfc-3339" spacedForms t)
    | ('R', _) => return some ("%a, %d %b %Y %H:%M:%S %z" : Text)
    | _ => return none
  return asked.filterMap id

/-- Writes moments, in microseconds; those that could not be read are nothing. -/
def putMoments (zone : Civil.Zone) (format : Text) (moments : List (Option Int)) : Run Bool := do
  for m in moments do
    match m with
    | some us =>
      let shown := Civil.Shown.ofSeconds (us.fdiv 1000000) ((us % 1000000).toNat * 1000) zone
      put "date" (formatMoment shown format ++ "\n")
    | none => pure ()
  return moments.all (·.isSome)

/-- The moment that a text tells, with a message if it tells none. -/
def dateMoment (t : Text) : Run (Option Int) := do
  let found ← readMoment t
  if found.isNone then report "date" ("invalid date " ++ curved t)
  return found

def date (args : List Text) : Run Nat := do
  let fs : List Flag := [
    { key := 'd', name := "date", need := .required }, { key := 'f', name := "file", need := .required },
    { key := 'r', name := "reference", need := .required }, { key := 's', name := "set", need := .required },
    { key := 'I', name := "iso-8601", need := .optional }, { key := 'R', name := "rfc-email" },
    { key := '\x02', name := "rfc-3339", need := .required, isLetter := false },
    { key := '\x03', name := "resolution", isLetter := false },
    { key := '\x04', name := "debug", isLetter := false },
    { key := 'u', name := "universal" }, { key := 'u', name := "utc", isLetter := false },
    { key := 'u', name := "uct", isLetter := false }]
  withFlags "date" 1 fs args fun cs operands => do
    if hasOption 'u' cs then putVariable "TZ" { value := .text "UTC0", isExported := true }
    let forms ← dateForms cs
    let sources := (["d", "f", "r", "\x03"].filter fun (l : String) => cs.any fun c => l.contains c.1).length
    if 1 < sources then misuse "date" 1 "the options to specify dates for printing are mutually exclusive"
    let plus? := operands.head?.any fun t => t.head?.any (·.is '+')
    match operands with
    | [] => pure ()
    | t :: rest =>
      match rest with
      | extra :: _ => misuse "date" 1 ("extra operand " ++ curved extra)
      | [] => pure ()
      if !plus? && 0 < sources then
        misuse "date" 1 ("the argument " ++ curved t ++ " lacks a leading '+';\nwhen using an option to specify date(s), " ++
          "any non-option\nargument must be a format string beginning with '+'")
    let formats := forms ++ (if plus? then operands.map (·.drop 1) else [])
    if 1 < formats.length then die "date" 1 "multiple output formats specified"
    let format := formats.headD (if hasOption '\x03' cs then "%s.%N" else "%a %b %e %H:%M:%S %Z %Y")
    let zone ← zone
    match cs.reverse.find? fun c => "dfr\x03".contains c.1, operands with
    | some ('d', t), _ => return statusOf (← putMoments zone format [← dateMoment t])
    | some ('f', path), _ =>
      match ← contentOf? "date" path with
      | none => return 1
      | some bs => return statusOf (← putMoments zone format (← (linesIn false bs).mapM dateMoment))
    | some ('r', path), _ =>
      match ← entryAt true path with
      | .ok e => return statusOf (← putMoments zone format [some (e.changed : Int)])
      | .error e => die "date" 1 (shown path ++ ": " ++ e.reason)
    | some _, _ => return statusOf (← putMoments zone format [some 1000])
    | none, operands =>
      let now := some ((← world).clock : Int)
      match if plus? then none else (optionValue? 's' cs).or operands.head? with
      | none => return statusOf (← putMoments zone format [now])
      | some t =>
        /- The clock belongs to others and stays as it is. -/
        let moment? ← if hasOption 's' cs then readMoment t else pure ((stampMoment? 0 zone t).map (· * 1000000))
        match moment? with
        | none => die "date" 1 ("invalid date " ++ curved t)
        | some m =>
          report "date" "cannot set date: Operation not permitted"
          let _ ← putMoments zone format [some m]
          return 1

/-! Letting time pass -/

/-- The microseconds of a span of time, such as `1.5m`; an endless one is none. -/
def spanOf? (t : Text) : Option (Option Nat) :=
  match Extended.read? t with
  | some (x, r) =>
    let unit : Option Nat := match r with
      | [] => some 1
      | [.char 's'] => some 1
      | [.char 'm'] => some 60
      | [.char 'h'] => some 3600
      | [.char 'd'] => some 86400
      | _ => none
    match x, unit with
    | .finite isNegative num den, some unit => if isNegative && num ≠ 0 then none else some (some (num * unit * 1000000 / den))
    | .infinite isNegative, some _ => if isNegative then none else some none
    | _, _ => none
  | none => none

/-- The end of a span that begins now. -/
def endOfSpan (span : Option Nat) : Run (Option Nat) := do
  let now := (← world).clock
  return span.map (now + ·)

def sleep (args : List Text) : Run Nat := withFlags "sleep" 1 [] args fun _ operands => do
  needOperands "sleep" 1 none operands
  let spans := operands.map fun t => (t, spanOf? t)
  let bad := spans.filter (·.2.isNone)
  if let (last, _) :: earlier := bad.reverse then
    for (t, _) in earlier.reverse do report "sleep" ("invalid time interval " ++ curved t)
    misuse "sleep" 1 ("invalid time interval " ++ curved last)
  let known := spans.filterMap (·.2)
  let total : Option Nat := if known.all (·.isSome) then some ((known.filterMap id).foldl (· + ·) 0) else none
  let _ ← await (fun _ => false) (← endOfSpan total) false
  return 0

end Tangle.Shell.Program
