import Tangle.Shell.Escape

/-! # The time that commands take

What `time` tells after a pipeline, by a format with directives: the time by the clock, and those that the
commands and the system have spent on it. The latter two are none here, since commands only spend time by
waiting. -/
namespace Tangle.Shell.Elapsed

def shortFormat : Text := "real %2R\nuser %2U\nsys %2S"

def usualFormat : Text := "\nreal\t%3lR\nuser\t%3lU\nsys\t%3lS"

/-- A number of milliseconds in seconds with some digits behind the point, perhaps with minutes. -/
def secondsText (digits : Nat) (isLong : Bool) (milliseconds : Nat) : Text :=
  let seconds := milliseconds / 1000
  let fraction := ((Text.ofNat (1000 + milliseconds % 1000)).drop 1)
  let point : Text := if digits = 0 then [] else "." ++ fraction.take digits
  if isLong then Text.ofNat (seconds / 60) ++ "m" ++ Text.ofNat (seconds % 60) ++ point ++ "s"
  else Text.ofNat seconds ++ point

/-- A directive behind its percent sign, and what comes after it: the text for it, or what cannot be
one. -/
def directive (milliseconds : Nat) (t : Text) : Except Text (Text × Text) :=
  match t with
  | [] => .ok ("%", [])
  | .char '%' :: rest => .ok ("%", rest)
  | .char 'P' :: rest => .ok ("0.00", rest)
  | c :: rest =>
    let isDigit := Symbol.isDigit c
    let digits := if isDigit then min 3 ((Escape.digitValue c).getD 0) else 3
    let afterDigits := if isDigit then rest else t
    let isLong := afterDigits.head? = some (.char 'l')
    match if isLong then afterDigits.tail else afterDigits with
    | .char 'R' :: after => .ok (secondsText digits isLong milliseconds, after)
    | .char 'E' :: after => .ok (secondsText digits isLong milliseconds, after)
    | .char 'U' :: after => .ok (secondsText digits isLong 0, after)
    | .char 'S' :: after => .ok (secondsText digits isLong 0, after)
    | other => .error (other.take 1)

/-- A format with the texts for its directives; a wrong one makes it void. -/
def textBy (milliseconds : Nat) : Nat → Text → Except Text Text
  | 0, _ => .ok []
  | _ + 1, [] => .ok []
  | n + 1, .char '%' :: rest => do
    let (t, after) ← directive milliseconds rest
    return t ++ (← textBy milliseconds n after)
  | n + 1, c :: rest => do return c :: (← textBy milliseconds n rest)

def text (microseconds : Nat) (format : Text) : Except Text Text :=
  textBy (microseconds / 1000) format.length format

end Tangle.Shell.Elapsed
