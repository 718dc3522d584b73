import Tangle.Host.Shell.Parameter
import Tangle.Host.Number.Calendar

/-! # Prompts

A prompt is a text with escapes for what the shell knows of itself. What the escapes give is expanded
afterwards, so it is guarded against that. -/
namespace Tangle.Shell.Run

/-- A text with backslashes before the symbols that are expanded inside quotation marks. -/
def guardedText (t : Text) : Text :=
  t.flatMap fun s => if s.isAnyOf "$\x60\"\\" then [.char '\\', s] else [s]

/-- The current directory, with the home directory written as a tilde. -/
def politeDirectory : Run Text := do
  let here ← text "PWD"
  let home ← text "HOME"
  if home.isEmpty || home = ("/" : Text) then return here
  match here.after? home with
  | some rest => return if rest.isEmpty || rest.head?.any (·.is '/') then "~" ++ rest else here
  | none => return here

def moment : Run Civil.Shown := do
  let clock := (← world).clock
  return .ofSeconds (clock / 1000000 : Nat) (clock % 1000000 * 1000)

/-- What an escape of one letter stands for. -/
def promptEscape? (letter : Char) : Run (Option Text) := do
  let p ← process
  let time (format : Text) : Run (Option Text) := return some (formatMoment (← moment) format)
  match letter with
  | 't' => time "%H:%M:%S"
  | 'd' => time "%a %b %d"
  | 'T' => time "%I:%M:%S"
  | 'A' => time "%H:%M"
  | '@' => time "%I:%M %p"
  | 'n' => return some "\n"
  | 'r' => return some "\r"
  | 'a' => return some "\x07"
  | 'e' => return some "\x1b"
  | 's' => return some (guardedText (Path.ofText p.scriptName).name)
  | 'v' => return some "5.2"
  | 'V' => return some "5.2.15"
  | 'w' => return some (guardedText (← politeDirectory))
  | 'W' => do
    let here ← politeDirectory
    return some (guardedText (if here = ("/" : Text) then here else (Path.ofText here).name))
  | 'u' => return some "root"
  | 'h' => return some "localhost"
  | 'H' => return some "localhost"
  | '#' => return some "1"
  | '!' => return some "1"
  | '$' => return some "#"
  | 'j' => return some (Text.ofNat p.jobs.length)
  | 'l' => return some "tty"
  | '\\' => return some "\\\\"
  | c => return if c = '[' || c = ']' then some [] else none

/-- A prompt with its escapes replaced. -/
def prompt : Nat → Text → Run Text
  | 0, t => return t
  | _, [] => return []
  | n + 1, .char '\\' :: t => do
    match t with
    | [] => return "\\"
    | .char 'D' :: .char '\x7b' :: r =>
      let format := r.takeWhile (!·.is '\x7d')
      let shown := formatMoment (← moment) (if format.isEmpty then "%X" else format)
      return guardedText shown ++ (← prompt n (r.drop (format.length + 1)))
    | s :: r =>
      let octal := t.take 3 |>.takeWhile fun s => s.isAnyOf "01234567"
      if !octal.isEmpty then
        let value := octal.foldl (fun n d => n * 8 + (Escape.digitValue d).getD 0) 0 % 256
        return Text.decode [value.toUInt8] ++ (← prompt n (t.drop octal.length))
      else
        let known ← match s with
          | .char c => promptEscape? c
          | _ => pure none
        match known with
        | some u => return u ++ (← prompt n r)
        | none => return "\\" ++ [s] ++ (← prompt n r)
  | n + 1, s :: t => return s :: (← prompt n t)

end Tangle.Shell.Run
