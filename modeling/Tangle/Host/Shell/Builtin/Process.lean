import Tangle.Host.Shell.Builtin.Usage

/-! # Limits and circumstances

The commands that show and set what belongs to a process beside its variables: its mask and its limits, the
time that it has taken, and the calls that it is in. -/
namespace Tangle.Shell.Builtin
open Run

/-! The mask -/

def maskText (n : Nat) : Text :=
  Text.ofNat (n / 512 % 8) ++ Text.ofNat (n / 64 % 8) ++ Text.ofNat (n / 8 % 8) ++ Text.ofNat (n % 8)

def symbolicMask (n : Nat) : Text :=
  let rights (k : Nat) : Text :=
    let on := 7 - k % 8
    (if on / 4 % 2 = 1 then "r" else "") ++ (if on / 2 % 2 = 1 then "w" else "") ++ (if on % 2 = 1 then "x" else "")
  "u=" ++ rights (n / 64) ++ ",g=" ++ rights (n / 8) ++ ",o=" ++ rights n

/-- The bits of the users that the letters of a clause name. -/
def userBits (t : Text) : Nat :=
  t.foldl (fun bits s => bits ||| (match s with
    | .char 'u' => 0o700
    | .char 'g' => 0o070
    | .char 'o' => 0o007
    | _ => 0o777)) 0

def rightBits (t : Text) : Nat :=
  t.foldl (fun bits s => bits ||| (match s with
    | .char 'r' => 0o444
    | .char 'w' => 0o222
    | _ => 0o111)) 0

/-- Rights after a clause such as `g+w`, or what is wrong with it. -/
def rightsAfter (bits : Nat) (clause : Text) : Except Text Nat :=
  let who := clause.takeWhile (·.isAnyOf "agou")
  let users := if who.isEmpty then 0o777 else userBits who
  match clause.drop who.length with
  | [] => .error "\x60\x00': invalid symbolic mode operator"
  | op :: rights =>
    if !op.isAnyOf "+-=" then .error ("\x60" ++ [op] ++ "': invalid symbolic mode operator")
    else
      let good := rights.takeWhile (·.isAnyOf "rwx")
      match rights.drop good.length with
      | s :: _ => .error ("\x60" ++ [s] ++ "': invalid symbolic mode character")
      | [] =>
        let on := rightBits good &&& users
        if op.is '+' then .ok (bits ||| on)
        else if op.is '-' then .ok (bits &&& (0o777 ^^^ on))
        else .ok ((bits &&& (0o777 ^^^ users)) ||| on)

def umask (args : List Text) : Run Nat := withOptions "umask" "Sp" "" args fun os rest => do
  let shown (n : Nat) : Text :=
    (if hasOption 'p' os then (if hasOption 'S' os then "umask -S " else "umask ") else "") ++
      (if hasOption 'S' os then symbolicMask n else maskText n) ++ "\n"
  let set (n : Nat) : Run Nat := do
    modifyProcess fun p => { p with mask := n }
    if hasOption 'S' os then say (symbolicMask n ++ "\n") else return 0
  let mask := (← process).mask
  match rest with
  | [] => say (shown mask)
  | t :: _ =>
    if t.head?.any Symbol.isDigit then
      let n := t.foldl (fun n s => n * 8 + (Escape.digitValue s).getD 0) 0
      if t.all (fun s => s.isDigit && !s.isAnyOf "89") && n < 512 then set n
      else fault "umask" (t ++ ": octal number out of range")
    else
      match (Text.pieces (.char ',') t).foldlM rightsAfter (0o777 ^^^ mask) with
      | .ok bits => set (0o777 ^^^ bits)
      | .error message => fault "umask" message

/-! Calls -/

/-- The line and the place from which the current function or file was called. -/
def caller (args : List Text) : Run Nat := do
  match args with
  | [] =>
    match (← process).frames with
    | [] => return 1
    | f :: outer => say (Text.ofNat f.line ++ " " ++ (← sourceOf outer) ++ "\n")
  | t :: _ =>
    match integerOf? t with
    | none =>
      tell "caller" (t ++ ": invalid number")
      showUsage "caller"
    | some n =>
      match (← process).frames.drop n.toNat with
      | f :: outer =>
        if n < 0 then return 1
        let function := (outer.head?.map (·.function)).getD ("main" : Text)
        say (Text.ofNat f.line ++ " " ++ function ++ " " ++ (← sourceOf outer) ++ "\n")
      | [] => return 1
where
  sourceOf (outer : List Frame) : Run Text := do
    match outer with
    | f :: _ => return f.source
    | [] => return (← process).scriptName

end Tangle.Shell.Builtin
