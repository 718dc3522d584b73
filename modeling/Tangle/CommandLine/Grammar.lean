import Tangle.Text.Display
import Tangle.Text.Numeral

/-! # Option grammars

How a list of arguments is divided into options, their values and positional arguments. An option
may be shortened to any beginning that fits no other, a value may follow it or be attached to it
with `=`, and one-letter options may be run together. -/
namespace Tangle.CommandLine

/-- How many arguments a positional parameter takes; `rest` takes all that follow, options
included. -/
inductive Arity where
  | one
  | optional
  | many
  | rest
deriving DecidableEq, Repr

structure OptionSpec where
  names : List Text
  takesValue : Bool
  isRequired : Bool := false
deriving DecidableEq, Repr

structure Positional where
  name : Text
  arity : Arity
deriving DecidableEq, Repr

structure Grammar where
  program : Text
  options : List OptionSpec
  positionals : List Positional := []

inductive UsageFault where
  | ambiguous (argument : Text) (matching : List Text)
  | missingValue (option : Text)
  | ignoredValue (option value : Text)
  | missing (names : List Text)
  | unrecognized (arguments : List Text)
  | invalidChoice (name value : Text) (choices : List Text)
deriving DecidableEq, Repr

def UsageFault.message : UsageFault → Text
  | ambiguous a ms => "ambiguous option: " ++ a ++ " could match " ++ Text.join ", " ms
  | missingValue o => "argument " ++ o ++ ": expected one argument"
  | ignoredValue o v => "argument " ++ o ++ ": ignored explicit argument " ++ v.display
  | missing ns => "the following arguments are required: " ++ Text.join ", " ns
  | unrecognized as => "unrecognized arguments: " ++ Text.join " " as
  | invalidChoice n v cs =>
    "argument " ++ n ++ ": invalid choice: " ++ v.display ++ " (choose from " ++
      Text.join ", " (cs.map Text.display) ++ ")"

namespace OptionSpec

/-- All the names of an option, as a message calls it. -/
def title (o : OptionSpec) : Text := Text.join "/" o.names

end OptionSpec

/-- An argument that is taken for an option: which one, under which name, and the value attached
to it. Without an option it is unknown. -/
structure Flagged where
  option : Option OptionSpec
  name : Text
  attached : Option Text
deriving DecidableEq, Repr

inductive Mark where
  | argument
  | flag (f : Flagged)
  | divider
deriving DecidableEq, Repr

def isDash (s : Symbol) : Bool := s.is '-'

/-- The parts of a text before and after the first `=`. -/
def splitValue (t : Text) : Option (Text × Text) :=
  match t.span (!·.is '=') with
  | (name, _ :: value) => some (name, value)
  | _ => none

/-- A minus sign and a decimal number, at the end of a line or of the text. -/
def isNegativeNumber (t : Text) : Bool :=
  match if t.endsInNewline then t.dropLast else t with
  | .char '-' :: t =>
    let (whole, rest) := t.span Symbol.isDecimal
    match rest with
    | [] => !whole.isEmpty
    | .char '.' :: fraction => !fraction.isEmpty && fraction.all Symbol.isDecimal
    | _ => false
  | _ => false

namespace Grammar

def named (g : Grammar) : List (Text × OptionSpec) := g.options.flatMap fun o => o.names.map (·, o)

def option? (g : Grammar) (name : Text) : Option OptionSpec := (g.named.find? (·.1 = name)).map (·.2)

/-- The options that an argument may stand for when it is no option's full name. -/
def candidates (g : Grammar) (a : Text) : List Flagged :=
  match a with
  | .char '-' :: .char '-' :: _ =>
    let (head, value) := match splitValue a with
      | some (n, v) => (n, some v)
      | none => (a, none)
    g.named.filterMap fun (n, o) => if n.startsWith head then some ⟨some o, n, value⟩ else none
  | _ =>
    g.named.filterMap fun (n, o) =>
      if n = a.take 2 then some ⟨some o, n, some (a.drop 2)⟩
      else if n.startsWith a then some ⟨some o, n, none⟩
      else none

def mark (g : Grammar) (a : Text) : Except UsageFault Mark :=
  if !(a.head?.any isDash) then .ok .argument
  else match g.option? a with
  | some o => .ok (.flag ⟨some o, a, none⟩)
  | none =>
    if a.length = 1 then .ok .argument
    else
    let exact := do
      let (n, v) ← splitValue a
      let o ← g.option? n
      return Flagged.mk (some o) n (some v)
    match exact with
    | some f => .ok (.flag f)
    | none =>
      match g.candidates a with
      | [f] => .ok (.flag f)
      | [] =>
        if isNegativeNumber a || a.any (·.is ' ') then .ok .argument
        else .ok (.flag ⟨none, a, none⟩)
      | fs => .error (.ambiguous a (fs.map (·.name)))

/-- Marks every argument. What follows `--` is no option. -/
def marks (g : Grammar) : List Text → Except UsageFault (List (Text × Mark))
  | [] => .ok []
  | a :: as =>
    if a = ("--" : Text) then .ok ((a, .divider) :: as.map (·, .argument))
    else do
      let m ← g.mark a
      let ms ← marks g as
      return (a, m) :: ms

end Grammar

/-- What an argument list says, in order. -/
inductive Event where
  | option (o : OptionSpec) (value : Option Text)
  | positional (p : Positional) (values : List Text)
deriving DecidableEq, Repr

/-- What has been read: the events, the arguments that fit nothing, and the positional parameters
that are still to come. -/
structure Reading where
  events : List Event := []
  extras : List Text := []
  pending : List Positional
deriving Repr

namespace Reading

abbrev Marked := List (Text × Mark)

def isDivider (m : Text × Mark) : Bool := m.2 == .divider
def isArgument (m : Text × Mark) : Bool := m.2 == .argument

def isFlag (m : Text × Mark) : Bool := !isDivider m && !isArgument m

/-- The arguments that a positional parameter takes from the front, and the rest. -/
def take (a : Arity) (ms : Marked) : Option (Marked × Marked) :=
  let (d, r) := ms.span isDivider
  match a, r with
  | .one, m :: r =>
    if isArgument m then let (e, r) := r.span isDivider; some (d ++ m :: e, r) else none
  | .one, [] => none
  | .optional, m :: r' =>
    if isArgument m then let (e, r) := r'.span isDivider; some (d ++ m :: e, r) else some (d, r)
  | .optional, [] => some (d, [])
  | .many, m :: r =>
    if isArgument m then let (e, r) := r.span (!isFlag ·); some (d ++ m :: e, r) else none
  | .many, [] => none
  | .rest, m :: r => if isArgument m then some (d ++ m :: r, []) else none
  | .rest, [] => none

/-- The values among the arguments taken: the first divider only divides. -/
def valuesOf (a : Arity) (ms : Marked) : List Text :=
  let ts := ms.map (·.1)
  if a = .rest then ts else ts.erase "--"

/-- As many of the pending positional parameters as fit, each taking what it can. -/
def takePositionals (r : Reading) (ms : Marked) : Reading × Marked :=
  go r.pending r ms
where
  go : List Positional → Reading → Marked → Reading × Marked
    | [], r, ms => ({ r with pending := [] }, ms)
    | p :: ps, r, ms =>
      match take p.arity ms with
      | none => ({ r with pending := p :: ps }, ms)
      | some (taken, rest) =>
        go ps { r with events := r.events ++ [.positional p (valuesOf p.arity taken)] } rest

def add (r : Reading) (e : Event) : Reading := { r with events := r.events ++ [e] }

/-- Options of one letter run together: the letters after the first one that takes no value. -/
def together (g : Grammar) (r : Reading) (o : OptionSpec) : (letters : Text) → Reading × Option UsageFault
  | [] => (r, none)
  | c :: cs =>
    match g.option? [.char '-', c] with
    | none => (r, some (.ignoredValue o.title (c :: cs)))
    | some o' =>
      if o'.takesValue then
        if cs.isEmpty then (r, some (.missingValue o'.title))
        else ((r.add (.option o none)).add (.option o' (some cs)), none)
      else if cs.isEmpty then ((r.add (.option o none)).add (.option o' none), none)
      else together g (r.add (.option o none)) o' cs

/-- Reads an option and the value that belongs to it. -/
def takeOption (g : Grammar) (r : Reading) (a : Text) (f : Flagged) (rest : Marked) :
    Reading × Marked × Option UsageFault :=
  match f.option, f.attached with
  | none, _ => ({ r with extras := r.extras ++ [a] }, rest, none)
  | some o, some v =>
    if o.takesValue then (r.add (.option o (some v)), rest, none)
    else if (f.name[1]?.any isDash) || v.isEmpty then (r, rest, some (.ignoredValue o.title v))
    else let (r, e) := together g r o v; (r, rest, e)
  | some o, none =>
    if o.takesValue then
      match rest with
      | (v, .argument) :: rest => (r.add (.option o (some v)), rest, none)
      | _ => (r, rest, some (.missingValue o.title))
    else (r.add (.option o none), rest, none)

/-- Reads marked arguments until none are left or one is at fault. -/
def readAll (g : Grammar) : Nat → Reading → Marked → Reading × Option UsageFault
  | 0, r, _ => (r, none)
  | fuel + 1, r, ms =>
    if ms.any isFlag then
      match ms with
      | [] => (r, none)
      | (a, .flag f) :: rest =>
        match takeOption g r a f rest with
        | (r, _, some e) => (r, some e)
        | (r, rest, none) => readAll g fuel r rest
      | ms =>
        let (r', rest) := r.takePositionals ms
        if rest.length < ms.length then readAll g fuel r' rest
        else
          let (skipped, rest) := ms.span (!isFlag ·)
          readAll g fuel { r' with extras := r'.extras ++ skipped.map (·.1) } rest
    else
      let (r, rest) := r.takePositionals ms
      ({ r with extras := r.extras ++ rest.map (·.1) }, none)

end Reading

/-- The required parameters that no event has named. -/
def Grammar.missing (g : Grammar) (r : Reading) : List Text :=
  (g.options.filter fun o => o.isRequired && !r.events.any fun
    | .option o' _ => o' == o
    | _ => false).map OptionSpec.title ++
  (r.pending.filter (·.arity ≠ .optional)).map (·.name)

/-- Reads an argument list. The events before a fault have taken place. -/
def Grammar.read (g : Grammar) (arguments : List Text) : Reading × Option UsageFault :=
  let start : Reading := { pending := g.positionals }
  match g.marks arguments with
  | .error e => (start, some e)
  | .ok ms =>
    match Reading.readAll g (ms.length + 1) start ms with
    | (r, some e) => (r, some e)
    | (r, none) =>
      let missing := g.missing r
      (r, if missing.isEmpty then none else some (.missing missing))

end Tangle.CommandLine
