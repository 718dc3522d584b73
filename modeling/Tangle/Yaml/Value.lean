import Tangle.Yaml.Node
import Tangle.Number.Binary
import Tangle.Text.Display
import Tangle.Text.LetterCase
import Tangle.Text.Numeral
import Tangle.Text.Blank

/-! # Values

The value that a scalar stands for. A collection is known by the number of its node, and what it holds
is kept apart, so it may hold itself. Numbers and truth values are alike if they are equal as numbers,
and times of day with an offset if they are the same moment. -/
namespace Tangle.Yaml

/-- A scalar whose text does not fit its kind. -/
inductive ScalarFault where
  | noInteger (base : Nat) (t : Text)
  | noNumber (t : Text)
  | noTruthValue (t : Text)
  | emptyNumber
  | longInteger (digits : Option Nat)
  | largeInteger
  | noText
  | moment (f : MomentFault)
deriving DecidableEq, Repr

namespace ScalarFault

/-- An offset in minutes as days and the seconds after them. -/
def offsetText (minutes : Int) : Text :=
  let days := minutes.fdiv (24 * 60)
  let seconds := minutes.fmod (24 * 60) * 60
  let parts : List Text := (if days = 0 then [] else ["days=" ++ Text.ofInt days]) ++
    (if seconds = 0 then [] else ["seconds=" ++ Text.ofInt seconds])
  "datetime.timedelta(" ++ Text.join ", " parts ++ ")"

def momentMessage : MomentFault → Text
  | .unreadable => "'NoneType' object has no attribute 'groupdict'"
  | .year n => "year " ++ Text.ofNat n ++ " is out of range"
  | .month => "month must be in 1..12"
  | .day => "day is out of range for month"
  | .hour => "hour must be in 0..23"
  | .minute => "minute must be in 0..59"
  | .second => "second must be in 0..59"
  | .offset o =>
    "offset must be a timedelta strictly between -timedelta(hours=24) and timedelta(hours=24), not " ++
      offsetText o ++ "."

/-- The class of the error that a fault comes up as. -/
def kind : ScalarFault → Text
  | noTruthValue _ => "KeyError"
  | emptyNumber => "IndexError"
  | moment .unreadable => "AttributeError"
  | noText => "TypeError"
  | largeInteger => "OverflowError"
  | noInteger .. | noNumber _ | longInteger _ | moment _ => "ValueError"

def message : ScalarFault → Text
  | noInteger b t =>
    "invalid literal for int() with base " ++ Text.ofNat b ++ ": " ++ t.display
  | noNumber t => "could not convert string to float: " ++ t.display
  | noTruthValue t => t.display
  | emptyNumber => "string index out of range"
  | longInteger digits => "Exceeds the limit (4300 digits) for integer string conversion" ++
      (match digits with
        | some n => (": value has " ++ Text.ofNat n ++ " digits" : Text)
        | none => []) ++ "; use sys.set_int_max_str_digits() to increase the limit"
  | largeInteger => "int too large to convert to float"
  | noText => "expected string or bytes-like object, got 'list'"
  | moment f => momentMessage f

end ScalarFault

inductive ValueFault where
  | fault (f : Fault)
  | scalar (f : ScalarFault)
deriving DecidableEq, Repr

inductive Value where
  | null
  | bool (b : Bool)
  | int (n : Int)
  | float (x : Binary)
  /-- The one value that stands for no number, which is alike to itself. -/
  | noNumber
  | text (t : Text)
  | bytes (b : Bytes)
  | moment (m : Moment)
  | list (node : Nat)
  | map (node : Nat)
  | set (node : Nat)
deriving DecidableEq, Repr

/-- What a collection holds. The entries of a mapping are in order, with no two keys alike: a later entry
for a key takes the place of the first. The members of a set are keys without values. -/
inductive Collection where
  | items (count : Nat)
  | entries (es : List (Value × Value))
deriving Repr

namespace Value

def isCollection : Value → Bool
  | list _ | map _ | set _ => true
  | _ => false

/-- A key as a number, if it is a whole one. -/
def whole? : Value → Option Int
  | bool b => some (if b then 1 else 0)
  | int n => some n
  | float x => x.toInt?
  | _ => none

def isAlike (v w : Value) : Bool :=
  match v.whole?, w.whole? with
  | some a, some b => a == b
  | none, none =>
    match v, w with
    | float a, float b => a == b && a != .undefined
    | moment a, moment b => a.isSame b
    | v, w => v == w
  | _, _ => false

def putEntry (k v : Value) : List (Value × Value) → List (Value × Value)
  | [] => [(k, v)]
  | e :: es => if k.isAlike e.1 then (e.1, v) :: es else e :: putEntry k v es

/-! Scalars -/

def withoutUnderscores (t : Text) : Text := t.filter (!·.is '_')

/-- A sign, and the rest. -/
def signed : Text → Bool × Text
  | .char '-' :: t => (true, t)
  | .char '+' :: t => (false, t)
  | t => (false, t)

def applySign (s : Bool) (n : Nat) : Int := if s then -(n : Int) else n

def baseLetters : List (Nat × String) := [(2, "bB"), (8, "oO"), (16, "xX")]

def isPadding (s : Symbol) : Bool := s.isBlank

/-- The number of decimal digits that are converted. -/
def mostDigits : Nat := 4300

/-- Digits of a base. The letter of the base may stand before them, after a zero. -/
def integer (base : Nat) (t : Text) : Except ValueFault Int :=
  let fault : ValueFault := .scalar (.noInteger base t)
  let (s, ds) := signed (t.trimBy isPadding)
  let ds := match baseLetters.lookup base, ds with
    | some letters, .char '0' :: x :: r => if x.isAnyOf letters then r else ds
    | _, _ => ds
  if ds.isEmpty then .error fault
  else
    let step (n : Nat) (c : Symbol) : Except ValueFault Nat :=
      match c with
      | .char c => match (decimalValue? c).or (Quoted.digit? c) with
        | some d => if d < base then .ok (n * base + d) else .error fault
        | none => .error fault
      | _ => .error fault
    let length := (ds.takeWhile Symbol.isDecimal).length
    if base = 10 && mostDigits < length then .error (.scalar (.longInteger (some length)))
    else applySign s <$> ds.foldlM step 0

def ofInt (t : Text) : Except ValueFault Value := do
  let t := withoutUnderscores t
  if t.isEmpty then throw (.scalar .emptyNumber)
  let (s, ds) := signed t
  let withSign (n : Int) : Value := int (if s then -n else n)
  if ds = ("0" : Text) then return int 0
  else match ds with
  | [] => throw (.scalar .emptyNumber)
  | .char '0' :: .char 'b' :: r => withSign <$> integer 2 r
  | .char '0' :: .char 'x' :: r => withSign <$> integer 16 r
  | .char '0' :: _ => withSign <$> integer 8 ds
  | _ =>
    if ds.any (·.is ':') then
      let parts ← (Text.pieces (.char ':') ds).mapM (integer 10)
      return withSign (parts.foldl (fun n d => n * 60 + d) 0)
    else withSign <$> integer 10 ds

def decimalNumber (ds : Text) : Nat := ds.foldl (fun n d => match d with
  | .char c => n * 10 + (decimalValue? c).getD 0
  | _ => n) 0

/-- A decimal number with an optional fraction and exponent, or the name of a special one. -/
def decimal (t : Text) : Except ValueFault Binary := do
  let fault : ValueFault := .scalar (.noNumber t)
  let (s, u) := signed (t.trimBy isPadding)
  if u = ("inf" : Text) ∨ u = ("infinity" : Text) then return .infinite s
  if u = ("nan" : Text) then return .undefined
  let (whole, rest) := u.span Symbol.isDecimal
  let (fraction, rest) := match rest with
    | .char '.' :: r => r.span Symbol.isDecimal
    | r => ([], r)
  if whole.isEmpty && fraction.isEmpty then throw fault
  let exponent ← match rest with
    | [] => pure (0 : Int)
    | .char 'e' :: r =>
      let (isNegative, ds) := signed r
      if ds.isEmpty || !ds.all Symbol.isDecimal then throw fault else pure (applySign isNegative (decimalNumber ds))
    | _ => throw fault
  return .ofDecimal s (decimalNumber (whole ++ fraction)) (exponent - fraction.length)

/-- A number in base sixty, added up from its last part. Each power of sixty has to be a number of
its own. -/
def sixtieths (parts : List Binary) : Except ValueFault Binary := do
  let (sum, _) ← parts.reverse.foldlM (fun (acc : Binary × Nat) p => do
    match Binary.ofFraction false acc.2 1 with
    | .infinite _ => throw (.scalar .largeInteger)
    | unit => return (acc.1.add (p.multiply unit), acc.2 * 60))
    (.ofFraction false 0 1, 1)
  return sum

def ofFloat (t : Text) : Except ValueFault Value := do
  let t := (withoutUnderscores t).lowered
  if t.isEmpty then throw (.scalar .emptyNumber)
  let (s, u) := signed t
  let withSign (x : Binary) : Value := float (if s then x.neg else x)
  if u = (".inf" : Text) then return withSign (.infinite false)
  else if u = (".nan" : Text) then return noNumber
  else if u.any (·.is ':') then
    return withSign (← sixtieths (← (Text.pieces (.char ':') u).mapM decimal))
  else withSign <$> decimal u

def ofBool (t : Text) : Except ValueFault Value :=
  let w := t.lowered
  if ["yes", "true", "on"].any fun (x : String) => w = (x : Text) then .ok (bool true)
  else if ["no", "false", "off"].any fun (x : String) => w = (x : Text) then .ok (bool false)
  else .error (.scalar (.noTruthValue w))

def ofMoment (t : Text) : Except ValueFault Value :=
  let line : Text := if t.endsInNewline then t.dropLast else t
  match line.chars?.bind Moment.read? with
  | none => .error (.scalar (.moment .unreadable))
  | some (m, _) => (Value.moment <$> m.check).mapError fun f => .scalar (.moment f)

def sextet? (c : Char) : Option Nat :=
  if 'A' ≤ c ∧ c ≤ 'Z' then some (c.toNat - 'A'.toNat)
  else if 'a' ≤ c ∧ c ≤ 'z' then some (c.toNat - 'a'.toNat + 26)
  else if '0' ≤ c ∧ c ≤ '9' then some (c.toNat - '0'.toNat + 52)
  else if c = '+' then some 62
  else if c = '/' then some 63
  else none

/-- The bytes of a text in base sixty-four. Other characters are passed over; padding completes the
last group. -/
def base64 : (held : List Nat) → List Char → Option Bytes
  | held, c :: cs =>
    if c = '=' then
      match held, cs.filter fun c => c = '=' || (sextet? c).isSome with
      | [a, b], '=' :: _ => some [(a * 4 + b / 16).toUInt8]
      | [a, b, d], _ => some [(a * 4 + b / 16).toUInt8, (b * 16 + d / 4).toUInt8]
      | held, _ => base64 held cs
    else match sextet? c, held with
    | none, held => base64 held cs
    | some e, [a, b, d] =>
      ([(a * 4 + b / 16).toUInt8, (b * 16 + d / 4).toUInt8, (d * 64 + e).toUInt8] ++ ·) <$> base64 [] cs
    | some e, held => base64 (held ++ [e]) cs
  | [], [] => some []
  | _, [] => none

def ofBinary (t : Text) : Except ValueFault Value :=
  match t.chars? with
  | some cs =>
    if cs.all (·.toNat < 0x80) then
      match base64 [] cs with
      | some b => .ok (bytes b)
      | none => .error (.fault (.malformed "binary text"))
    else .error (.fault (.malformed "binary text"))
  | none => .error (.fault (.malformed "binary text"))

def ofScalar (k : Kind) (t : Text) : Except ValueFault Value :=
  match k with
  | .null => .ok null
  | .bool => ofBool t
  | .int => ofInt t
  | .float => ofFloat t
  | .binary => ofBinary t
  | .timestamp => ofMoment t
  | .str => .ok (text t)
  | .omap | .pairs | .seq => .error (.fault (.expected "a sequence"))
  | .set | .map => .error (.fault (.expected "a mapping"))
  | .merge | .standard => .error (.fault (.tag Kind.tagStem))
  | .unknown tag => .error (.fault (.tag tag))

/-! Collections -/

/-- The values of nodes so far. Collections are filled after their nodes have values, in the order in which
these came about. -/
structure Building where
  graph : Graph
  values : List (Nat × Value) := []
  contents : List (Nat × Collection) := []
  pending : List Nat := []

abbrev Build := StateT Building (Except ValueFault)

def fail {α : Type} (f : Fault) : Build α := throw (.fault f)

def node (i : Nat) : Build Node := do return ((← get).graph[i]?).getD ⟨.null, .scalar []⟩

/-- The text of a scalar, or of the value that stands for a mapping as a whole. -/
def scalarText : Nat → Nat → Build Text
  | 0, _ => fail (.expected "a scalar")
  | fuel + 1, i => do
    match (← node i).content with
    | .scalar t => return t
    | .sequence _ => fail (.expected "a scalar")
    | .mapping es =>
      match ← es.findM? (fun e => return (← node e.1).kind = .standard) with
      | some e => scalarText fuel e.2
      | none => fail (.expected "a scalar")

def size : Build Nat := do return (← get).graph.size

/-- A collection that is filled later. -/
def later (i : Nat) (v : Value) : Build Value := do
  modify fun b => { b with pending := i :: b.pending }
  return v

/-- The value of a node. -/
def ofNode (i : Nat) : Build Value := do
  match (← get).values.lookup i with
  | some v => return v
  | none =>
    let n ← node i
    let v ← match n.kind with
      | .omap | .pairs | .seq => later i (.list i)
      | .set => later i (.set i)
      | .map => later i (.map i)
      | .merge | .standard => fail (.tag Kind.tagStem)
      | .unknown tag => fail (.tag tag)
      | k => do
        let t ← scalarText ((← size) + 1) i
        match k, n.content with
        | .timestamp, .mapping _ => throw (.scalar .noText)
        | _, _ => ofScalar k t
    modify fun b => { b with values := (i, v) :: b.values }
    return v

def setNode (i : Nat) (n : Node) : Build Unit :=
  modify fun b => { b with graph := b.graph.setIfInBounds i n }

def entriesOf (i : Nat) : Build (Option (List (Nat × Nat))) := do
  match (← node i).content with
  | .mapping es => return some es
  | _ => return none

def setEntries (i : Nat) (es : List (Nat × Nat)) : Build Unit := do
  setNode i { (← node i) with content := .mapping es }

/-- Looks through the entries of a mapping from the `at`-th on, and takes out those that merge others in. What
they bring is gathered in `merged`, and stands before the entries that stay. -/
def flatten : Nat → (i place : Nat) → (merged : List (Nat × Nat)) → Build Unit
  | 0, _, _, _ => fail .merge
  | fuel + 1, i, place, merged => do
    let es := (← entriesOf i).getD []
    match es[place]? with
    | none => if merged.isEmpty then pure () else setEntries i (merged ++ es)
    | some (k, v) =>
      let key ← node k
      match key.kind with
      | .merge =>
        setEntries i (es.eraseIdx place)
        match (← node v).content with
        | .scalar _ => fail .merge
        | .mapping _ =>
          flatten fuel v 0 []
          flatten fuel i place (merged ++ ((← entriesOf v).getD []))
        | .sequence parts =>
          let brought ← parts.mapM fun p => do
            match ← entriesOf p with
            | none => fail .merge
            | some _ =>
              flatten fuel p 0 []
              return (← entriesOf p).getD []
          flatten fuel i place (merged ++ brought.reverse.flatten)
      | .standard =>
        setNode k { key with kind := .str }
        flatten fuel i (place + 1) merged
      | _ => flatten fuel i (place + 1) merged

/-- The entries of a mapping. A collection cannot be a key. -/
def ofEntries (es : List (Nat × Nat)) : Build (List (Value × Value)) :=
  es.foldlM (fun m e => do
    let k ← ofNode e.1
    if k.isCollection then fail .key
    let v ← ofNode e.2
    return putEntry k v m) []

def greatestMerge : Nat := 1000000

def ofMapping (i : Nat) : Build (List (Value × Value)) := do
  match (← node i).content with
  | .mapping _ =>
    flatten greatestMerge i 0 []
    ofEntries ((← entriesOf i).getD [])
  | _ => fail (.expected "a mapping")

/-- One entry of an ordered mapping. -/
def ofPair (i : Nat) : Build Unit := do
  match (← node i).content with
  | .mapping [(k, v)] =>
    let _ ← ofNode k
    let _ ← ofNode v
  | _ => fail (.expected "a mapping of one entry")

/-- Fills a collection. -/
def fillNode (i : Nat) : Build Unit := do
  let n ← node i
  let c ← match n.kind, n.content with
    | .omap, .sequence items | .pairs, .sequence items =>
      items.forM ofPair
      pure (.items items.length)
    | .omap, _ | .pairs, _ => fail (.expected "a sequence")
    | .seq, .sequence items =>
      items.forM fun i => do let _ ← ofNode i
      pure (.items items.length)
    | .seq, _ => fail (.expected "a sequence")
    | _, _ => Collection.entries <$> ofMapping i
  modify fun b => { b with contents := (i, c) :: b.contents }

/-- Fills the collections that are pending, and then those that came up meanwhile. -/
def fillAll : Nat → Build Unit
  | 0 => pure ()
  | fuel + 1 => do
    let due := (← get).pending.reverse
    modify fun b => { b with pending := [] }
    if !due.isEmpty then
      due.forM fillNode
      fillAll fuel

end Value

/-- A value with all the collections that it leads to. -/
structure Document where
  root : Value
  contents : List (Nat × Collection) := []

namespace Document

/-- The document in a text; one that is not there is nothing at all. -/
def ofText (cs : List Char) : Except ValueFault Document := do
  let (root, graph) ← (Node.ofText cs).mapError .fault
  match root with
  | none => return { root := .null }
  | some i =>
    let (v, b) ← (do
      let v ← Value.ofNode i
      Value.fillAll (graph.size + 1)
      return v : Value.Build Value).run { graph }
    return { root := v, contents := b.contents }

/-- The entries of a mapping or set. -/
def entries (d : Document) (i : Nat) : List (Value × Value) :=
  match d.contents.lookup i with
  | some (.entries es) => es
  | _ => []

/-- Nothing, zero, false, and everything empty. -/
def isVoid (d : Document) : Value → Bool
  | .null => true
  | .bool b => !b
  | .int n => n == 0
  | .float x => x.isZero
  | .noNumber => false
  | .text t => t.isEmpty
  | .bytes b => b.isEmpty
  | .moment _ => false
  | .list i => match d.contents.lookup i with
    | some (.items n) => n == 0
    | _ => false
  | .map i | .set i => (d.entries i).isEmpty

end Document

namespace Value

/-! Reading a value -/

def kindName : Value → Text
  | null => "NoneType"
  | bool _ => "bool"
  | int _ => "int"
  | float _ | noNumber => "float"
  | text _ => "str"
  | bytes _ => "bytes"
  | moment m => if m.time.isSome then "datetime.datetime" else "datetime.date"
  | list _ => "list"
  | map _ => "dict"
  | set _ => "set"

def byteText (quote : Char) (b : UInt8) : Text :=
  let c := Char.ofNat b.toNat
  if c == '\\' || c == quote then [.char '\\', .char c]
  else if c == '\n' then "\\n"
  else if c == '\r' then "\\r"
  else if c == '\t' then "\\t"
  else if 0x20 ≤ b && b < 0x7F then [.char c]
  else "\\x" ++ hex 2 b.toNat

def bytesText (bs : Bytes) : Text :=
  let q := if bs.contains 0x27 && !bs.contains 0x22 then '"' else '\''
  .char 'b' :: .char q :: bs.flatMap (byteText q) ++ [.char q]

/-- A key as text. An integer of too many digits has none. -/
def keyText : Value → Except ScalarFault Text
  | null => .ok "None"
  | bool b => .ok (if b then "True" else "False")
  | int n => if 10 ^ mostDigits ≤ n.natAbs then .error (.longInteger none) else .ok (Text.ofInt n)
  | float x => .ok x.text
  | noNumber => .ok "nan"
  | text t => .ok t
  | bytes b => .ok (bytesText b)
  | moment m => .ok m.text
  | _ => .ok []

/-- The value of a key of a mapping. -/
def get? (entries : List (Value × Value)) (key : Text) : Option Value :=
  (entries.find? (·.1.isAlike (.text key))).map (·.2)

end Value
end Tangle.Yaml
