import Tangle.Text.Basic

/-! # Arithmetic expressions

Expressions over whole numbers of 64 bits that wrap around. A name stands for the value of a variable,
which is an expression of its own. Reading never fails: a fault stands in the expression where it would be
come upon when the expression is worked out from left to right. -/
namespace Tangle.Shell

/-- A variable or an element of one. The index is an expression or a key, as the variable decides. -/
structure Target where
  name : Text
  index : Option Text
deriving DecidableEq, Repr

inductive Operation where
  | or | xor | and | equal | differ | below | above | atMost | atLeast | shiftLeft | shiftRight
  | add | subtract | multiply | divide | remainder | power
deriving DecidableEq, Repr

inductive FaultKind where
  | operandExpected
  | invalidOperator
  | trailing
  | expressionExpected
  | colonExpected
  | parenthesisExpected
  | notVariable
  | nameExpected
  | increments (sign : Char)
  | divisionByZero
  | negativeExponent
  | tooGreat
  | invalidNumber
  | invalidBase
  | invalidConstant
  | tooDeep
  | badSubscript
  /-- A variable has refused its value. -/
  | refused
deriving DecidableEq, Repr

def FaultKind.text : FaultKind → Text
  | operandExpected => "syntax error: operand expected"
  | invalidOperator => "syntax error: invalid arithmetic operator"
  | trailing => "syntax error in expression"
  | expressionExpected => "expression expected"
  | colonExpected => "\x60:' expected for conditional expression"
  | parenthesisExpected => "missing \x60)'"
  | notVariable => "attempted assignment to non-variable"
  | nameExpected => "identifier expected after pre-increment or pre-decrement"
  | increments c => Text.ofChars [c, c] ++ ": assignment requires lvalue"
  | divisionByZero => "division by 0"
  | negativeExponent => "exponent less than 0"
  | tooGreat => "value too great for base"
  | invalidNumber => "invalid number"
  | invalidBase => "invalid arithmetic base"
  | invalidConstant => "invalid integer constant"
  | tooDeep => "expression recursion level exceeded"
  | badSubscript => "bad array subscript"
  | refused => ""

/-- An expression. `at_` is the rest of the text where a fault would be shown. -/
inductive Expression where
  | number (n : Int)
  | variable (p : Target) (at_ : Text)
  | negate (e : Expression)
  | complement (e : Expression)
  | isZero (e : Expression)
  | operation (o : Operation) (l r : Expression) (at_ : Text)
  | both (l r : Expression)
  | either (l r : Expression)
  | choice (test yes no : Expression)
  | assign (p : Target) (o : Option Operation) (e : Expression) (at_ : Text)
  | step (p : Target) (by_ : Int) (givesOld : Bool)
  | sequence (l r : Expression)
  | fault (f : FaultKind) (at_ : Text)
deriving Repr

namespace Expression

/-- The first fault in an expression, as far as it was read. -/
def fault? : Expression → Option (FaultKind × Text)
  | .number _ => none
  | .variable .. => none
  | .negate e => e.fault?
  | .complement e => e.fault?
  | .isZero e => e.fault?
  | .operation _ l r _ => l.fault?.or r.fault?
  | .both l r => l.fault?.or r.fault?
  | .either l r => l.fault?.or r.fault?
  | .choice test yes no => (test.fault?.or yes.fault?).or no.fault?
  | .assign _ _ e _ => e.fault?
  | .step .. => none
  | .sequence l r => l.fault?.or r.fault?
  | .fault f at_ => some (f, at_)

end Expression

namespace Arithmetic

/-- The number of 64 bits that is congruent to `n`. -/
def wrap (n : Int) : Int :=
  if -0x8000000000000000 ≤ n ∧ n ≤ 0x7fffffffffffffff then n else Int.bmod n (2 ^ 64)

def truth (b : Bool) : Int := if b then 1 else 0

def bits (n : Int) : Nat := (n % (2 ^ 64)).toNat

def ofBits (n : Nat) : Int := wrap n

def apply (o : Operation) (a b : Int) : Except FaultKind Int :=
  match o with
  | .or => .ok (ofBits (bits a ||| bits b))
  | .xor => .ok (ofBits (bits a ^^^ bits b))
  | .and => .ok (ofBits (bits a &&& bits b))
  | .equal => .ok (truth (a == b))
  | .differ => .ok (truth (a != b))
  | .below => .ok (truth (a < b))
  | .above => .ok (truth (b < a))
  | .atMost => .ok (truth (a ≤ b))
  | .atLeast => .ok (truth (b ≤ a))
  | .shiftLeft => .ok (wrap (a * 2 ^ (bits b % 64)))
  | .shiftRight => .ok (Int.fdiv a (2 ^ (bits b % 64)))
  | .add => .ok (wrap (a + b))
  | .subtract => .ok (wrap (a - b))
  | .multiply => .ok (wrap (a * b))
  | .divide => if b = 0 then .error .divisionByZero else .ok (wrap (Int.tdiv a b))
  | .remainder => if b = 0 then .error .divisionByZero else .ok (Int.tmod a b)
  | .power => if b < 0 then .error .negativeExponent else .ok (raise a (bits b) 64 1)
where
  /-- `acc * a ^ n`, by squaring. -/
  raise (a : Int) (n : Nat) : Nat → Int → Int
    | 0, acc => acc
    | k + 1, acc =>
      if n = 0 then acc
      else raise (wrap (a * a)) (n / 2) k (if n % 2 = 1 then wrap (acc * a) else acc)

/-! Numbers -/

/-- The value of a digit in a base up to 64, which may be too great for the base. -/
def digit (base : Nat) (s : Symbol) : Option Nat :=
  match s with
  | .char c =>
    if c.isDigit then some (c.toNat - '0'.toNat)
    else if c.isLower then some (c.toNat - 'a'.toNat + 10)
    else if c.isUpper then some (c.toNat - 'A'.toNat + (if base ≤ 36 then 10 else 36))
    else if c == '@' then some 62
    else if c == '_' then some 63
    else none
  | _ => none

/-- The number that digits spell, where a base may still be given before `#`. -/
def digits (base : Nat) (isFixed : Bool) : (value : Nat) → Text → Except FaultKind Int
  | value, [] => .ok (wrap value)
  | value, s :: t =>
    if s.is '#' then
      if isFixed then .error .invalidNumber
      else if value < 2 || 64 < value then .error .invalidBase
      else if t.head?.any fun d => (digit 64 d).isSome then inBase value 0 t
      else .error .invalidConstant
    else match digit base s with
      | some d => if base ≤ d then .error .tooGreat else digits base isFixed (value * base + d) t
      | none => .ok (wrap value)
where
  inBase (base : Nat) : (value : Nat) → Text → Except FaultKind Int
    | value, [] => .ok (wrap value)
    | value, s :: t =>
      if s.is '#' then .error .invalidNumber
      else match digit base s with
        | some d => if base ≤ d then .error .tooGreat else inBase base (value * base + d) t
        | none => .ok (wrap value)

/-- The number that a text spells: in the base before `#`, else in hexadecimal behind `0x`, in octal
behind `0`, or in decimal. -/
def number (t : Text) : Except FaultKind Int :=
  match t with
  | .char '0' :: .char 'x' :: r => digits 16 true 0 r
  | .char '0' :: .char 'X' :: r => digits 16 true 0 r
  | .char '0' :: s :: r => digits 8 true 0 (s :: r)
  | t => digits 10 false 0 t

/-! Tokens -/

inductive Mark where
  | assign
  | assignWith (o : Operation)
  | operation (o : Operation)
  | and | or | not | complement
  | stepBefore (by_ : Int) | stepAfter (by_ : Int)
  | open_ | close | question | colon | comma
deriving DecidableEq, Repr

inductive TokenKind where
  | number (n : Int)
  | name (p : Target)
  | mark (m : Mark)
  | bad (f : FaultKind)
deriving Repr

structure Token where
  kind : TokenKind
  /-- The text from the token on. -/
  at_ : Text
  /-- The text behind the token. -/
  after : Text
deriving Repr

/-- What the token before means for signs that are doubled. -/
inductive Before where
  | start
  | name
  | number
  /-- A name that is stepped by a sign before it. -/
  | stepped
  | stepMark
  | other
deriving DecidableEq

def isBlank (s : Symbol) : Bool := s.isAnyOf " \t\n\r"

/-- The text of an index up to its closing bracket. -/
def indexText : Nat → Text → Option (Text × Text)
  | _, [] => none
  | depth, s :: t =>
    if s.is ']' && depth = 0 then some ([], t)
    else
      let depth := if s.is '[' then depth + 1 else if s.is ']' then depth - 1 else depth
      (indexText depth t).map fun (a, r) => (s :: a, r)

/-- The mark at the start of a text, and the rest behind it. -/
def mark? (before : Before) : Text → Except FaultKind (Mark × Text)
  | .char '=' :: .char '=' :: r => .ok (.operation .equal, r)
  | .char '!' :: .char '=' :: r => .ok (.operation .differ, r)
  | .char '>' :: .char '=' :: r => .ok (.operation .atLeast, r)
  | .char '<' :: .char '=' :: r => .ok (.operation .atMost, r)
  | .char '<' :: .char '<' :: .char '=' :: r => .ok (.assignWith .shiftLeft, r)
  | .char '<' :: .char '<' :: r => .ok (.operation .shiftLeft, r)
  | .char '>' :: .char '>' :: .char '=' :: r => .ok (.assignWith .shiftRight, r)
  | .char '>' :: .char '>' :: r => .ok (.operation .shiftRight, r)
  | .char '&' :: .char '&' :: r => .ok (.and, r)
  | .char '|' :: .char '|' :: r => .ok (.or, r)
  | .char '*' :: .char '*' :: r => .ok (.operation .power, r)
  | .char '+' :: .char '+' :: r => doubled '+' 1 .add r
  | .char '-' :: .char '-' :: r => doubled '-' (-1) .subtract r
  | .char '*' :: .char '=' :: r => .ok (.assignWith .multiply, r)
  | .char '/' :: .char '=' :: r => .ok (.assignWith .divide, r)
  | .char '%' :: .char '=' :: r => .ok (.assignWith .remainder, r)
  | .char '+' :: .char '=' :: r => .ok (.assignWith .add, r)
  | .char '-' :: .char '=' :: r => .ok (.assignWith .subtract, r)
  | .char '&' :: .char '=' :: r => .ok (.assignWith .and, r)
  | .char '^' :: .char '=' :: r => .ok (.assignWith .xor, r)
  | .char '|' :: .char '=' :: r => .ok (.assignWith .or, r)
  | .char '=' :: r => .ok (.assign, r)
  | .char '>' :: r => .ok (.operation .above, r)
  | .char '<' :: r => .ok (.operation .below, r)
  | .char '+' :: r => .ok (.operation .add, r)
  | .char '-' :: r => .ok (.operation .subtract, r)
  | .char '*' :: r => .ok (.operation .multiply, r)
  | .char '/' :: r => .ok (.operation .divide, r)
  | .char '%' :: r => .ok (.operation .remainder, r)
  | .char '!' :: r => .ok (.not, r)
  | .char '(' :: r => .ok (.open_, r)
  | .char ')' :: r => .ok (.close, r)
  | .char '&' :: r => .ok (.operation .and, r)
  | .char '|' :: r => .ok (.operation .or, r)
  | .char '^' :: r => .ok (.operation .xor, r)
  | .char '~' :: r => .ok (.complement, r)
  | .char '?' :: r => .ok (.question, r)
  | .char ':' :: r => .ok (.colon, r)
  | .char ',' :: r => .ok (.comma, r)
  | _ => .error (match before with
    | .start | .stepMark | .other => .operandExpected
    | _ => .invalidOperator)
where
  /-- Two equal signs: a step of a name before or behind them, or two signs. -/
  doubled (c : Char) (by_ : Int) (o : Operation) (r : Text) : Except FaultKind (Mark × Text) :=
    if before = .name || before = .stepped then
      if before = .name then .ok (.stepAfter by_, r) else .error (.increments c)
    else if (r.dropWhile isBlank).head?.any Symbol.isIdentifierStart then .ok (.stepBefore by_, r)
    else .ok (.operation o, .char c :: r)

/-- The tokens of a text, up to one that is bad. -/
def tokens : Nat → Before → Text → List Token
  | 0, _, _ => []
  | n + 1, before, t =>
    let t := t.dropWhile isBlank
    match t with
    | [] => []
    | s :: _ =>
      if s.isIdentifierStart then
        let name := t.takeWhile Symbol.isIdentifier
        let rest := t.drop name.length
        match rest with
        | .char '[' :: r =>
          match indexText 0 r with
          | some (i, r) => goOn n (.name ⟨name, some i⟩) (nameAfter before) t r
          | none => [⟨.bad .badSubscript, t, []⟩]
        | r => goOn n (.name ⟨name, none⟩) (nameAfter before) t r
      else if s.isDigit then
        let ds := t.takeWhile fun s => s.isIdentifier || s.is '#' || s.is '@'
        match number ds with
        | .ok k => goOn n (.number k) .number t (t.drop ds.length)
        | .error f => [⟨.bad f, ds, []⟩]
      else match mark? before t with
        | .error f => [⟨.bad f, t, []⟩]
        | .ok (m, r) =>
          let before : Before := match m with
            | .stepBefore _ => .stepMark
            | .stepAfter _ => .number
            | _ => .other
          goOn n (.mark m) before t r
where
  nameAfter (before : Before) : Before := if before = .stepMark then .stepped else .name
  goOn (n : Nat) (kind : TokenKind) (before : Before) (at_ after : Text) : List Token :=
    ⟨kind, at_, after⟩ :: tokens n before after

/-! Reading -/

structure Reading where
  tokens : List Token
  /-- Where a fault would be shown. -/
  at_ : Text := []
  /-- Whether the last operand was no more than a name. -/
  isName : Bool := false

abbrev Parse := StateM Reading

def current : Parse (Option TokenKind) := do return (← get).tokens.head?.map (·.kind)

def isAt (m : Mark) : Parse Bool := do
  match ← current with
  | some (.mark k) => return k == m
  | _ => return false

/-- Stops reading with a fault. -/
def failed (f : FaultKind) : Parse Expression := do
  let at_ := (← get).at_
  modify fun r => { r with tokens := [], isName := false }
  return .fault f at_

/-- Passes over a token; a bad one behind it is a fault at once. -/
def advance : Parse (Option Expression) := modifyGet fun r =>
  match r.tokens with
  | _ :: ⟨.bad f, at_, _⟩ :: _ => (some (.fault f at_), { r with tokens := [], at_, isName := false })
  | _ :: t :: ts => (none, { r with tokens := t :: ts, at_ := t.at_ })
  | _ => (none, { r with tokens := [] })

/-- Passes over a token behind which an expression is complete. -/
def passing (e : Expression) (isName : Bool) : Parse Expression := do
  match ← advance with
  | some f => return f
  | none =>
    modify fun r => { r with isName }
    return e

/-- Passes over a token and reads what follows. -/
def behind (next : Parse Expression) : Parse Expression := do
  match ← advance with
  | some f => return f
  | none => next

/-- How tightly an operation of two operands binds. -/
def levelOf : Operation → Nat
  | .or => 3
  | .xor => 4
  | .and => 5
  | .equal | .differ => 6
  | .below | .above | .atMost | .atLeast => 7
  | .shiftLeft | .shiftRight => 8
  | .add | .subtract => 9
  | .multiply | .divide | .remainder => 10
  | .power => 11

mutual

def sequence : Nat → Parse Expression
  | 0 => failed .tooDeep
  | n + 1 => do
    let e ← assignment n
    if ← isAt .comma then return .sequence e (← behind (sequence n)) else return e

def assignment : Nat → Parse Expression
  | 0 => failed .tooDeep
  | n + 1 => do
    let e ← choice n
    let operation? ← do
      match ← current with
      | some (.mark .assign) => pure (some none)
      | some (.mark (.assignWith o)) => pure (some (some o))
      | _ => pure none
    match operation? with
    | none => return e
    | some o =>
      let isName := (← get).isName
      match e, isName with
      | .variable p _, true =>
        let r ← behind (assignment n)
        let at_ := (← get).at_
        modify fun r => { r with isName := false }
        return .assign p o r at_
      | e, _ => return .sequence e (← failed .notVariable)

def choice : Nat → Parse Expression
  | 0 => failed .tooDeep
  | n + 1 => do
    let test ← binary n 1
    if ← isAt .question then
      let yes ← behind do
        if (← current).isNone || (← isAt .colon) then failed .expressionExpected else sequence n
      if (yes.fault?).isSome then return .choice test yes (.number 0)
      if !(← isAt .colon) then
        return .choice test (.sequence yes (← failed .colonExpected)) (.sequence yes (.number 0))
      let no ← behind do
        if (← current).isNone then failed .expressionExpected else choice n
      modify fun r => { r with isName := false }
      return .choice test yes no
    else return test

/-- Operations of two operands that bind at least as tightly as `level`. -/
def binary : Nat → (level : Nat) → Parse Expression
  | 0, _ => failed .tooDeep
  | n + 1, level => do
    let l ← unary n
    following n level l

def following : Nat → (level : Nat) → Expression → Parse Expression
  | 0, _, _ => failed .tooDeep
  | n + 1, level, l => do
    match (← get).tokens.head? with
    | some ⟨.mark (.operation o), _, after⟩ =>
      let k := levelOf o
      if k < level then return l
      else
        let r ← behind (binary n (if o = .power then k else k + 1))
        let last := (← get).at_
        let at_ := if o = .power then last else after.dropWhile fun s => s.isAnyOf " \t"
        modify fun r => { r with isName := false }
        following n level (.operation o l r at_)
    | some ⟨.mark .and, _, _⟩ =>
      if 2 < level then return l
      else
        let r ← behind (binary n 3)
        modify fun r => { r with isName := false }
        following n level (.both l r)
    | some ⟨.mark .or, _, _⟩ =>
      if 1 < level then return l
      else
        let r ← behind (binary n 2)
        modify fun r => { r with isName := false }
        following n level (.either l r)
    | _ => return l

def unary : Nat → Parse Expression
  | 0 => failed .tooDeep
  | n + 1 => do
    let signed (make : Expression → Expression) : Parse Expression := do
      let e ← behind (unary n)
      modify fun r => { r with isName := false }
      return make e
    match ← current with
    | some (.mark .not) => signed .isZero
    | some (.mark .complement) => signed .complement
    | some (.mark (.operation .subtract)) => signed .negate
    | some (.mark (.operation .add)) => signed id
    | _ => primary n

def primary : Nat → Parse Expression
  | 0 => failed .tooDeep
  | n + 1 => do
    match (← get).tokens with
    | ⟨.number k, _, _⟩ :: _ => passing (.number k) false
    | ⟨.name p, _, _⟩ :: ⟨.mark (.stepAfter by_), _, _⟩ :: _ =>
      behind (passing (.step p by_ true) false)
    | ⟨.name p, at_, _⟩ :: _ => passing (.variable p at_) true
    | ⟨.mark (.stepBefore by_), _, _⟩ :: _ =>
      behind do
        match ← current with
        | some (.name p) => passing (.step p by_ false) false
        | _ => failed .nameExpected
    | ⟨.mark .open_, _, _⟩ :: _ =>
      let e ← behind (sequence n)
      if (e.fault?).isSome then return e
      else if ← isAt .close then passing e false
      else return .sequence e (← failed .parenthesisExpected)
    | _ => failed .operandExpected

end

/-- Reads an expression; an empty one is zero. -/
def read (t : Text) : Expression :=
  match tokens (t.length + 1) .start t with
  | [] => .number 0
  | ⟨.bad f, at_, _⟩ :: _ => .fault f at_
  | first :: rest =>
    let (e, r) := (sequence (20 * t.length + 40)).run { tokens := first :: rest, at_ := first.at_ }
    if r.tokens.isEmpty then e else .sequence e (.fault .trailing r.at_)

end Arithmetic
end Tangle.Shell
