import Tangle.Host.Shell.Builtin.Usage
import Tangle.Host.Shell.Condition

/-! # Tests of arguments

The commands `test` and `[`. What a few arguments mean depends on how many there are; more of them are read as
tests that are joined by `-a` and `-o`. -/
namespace Tangle.Shell.Builtin
open Run

/-- What tests come to: an answer, or what is wrong with them. -/
abbrev Tested := ExceptT Text Run

def isBinaryTest (op : Text) : Bool :=
  isNumberTest op || ["=", "==", "!=", "<", ">", "-nt", "-ot", "-ef"].any fun (o : String) => op = (o : Text)

def isUnaryTest (op : Text) : Bool := Read.isUnary op

/-- A number among the arguments. -/
def testNumber (t : Text) : Tested Int := do
  match integerOf? t with
  | some n => return n
  | none => throw (t ++ ": integer expression expected")

def binaryTest (a op b : Text) : Tested Bool := do
  if op = ("=" : Text) || op = ("==" : Text) then return a == b
  else if op = ("!=" : Text) then return a != b
  else if op = ("<" : Text) then return textLess a b
  else if op = (">" : Text) then return textLess b a
  else if isNumberTest op then
    let x ← testNumber a
    let y ← testNumber b
    return compareNumbers op x y
  else compareFiles op a b

def unaryTestText (op t : Text) : Tested Bool := do
  match op with
  | [_, .char l] => unaryTest l t
  | _ => return false

/-! Few arguments -/

def testTwo (a b : Text) : Tested Bool := do
  if a = ("!" : Text) then return b.isEmpty
  else if isUnaryTest a then unaryTestText a b
  else throw (a ++ ": unary operator expected")

def testThree (a op b : Text) : Tested Bool := do
  if isBinaryTest op then binaryTest a op b
  else if op = ("-a" : Text) then return !a.isEmpty && !b.isEmpty
  else if op = ("-o" : Text) then return !a.isEmpty || !b.isEmpty
  else if a = ("!" : Text) then return !(← testTwo op b)
  else if a = ("(" : Text) && b = (")" : Text) then return !op.isEmpty
  else throw (op ++ ": binary operator expected")

/-! Many arguments -/

/-- Reads tests from the front of a list of arguments. -/
abbrev TestReader := StateT (List Text) Tested

namespace TestReader

def isNext (word : Text) : TestReader Bool := do return (← get).head? = some word

def skip : TestReader Unit := modify (·.drop 1)

/-- Makes sure that there are more arguments. -/
def need : TestReader Unit := do if (← get).isEmpty then throw (Text.ofString "argument expected")

end TestReader

mutual

/-- Alternatives joined by `-o`. -/
def testEither : Nat → TestReader Bool
  | 0 => throw (Text.ofString "too many arguments")
  | n + 1 => do
    let a ← testBoth n
    if !(← TestReader.isNext "-o") then return a
    TestReader.skip
    let b ← testEither n
    return a || b

/-- Tests joined by `-a`. -/
def testBoth : Nat → TestReader Bool
  | 0 => throw (Text.ofString "too many arguments")
  | n + 1 => do
    let a ← testSingle n
    if !(← TestReader.isNext "-a") then return a
    TestReader.skip
    let b ← testBoth n
    return a && b

def testSingle : Nat → TestReader Bool
  | 0 => throw (Text.ofString "too many arguments")
  | n + 1 => do
    TestReader.need
    match ← get with
    | a :: rest =>
      if a = ("!" : Text) then
        TestReader.skip
        TestReader.need
        return !(← testSingle n)
      else if a = ("(" : Text) then
        TestReader.skip
        TestReader.need
        let b ← testEither n
        match (← get).head? with
        | none => throw ("\x60)' expected" : Text)
        | some t =>
          if t ≠ (")" : Text) then throw ("\x60)' expected, found " ++ t)
          TestReader.skip
          return b
      else
        match rest with
        | op :: b :: rest' =>
          if isBinaryTest op then
            set rest'
            binaryTest a op b
          else if isUnaryTest a then
            set (b :: rest')
            unaryTestText a op
          else
            set rest
            return !a.isEmpty
        | [b] =>
          set (if isUnaryTest a then [] else rest)
          if isUnaryTest a then unaryTestText a b else return !a.isEmpty
        | [] =>
          set rest
          return !a.isEmpty
    | [] => return false

end

/-- Many arguments, which must all be used. -/
def testMany (ts : List Text) : Tested Bool := do
  let (answer, rest) ← (testEither (4 * ts.length + 8)).run ts
  match rest with
  | [] => return answer
  | t :: _ =>
    if t.head?.any (·.is '-') then throw ("syntax error: \x60" ++ t ++ "' unexpected")
    else throw (Text.ofString "too many arguments")

def testArguments (ts : List Text) : Tested Bool := do
  match ts with
  | [] => return false
  | [t] => return !t.isEmpty
  | [a, b] => testTwo a b
  | [a, b, c] => testThree a b c
  | [a, b, c, d] =>
    if a = ("!" : Text) then return !(← testThree b c d)
    else if a = ("(" : Text) && d = (")" : Text) then testTwo b c
    else testMany ts
  | _ => testMany ts

/-- The status of the test that arguments make, given how its faults are told. -/
def testWith (complain : Text → Run Unit) (ts : List Text) : Run Nat := do
  match ← (testArguments ts).run with
  | .ok answer => return testStatus (some answer)
  | .error message =>
    complain message
    return testStatus none

/-- A test between brackets, the last of which must be there. -/
def bracketWith (complain : Text → Run Unit) (ts : List Text) : Run Nat := do
  if ts.getLast? = some ("]" : Text) then testWith complain ts.dropLast
  else
    complain "missing \x60]'"
    return testStatus none

def test (args : List Text) : Run Nat := testWith (tell "test") args

def bracket (args : List Text) : Run Nat := bracketWith (tell "[") args

end Tangle.Shell.Builtin
