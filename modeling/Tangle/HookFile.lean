import Tangle.Bindings
import Tangle.Definition
import Tangle.Files.Tree
import Tangle.Yaml.Value
import Tangle.Text.Blank

/-! # Hook files

A hook file is a mapping that gives the bindings which a document is compiled with: texts under the
names of languages, functions of the shell, and the names of functions that serve as hooks. What reads
a document from the bytes of a file is a parameter. -/
namespace Tangle.HookFile

open Yaml (Value Document)

inductive Fault where
  | unloadable (path : Text) (e : FileError)
  | malformed (path message : Text)
  /-- An error of another class. -/
  | failed (kind message : Text)
  | notMapping (path : Text)
  | keysUnordered
  | keyNotText (kind : Text)
  | unknownKeys (path : Text) (keys : List Text)
  | sectionNotMapping (key : Text)
  | entryNotText (key name : Text)
  | definition (name : Text) (f : DefinitionFault)
  | definesOther (name defined : Text)
  | notFunction (key : Text)
  | preludeNotText
deriving DecidableEq, Repr

def Fault.message : Fault → Text
  | unloadable p e => "Failed to load " ++ p ++ ": " ++ e.messageFor p
  | malformed p m => "Failed to parse " ++ p ++ ": " ++ m
  | failed _ m => m
  | notMapping p => p ++ ": top level must be a mapping"
  | keysUnordered => "keys of unlike kinds have no order"
  | keyNotText k => "sequence item 0: expected str instance, " ++ k ++ " found"
  | unknownKeys p ks => p ++ ": unknown keys: " ++ Text.join ", " ks
  | sectionNotMapping k => "'" ++ k ++ "' must be a mapping"
  | entryNotText k n => "'" ++ k ++ "." ++ n ++ "' must be a string"
  | definition n f => "functions." ++ n ++ ": " ++ f.message
  | definesOther n d => "functions." ++ n ++ " defines '" ++ d ++ "'"
  | notFunction k => "'" ++ k ++ "' must name a function defined under 'functions'"
  | preludeNotText => "'prelude' must be a string"

/-- Whether a fault is one of the file, as opposed to one of a value that cannot be read at all. -/
def Fault.isOfFile : Fault → Bool
  | failed .. | keysUnordered | keyNotText _ => false
  | unloadable _ e => e.isOfSystem
  | _ => true

/-- Why no document is read from bytes: they are malformed, or an error of another class comes up. -/
inductive ParseFault where
  | malformed (message : Text)
  | failed (kind message : Text)
deriving DecidableEq, Repr

namespace ParseFault

def fault (path : Text) : ParseFault → Fault
  | malformed m => .malformed path m
  | failed kind m => .failed kind m

def ofScalar (f : Yaml.ScalarFault) : ParseFault := .failed f.kind f.message

def ofValue : Yaml.ValueFault → ParseFault
  | .fault (.codePoint false) => .failed "ValueError" "chr() arg not in range(0x110000)"
  | .fault (.codePoint true) => .failed "OverflowError" "Python int too large to convert to C int"
  | .fault f => .malformed f.message
  | .scalar f => ofScalar f

end ParseFault

abbrev Parser := Bytes → Except ParseFault Document

abbrev Entries := List (Value × Value)

def knownKeys : List Text := [
  "templates", "after", "functions", "compilers", "misc", "file_header", "file_footer", "prelude"]

/-! Unknown keys -/

def isKnown (v : Value) : Bool :=
  match v with
  | .text t => knownKeys.contains t
  | _ => false

/-- The classes of keys that have an order among themselves. -/
inductive Class where
  | null
  | number
  | text
  | bytes
  | date
  | time
  | offsetTime
  | other
deriving DecidableEq

def classOf : Value → Class
  | .null => .null
  | .bool _ | .int _ | .float _ | .noNumber => .number
  | .text _ => .text
  | .bytes _ => .bytes
  | .moment m => match m.time with
    | none => .date
    | some t => if t.offset.isSome then .offsetTime else .time
  | _ => .other

/-- A number as a fraction, with the infinities as large ones. -/
def fractionOf : Value → Int × Nat
  | .bool b => (if b then 1 else 0, 1)
  | .int n => (n, 1)
  | .float (.infinite s) => (if s then -(2 ^ 2000) else 2 ^ 2000, 1)
  | .float x => x.signedFraction
  | _ => (0, 1)

def numberLe (v w : Value) : Bool :=
  let (n, d) := fractionOf v
  let (n', d') := fractionOf w
  n * d' ≤ n' * d

def text? : Value → Option Text
  | .text t => some t
  | _ => none

/-- The fault of keys that do not belong. They are listed in order, which only texts can be. -/
def unknownFault (path : Text) (keys : List Value) : Fault :=
  match keys with
  | [] => .unknownKeys path []
  | k :: ks =>
    if ks.any (classOf · ≠ classOf k) then .keysUnordered
    else match classOf k with
      | .text => .unknownKeys path ((keys.filterMap text?).mergeSort Text.le)
      | .number => .keyNotText (ks.foldl (fun m v => if numberLe m v then m else v) k).kindName
      | _ => .keyNotText k.kindName

/-! Sections -/

section
variable (d : Document) (config : Entries)

/-- The value of a key, where every void value counts as absent. -/
def present? (key : Text) : Option Value := (Value.get? config key).filter (!d.isVoid ·)

def keyText (v : Value) : Except Fault Text := v.keyText.mapError fun f => .failed f.kind f.message

/-- A key and its value, which has to be a text. -/
def textEntry (key : Text) (e : Value × Value) : Except Fault (Value × Text) := do
  match e.2 with
  | .text t => return (e.1, t)
  | _ => throw (.entryNotText key (← keyText e.1))

/-- A mapping of texts. Keys that read alike count as one. -/
def texts (key : Text) : Except Fault (Table Text) := do
  match present? d config key with
  | none => return {}
  | some (.map i) =>
    let es ← (d.entries i).mapM (textEntry key)
    return ({} : Table Text).setAll (← es.mapM fun e => do return (← keyText e.1, e.2))
  | some _ => throw (.sectionNotMapping key)

end

def checkFunction (f : Text × Text) : Except Fault Unit :=
  match definedName f.2 with
  | .error e => .error (.definition f.1 e)
  | .ok d => if d = f.1 then .ok () else .error (.definesOther f.1 d)

def functionNamed (functions : Table Text) (key : Text) (v : Value) : Except Fault Text :=
  match v with
  | .text n => if functions.contains n then .ok n else .error (.notFunction key)
  | _ => .error (.notFunction key)

def templates (path key : Text) (t : Table Text) : Table Template :=
  t.map fun name body => ⟨body, path ++ ":" ++ key ++ "." ++ name⟩

/-- The function that a key names, unless it is absent or null. -/
def hook? (config : Entries) (functions : Table Text) (key : Text) : Except Fault (Option Text) :=
  match Value.get? config key with
  | none | some .null => .ok none
  | some v => some <$> functionNamed functions key v

def compiler (functions : Table Text) (e : Text × Text) : Except Fault (Text × CompileHook) := do
  return (e.1, .shell (← functionNamed functions ("compilers." ++ e.1) (.text e.2)))

def prelude (d : Document) (config : Entries) : Except Fault Text :=
  match present? d config "prelude" with
  | none => .ok []
  | some (.text t) => .ok t
  | some _ => .error .preludeNotText

def bindings (path : Text) (d : Document) (config : Entries) : Except Fault Bindings := do
  let unknown := (config.map (·.1)).filter (!isKnown ·)
  if !unknown.isEmpty then throw (unknownFault path unknown)
  let functions ← texts d config "functions"
  functions.toList.forM checkFunction
  let languages ← texts d config "templates"
  let after ← texts d config "after"
  let compilers ← (← texts d config "compilers").toList.mapM (compiler functions)
  let misc ← hook? config functions "misc"
  let header ← hook? config functions "file_header"
  let footer ← hook? config functions "file_footer"
  return {
    templates := templates path "templates" languages
    after := templates path "after" after
    compilers := .ofList compilers
    functions
    misc := misc.map .shell
    fileHeader := header.map .shell
    fileFooter := footer.map .shell
    prelude := ← prelude d config }

/-- The mapping at the top of a file. A file without a document is an empty one. -/
def topLevel (path : Text) (d : Document) : Except Fault Entries :=
  match d.root with
  | .null => .ok []
  | .map i => .ok (d.entries i)
  | _ => .error (.notMapping path)

/-- The bindings of a file, whose document a parser makes. -/
def loadWith (parse : Parser) (t : Tree) (cwd : Place) (path : Path) : Except Fault Bindings :=
  match t.read cwd path with
  | .error e => .error (.unloadable path.text e)
  | .ok bytes =>
    match parse bytes with
    | .error f => .error (f.fault path.text)
    | .ok d => topLevel path.text d >>= bindings path.text d

/-- The parser that decodes all bytes, and makes a document of lines that end in a newline. -/
def decoding (parse : List Char → Except Yaml.ValueFault Document) : Parser := fun bytes =>
  match (Text.decode bytes).chars? with
  | none => .error (.failed "UnicodeDecodeError" "invalid text")
  | some cs => (parse (newlinesOnly cs)).mapError .ofValue

def load : Tree → Place → Path → Except Fault Bindings := loadWith (decoding Document.ofText)

end Tangle.HookFile
