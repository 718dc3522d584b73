import Tangle.Host.Shell.Prompt
import Tangle.Host.Shell.Subshell
import Tangle.Host.Shell.Brace
import Tangle.Host.Shell.Field

/-! # Expansion

What a word comes to: braces, then tildes, parameters, commands and arithmetic, then the cut into fields,
then file names. In quotation marks nothing is cut, and only the elements of a list stay apart. -/
namespace Tangle.Shell.Run

/-- What a parameter gives: nothing, a text, or elements, which `joined` puts together. -/
inductive Given where
  | nothing
  | one (t : Text)
  | many (ts : List Text) (joined : Bool)
deriving DecidableEq, Repr

namespace Given

def isNull (ifEmpty : Bool) : Given → Bool
  | nothing => true
  | one t => ifEmpty && t.isEmpty
  | many ts _ => ts.isEmpty || (ifEmpty && ts.all (·.isEmpty))

def map (f : Text → Text) : Given → Given
  | nothing => nothing
  | one t => one (f t)
  | many ts joined => many (ts.map f) joined

end Given

/-- The pieces that stand for a value. -/
def givenPieces (isQuoted : Bool) (joiner : Text) : Given → List Piece
  | .nothing => if isQuoted then [.text true []] else []
  | .one t => if isQuoted then [.text true t] else [.result t]
  | .many ts joined =>
    if isQuoted && joined then [.text true (Text.join joiner ts)]
    else if isQuoted then
      if ts.isEmpty then [.absent] else between (ts.map fun t => [.mark, .text true t])
    else between (ts.map fun t => [.result t])
where
  between (ps : List (List Piece)) : List Piece := [Piece.next].intercalate ps

def wordSeparators : Run Text := do
  match (← binding? "IFS").bind Variable.plain? with
  | some t => return t
  | none => return " \t\n"

def badSubstitution {α : Type} (t : Text) : Run α := do
  complain (t ++ ": bad substitution")
  setStatus 1
  throw .discard

/-- The value of a name with an index given as text. -/
def givenAt (name : Text) (index : Text) : Run Given := do
  if index = ("@" : Text) || index = ("*" : Text) then
    return .many (((← seen? name).map Variable.elements).getD []) (index = ("*" : Text))
  match ← textAt name (some index) position with
  | some t => return .one t
  | none => return .nothing

/-- The value of a parameter that is named by a text, such as the value of another one. -/
def givenOfText (t : Text) : Run Given := do
  match t with
  | [.char '@'] => return .many (← process).positional false
  | [.char '*'] => return .many (← process).positional true
  | _ =>
    match ← special? t with
    | some v => return (v.map Given.one).getD .nothing
    | none =>
      let (name, index) ← targetOf (splitIndex t).1 (splitIndex t).2
      match index with
      | some i => givenAt name i
      | none => return (((← seen? name).bind Variable.plain?).map Given.one).getD .nothing

section
variable (run : Command → Run Unit)

/-! Tildes -/

/-- The home directories of the users of the system. -/
def homes : List (String × String) := [
  ("root", "/root"), ("daemon", "/usr/sbin"), ("bin", "/bin"), ("sys", "/dev"), ("sync", "/bin"),
  ("games", "/usr/games"), ("man", "/var/cache/man"), ("lp", "/var/spool/lpd"), ("mail", "/var/mail"),
  ("news", "/var/spool/news"), ("uucp", "/var/spool/uucp"), ("proxy", "/bin"), ("www-data", "/var/www"),
  ("backup", "/var/backups"), ("list", "/var/list"), ("irc", "/run/ircd"), ("_apt", "/nonexistent"),
  ("nobody", "/nonexistent")]

/-- The place in the stack of directories that a number means, perhaps counted from its end. -/
def stackPlace? (t : Text) : Option (Bool × Nat) :=
  let number (isFromEnd : Bool) (digits : Text) : Option (Bool × Nat) :=
    if !digits.isEmpty && digits.all Symbol.isDigit then
      some (isFromEnd, (Escape.number 10 digits.length digits).1)
    else none
  match t with
  | .char '-' :: digits => number true digits
  | .char '+' :: digits => number false digits
  | digits => number false digits

/-- The directory that the text behind a tilde means. -/
def home? (user : Text) : Run (Option Text) := do
  if user.isEmpty then
    match (← binding? "HOME").bind Variable.plain? with
    | some h => return some h
    | none => return some "/root"
  else if user = ("+" : Text) then return (← binding? "PWD").bind Variable.plain?
  else if user = ("-" : Text) then return (← binding? "OLDPWD").bind Variable.plain?
  else
    match stackPlace? user with
    | some (isFromEnd, n) =>
      let p ← process
      let all := p.here :: p.directoryStack
      return (if isFromEnd then all.reverse else all)[n]?
    | none => return (homes.find? fun e => user = (e.1 : Text)).map fun e => Text.ofString e.2

/-- Replaces a tilde at the start of a text that goes on to a slash, or to a colon in an
assignment. -/
def tilde (isAssignment hasMore : Bool) (t : Text) : Run (List Part) := do
  match t with
  | .char '~' :: r =>
    let user := r.takeWhile fun s => !s.is '/' && !(isAssignment && s.is ':')
    let after := r.drop user.length
    if after.isEmpty && hasMore then return [.plain t]
    match ← home? user with
    | some h => return .quoted h :: (if after.isEmpty then [] else [.plain after])
    | none => return [.plain t]
  | _ => return [.plain t]

def tildes (ps : List Part) : Run (List Part) := do
  match ps with
  | .plain t :: rest => return (← tilde false (!rest.isEmpty) t) ++ rest
  | ps => return ps

/-- Replaces tildes at the start of a value and behind its colons. -/
def assignedTildes : Nat → List Part → Run (List Part)
  | 0, ps => return ps
  | n + 1, ps => do
    match ps with
    | .plain t :: rest =>
      let head := t.takeWhile (!·.is ':')
      let after := t.drop head.length
      let first ← tilde true (!rest.isEmpty && after.isEmpty) head
      match after with
      | c :: after =>
        let more ← assignedTildes n (if after.isEmpty then rest else .plain after :: rest)
        return first ++ .plain [c] :: (if after.isEmpty then rest else more)
      | [] => return first ++ rest
    | ps => return ps

/-- The length of the name and the sign with which a text begins, if it is that of an assignment. -/
def assignedLength (t : Text) : Nat :=
  let name := t.takeWhile Symbol.isIdentifier
  if !name.head?.any Symbol.isIdentifierStart then 0
  else match t.drop name.length with
    | .char '=' :: _ => name.length + 1
    | .char '+' :: .char '=' :: _ => name.length + 2
    | _ => 0

/-- Replaces the tildes of an argument; one that looks like an assignment has them where a value has. -/
def argumentTildes (ps : List Part) : Run (List Part) := do
  match ps with
  | .plain t :: rest =>
    match if ← isOn "posix" then 0 else assignedLength t with
    | 0 => return (← tilde false (!rest.isEmpty) t) ++ rest
    | n =>
      let after := t.drop n
      if after.isEmpty then
        match rest with
        | .plain _ :: _ => return .plain t :: (← assignedTildes (t.length + rest.length + 1) rest)
        | _ => return ps
      else return .plain (t.take n) :: (← assignedTildes (t.length + 1) (.plain after :: rest))
  | ps => return ps

/-! Uses of a parameter -/

section
variable (expand : Bool → List Part → Run (List Piece))

/-- The parts as one text, quotation marks removed. -/
def wholeText (isQuoted : Bool) (ps : List Part) : Run Text := do
  return (Glyph.text (Field.whole " " (← expand isQuoted ps))).normal

def wholeGlyphs (ps : List Part) : Run (List Glyph) := do
  return Field.whole " " (← expand false ps)

def patternOf (ps : List Part) : Run (List Pattern) := do
  return Pattern.ofGlyphs (← isExtended "extglob") (← wholeGlyphs expand ps)

def numberOf (ps : List Part) : Run Int := do
  let t ← wholeText expand true ps
  calculatedOrDiscard t

/-- The key or expression in an index. -/
def indexText (ps : List Part) : Run Text := wholeText expand true ps

def parameterGiven (name : Text) (index : Index) : Run Given := do
  match index with
  | .none => givenOfText name
  | .all => return .many (((← seen? (← resolved name)).map Variable.elements).getD []) false
  | .joined => return .many (((← seen? (← resolved name)).map Variable.elements).getD []) true
  | .at ps =>
    let (name, inner) ← targetOf name none
    match inner with
    | some i => givenAt name i
    | none =>
      match ← textAt name (some (← indexText expand ps)) position with
      | some t => return .one t
      | none => return .nothing

/-- The text by which a parameter is named. -/
def nameText (name : Text) (index : Index) : Run Text := do
  match index with
  | .none => return name
  | .all => return name ++ "[@]"
  | .joined => return name ++ "[*]"
  | .at ps => return name ++ "[" ++ (← indexText expand ps) ++ "]"

/-- What is put in place of a match: an unquoted `&` stands for the match itself. -/
def replacement (gs : List Glyph) (refers : Bool) (found : Text) : Text :=
  gs.flatMap fun g => if refers && g.is '&' then found else [g.symbol]

def replaced (extent : Extent) (ps : List Pattern) (by_ : Text → Text) (t : Text) : Text :=
  match extent with
  | .once => Pattern.replaceFirst ps by_ t
  | .everywhere => Pattern.replaceAll ps by_ (t.length + 1) t
  | .atStart =>
    match Pattern.longestMatch ps false t with
    | some r => by_ (t.take (t.length - r.length)) ++ r
    | none => t
  | .atEnd =>
    let head := Pattern.trimEnd ps true t
    if head.length < t.length || Pattern.isMatch ps false [] then head ++ by_ (t.drop head.length) else t

def recased (letterCase : LetterCase) (isAll : Bool) (ps : List Pattern) (t : Text) : Text :=
  let change (s : Symbol) : Symbol :=
    if ps.isEmpty || Pattern.isMatch ps false [s] then
      match letterCase with
      | .upper => s.toUpper
      | .lower => s.toLower
      | .toggled => s.swapCase
    else s
  match t with
  | [] => []
  | s :: r => if isAll then t.map change else change s :: r

/-- The part of a sequence from an offset on, for a length; both may count from the end. -/
def slice {α : Type} (xs : List α) (offset : Int) (length : Option Int) : Option (List α) :=
  let size : Int := xs.length
  let from_ := if offset < 0 then offset + size else offset
  if from_ < 0 || size < from_ then some []
  else match length with
    | none => some (xs.drop from_.toNat)
    | some n =>
      let count := if n < 0 then size + n - from_ else n
      if count < 0 then none else some ((xs.drop from_.toNat).take count.toNat)

/-- The elements of a list from an index on. -/
def sliceElements (es : List (Nat × Text)) (offset : Int) (length : Option Int) : Option (List Text) :=
  let next : Int := (es.getLast?.map fun e => ((e.1 + 1 : Nat) : Int)).getD 0
  let from_ := if offset < 0 then offset + next else offset
  if from_ < 0 then some []
  else
    let rest := (es.filter fun e => from_ ≤ e.1).map (·.2)
    match length with
    | none => some rest
    | some n => if n < 0 then none else some (rest.take n.toNat)

def requoted (t : Text) : Text :=
  if needsEscapes t then dollarQuoted t else "'" ++ Text.replaceAll (.char '\'') "'\\''" t ++ "'"

def transformed (letter : Char) (t : Text) : Text :=
  match letter with
  | 'Q' => requoted t
  | 'K' => requoted t
  | 'k' => t
  | 'E' => (Escape.run .quoted t).1
  | 'U' => t.map Symbol.toUpper
  | 'u' => recased .upper false [] t
  | 'L' => t.map Symbol.toLower
  | _ => t

/-- The flags of a variable, or the command that would assign it. -/
def described (letter : Char) (name : Text) (isWhole : Bool) : Run Given := do
  match ← binding? (← resolved name) with
  | none => return .nothing
  | some v =>
    if letter = 'a' then return if v.flags.isEmpty then .nothing else .one v.flags
    else if isWhole then return .one (v.declaration name)
    else match v.plain? with
      | none => return .nothing
      | some t =>
        let assignment := name ++ "=" ++ requoted t
        return .one (if v.flags.isEmpty then assignment else "declare -" ++ v.flags ++ " " ++ assignment)

/-- The keys and values of a variable, as words. -/
def pairs (letter : Char) (v : Variable) : List Text :=
  (v.keys.zip v.elements).flatMap fun (k, t) => if letter = 'k' then [k, t] else [Variable.keyText k, valueQuoted t]

def isWholeIndex (name : Text) (index : Index) : Bool :=
  match index with
  | .all | .joined => true
  | _ => name = ("@" : Text) || name = ("*" : Text)

def sliceGiven (name : Text) (index : Index) (g : Given) (offset : Int) (length : Option Int) :
    Run (Option Given) := do
  match g with
  | .nothing => return some .nothing
  | .one t => return (slice t offset length).map Given.one
  | .many ts joined =>
    match index with
    | .none =>
      let p ← process
      if offset = 0 then return (slice (p.scriptName :: ts) offset length).map (Given.many · joined)
      else
        let offset := if 0 < offset then offset - 1 else offset
        return (slice ts offset length).map (Given.many · joined)
    | _ =>
      match (← seen? (← resolved name)).map (fun (v : Variable) => v.value) with
      | some (.list es) => return (sliceElements es offset length).map (Given.many · joined)
      | _ => return (slice ts offset length).map (Given.many · joined)

def mapped (g : Given) (f : Text → Run Text) : Run Given := do
  match g with
  | .nothing => return .nothing
  | .one t => return .one (← f t)
  | .many ts joined => return .many (← ts.mapM f) joined

/-- The value of a parameter that is used in a certain way, as pieces. -/
def usePieces (isQuoted : Bool) (name : Text) (isIndirect : Bool) (index : Index) (use : Use) :
    Run (List Piece) := do
  let joiner ← joiner
  let pieces (g : Given) : List Piece := givenPieces isQuoted joiner g
  /- The parameter that is meant, after one step through another one. -/
  let isReference := isIndirect && (← binding? name).any (fun (v : Variable) => v.isReference)
  let keysAsked := isIndirect && (match index, use with
    | .all, .value => true
    | .joined, .value => true
    | _, _ => false)
  if keysAsked then
    let ks := ((← seen? (← resolved name)).map Variable.keys).getD []
    return pieces (.many ks (match index with | .joined => true | _ => false))
  if isReference then
    match (← binding? name).map (fun (v : Variable) => v.value) with
    | some (.text t) => return pieces (.one t)
    | _ => return pieces .nothing
  let direct ← parameterGiven expand name index
  let (target, index, given) ← if !isIndirect then pure (name, index, direct)
    else match direct with
      | .one t =>
        let (n, i) := splitIndex t
        let index : Index := match i with
          | none => .none
          | some i => if i = ("@" : Text) then .all else if i = ("*" : Text) then .joined else .at [.plain i]
        if isName n || !((← special? n).isNone) || n = ("@" : Text) || n = ("*" : Text) then
          pure (n, index, ← givenOfText t)
        else badSubstitution t
      | _ =>
        if ← isOn "nounset" then unbound name
        badSubstitution name
  let needed (g : Given) : Run Given := do
    match g with
    | .nothing => if ← isOn "nounset" then unbound (← nameText expand target index) else return g
    | _ => return g
  let afterGlyphs (ps : List Part) : Run (List Pattern) := patternOf expand ps
  match use with
  | .value => return pieces (← needed given)
  | .length =>
    let n ← match ← needed given with
      | .nothing => pure 0
      | .one t => pure t.length
      | .many ts _ => pure ts.length
    return pieces (.one (Text.ofNat n))
  | .orElse ifEmpty ps => if given.isNull ifEmpty then expand isQuoted ps else return pieces given
  | .andThen ifEmpty ps => if given.isNull ifEmpty then return pieces (.nothing) else expand isQuoted ps
  | .orAssign ifEmpty ps =>
    if given.isNull ifEmpty then
      let t ← wholeText expand isQuoted ps
      if !isName target then badSubstitution target
      let i ← match index with
        | .at is => some <$> indexText expand is
        | _ => pure none
      if !(← assign target i false t) then setStatus 1; throw .discard
      return pieces (.one t)
    else return pieces given
  | .orFail ifEmpty ps =>
    if given.isNull ifEmpty then
      let t ← wholeText expand isQuoted ps
      let reason : Text := if !t.isEmpty then t
        else if ifEmpty then "parameter null or not set" else "parameter not set"
      complain (target ++ ": " ++ reason)
      throw (.fatal 1)
    else return pieces given
  | .trim fromEnd longest ps =>
    let p ← afterGlyphs ps
    let given ← needed given
    return pieces (given.map fun t => if fromEnd then Pattern.trimEnd p longest t else Pattern.trimStart p longest t)
  | .replace extent pattern by_ =>
    let p ← afterGlyphs pattern
    let gs ← wholeGlyphs expand by_
    let refers ← isExtended "patsub_replacement"
    let given ← needed given
    return pieces (given.map (replaced extent p (replacement gs refers)))
  | .slice offset length =>
    let given ← needed given
    let o ← numberOf expand offset
    let n ← match length with
      | some ps => some <$> numberOf expand ps
      | none => pure none
    match ← sliceGiven target index given o n with
    | some g => return pieces g
    | none =>
      let shown ← match length with
        | some ps => wholeText expand true ps
        | none => pure []
      complain (shown ++ ": substring expression < 0")
      setStatus 1
      throw .discard
  | .recase letterCase isAll ps =>
    let p ← afterGlyphs ps
    let given ← needed given
    return pieces (given.map (recased letterCase isAll p))
  | .transform letter =>
    if letter = 'a' || letter = 'A' then
      return pieces (← described letter target (isWholeIndex target index))
    else if letter = 'P' then
      return pieces (← mapped (← needed given) fun t => do
        wholeText expand true (Read.quotedParts (← prompt (t.length + 1) t)))
    else if (letter = 'K' || letter = 'k') && isWholeIndex target index then
      match ← seen? (← resolved target) with
      | none => return pieces .nothing
      | some v =>
        let ts := pairs letter v
        if letter = 'k' then return pieces (.many ts false)
        else return pieces (.one (Text.join " " ts ++ (if v.isTable then " " else "")))
    else return pieces ((← needed given).map (transformed letter))

end

/-- The names of variables that begin with a stem. -/
def namesFrom (stem : Text) : Run (List Text) := do
  let names := (← visible).filterMap fun (n, v) => if v.value == .none then none else some n
  return sortedNames ((names ++ dynamicNames).eraseDups.filter (·.startsWith stem))

def isAbsent (p : Piece) : Bool := p == .absent

/-- The pieces of some parts, with operands as deep inside one another as the number allows. -/
def piecesOf : Nat → Bool → List Part → Run (List Piece)
  | 0, _, _ => throw .exhausted
  | n + 1, isQuoted, ps => do
    let pss ← ps.mapM fun p => do
      match p with
      | .plain t => return [Piece.text isQuoted t]
      | .quoted t => return [Piece.mark, .text true t]
      | .double ps =>
        let inner ← piecesOf n true ps
        if !inner.isEmpty && inner.all isAbsent then return inner
        else return .mark :: inner.filter (!isAbsent ·)
      | .parameter name isIndirect index use =>
        usePieces (piecesInOperand n) isQuoted name isIndirect index use
      | .names stem joined =>
        return givenPieces isQuoted (← joiner) (.many (← namesFrom stem) joined)
      | .substitution c =>
        let t ← captureText run c
        return if isQuoted then [.text true t] else [.result t]
      | .backquotes t =>
        let t ← capturedText run t
        return if isQuoted then [.text true t] else [.result t]
      | .arithmetic ps =>
        let t := Glyph.text (Field.whole " " (← piecesOf n true ps))
        let k ← calculatedOrDiscard t.normal
        let t := Text.ofInt k
        return if isQuoted then [.text true t] else [.result t]
      | .process isRead c => return [.text isQuoted (← openProcess run isRead c)]
      | .bad source => badSubstitution source
    return pss.flatten
where
  /-- The pieces of an operand: its plain text is cut like the result that it stands for. -/
  piecesInOperand (n : Nat) (isQuoted : Bool) (ps : List Part) : Run (List Piece) := do
    let ps ← match ps with
      | .plain t :: rest => if isQuoted then pure ps else pure ((← tilde false (!rest.isEmpty) t) ++ rest)
      | _ => pure ps
    let pieces ← piecesOf n isQuoted ps
    return pieces.map fun
      | .text false t => .result t
      | p => p

def greatestNesting : Nat := 300

def pieces (isQuoted : Bool) (ps : List Part) : Run (List Piece) := piecesOf run greatestNesting isQuoted ps

/-! Words -/

/-- A word as one text: nothing is cut and no file names are matched. -/
def oneText (w : Word) : Run Text := do
  let ps ← tildes w.parts
  return (Glyph.text (Field.whole " " (← pieces run false ps))).normal

/-- The value of an assignment. -/
def valueOf (w : Word) : Run Text := do
  let ps ← assignedTildes (w.source.length + 1) w.parts
  return (Glyph.text (Field.whole " " (← pieces run false ps))).normal

/-- A word as a pattern. -/
def glyphsOf (w : Word) : Run (List Glyph) := do
  let ps ← tildes w.parts
  return Field.whole " " (← pieces run false ps)

/-- The text of a here-document or of an arithmetic expression. -/
def quotedText (ps : List Part) : Run Text := do
  return (Glyph.text (Field.whole " " (← pieces run true ps))).normal

/-- The names of files that a field matches, or the text of the field. -/
def filenames (gs : List Glyph) : Run (List Text) := do
  let literal := [(Glyph.text gs).normal]
  let extended ← isExtended "extglob"
  if (← isOn "noglob") || !(Pattern.isActive extended gs) then return literal
  let m : Field.Matching := {
    extended, matchesDots := ← isExtended "dotglob", ignoresCase := ← isExtended "nocaseglob"
    descends := ← isExtended "globstar"
    skipsDots := (← isExtended "globskipdots") || (← isExtended "dotglob")
    ignored := (Text.pieces (.char ':') (← text "GLOBIGNORE")).filterMap fun t =>
      if t.isEmpty then none else some (Pattern.ofGlyphs extended (Glyph.ofText false t)) }
  match Field.matching (← tree) m (← process).directory gs with
  | [] =>
    if ← isExtended "failglob" then
      complain ("no match: " ++ Glyph.text gs)
      setStatus 1
      throw .discard
    return if ← isExtended "nullglob" then [] else literal
  | found => return found

/-- The fields of a word. -/
def fieldsOf (w : Word) : Run (List Text) := do
  match w with
  | .mk _ [.plain t] =>
    if t.all Symbol.isIdentifier then return [t]
  | _ => pure ()
  let alternatives := if ← isOn "braceexpand" then Brace.words w.parts else [w.parts]
  let fss ← alternatives.mapM fun ps => do
    let ps ← argumentTildes ps
    let separators ← wordSeparators
    let fields := Field.cut separators (← pieces run false ps)
    return (← fields.mapM filenames).flatten
  return fss.flatten

def fields (ws : List Word) : Run (List Text) := do return (← ws.mapM (fieldsOf run)).flatten

end

end Tangle.Shell.Run
