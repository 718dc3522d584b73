import Tangle.Yaml.Token
import Tangle.Yaml.Kind

/-! # Nodes

The nodes of a document, which refer to one another by their numbers. An alias is the number of the node
that its anchor names, so a collection may be inside itself. -/
namespace Tangle.Yaml

inductive Content where
  | scalar (t : Text)
  | sequence (items : List Nat)
  | mapping (entries : List (Nat × Nat))
deriving Repr

structure Node where
  kind : Kind
  content : Content
deriving Repr

abbrev Graph := Array Node

namespace Node

/-- The names of the anchors passed so far with their nodes, and the fault that follows the tokens. -/
structure State where
  tokens : List Token
  fault : Option Fault := none
  graph : Graph := #[]
  anchors : List (Text × Nat) := []
  handles : List (Text × Text) := []

abbrev Read := StateT State (Except Fault)

def add (n : Node) : Read Nat := do
  let s ← get
  set { s with graph := s.graph.push n }
  return s.graph.size

def fill (i : Nat) (n : Node) : Read Nat := do
  modify fun s => { s with graph := s.graph.setIfInBounds i n }
  return i

/-- An empty place: nothing at all. -/
def nothing : Read Nat := add ⟨.null, .scalar []⟩

/-- What is said of a node before its content. -/
structure Properties where
  anchor : Option Text := none
  tag : Option Text := none

def peek : Read (Option Token) := do
  let s ← get
  match s.tokens, s.fault with
  | [], some f => throw f
  | ts, _ => return ts.head?

def advance : Read Unit := modify fun s => { s with tokens := s.tokens.tail }

def seesAny (ts : List Token) : Read Bool := do
  match ← peek with
  | some t => return ts.contains t
  | none => return false

def expect (t : Token) (what : String) : Read Unit := do
  if (← peek) = some t then advance else throw (.expected what)

/-- Passes a token if it is there. -/
def skips (t : Token) : Read Bool := do
  if (← peek) = some t then advance; return true else return false

def fullTag (h : Option Text) (suffix : Text) : Read Text := do
  match h with
  | none => return suffix
  | some h =>
    match (← get).handles.lookup h with
    | some stem => return stem ++ suffix
    | none => throw (.tag h)

def anchorHere : Read (Option Text) := do
  match ← peek with
  | some (.anchor n) => advance; return some n
  | _ => return none

def tagHere : Read (Option Text) := do
  match ← peek with
  | some (.tag h u) => advance; return some (← fullTag h u)
  | _ => return none

/-- An anchor and a tag, in either order. -/
def properties : Read Properties := do
  match ← anchorHere with
  | some a => return ⟨some a, ← tagHere⟩
  | none =>
    match ← tagHere with
    | some t => return ⟨← anchorHere, some t⟩
    | none => return {}

/-- The tag that leaves the kind of a node open. -/
def openTag : Text := "!"

def Properties.isOpen (p : Properties) : Bool := p.tag.all (· = openTag)

/-- The kind of a node, where one without a tag has the kind `d`. -/
def Properties.kind (p : Properties) (d : Kind) : Kind :=
  match p.tag with
  | none => d
  | some t => if t = openTag then d else .ofTag t

def Properties.scalarKind (p : Properties) (isPlain : Bool) (t : Text) : Kind :=
  p.kind (if isPlain || p.tag.isSome then .ofPlain t else .str)

/-- Binds the anchor of a node; no name is bound twice. -/
def bind (p : Properties) (i : Nat) : Read Unit := do
  match p.anchor with
  | none => pure ()
  | some a => modify fun s => { s with anchors := (a, i) :: s.anchors }

/-- The anchor of a node has to be a new one. -/
def checkAnchor (p : Properties) : Read Unit := do
  match p.anchor with
  | none => pure ()
  | some a => if ((← get).anchors.lookup a).isSome then throw (.anchor a)

def aliased (name : Text) : Read Nat := do
  match (← get).anchors.lookup name with
  | none => throw (.anchor name)
  | some i => return i

/-- Where a node stands: inside brackets, in a block, or as the value of a block mapping, where a
sequence need not be indented. -/
inductive Place where
  | flow
  | block
  | value
deriving DecidableEq

/-! The readers of collections take the reader of their parts. Each reads on until its collection is
closed; `fuel` bounds the number of parts. -/

section
variable (node : Place → Read Nat)

/-- A node, or nothing if one of some tokens stands in its place. -/
def nodeUnless (place : Place) (ends : List Token) : Read Nat := do
  if ← seesAny ends then nothing else node place

def blockItems : Nat → Read (List Nat)
  | 0 => throw (.expected "the end of a sequence")
  | fuel + 1 => do
    if ← skips .item then
      let n ← nodeUnless node .block [.item, .close]
      return n :: (← blockItems fuel)
    else
      expect .close "the end of a sequence"
      return []

def looseItems : Nat → Read (List Nat)
  | 0 => throw (.expected "the end of a sequence")
  | fuel + 1 => do
    if ← skips .item then
      let n ← nodeUnless node .block [.item, .key, .value, .close]
      return n :: (← looseItems fuel)
    else return []

def blockEntries : Nat → Read (List (Nat × Nat))
  | 0 => throw (.expected "the end of a mapping")
  | fuel + 1 => do
    if ← skips .key then
      let k ← nodeUnless node .value [.key, .value, .close]
      let v ← if ← skips .value then nodeUnless node .value [.key, .value, .close] else nothing
      return (k, v) :: (← blockEntries fuel)
    else
      expect .close "the end of a mapping"
      return []

/-- A value inside brackets, if there is one before the tokens that end it. -/
def flowValue (ends : List Token) : Read Nat := do
  if ← skips .value then nodeUnless node .flow (.comma :: ends) else nothing

def flowItem : Read Nat := do
  if ← skips .key then
    let k ← nodeUnless node .flow [.value, .comma, .closeBracket]
    let v ← flowValue node [.closeBracket]
    add ⟨.map, .mapping [(k, v)]⟩
  else node .flow

def flowItems : Nat → Bool → Read (List Nat)
  | 0, _ => throw (.expected "a closing bracket")
  | fuel + 1, isFirst => do
    if ← skips .closeBracket then return []
    if !isFirst then expect .comma "a comma or a closing bracket"
    if ← skips .closeBracket then return []
    let n ← flowItem node
    return n :: (← flowItems fuel false)

def flowEntries : Nat → Bool → Read (List (Nat × Nat))
  | 0, _ => throw (.expected "a closing brace")
  | fuel + 1, isFirst => do
    if ← skips .closeBrace then return []
    if !isFirst then expect .comma "a comma or a closing brace"
    if ← skips .closeBrace then return []
    let entry ← if ← skips .key then do
        let k ← nodeUnless node .flow [.value, .comma, .closeBrace]
        pure (k, ← flowValue node [.closeBrace])
      else do
        let k ← node .flow
        pure (k, ← nothing)
    return entry :: (← flowEntries fuel false)

/-- A collection, whose anchor can be used inside it. -/
def collection (p : Properties) (empty : Node) (parts : Read Content) : Read Nat := do
  let i ← add empty
  bind p i
  fill i ⟨empty.kind, ← parts⟩

def sequence (p : Properties) (parts : Read (List Nat)) : Read Nat :=
  collection p ⟨p.kind .seq, .sequence []⟩ (.sequence <$> parts)

def mapping (p : Properties) (parts : Read (List (Nat × Nat))) : Read Nat :=
  collection p ⟨p.kind .map, .mapping []⟩ (.mapping <$> parts)

def scalar (p : Properties) (n : Node) : Read Nat := do
  let i ← add n
  bind p i
  return i

/-- A node after its properties. -/
def nodeAt (place : Place) (p : Properties) (fuel : Nat) : Read Nat := do
  let t ← peek
  if place = .value && t = some .item then return ← sequence p (looseItems node fuel)
  match t with
  | some (.scalar t isPlain) =>
    advance
    scalar p ⟨p.scalarKind isPlain t, .scalar t⟩
  | some .openBracket => sequence p (do advance; flowItems node fuel true)
  | some .openBrace => mapping p (do advance; flowEntries node fuel true)
  | some .openSequence =>
    if place = .flow then throw (.expected "a node")
    sequence p (do advance; blockItems node fuel)
  | some .openMapping =>
    if place = .flow then throw (.expected "a node")
    mapping p (do advance; blockEntries node fuel)
  | _ =>
    if p.anchor.isSome || p.tag.isSome then
      scalar p ⟨if p.isOpen then .null else p.kind .str, .scalar []⟩
    else throw (.expected "a node")

end

/-- Reads one node. -/
def read : Nat → Place → Read Nat
  | 0, _ => throw (.expected "a node")
  | fuel + 1, place => do
    match ← peek with
    | some (.alias n) =>
      advance
      aliased n
    | _ =>
      let p ← properties
      checkAnchor p
      nodeAt (read fuel) place p (fuel + 1)

def standardHandles : List (Text × Text) := [("!", "!"), ("!!", Kind.tagStem)]

/-- The directives before a document: at most one version, and no handle twice. -/
def directives : Nat → Bool → List (Text × Text) → Read (List (Text × Text))
  | 0, _, hs => return hs
  | fuel + 1, hasVersion, hs => do
    match ← peek with
    | some (.directive (.version major)) =>
      advance
      if hasVersion || major ≠ 1 then throw (.malformed "version") else directives fuel true hs
    | some (.directive (.handle h stem)) =>
      advance
      if (hs.lookup h).isSome then throw (.tag h) else directives fuel hasVersion ((h, stem) :: hs)
    | some (.directive .other) =>
      advance
      directives fuel hasVersion hs
    | _ => return hs

def skipEnds : Nat → Read Unit
  | 0 => return ()
  | fuel + 1 => do if ← skips .documentEnd then skipEnds fuel

def isDirective : Token → Bool
  | .directive _ => true
  | _ => false

/-- The root of a document that begins with a line of its own. -/
def explicitRoot (size : Nat) : Read Nat := do
  let hs ← directives size false []
  expect .documentStart "the start of a document"
  modify fun s => { s with handles := hs ++ standardHandles }
  match ← peek with
  | none | some .documentStart | some .documentEnd => nothing
  | some (.directive _) => nothing
  | some _ => read size .block

/-- The one document of a text; a text may hold none. -/
def document (size : Nat) : Read (Option Nat) := do
  let first ← peek
  let isExplicit := first.all fun t => isDirective t || t == .documentStart
  let root ←
    if isExplicit then do
      if (← peek).isNone then pure none else some <$> explicitRoot size
    else do
      modify fun s => { s with handles := standardHandles }
      some <$> read size .block
  skipEnds size
  if (← peek).isSome then throw .secondDocument
  return root

/-- The root of a text, and all its nodes. -/
def ofText (cs : List Char) : Except Fault (Option Nat × Graph) := do
  match cs.find? (!isReadable ·) with
  | some c => throw (.unreadable c)
  | none =>
    let (tokens, fault) := Token.scan cs
    let (root, s) ← (document (tokens.length + 1)).run { tokens, fault }
    return (root, s.graph)

end Node
end Tangle.Yaml
