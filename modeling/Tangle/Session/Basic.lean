import Tangle.Policy
import Tangle.Settings
import Tangle.Definition
import Tangle.Files.Tree

/-! # Sessions

A session is the state that the compile-time shell carries from one run to the next: its options,
variables and functions, and the bindings that follow from them. The functions with the names of
hooks are bound as hooks; all other bindings are the caller's. -/
namespace Tangle

/-- Where a session keeps its files, and the command behind its helper functions. -/
structure Site where
  directory : Text
  helper : Text
deriving DecidableEq, Repr

/-- The binding that a hook function replaces. -/
inductive Slot where
  | template (language : Text)
  | compiler (language : Text)
  | after (language : Text)
  | misc
  | fileHeader
  | fileFooter
deriving DecidableEq, Repr

/-- What a shell has left at the place of a file, be it a file or not: what reading it comes to, and the errors of
asking whether it is there and of removing it. -/
structure Entry where
  content : Except FileError Bytes
  look : Option FileError := none
  removal : Option FileError := none
deriving Repr

namespace Entry

def file (content : Bytes) : Entry := { content := .ok content }

/-- Whether there is an entry. -/
def found : Option Entry → Except FileError Bool
  | none => .ok false
  | some e => e.look.elim (.ok true) .error

/-- Removes an entry, if there is one. -/
def clear (e : Option Entry) : Except FileError Unit :=
  match e, found e with
  | _, .error error => .error error
  | some e, .ok true => e.removal.elim (.ok ()) .error
  | _, _ => .ok ()

end Entry

/-- The files that a shell can leave behind. -/
structure Dump where
  options : Option Entry := none
  values : Option Entry := none
  functions : Option Entry := none
deriving Repr

namespace Dump

/-- What the three files hold. -/
structure Contents where
  options : Bytes
  values : Bytes
  functions : Bytes
deriving DecidableEq, Repr

def files (options values functions : Bytes) : Dump := ⟨some (.file options), some (.file values), some (.file functions)⟩

/-- Whether all files are there. The first one that is missing ends the question. -/
def isThere (d : Dump) : Except FileError Bool := do
  match ← Entry.found d.options with
  | false => return false
  | true => match ← Entry.found d.values with
    | false => return false
    | true => Entry.found d.functions

/-- What the files hold, if all of them are there. -/
def contents? (d : Dump) : Except FileError (Option Contents) := do
  match ← d.isThere, d.options, d.values, d.functions with
  | true, some options, some values, some functions =>
    return some ⟨← options.content, ← values.content, ← functions.content⟩
  | _, _, _, _ => return none

/-- Removes the files. Those before one that cannot be removed are gone. -/
def clear (d : Dump) : Except FileError Unit × Dump :=
  match Entry.clear d.options with
  | .error e => (.error e, d)
  | .ok () =>
  match Entry.clear d.values with
  | .error e => (.error e, { d with options := none })
  | .ok () =>
  match Entry.clear d.functions with
  | .error e => (.error e, { functions := d.functions })
  | .ok () => (.ok (), {})

/-- The files that are there once those of `d` have been written beside those of `left`. -/
def beside (d left : Dump) : Dump where
  options := d.options.or left.options
  values := d.values.or left.values
  functions := d.functions.or left.functions

theorem beside_empty (d : Dump) : d.beside {} = d := by
  simp [beside]

end Dump

/-- `base` holds the caller's bindings and the built-in hooks, `bindings` those in effect. A session is open once it
has its directory. -/
structure Session where
  site : Site
  settings : Settings
  searchPath : List Text
  base : Bindings
  bindings : Bindings
  functions : Table Text
  options : Text := []
  state : Text := []
  harvested : List Slot := []
  runCount : Nat := 0
  dump : Dump := {}
  isOpen : Bool := false

namespace Slot

def afterStem? (stem name : Text) : Option Text :=
  match name.after? stem with
  | some (c :: rest) => some (c :: rest)
  | _ => none

/-- The slot of the hook function with a name. -/
def ofName? (s : Settings) (name : Text) : Option Slot :=
  match afterStem? (s.hookName "lang" [] ++ "-") name with
  | some l => some (template l)
  | none =>
  match afterStem? (s.hookName "compile" [] ++ "-") name with
  | some l => some (compiler l)
  | none =>
  match afterStem? (s.hookName "after" [] ++ "-") name with
  | some l => some (after l)
  | none =>
    if name = s.hookName "misc" [] then some misc
    else if name = s.hookName "file-header" [] then some fileHeader
    else if name = s.hookName "file-footer" [] then some fileFooter
    else none

def restoreEntry {α : Type} (base current : Table α) (key : Text) : Table α :=
  match base.get? key with
  | some v => current.set key v
  | none => current.erase key

/-- The bindings `b` with one slot as it is in `base`. -/
def restore (base b : Bindings) : Slot → Bindings
  | template l => { b with templates := restoreEntry base.templates b.templates l }
  | compiler l => { b with compilers := restoreEntry base.compilers b.compilers l }
  | after l => { b with after := restoreEntry base.after b.after l }
  | misc => { b with misc := base.misc }
  | fileHeader => { b with fileHeader := base.fileHeader }
  | fileFooter => { b with fileFooter := base.fileFooter }

/-- The template of a hook function: the text of its body. -/
def templateOf (name source : Text) : Except DefinitionFault Template :=
  (fun d => ⟨d.bodyText, name⟩) <$> Definition.read source

/-- The bindings with one slot bound to a hook function. -/
def bind (b : Bindings) (name source : Text) : Slot → Except DefinitionFault Bindings
  | template l => do
    let t ← templateOf name source
    return { b with templates := b.templates.set l t }
  | compiler l => .ok { b with compilers := b.compilers.set l (.shell name) }
  | after l => do
    let t ← templateOf name source
    return { b with after := b.after.set l t }
  | misc => .ok { b with misc := some (.shell name) }
  | fileHeader => .ok { b with fileHeader := some (.shell name) }
  | fileFooter => .ok { b with fileFooter := some (.shell name) }

end Slot

namespace Session

def bindFunction (s : Session) (f : Text × Text) : Except DefinitionFault Session :=
  match Slot.ofName? s.settings f.1 with
  | none => .ok s
  | some slot => do
    let b ← slot.bind s.bindings f.1 f.2
    return { s with bindings := b, harvested := s.harvested ++ [slot] }

/-- Undoes the bindings of the last harvest and binds the hook functions of the current table. -/
def harvest (s : Session) : Except DefinitionFault Session :=
  s.functions.toList.foldlM bindFunction { s with
    bindings := s.harvested.foldl (fun b slot => slot.restore s.base b) s.bindings
    harvested := [] }

/-- The session at the start of a pass over the caller's bindings. -/
def start (site : Site) (settings : Settings) (searchPath : List Text) (b : Bindings) :
    Except DefinitionFault Session :=
  harvest { site, settings, searchPath, base := b, bindings := b, functions := b.functions }

/-- Adds hooks for the languages that the caller left without one. -/
def install (s : Session) (hooks : List (Text × CompileHook)) : Session :=
  hooks.foldl (fun s h => { s with
    base := { s.base with compilers := s.base.compilers.setDefault h.1 h.2 }
    bindings := { s.bindings with compilers := s.bindings.compilers.setDefault h.1 h.2 } }) s

/-- The session without its files and its shell state. The functions of the last run stay known. -/
def close (s : Session) : Session := { s with
  options := [], state := [], dump := {}, isOpen := false }

end Session
end Tangle
