import Tangle.Text.Basic

/-! # Shell commands

The commands of the shell language. A word keeps its source beside the parts that it is made of. The
text of a here-document stands apart from the command that reads it, which knows it by number. -/
namespace Tangle.Shell

/-- How a pattern is put in place of a text. -/
inductive Extent where
  | once
  | everywhere
  | atStart
  | atEnd
deriving DecidableEq, Repr

inductive LetterCase where
  | upper
  | lower
  | toggled
deriving DecidableEq, Repr

inductive RedirectKind where
  | input
  | output
  | clobber
  | append
  | both
  | appendBoth
  | readWrite
  | duplicateInput
  | duplicateOutput
  | hereString
deriving DecidableEq, Repr

/-- How a clause of a `case` command goes on when its commands are done. -/
inductive ClauseEnd where
  | stop
  | fallThrough
  | testNext
deriving DecidableEq, Repr

/-- What stands after a command of a list. -/
inductive Separator where
  | semicolon
  | newline
  | background
deriving DecidableEq, Repr

/-- Whether the time that a pipeline takes is told, and in which form. -/
inductive Timing where
  | untimed
  | full
  | short
deriving DecidableEq, Repr

inductive Descriptor where
  | default
  | number (n : Nat)
  | named (variableName : Text)
deriving DecidableEq, Repr

mutual

inductive Part where
  | plain (t : Text)
  | quoted (t : Text)
  | double (ps : List Part)
  | parameter (name : Text) (isIndirect : Bool) (index : Index) (use : Use)
  | names (stem : Text) (joined : Bool)
  | substitution (c : Command)
  /-- Commands between backquotes, which are read only when they are run. -/
  | backquotes (t : Text)
  | arithmetic (ps : List Part)
  | process (isRead : Bool) (c : Command)
  | bad (source : Text)

inductive Index where
  | none
  | all
  | joined
  | at (ps : List Part)

/-- What is made of the value of a parameter. `ifEmpty` counts an empty value as none. -/
inductive Use where
  | value
  | length
  | orElse (ifEmpty : Bool) (ps : List Part)
  | orAssign (ifEmpty : Bool) (ps : List Part)
  | orFail (ifEmpty : Bool) (ps : List Part)
  | andThen (ifEmpty : Bool) (ps : List Part)
  | trim (fromEnd longest : Bool) (ps : List Part)
  | replace (extent : Extent) (pattern replacement : List Part)
  | slice (offset : List Part) (length : Option (List Part))
  | recase (letterCase : LetterCase) (isAll : Bool) (pattern : List Part)
  | transform (letter : Char)

inductive Word where
  | mk (source : Text) (parts : List Part)

/-- The value of an assignment. -/
inductive Assigned where
  | scalar (w : Word)
  | array (elements : List Element)

/-- An element of an array value, with its index if it is given. -/
inductive Element where
  | mk (index : Option (List Part)) (appends : Bool) (w : Word)

inductive Assignment where
  | mk (source : Text) (name : Text) (index : Option (List Part)) (appends : Bool) (value : Assigned)

/-- An argument of a simple command. Commands that declare variables take assignments. -/
inductive Argument where
  | word (w : Word)
  | assignment (a : Assignment)

inductive Redirect where
  | file (at_ : Descriptor) (kind : RedirectKind) (target : Word)
  | document (at_ : Descriptor) (number : Nat)

inductive Condition where
  | unary (operator : Text) (w : Word)
  | binary (left : Word) (operator : Text) (right : Word)
  | and (l r : Condition)
  | or (l r : Condition)
  | not (c : Condition)
  | group (c : Condition)

inductive Clause where
  | mk (patterns : List Word) (body : Option Command) (ending : ClauseEnd)

inductive Command where
  | simple (line : Nat) (assignments : List Assignment) (arguments : List Argument)
      (redirects : List Redirect)
  | pipeline (isNegated : Bool) (timing : Timing) (commands : List Command)
  | chain (first : Command) (rest : List (Bool × Command))
  | list (items : List (Command × Separator))
  | redirected (c : Command) (redirects : List Redirect)
  | group (body : Command)
  | subshell (body : Command)
  | loop (isUntil : Bool) (test body : Command)
  | forEach (line : Nat) (name : Text) (words : Option (List Word)) (body : Command)
  | select (line : Nat) (name : Text) (words : Option (List Word)) (body : Command)
  | forArithmetic (line : Nat) (source : List Text) (start test step : List Part) (body : Command)
  | conditional (test body : Command) (otherwise : Option Command)
  | case (line : Nat) (subject : Word) (clauses : List Clause)
  | arithmetic (line : Nat) (source : Text) (ps : List Part)
  | test (line : Nat) (c : Condition)
  | function (line : Nat) (name : Text) (body : Command)
  /-- Runs beside the shell, with pipes to its input and from its output. -/
  | coprocess (name : Text) (c : Command)

end

instance : Inhabited Part := ⟨.plain []⟩
instance : Inhabited Word := ⟨.mk [] []⟩
instance : Inhabited Command := ⟨.list []⟩

namespace Word

def source : Word → Text
  | mk s _ => s

def parts : Word → List Part
  | mk _ ps => ps

/-- The text of a word without any quoting or expansion in it. -/
def plain? : Word → Option Text
  | mk _ [] => none
  | mk _ [.plain t] => some t
  | _ => none

end Word

def Assignment.source : Assignment → Text
  | mk s .. => s

def Assignment.name : Assignment → Text
  | mk _ n .. => n

def Argument.source : Argument → Text
  | word w => w.source
  | assignment a => a.source

/-- The text that a command reads from the lines after it. Its parts are expanded unless its
delimiter is quoted. -/
structure HereDocument where
  delimiter : Text
  isQuoted : Bool
  stripsTabs : Bool
  body : Text
  parts : List Part

/-- The here-documents of a piece of source, by number. -/
abbrev HereDocuments := List (Nat × HereDocument)

end Tangle.Shell
