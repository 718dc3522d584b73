import Tangle.Text.Basic

/-! # Journal

Messages about a run. A message has a depth, and is kept if the verbosity reaches it; without a
verbosity nothing is kept. -/
namespace Tangle

inductive Level where
  | info
  | debug
deriving DecidableEq, Repr

structure Note where
  level : Level
  message : Text
deriving DecidableEq, Repr

structure Journal where
  verbosity : Option Nat := none
  notes : List Note := []
deriving DecidableEq, Repr

namespace Journal

def note (j : Journal) (depth : Nat) (message : Text) : Journal :=
  match j.verbosity with
  | none => j
  | some v =>
    if v < depth then j
    else { j with notes := j.notes ++ [⟨if depth ≤ 1 then .info else .debug, message⟩] }

@[simp] theorem note_verbosity (j : Journal) (d : Nat) (m : Text) :
    (j.note d m).verbosity = j.verbosity := by
  unfold note; split
  · rfl
  · split <;> rfl

end Journal
end Tangle
