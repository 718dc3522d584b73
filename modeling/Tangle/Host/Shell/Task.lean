import Tangle.Host.Shell.Process

/-! # Processes that wait for one another

A run of a process changes the machine, and may pause until something has happened in the world, or start
another process. What follows a pause is a function of the world at its end. A `Course` is a run with all
its pauses, and a `Task` one that leaves nothing but its effect on the world. -/
namespace Tangle.Shell

/-- What a process waits for; a moment may put an end to it. -/
structure Wait where
  isOver : World → Bool
  until? : Option Nat := none

inductive Task where
  | ended (world : World)
  | waits (wait : Wait) (world : World) (next : World → Task)
  | starts (child : World → Task) (world : World) (next : World → Task)

/-- Why a command does not go on to the next one. -/
inductive Control where
  /-- The shell ends, after its trap. -/
  | exit (status : Nat)
  /-- The shell ends over an error of its text or of an expansion. -/
  | fatal (status : Nat)
  | leave (status : Nat)
  | stopLoop (levels : Nat)
  | nextTurn (levels : Nat)
  /-- The rest of the unit is dropped. -/
  | discard
  /-- A process, this one or one that encloses it, is ended by a signal. -/
  | killed (process signal : Nat)
  /-- Another program has taken the place of the shell. -/
  | replaced (e : Ending)
  | exhausted

inductive Course (α : Type) where
  | over (result : Except Control α) (m : Machine)
  | waits (wait : Wait) (world : World) (next : World → Course α)
  | starts (child : World → Task) (world : World) (next : World → Course α)

namespace Course
variable {α β : Type}

/-- Goes on with what follows, however the run ended. -/
def andThen (f : Except Control α → Machine → Course β) : Course α → Course β
  | .over r m => f r m
  | .waits w world next => waits w world fun world => (next world).andThen f
  | .starts child world next => starts child world fun world => (next world).andThen f

/-- A run as a task, of which only the world is left in the end. -/
def task (finish : Except Control α → Machine → World) : Course α → Task
  | .over r m => .ended (finish r m)
  | .waits w world next => .waits w world fun world => (next world).task finish
  | .starts child world next => .starts child world fun world => (next world).task finish

end Course

def Run (α : Type) := Machine → Course α

namespace Run
variable {α β : Type}

@[inline] protected def pure (a : α) : Run α := fun m => .over (.ok a) m

@[inline] protected def bind (r : Run α) (f : α → Run β) : Run β := fun m =>
  match r m with
  | .over (.ok a) m => f a m
  | .over (.error e) m => .over (.error e) m
  | c => c.andThen fun
    | .ok a, m => f a m
    | .error e, m => .over (.error e) m

instance : Monad Run where
  pure := Run.pure
  bind := Run.bind

instance : MonadStateOf Machine Run where
  get := fun m => .over (.ok m) m
  set m := fun _ => .over (.ok ()) m
  modifyGet f := fun m => let (a, m) := f m; .over (.ok a) m

instance : MonadExceptOf Control Run where
  throw e := fun m => .over (.error e) m
  tryCatch r f := fun m => (r m).andThen fun
    | .ok a, m => .over (.ok a) m
    | .error e, m => f e m

/-- Runs, and gives what stopped it as a value. -/
def caught (r : Run α) : Run (Except Control α) := fun m =>
  match r m with
  | .over e m => .over (.ok e) m
  | c => c.andThen fun e m => .over (.ok e) m

/-- Pauses. -/
def pause (w : Wait) : Run Unit := fun m => .waits w m.world fun world => .over (.ok ()) { m with world }

/-- Starts a task beside this one. -/
def begin (child : World → Task) : Run Unit := fun m =>
  .starts child m.world fun world => .over (.ok ()) { m with world }

end Run

/-! Schedules -/

/-- Tasks that wait, in the order in which they get their turns. -/
structure Schedule where
  world : World
  parked : List (Wait × (World → Task)) := []

namespace Schedule

def isDue (world : World) (e : Wait × (World → Task)) : Bool :=
  e.1.isOver world || e.1.until?.any (· ≤ world.clock)

/-- Lets a task take its turn, up to its next pause. A task that it starts waits for its own turn. -/
def follow : Task → List (Wait × (World → Task)) → Schedule
  | .ended world, rest => ⟨world, rest⟩
  | .waits w world next, rest => ⟨world, rest ++ [(w, next)]⟩
  | .starts child world next, rest => follow (next world) (rest ++ [(⟨fun _ => true, none⟩, child)])

/-- The first of the moments at which some wait is over. -/
def nextMoment (s : Schedule) : Option Nat :=
  (s.parked.filterMap (·.1.until?)).foldl (fun m t => some (m.elim t (min t))) none

/-- Gives turns until `isOver`, or until nothing can happen any more. -/
def run (isOver : World → Bool) : Nat → Schedule → World
  | 0, s => s.world
  | n + 1, s =>
    if isOver s.world then s.world
    else match s.parked.findIdx? (isDue s.world) with
    | some i =>
      match s.parked[i]? with
      | some e => run isOver n (follow (e.2 { s.world with turn := s.world.clock }) (s.parked.eraseIdx i))
      | none => s.world
    | none =>
      match s.nextMoment with
      | some t => run isOver n { s with world := { s.world with clock := max t s.world.clock } }
      | none => s.world

end Schedule

end Tangle.Shell
