import Tangle.CommandLine.Compilation
import Tangle.Host.Shell.Launch

/-! # The host of a command

Stand-ins for what the compiler command is run by and runs itself: the program that looks for the two directories
and calls it, the parser of hook files, and, in the modules below this one, the reader of settings and the shell with
the programs that scripts call. They make the command one that can be run; nothing that is proved rests on them. -/
namespace Tangle.Host

open CommandLine CommandLine.Compilation

/-- What there is around a command besides its files. -/
abbrev State := Shell.Surroundings

/-- Does to the files of a command, and to what is around them, what is done in the world of a shell. -/
def through {α : Type} (f : Shell.Surroundings → α × Shell.Surroundings) (s : Surroundings State) :
    α × Surroundings State :=
  let (a, u) := f (s.rest.mapTree fun _ => s.tree)
  (a, ⟨u.world.tree, u⟩)

def parse : HookFile.Parser := HookFile.decoding Yaml.Document.ofText

def shell : Shell (Surroundings State) where
  openDirectory := through Shell.session.openDirectory
  writeFile path content := through (Shell.session.writeFile path content)
  start s i := through (Shell.session.start · i) s

/-- Runs scripts in a directory of a name. -/
def launcher (directory : Text) : Launcher State where
  openDirectory s := (.ok directory, s)
  write path content := through (Shell.session.writeFile path content)
  start words := through fun s => match Shell.launch s words with
    | (.error e, s) => (.error e, s)
    | (.ok e, s) => (.ok ⟨e.status, e.output⟩, s)
  removeDirectory path s := (.ok (), { s with tree := s.tree.prune (Path.ofText path).names })

/-! The two directories -/

def checkDirectory (o : Order State) (p : Path) : Step State Unit := do
  match ← nodeAt o p with
  | some (.directory _) => pure ()
  | _ => fail 1 ("Not a directory: " ++ p.text ++ "\n")

/-- The output directory is made if there is nothing in its place. -/
def checkDirectories (o : Order State) : Step State Unit := do
  let p := o.outputDirectory
  if (← nodeAt o p).isNone then
    act fun s =>
      let (r, tree) := s.tree.makeDirectories o.refused o.directory false p.root p.names
      (r, { s with tree })
  checkDirectory o p
  checkDirectory o o.inputDirectory

/-- Carries out an order, once the directories have been looked for. -/
def run (o : Order State) (s : Shell.Surroundings) : Except Unreported Ending × Desk State :=
  match (checkDirectories o).run.run { surroundings := ⟨s.world.tree, s⟩ } with
  | (.ok (), d) => Compilation.run o d.surroundings
  | (.error stop, d) => (stop.result, d)

end Tangle.Host
