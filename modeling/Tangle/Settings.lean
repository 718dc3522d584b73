import Tangle.Text.Basic

/-! # Settings

The names that generated code uses, the shell, and where modules are looked for. -/
namespace Tangle

structure Settings where
  hookStem : Text := "mdsh"
  dataStem : Text := "mdsh_raw_"
  heredocDelimiter : Text := "```"
  evalTrailer : Text := "__status=$? eval 'return $__status || exit $__status' 2>/dev/null"
  shell : Text := "bash"
  modulePath : Option Text := none
deriving DecidableEq, Repr

namespace Settings

/-- The name of a hook function. A file hook is set off by a colon and belongs to no language. -/
def hookName (s : Settings) (kind language : Text) : Text :=
  if kind.startsWith "file-" then s.hookStem ++ ":" ++ kind
  else if language.isEmpty then s.hookStem ++ "-" ++ kind
  else s.hookStem ++ "-" ++ kind ++ "-" ++ language

/-- The directories of a search path. An empty entry, which a shell reads as the current
directory, is dropped. -/
def directories (path : Text) : List Text :=
  (Text.pieces (.char ':') path).filter (!·.isEmpty)

/-- The directories in which a module is looked for: those given explicitly, else those of the
settings, else those of the command search path. -/
def searchPath (s : Settings) (commandPath : Text) (explicit : Option Text) : List Text :=
  directories ((explicit <|> s.modulePath).getD commandPath)

end Settings
end Tangle
