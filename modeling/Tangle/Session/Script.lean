import Tangle.Session.Basic
import Tangle.Quoting.Word

/-! # Session scripts

The script of one run: it restores what earlier runs left, runs the code from its own file, and
writes the state it ends with to three files. Shell options are restored before any function is
defined, since they change how function bodies are read. -/
namespace Tangle.Session

/-- Writes the options, the variables that differ from those at the start, and the functions. -/
def dumpLines : List String := [
  "",
  "__mdsh_dump() \x7b",
  "    [[ -n $\x7b__mdsh_dumped-\x7d ]] && return",
  "    __mdsh_dumped=1",
  "    \x7b",
  "        shopt -p",
  "        set +o",
  "    \x7d >\"$__mdsh_opts\"",
  "    set +o errexit +o nounset",
  "    local __mdsh_n __mdsh_d",
  "    \x7b",
  "        printf 'builtin cd -- %q 2>/dev/null || :\\n' \"$PWD\"",
  "        while IFS= read -r __mdsh_n; do",
  "            case $__mdsh_n in",
  "                __mdsh_*|BASH*|FUNCNAME|_|PWD|OLDPWD|SHLVL|PPID|UID|EUID|GROUPS|SHELLOPTS) continue ;;",
  "                RANDOM|SRANDOM|SECONDS|LINENO|HISTCMD|PIPESTATUS|DIRSTACK|EPOCH*|COMP_*) continue ;;",
  "            esac",
  "            __mdsh_d=$(declare -p \"$__mdsh_n\" 2>/dev/null) || continue",
  "            [[ $'\\n'$__mdsh_base$'\\n' == *$'\\n'\"$__mdsh_d\"$'\\n'* ]] && continue",
  "            printf '%s\\n' \"$__mdsh_d\"",
  "        done < <(compgen -v)",
  "        while IFS= read -r __mdsh_n; do",
  "            case $__mdsh_n in ''|__mdsh_*|BASH*|FUNCNAME|_|PWD|OLDPWD) continue ;; esac",
  "            declare -p \"$__mdsh_n\" >/dev/null 2>&1 || printf 'unset -v %s\\n' \"$__mdsh_n\"",
  "        done <<<\"$__mdsh_names\"",
  "    \x7d >\"$__mdsh_vars\"",
  "    \x7b",
  "        while IFS= read -r __mdsh_n; do",
  "            case $__mdsh_n in __mdsh_*|mdsh-embed|mdsh-rewrite) continue ;; esac",
  "            declare -f \"$__mdsh_n\"",
  "            printf '\\0'",
  "        done < <(compgen -A function)",
  "    \x7d >\"$__mdsh_funcs\"",
  "\x7d",
  "trap __mdsh_dump EXIT",
  ""]

def dumpText : Text := Text.ofString ("\n".intercalate dumpLines)

/-- The functions through which compile-time code reaches the helper command. -/
def helperText (helper modulePath : Text) : Text :=
  "mdsh-embed() \x7b MDSH_MODULE_PATH=" ++ modulePath ++ " " ++ helper ++ " embed \"$@\"; \x7d\n" ++
  "mdsh-rewrite() \x7b\n" ++
  "    local __mdsh_src\n" ++
  "    __mdsh_src=$(declare -f \"$1\") || \x7b echo \"mdsh-rewrite: $1 is not defined\" >&2; return 1; \x7d\n" ++
  "    " ++ helper ++ " rewrite \"$__mdsh_src\" \"$\x7b@:2\x7d\"\n" ++
  "\x7d\n"

def optionsFile (s : Session) : Text := s.site.directory ++ "/opts"
def variablesFile (s : Session) : Text := s.site.directory ++ "/vars"
def functionsFile (s : Session) : Text := s.site.directory ++ "/funcs"

def scriptFile (s : Session) : Text := s.site.directory ++ "/run-" ++ Text.ofNat s.runCount ++ ".bash"
def codeFile (s : Session) : Text := s.site.directory ++ "/code-" ++ Text.ofNat s.runCount ++ ".bash"

/-- The command that sets the positional parameters. -/
def argumentLine (args : List Text) : Except QuoteFault Text :=
  if args.isEmpty then .ok "set --" else ("set -- " ++ ·) <$> Quoting.words args

def scriptHead (optionsFile variablesFile functionsFile : Text) : List Text :=
  ["__mdsh_base=$(declare -p)", "__mdsh_names=$(compgen -v)", "__mdsh_opts=" ++ optionsFile,
    "__mdsh_vars=" ++ variablesFile, "__mdsh_funcs=" ++ functionsFile]

def scriptTail (codeFile : Text) : List Text :=
  ["builtin source " ++ codeFile, "__mdsh_status=$?", "__mdsh_dump", "exit \"$__mdsh_status\""]

/-- The script that runs the code of a file with positional arguments. -/
def script (s : Session) (codeFile : Text) (args : List Text) : Except QuoteFault Text := do
  let modulePath ← Quoting.word (Text.join ":" s.searchPath)
  let optionsFile ← Quoting.word s.optionsFile
  let variablesFile ← Quoting.word s.variablesFile
  let functionsFile ← Quoting.word s.functionsFile
  let arguments ← argumentLine args
  let codeFile ← Quoting.word codeFile
  let parts := scriptHead optionsFile variablesFile functionsFile ++ [s.options] ++
    s.bindings.functions.values ++ [s.bindings.prelude, s.state] ++
    [helperText s.site.helper modulePath, dumpText, arguments] ++ scriptTail codeFile
  return Text.join "\n" (parts.filter (!·.isEmpty)) ++ "\n"

end Tangle.Session
