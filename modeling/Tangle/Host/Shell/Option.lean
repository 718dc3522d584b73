import Tangle.Text.Basic

/-! # Shell options

The names of the options that `set` and `shopt` know, with those that are on from the start. -/
namespace Tangle.Shell.Options

/-- The options of `set`, with the letters of those that have one. -/
def named : List (String × Option Char) := [
  ("allexport", 'a'), ("braceexpand", 'B'), ("emacs", none), ("errexit", 'e'), ("errtrace", 'E'),
  ("functrace", 'T'), ("hashall", 'h'), ("histexpand", 'H'), ("history", none), ("ignoreeof", none),
  ("interactive-comments", none), ("keyword", 'k'), ("monitor", 'm'), ("noclobber", 'C'),
  ("noexec", 'n'), ("noglob", 'f'), ("nolog", none), ("notify", 'b'), ("nounset", 'u'),
  ("onecmd", 't'), ("physical", 'P'), ("pipefail", none), ("posix", none), ("privileged", 'p'),
  ("verbose", 'v'), ("vi", none), ("xtrace", 'x')]

def initial : List Text := ["braceexpand", "hashall", "interactive-comments"]

/-- The letters of options in the order of `$-`. -/
def letters : List Char :=
  ['a', 'b', 'e', 'f', 'h', 'k', 'm', 'n', 'p', 'r', 't', 'u', 'v', 'x', 'B', 'C', 'E', 'H', 'P', 'T']

def ofLetter? (c : Char) : Option Text :=
  (named.find? (·.2 = some c)).map fun e => Text.ofString e.1

/-- The options of `shopt` that are on while the option `posix` is. -/
def strict : List Text := [
  "expand_aliases", "inherit_errexit", "interactive_comments", "shift_verbose", "sourcepath"]

def isNamed (t : Text) : Bool := named.any fun e => t = (e.1 : Text)

/-- The options of `shopt`. -/
def extended : List String := [
  "autocd", "assoc_expand_once", "cdable_vars", "cdspell", "checkhash", "checkjobs", "checkwinsize",
  "cmdhist", "compat31", "compat32", "compat40", "compat41", "compat42", "compat43", "compat44",
  "complete_fullquote", "direxpand", "dirspell", "dotglob", "execfail", "expand_aliases", "extdebug",
  "extglob", "extquote", "failglob", "force_fignore", "globasciiranges", "globskipdots", "globstar",
  "gnu_errfmt", "histappend", "histreedit", "histverify", "hostcomplete", "huponexit",
  "inherit_errexit", "interactive_comments", "lastpipe", "lithist", "localvar_inherit",
  "localvar_unset", "login_shell", "mailwarn", "no_empty_cmd_completion", "nocaseglob",
  "nocasematch", "noexpand_translation", "nullglob", "patsub_replacement", "progcomp",
  "progcomp_alias", "promptvars", "restricted_shell", "shift_verbose", "sourcepath",
  "varredir_close", "xpg_echo"]

def initialExtended : List Text := [
  "checkwinsize", "cmdhist", "complete_fullquote", "extquote", "force_fignore", "globasciiranges",
  "globskipdots", "hostcomplete", "interactive_comments", "patsub_replacement", "progcomp",
  "promptvars", "sourcepath"]

/-- The options of `shopt` that ask for the ways of an older version, with the number of that. No two are on
at once. -/
def compatibilities : List (String × String) := [
  ("compat31", "31"), ("compat32", "32"), ("compat40", "40"), ("compat41", "41"), ("compat42", "42"),
  ("compat43", "43"), ("compat44", "44")]

def isCompatibility (t : Text) : Bool := compatibilities.any fun e => t = (e.1 : Text)

def isExtended (t : Text) : Bool := extended.any fun (e : String) => t = (e : Text)

end Tangle.Shell.Options
