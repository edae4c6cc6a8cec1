import Vendoring.CommandLine.Argument

/-!
# Answers instead of a run

A command line asks for help or for the version, or it cannot be understood; the answer then is a
text. Most texts show the usage: in general, or with the arguments that were understood so far.
-/

set_option autoImplicit false

namespace Vendoring.CommandLine

/-- Why a command line does not lead to a run. -/
inductive Refusal where
  | help
  | version
  /-- Nothing of this name can be given. `tip` is what it may have been meant as, and `used` is
  what was given with it. -/
  | unknown (given : String) (tip : Option String) (used : List Argument)
  | missingValue (p : Parameter)
  | repeated (a : Argument)
  /-- A flag was given with a value. -/
  | unneededValue (value : String) (f : Flag) (used : List Argument)
  deriving DecidableEq, Repr

/-- The name of the program. -/
def programName : String := "ghidra-sync"

/-- The version of the program. -/
def programVersion : String := "0.1.0"

/-- Each of the elements once, where it is first. -/
def once (as : List Argument) : List Argument :=
  as.foldl (fun seen a => if seen.contains a then seen else seen ++ [a]) []

/-- The usage with some arguments. -/
def usage (used : List Argument) : String :=
  if used.isEmpty then "Usage: " ++ programName ++ " [OPTIONS]\n"
  else
    "Usage: " ++ programName ++ String.join ((once used).map fun a => " " ++ a.shown) ++ "\n"

/-- The last line of a text about an error. -/
def moreHelp : String := "For more information, try '--help'.\n"

/-- The text about the program. -/
def helpText : String :=
  "Update Ghidra decompiler source files and (optionally) processor definition files from GitHub\n\n"
    ++ usage [] ++ "\nOptions:\n"
    ++ "      --cpus             Mirror the processor definitions tree instead of the decompiler sources\n"
    ++ "      --token <TOKEN>    Authorization token, raises the GitHub request limit [env: GITHUB_TOKEN]\n"
    ++ "      --config <CONFIG>  Optional YAML config overriding the upstream layout\n"
    ++ "      --root <ROOT>      Directory relative config paths are resolved against [default: .]\n"
    ++ "  -h, --help             Print help\n"
    ++ "  -V, --version          Print version\n"

/-- The text of a refusal. -/
def Refusal.message : Refusal → String
  | help => helpText
  | version => programName ++ " " ++ programVersion ++ "\n"
  | unknown given tip used =>
    "error: unexpected argument '" ++ given ++ "' found\n\n"
      ++ (match tip with
        | some t => "  tip: a similar argument exists: '--" ++ t ++ "'\n\n"
        | none => "")
      ++ usage used ++ "\n" ++ moreHelp
  | missingValue p =>
    "error: a value is required for '" ++ (Argument.parameter p).shown
      ++ "' but none was supplied\n\n" ++ moreHelp
  | repeated a =>
    "error: the argument '" ++ a.shown ++ "' cannot be used multiple times\n\n"
      ++ usage [] ++ "\n" ++ moreHelp
  | unneededValue value f used =>
    "error: unexpected value '" ++ value ++ "' for '" ++ (Argument.flag f).shown
      ++ "' found; no more were expected\n\n" ++ usage (used ++ [.flag f]) ++ "\n" ++ moreHelp

end Vendoring.CommandLine
