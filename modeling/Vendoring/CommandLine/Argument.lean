/-!
# What can be given on the command line

Flags are given or not; parameters come with a value. All of them have a name behind two hyphens,
and two flags have a letter behind one.
-/

set_option autoImplicit false

namespace Vendoring.CommandLine

/-- Given without a value. -/
inductive Flag where
  /-- Keep the processor definitions instead of refreshing the decompiler sources. -/
  | cpus
  | help
  | version
  deriving DecidableEq, Repr

/-- Given with a value. -/
inductive Parameter where
  | token
  /-- The settings file. -/
  | config
  /-- The directory that local paths of the settings are seen from. -/
  | root
  deriving DecidableEq, Repr

/-- Whatever has a name. -/
inductive Argument where
  | flag (f : Flag)
  | parameter (p : Parameter)
  deriving DecidableEq, Repr

namespace Argument

/-- The name behind the hyphens. -/
def name : Argument → String
  | flag .cpus => "cpus"
  | flag .help => "help"
  | flag .version => "version"
  | parameter .token => "token"
  | parameter .config => "config"
  | parameter .root => "root"

/-- How it is shown: a parameter with a word for its value. -/
def shown : Argument → String
  | parameter .token => "--token <TOKEN>"
  | parameter .config => "--config <CONFIG>"
  | parameter .root => "--root <ROOT>"
  | flag f => "--" ++ (flag f).name

/-- All of them, in the order of the help text. -/
def all : List Argument :=
  [flag .cpus, parameter .token, parameter .config, parameter .root, flag .help, flag .version]

/-- The argument with a name. -/
def ofName? (name : String) : Option Argument := all.find? (·.name == name)

end Argument

/-- The flag with a letter. -/
def Flag.ofLetter? (c : Char) : Option Flag :=
  if c = 'h' then some .help else if c = 'V' then some .version else none

/-- Is the value a path, which cannot be empty? -/
def Parameter.isPath : Parameter → Bool
  | token => false
  | config => true
  | root => true

end Vendoring.CommandLine
