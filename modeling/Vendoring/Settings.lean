import Vendoring.LocalPath

/-!
# Settings

What is synchronised, from where and to where. Every setting has a default, and local paths can be
seen from a root directory.
-/

set_option autoImplicit false

namespace Vendoring

/-- What to refresh. -/
structure DecompilerSettings where
  /-- The remote directory, from the top of the repository. -/
  remotePath : String
  /-- The local directories whose files are refreshed. -/
  targets : List LocalPath
  deriving DecidableEq, Repr

/-- What to keep a copy of. -/
structure ProcessorSettings where
  /-- The remote directory, from the top of the repository. -/
  remotePath : String
  /-- The local directory that holds the copy. -/
  outputDir : LocalPath
  excludedExtensions : List String
  maxDepth : Option Nat
  deriving DecidableEq, Repr

/-- All settings. -/
structure Settings where
  apiBase : String
  /-- The owner and the name of the remote repository. -/
  repository : String
  /-- A branch, tag or commit; without one the repository's default branch is used. -/
  reference : Option String
  decompiler : DecompilerSettings
  processors : ProcessorSettings
  deriving DecidableEq, Repr

namespace Settings

/-- The settings for the decompiler sources, unless given otherwise. -/
def defaultDecompiler : DecompilerSettings where
  remotePath := "Ghidra/Features/Decompiler/src/decompile/cpp"
  targets :=
    [⟨"dependencies/ghidra/src"⟩, ⟨"dependencies/ghidra/include"⟩, ⟨"dependencies/ghidra/parse"⟩]

/-- The settings for the processor definitions, unless given otherwise. -/
def defaultProcessors : ProcessorSettings where
  remotePath := "Ghidra/Processors"
  outputDir := ⟨"."⟩
  excludedExtensions := ["java", "gradle"]
  maxDepth := none

/-- The settings, unless given otherwise. -/
def default : Settings where
  apiBase := "https://api.github.com"
  repository := "NationalSecurityAgency/ghidra"
  reference := none
  decompiler := defaultDecompiler
  processors := defaultProcessors

/-- The settings with all local paths seen from `root`. -/
def rootedAt (s : Settings) (root : LocalPath) : Settings :=
  { s with
    decompiler := { s.decompiler with targets := s.decompiler.targets.map root.resolve }
    processors := { s.processors with outputDir := root.resolve s.processors.outputDir } }

end Settings

end Vendoring
