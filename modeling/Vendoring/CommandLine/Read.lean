import Vendoring.CommandLine.Refusal
import Vendoring.CommandLine.Similar
import Vendoring.LocalPath
import Vendoring.Synchronise

/-!
# Reading a command line

The words are read from left to right. The value of a parameter is behind an equals sign or is the
next word, unless that starts with a hyphen. A parameter whose value is the next word is settled
only when something else begins, and it is then that it can be refused; the first refusal counts.
-/

set_option autoImplicit false

namespace Vendoring

/-- What a command line asks for. -/
structure CommandLine where
  cpus : Bool
  token : Option String
  config : Option LocalPath
  root : LocalPath
  deriving DecidableEq, Repr

namespace CommandLine

/-- What is to be done. -/
def mode (c : CommandLine) : Mode := if c.cpus then .processors else .decompiler

/-- What has been read. -/
structure Progress where
  /-- What was given, with values for parameters, in order. -/
  given : List (Argument × String)
  /-- A parameter that was begun, with its value if that has been read. -/
  pending : Option (Parameter × Option String)
  deriving DecidableEq, Repr

namespace Progress

/-- Nothing has been read. -/
def empty : Progress := ⟨[], none⟩

/-- What was given. -/
def used (p : Progress) : List Argument := p.given.map Prod.fst

/-- The value of an argument, if it was given. -/
def value? (p : Progress) (a : Argument) : Option String := p.given.lookup a

/-- One more argument with its value: what is given then, and whether it is refused. A second one
takes the first away and is refused. -/
def take (p : Progress) (a : Argument) (value : String) : Progress × Option Refusal :=
  if p.used.contains a then
    ({ p with given := p.given.filter (·.1 ≠ a) }, some (.repeated a))
  else
    let taken := { p with given := p.given ++ [(a, value)] }
    match a with
    | .parameter q =>
      (taken, if q.isPath && value.isEmpty then some (.missingValue q) else none)
    | .flag _ => (taken, none)

/-- Settles the parameter that was begun. -/
def settle (p : Progress) : Progress × Option Refusal :=
  match p.pending with
  | none => (p, none)
  | some (q, none) => ({ p with pending := none }, some (.missingValue q))
  | some (q, some value) => { p with pending := none }.take (.parameter q) value

/-- The progress, unless it is refused. -/
def accept (outcome : Progress × Option Refusal) : Except Refusal Progress :=
  match outcome with
  | (p, none) => .ok p
  | (_, some refusal) => .error refusal

/-- Settles what was begun and gives a flag. -/
def addFlag (p : Progress) (f : Flag) : Except Refusal Progress := do
  let settled ← accept p.settle
  match f with
  | .help => throw .help
  | .version => throw .version
  | .cpus => accept (settled.take (.flag f) "true")

end Progress

/-- Splits a word behind two hyphens into a name and, behind an equals sign, a value. -/
def splitValue (cs : List Char) : String × Option String :=
  match cs.dropWhile (· ≠ '=') with
  | [] => (String.ofList cs, none)
  | _ :: value => (String.ofList (cs.takeWhile (· ≠ '=')), some (String.ofList value))

/-- Refuses a name that is not known. -/
def unknownName (p : Progress) (name : String) : Refusal :=
  let tip := meant? name (Argument.all.map Argument.name)
  let meant := (tip.bind Argument.ofName?).toList
  .unknown ("--" ++ name) tip (p.settle.1.used ++ meant)

/-- Reads a name and the value behind it. -/
def readName (p : Progress) (name : String) (value : Option String) : Except Refusal Progress :=
  match Argument.ofName? name, value with
  | none, _ => .error (unknownName p name)
  | some (.flag f), none => p.addFlag f
  | some (.flag f), some v => .error (.unneededValue v f p.used)
  | some (.parameter q), none => do
    let settled ← Progress.accept p.settle
    pure { settled with pending := some (q, none) }
  | some (.parameter q), some v => do
    let settled ← Progress.accept p.settle
    Progress.accept (settled.take (.parameter q) v)

/-- Reads letters behind one hyphen. -/
def readLetters (p : Progress) : List Char → Except Refusal Progress
  | [] => .ok p
  | c :: cs =>
    match Flag.ofLetter? c with
    | some f => do readLetters (← p.addFlag f) cs
    | none => .error (.unknown (String.ofList ['-', c]) none [])

/-- Reads a word that is a value. -/
def readValue (p : Progress) (word : String) : Except Refusal Progress :=
  match p.pending with
  | some (q, none) => .ok { p with pending := some (q, some word) }
  | _ => .error (.unknown word none [])

/-- Reads a word other than two hyphens. -/
def readWord (p : Progress) (word : String) : Except Refusal Progress :=
  match word.toList with
  | '-' :: '-' :: cs =>
    let (name, value) := splitValue cs
    readName p name value
  | '-' :: c :: cs => readLetters p (c :: cs)
  | _ => readValue p word

/-- Reads the words. Behind two hyphens there may be none. -/
def readWords (p : Progress) : List String → Except Refusal Progress
  | [] => Progress.accept p.settle
  | word :: words =>
    if word = "--" then
      match words with
      | [] => Progress.accept p.settle
      | stray :: _ => .error (.unknown stray none [])
    else do readWords (← readWord p word) words

/-- The command line of some words. `environmentToken` stands in for a token that is not given. -/
def ofWords (environmentToken : Option String) (words : List String) :
    Except Refusal CommandLine := do
  let p ← readWords .empty words
  pure {
    cpus := (p.value? (.flag .cpus)).isSome
    token := (p.value? (.parameter .token)) <|> environmentToken
    config := (p.value? (.parameter .config)).map LocalPath.mk
    root := ⟨(p.value? (.parameter .root)).getD "."⟩ }

end CommandLine

end Vendoring
