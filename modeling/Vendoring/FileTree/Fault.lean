/-!
# Why a file operation fails

The causes a file system gives, with the number and the wording it reports them under.
-/

set_option autoImplicit false

namespace Vendoring

/-- The cause of a failed file operation. -/
inductive FileFault where
  | notFound
  | inputOutput
  | permissionDenied
  | alreadyExists
  | notDirectory
  | isDirectory
  | noSpace
  | readOnly
  | nameTooLong
  | tooManyLinks
  /-- The path holds the NUL character, which no name may; the system is not even asked. -/
  | nulInName
  deriving DecidableEq, Repr

namespace FileFault

/-- The number the system reports a cause under, with its name; a NUL in a path has none. -/
def wording? : FileFault → Option (String × Nat)
  | notFound => some ("No such file or directory", 2)
  | inputOutput => some ("Input/output error", 5)
  | permissionDenied => some ("Permission denied", 13)
  | alreadyExists => some ("File exists", 17)
  | notDirectory => some ("Not a directory", 20)
  | isDirectory => some ("Is a directory", 21)
  | noSpace => some ("No space left on device", 28)
  | readOnly => some ("Read-only file system", 30)
  | nameTooLong => some ("File name too long", 36)
  | tooManyLinks => some ("Too many levels of symbolic links", 40)
  | nulInName => none

/-- All causes that the system itself reports. -/
def numbered : List FileFault :=
  [notFound, inputOutput, permissionDenied, alreadyExists, notDirectory, isDirectory, noSpace,
    readOnly, nameTooLong, tooManyLinks]

/-- The cause with this number. -/
def ofNumber? (n : Nat) : Option FileFault :=
  numbered.find? fun fault => fault.wording?.any (·.2 == n)

/-- The cause as it is shown. -/
def message (fault : FileFault) : String :=
  match fault.wording? with
  | some (text, number) => text ++ " (os error " ++ toString number ++ ")"
  | none => "file name contained an unexpected NUL byte"

end FileFault

end Vendoring
