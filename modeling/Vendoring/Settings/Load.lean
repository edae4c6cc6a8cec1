import Vendoring.FileTree.Resolve
import Vendoring.Settings.Decode
import Vendoring.Text.Blank

/-!
# Settings in a file

Without a file there are the default settings. A file with nothing but white space in it is as good
as none.
-/

set_option autoImplicit false

namespace Vendoring

/-- Why a file gives no settings. -/
inductive LoadFault where
  /-- It cannot be read. -/
  | file (path : LocalPath) (cause : FileFault)
  /-- Its content is not UTF-8. -/
  | notText (path : LocalPath)
  | content (cause : Yaml.ReadFault)
  deriving DecidableEq, Repr

namespace LoadFault

/-- The words for a file that cannot be read. -/
def readMessage (path : LocalPath) (reason : String) : String :=
  "Failed to read config file " ++ Text.quoted path.text ++ ": " ++ reason

/-- The words for a fault. -/
def message : LoadFault → String
  | file path cause => readMessage path cause.message
  | notText path => readMessage path "stream did not contain valid UTF-8"
  | content cause => "Failed to parse config YAML: " ++ cause.message

end LoadFault

namespace Settings

/-- The settings in a text. -/
def ofText (text : String) : Except LoadFault Settings :=
  if Text.isAllBlank text then .ok default else (ofYaml text).mapError .content

/-- The settings in the content of a file. -/
def ofBytes (path : LocalPath) (bytes : ByteArray) : Except LoadFault Settings :=
  match String.fromUTF8? bytes with
  | some text => ofText text
  | none => .error (.notText path)

/-- The settings in the file at a path, if a path is given. -/
def load (tree : FileTree) : Option LocalPath → Except LoadFault Settings
  | none => .ok default
  | some path =>
    match tree.read path with
    | .ok bytes => ofBytes path bytes
    | .error cause => .error (.file path cause)

end Settings

end Vendoring
