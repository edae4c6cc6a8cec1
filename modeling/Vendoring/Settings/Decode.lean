import Vendoring.Settings
import Vendoring.Yaml.Decode

/-!
# Settings in a YAML text

A text names the settings that differ from the default ones. Keys that mean nothing are passed over,
and a text without anything in it names no settings.
-/

set_option autoImplicit false

namespace Vendoring

open Yaml Yaml.Decoder

/-- A setting that is text. -/
def stringSetting : Decoder String := text "a string"

/-- A setting that is a local path. -/
def pathSetting : Decoder LocalPath := fun d path n => LocalPath.mk <$> text "path string" d path n

/-- A setting that is a number. It must fit into 64 bits. -/
def numberSetting : Decoder Nat := natural 0x10000000000000000 "usize"

/-- The fields of the settings for the decompiler sources. -/
def DecompilerSettings.fields : Fields DecompilerSettings
  | "remote_path" => field stringSetting fun v s => { s with remotePath := v }
  | "targets" => field (list pathSetting) fun v s => { s with targets := v }
  | _ => none

/-- The settings for the decompiler sources. -/
def DecompilerSettings.decoder : Decoder DecompilerSettings :=
  record "struct DecompilerConfig" fields Settings.defaultDecompiler

/-- The fields of the settings for the processor definitions. -/
def ProcessorSettings.fields : Fields ProcessorSettings
  | "remote_path" => field stringSetting fun v s => { s with remotePath := v }
  | "output_dir" => field pathSetting fun v s => { s with outputDir := v }
  | "excluded_extensions" =>
    field (list stringSetting) fun v s => { s with excludedExtensions := v }
  | "max_depth" => field (optional numberSetting) fun v s => { s with maxDepth := v }
  | _ => none

/-- The settings for the processor definitions. -/
def ProcessorSettings.decoder : Decoder ProcessorSettings :=
  record "struct ProcessorsConfig" fields Settings.defaultProcessors

namespace Settings

/-- The fields of all settings. -/
def fields : Fields Settings
  | "api_base" => field stringSetting fun v s => { s with apiBase := v }
  | "repository" => field stringSetting fun v s => { s with repository := v }
  | "reference" => field (optional stringSetting) fun v s => { s with reference := v }
  | "decompiler" => field DecompilerSettings.decoder fun v s => { s with decompiler := v }
  | "processors" => field ProcessorSettings.decoder fun v s => { s with processors := v }
  | _ => none

/-- All settings. -/
def decoder : Decoder Settings := record "struct SyncConfig" fields default

/-- The settings that a text names, and the default ones for the others. -/
def ofYaml (text : String) : Except ReadFault Settings :=
  (Document.ofString text).decode decoder default

end Settings

end Vendoring
