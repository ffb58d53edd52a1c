import ToolPlugins.Json.Typed
import ToolPlugins.Settings.Basic

/-!
Settings as they are written in a file: a record whose fields may each be missing.
-/

namespace ToolPlugins

open Json (RecordField TypedReader)

namespace Settings

/-- The fields of the settings in their declared order. -/
def fields : List (RecordField Settings) :=
  [.of "help_root" .text fun s v => { s with helpRoot := v },
    .of "export_root" .text fun s v => { s with exportRoot := v },
    .of "descriptor_dirs" (.list .text) fun s v => { s with descriptorDirs := v },
    .of "context" (.variant [("client", .client), ("worker", .worker)])
      fun s v => { s with context := v },
    .of "host" (.optional .text) fun s v => { s with host := v },
    .of "strict" .boolean fun s v => { s with strict := v },
    .of "create_version_records" .boolean fun s v => { s with createVersionRecords := v },
    .of "allowed_tools" (.list .text) fun s v => { s with allowedTools := v },
    .of "blocked_tools" (.list .text) fun s v => { s with blockedTools := v }]

/-- The settings that a text holds. -/
def ofText (text : String) : Except String Settings :=
  (TypedReader.record "ForgeConfig" fields {}).ofText text

/-- The settings of a file; those of no file where there is none. -/
def ofFile (tree : FileTree) (path : Path) : Result Settings :=
  if tree.contains path then
    match tree.readText path with
    | .error e => .error (.settings ("Failed to read " ++ path ++ ": " ++ e.message))
    | .ok text =>
      (ofText text).mapError fun e => .settings ("Invalid config " ++ path ++ ": " ++ e)
  else .ok {}

end Settings

end ToolPlugins
