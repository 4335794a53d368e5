import MeshAudit.Files
import MeshAudit.Ini.Reader
import MeshAudit.Json.Reader
import MeshAudit.Json5.Reader
import MeshAudit.Settings.YamlLayer
import MeshAudit.Toml.Reader

/-!
# Layers from files

The format of a file of settings follows from the end of its name. A name may leave that end out, in
which case a file with any of the known ends is taken.
-/

namespace MeshAudit

/-- The formats of files of settings. -/
inductive LayerFormat where
  /-- Tables of keys. -/
  | toml
  /-- A JSON object. -/
  | json
  /-- A YAML mapping. -/
  | yaml
  /-- Sections of keys. -/
  | ini
  /-- A JSON object in the form for people. -/
  | json5
  deriving DecidableEq, Repr

namespace LayerFormat

/-- The known ends of names with their formats. Files that end in `ron` are left out. -/
def extensions : List (String × LayerFormat) :=
  [("toml", toml), ("json", json), ("yaml", yaml), ("yml", yaml), ("ini", ini), ("json5", json5)]

/-- Read the layer of a text. -/
def read? (format : LayerFormat) (text : String) : Option Layer :=
  match format with
  | toml => Toml.read? text
  | json => (Json.read? text).bind Value.asObject?
  | yaml => Layer.ofYaml? text
  | ini => (Ini.read? text).bind Value.asObject?
  | json5 => (Json5.read? text).bind Value.asObject?

end LayerFormat

namespace FileTree

/-- The file of settings that a path means, with its format. -/
def layerFile? (files : FileTree) (path : String) : Option (LayerFormat × StoredFile) :=
  match files path with
  | some file => do
    let format ← LayerFormat.extensions.lookup (← extension? path)
    some (format, file)
  | none =>
    LayerFormat.extensions.findSome? fun (ending, format) =>
      (files (path ++ "." ++ ending)).map fun file => (format, file)

/-- The layer of the file of settings that a path means. -/
def layer? (files : FileTree) (path : String) : Option Layer := do
  let (format, file) ← files.layerFile? path
  format.read? file.readableText

end FileTree

end MeshAudit
