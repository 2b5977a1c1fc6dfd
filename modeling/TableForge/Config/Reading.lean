import TableForge.Config.Basic
import TableForge.Toml.Document

namespace TableForge

open Toml (Node Entries)

def Toml.Node.text? : Node → Option String
  | .text s => some s
  | _ => none

-- The entries of a section, which is a table or an array of the values of the given keys in
-- their order; items beyond the last key do not count.
def Toml.Node.section? (keys : List String) : Node → Option Entries
  | .table _ entries => some entries
  | .array items => some (keys.zip items)
  | .tables items => some (keys.zip (items.map (.table .headed)))
  | _ => none

namespace HeaderPaths

def set? (paths : HeaderPaths) (key : String) (value : String) : Option HeaderPaths :=
  match key with
  | "table" => some { paths with table := some value }
  | "data" => some { paths with data := some value }
  | _ => none

def ofNode? (node : Node) : Option HeaderPaths := do
  (← node.section? ["table", "data"]).foldlM (fun paths (key, value) => do
    paths.set? key (← value.text?)) {}

end HeaderPaths

namespace PatchSettings

def set? (settings : PatchSettings) (key : String) (value : String) : Option PatchSettings :=
  match key with
  | "table" => some { settings with table := value }
  | "natural_key" => some { settings with naturalKey := value }
  | "name_field" => some { settings with nameField := value }
  | "full_file" => some { settings with fullFile := value }
  | "unicode_file" => some { settings with unicodeFile := value }
  | _ => none

def ofNode? (node : Node) : Option PatchSettings := do
  let keys := ["table", "natural_key", "name_field", "full_file", "unicode_file"]
  (← node.section? keys).foldlM (fun settings (key, value) => do
    settings.set? key (← value.text?)) {}

end PatchSettings

namespace Config

def set? (c : Config) (key : String) (node : Node) : Option Config :=
  match key with
  | "output_dir" => do return { c with outputDir := ← node.text? }
  | "dump_file" => do return { c with dumpFile := ← node.text? }
  | "headers" => do return { c with headers := ← HeaderPaths.ofNode? node }
  | "patch" => do return { c with patch := ← PatchSettings.ofNode? node }
  | _ => none

-- The configuration that a document gives. What it leaves out has its default; a key that is
-- not known is refused, at any place.
def read? (document : String) : Option Config := do
  (← Toml.read? document).foldlM (fun c (key, node) => c.set? key node) {}

end Config

end TableForge
