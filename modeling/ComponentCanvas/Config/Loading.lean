import ComponentCanvas.Config.Layers
import ComponentCanvas.Config.Shape
import ComponentCanvas.Decimal.Plain
import ComponentCanvas.Toml.Printer
import ComponentCanvas.Toml.Reader

/-!
# Loading and Saving Configurations

A configuration is loaded from files, each over those before it, and the environment over them all.
Settings are taken loosely: a number or a truth value will do for a text, and a text that spells a
number for one.  Saving writes the whole configuration, so that loading gives it back.
-/

namespace ComponentCanvas.Config

/-! ## Loose reading -/

/-- The fields of a record; an array may have more items than there are fields. -/
def looseRecord? (fields : List (List String)) : Json → Option (List (Option Json))
  | .arr items => Json.record? fields (.arr (items.take fields.length))
  | value => Json.record? fields value

/-- The text of a setting. -/
def looseText? : Json → Option String
  | .str s => some s
  | .bool b => some (if b then "true" else "false")
  | .int n => some (String.ofList (Json.intText n))
  | .float x => some (Decimal.plainText x)
  | .null | .arr _ | .obj _ => none

/-- Words that stand for one. -/
def onWords : List String := ["true", "on", "yes"]

/-- Words that stand for zero. -/
def offWords : List String := ["false", "off", "no"]

/-- The number of a setting. -/
def looseNumber? : Json → Option Float
  | .int n => some (Float.ofInt n)
  | .float x => some x
  | .bool b => some (if b then 1.0 else 0.0)
  | .str s =>
    let word := lowerKey s
    if onWords.contains word then some 1.0
    else if offWords.contains word then some 0.0
    else Decimal.read? s.toList
  | .null | .arr _ | .obj _ => none

/-- The reading that takes settings loosely. -/
def Reading.loose : Reading where
  record? := looseRecord?
  text? := looseText?
  number? := looseNumber?

/-! ## Loading -/

/-- The configuration of layers of settings. -/
def ofLayers? (layers : List (Fields Json)) : Option Config :=
  Config.read? .loose (layers.foldl addLayer (.obj []))

/-- The settings of the text of a file. -/
def fileLayer? (text : String) : Option (Fields Json) := (Toml.read? text).map membersOf

/-- Loads a configuration from the texts of files and the environment. -/
def load? (files : List String) (environment : List (String × String)) : Option Config := do
  ofLayers? ((← files.mapM fileLayer?) ++ [environmentLayer environment])

/-! ## Saving -/

/-- The lines of a table of strings. -/
def tableLines (table : Fields String) : List String :=
  table.map fun (key, text) => Toml.keyLineText key (Toml.stringText text)

/-- The text of a file that holds a configuration. -/
def toText (config : Config) : String :=
  let text (key value : String) := Toml.keyLineText key (Toml.stringText value)
  let number (key : String) (x : Float) := Toml.keyLineText key (Toml.floatText x)
  let texts (key : String) (items : List String) := Toml.keyLineText key (Toml.listText items)
  Toml.documentText [
    Toml.tableText "project"
      [text "name" config.project.name, text "version" config.project.version,
       text "generated_dir" config.project.generatedDir],
    Toml.tableText "packages"
      [text "default_version" config.packages.defaultVersion,
       texts "denylist" config.packages.denylist],
    Toml.tableText "packages.baseline" (tableLines config.packages.baseline),
    Toml.tableText "packages.dev_baseline" (tableLines config.packages.devBaseline),
    Toml.tableText "packages.versions" (tableLines config.packages.versions),
    Toml.tableText "layout"
      [number "origin_x" config.layout.originX, number "origin_y" config.layout.originY,
       number "row_spacing" config.layout.rowSpacing],
    Toml.tableText "capabilities"
      [text "atoms_module" config.capabilities.atomsModule,
       texts "atoms" config.capabilities.atoms, texts "hooks" config.capabilities.hooks,
       text "host_module" config.capabilities.hostModule]]

end ComponentCanvas.Config
