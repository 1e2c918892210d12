import ComponentCanvas.Config.Basic
import ComponentCanvas.Json.Shape

/-!
# Configurations as JSON

Every part of a configuration may be missing and then has its default.  A reading says how strictly
the parts are taken; the one given here takes every value as what it is.
-/

namespace ComponentCanvas

open Json (orDefault list? table?)

namespace Config

/-- How the parts of a configuration are read. -/
structure Reading where
  /-- The fields of a record, each given by the names that it may have. -/
  record? : List (List String) → Json → Option (List (Option Json))
  text? : Json → Option String
  number? : Json → Option Float

/-- The reading that takes every value as what it is. -/
def Reading.exact : Reading where
  record? := Json.record?
  text? := Json.text?
  number? := Json.toFloat?

end Config

open Config (Reading)

/-- Reads the settings of the project. -/
def ProjectConfig.read? (reading : Reading) (value : Json) : Option ProjectConfig := do
  let base : ProjectConfig := {}
  match ← reading.record? [["name"], ["version"], ["generated_dir"]] value with
  | [name, version, generatedDir] =>
    return {
      name := ← orDefault base.name reading.text? name
      version := ← orDefault base.version reading.text? version
      generatedDir := ← orDefault base.generatedDir reading.text? generatedDir }
  | _ => none

/-- Reads the dependencies. -/
def PackageConfig.read? (reading : Reading) (value : Json) : Option PackageConfig := do
  let base : PackageConfig := {}
  let fields := [["baseline"], ["dev_baseline"], ["versions"], ["default_version"], ["denylist"]]
  match ← reading.record? fields value with
  | [baseline, devBaseline, versions, defaultVersion, denylist] =>
    return {
      baseline := ← orDefault base.baseline (table? reading.text?) baseline
      devBaseline := ← orDefault base.devBaseline (table? reading.text?) devBaseline
      versions := ← orDefault base.versions (table? reading.text?) versions
      defaultVersion := ← orDefault base.defaultVersion reading.text? defaultVersion
      denylist := ← orDefault base.denylist (list? reading.text?) denylist }
  | _ => none

/-- Reads the placement of instances. -/
def LayoutConfig.read? (reading : Reading) (value : Json) : Option LayoutConfig := do
  let base : LayoutConfig := {}
  match ← reading.record? [["origin_x"], ["origin_y"], ["row_spacing"]] value with
  | [originX, originY, rowSpacing] =>
    return {
      originX := ← orDefault base.originX reading.number? originX
      originY := ← orDefault base.originY reading.number? originY
      rowSpacing := ← orDefault base.rowSpacing reading.number? rowSpacing }
  | _ => none

/-- Reads the names that generated components may use. -/
def CapabilityConfig.read? (reading : Reading) (value : Json) : Option CapabilityConfig := do
  let base : CapabilityConfig := {}
  match ← reading.record? [["atoms_module"], ["atoms"], ["hooks"], ["host_module"]] value with
  | [atomsModule, atoms, hooks, hostModule] =>
    return {
      atomsModule := ← orDefault base.atomsModule reading.text? atomsModule
      atoms := ← orDefault base.atoms (list? reading.text?) atoms
      hooks := ← orDefault base.hooks (list? reading.text?) hooks
      hostModule := ← orDefault base.hostModule reading.text? hostModule }
  | _ => none

/-- Reads a configuration. -/
def Config.read? (reading : Reading) (value : Json) : Option Config := do
  match ← reading.record? [["project"], ["packages"], ["layout"], ["capabilities"]] value with
  | [project, packages, layout, capabilities] =>
    return {
      project := ← orDefault {} (ProjectConfig.read? reading) project
      packages := ← orDefault {} (PackageConfig.read? reading) packages
      layout := ← orDefault {} (LayoutConfig.read? reading) layout
      capabilities := ← orDefault {} (CapabilityConfig.read? reading) capabilities }
  | _ => none

/-- Reads a configuration that is written out exactly. -/
def Config.ofJson? (value : Json) : Option Config := Config.read? .exact value

/-- A table of strings as an object. -/
def Json.ofTextTable (table : Fields String) : Json := .obj (table.map fun (k, v) => (k, .str v))

/-- A configuration as an object, all parts written out. -/
def Config.toJson (config : Config) : Json :=
  .obj
    [("project", .obj
      [("name", .str config.project.name), ("version", .str config.project.version),
       ("generated_dir", .str config.project.generatedDir)]),
     ("packages", .obj
      [("baseline", .ofTextTable config.packages.baseline),
       ("dev_baseline", .ofTextTable config.packages.devBaseline),
       ("versions", .ofTextTable config.packages.versions),
       ("default_version", .str config.packages.defaultVersion),
       ("denylist", .arr (config.packages.denylist.map .str))]),
     ("layout", .obj
      [("origin_x", .float config.layout.originX), ("origin_y", .float config.layout.originY),
       ("row_spacing", .float config.layout.rowSpacing)]),
     ("capabilities", .obj
      [("atoms_module", .str config.capabilities.atomsModule),
       ("atoms", .arr (config.capabilities.atoms.map .str)),
       ("hooks", .arr (config.capabilities.hooks.map .str)),
       ("host_module", .str config.capabilities.hostModule)])]

end ComponentCanvas
