import ComponentCanvas.Command

/-!
# The Command Line

Reads the arguments and the files that they name, runs the command, and writes what it comes to.
-/

open ComponentCanvas

namespace ComponentCanvas.CommandLine

/-- What the arguments say. -/
structure Arguments where
  response : Option String := none
  output : String := "out"
  config : Option String := none
  catalogDirectory : Option String := none
  dryRun : Bool := false

/-- How the command is used. -/
def usage : String :=
  "Usage: component-canvas [OPTIONS] <RESPONSE>\n\n" ++
  "  -o, --output <OUTPUT>            directory the project is written to [default: out]\n" ++
  "  -c, --config <CONFIG>            TOML config layered over the defaults\n" ++
  "      --catalog-dir <CATALOG_DIR>  directory of metadata and templates for the catalog\n" ++
  "      --dry-run                    list the files without writing them"

/-- Reads arguments; none if they are not understood. -/
def Arguments.read? (arguments : Arguments) : List String → Option Arguments
  | [] => if arguments.response.isSome then some arguments else none
  | "--dry-run" :: rest => { arguments with dryRun := true }.read? rest
  | "--output" :: path :: rest => { arguments with output := path }.read? rest
  | "-o" :: path :: rest => { arguments with output := path }.read? rest
  | "--config" :: path :: rest => { arguments with config := some path }.read? rest
  | "-c" :: path :: rest => { arguments with config := some path }.read? rest
  | "--catalog-dir" :: path :: rest => { arguments with catalogDirectory := some path }.read? rest
  | path :: rest =>
    if path.startsWith "-" || arguments.response.isSome then none
    else { arguments with response := some path }.read? rest

/-- The texts of the files at and below an entry of a directory. -/
partial def readEntry (way : List String) (entry : IO.FS.DirEntry) : IO FileTree := do
  let way := way ++ [entry.fileName]
  if ← entry.path.isDir then
    let entries ← entry.path.readDir
    return (← entries.toList.mapM (readEntry way)).flatten
  else
    try
      return [(way, ← IO.FS.readFile entry.path)]
    catch _ => return []

/-- The texts of the files of a directory. -/
def readDirectory (path : String) : IO FileTree := do
  let entries ← (← IO.FS.realPath path).readDir
  return (← entries.toList.mapM (readEntry [])).flatten

/-- Writes a file below the output directory. -/
def writeFile (output path text : String) : IO Unit := do
  let target := if path.startsWith "/" then path else output ++ "/" ++ path
  let directory := "/".intercalate (target.splitOn "/").dropLast
  IO.FS.createDirAll directory
  IO.FS.writeFile target text

/-- The file in which the system shows the environment, each variable ended by a zero. -/
def environmentFile : String := "/proc/self/environ"

/-- A variable and its value. -/
def assignment? (text : String) : Option (String × String) :=
  match text.splitOn "=" with
  | name :: part :: parts => some (name, "=".intercalate (part :: parts))
  | _ => none

/-- The text of a file, if it can be read. -/
def readFile? (path : String) : IO (Option String) := do
  try
    return some (← IO.FS.readFile path)
  catch _ => return none

/-- The variables of the environment. -/
def readVariables : IO (List (String × String)) := do
  let text := (← readFile? environmentFile).getD ""
  return (text.splitOn "\x00").filterMap assignment?

/-- The configuration files that are read wherever they exist. -/
def defaultFiles : List String := ["builder.toml", ".builder.toml", "config/builder.toml"]

/-- The texts of the configuration files. -/
def readSettings (named : Option String) : IO (List String) := do
  let found ← defaultFiles.filterMapM readFile?
  return found ++ (← named.mapM fun path => IO.FS.readFile path).toList

/-- The request that the arguments make. -/
def request (arguments : Arguments) : IO Command.Request := do
  return {
    response := ← arguments.response.mapM IO.FS.readFile
    settings := ← readSettings arguments.config
    environment := ← readVariables
    catalog := ← arguments.catalogDirectory.mapM readDirectory
    output := arguments.output
    dryRun := arguments.dryRun }

/-- Runs the command with arguments. -/
def run (arguments : Arguments) : IO UInt32 := do
  let outcome := Command.run (← request arguments)
  for line in outcome.warnings do IO.eprintln line
  for (path, text) in outcome.files do writeFile arguments.output path text
  for line in outcome.output do IO.println line
  unless outcome.succeeded do IO.eprintln "error: the run has failed"
  return outcome.code.toUInt32

end ComponentCanvas.CommandLine

/-- The command line. -/
def main (arguments : List String) : IO UInt32 := do
  match ComponentCanvas.CommandLine.Arguments.read? {} arguments with
  | none =>
    IO.eprintln ComponentCanvas.CommandLine.usage
    return 2
  | some arguments =>
    try
      ComponentCanvas.CommandLine.run arguments
    catch e =>
      IO.eprintln s!"error: {e}"
      return 1
