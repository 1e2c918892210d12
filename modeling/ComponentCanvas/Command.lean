import ComponentCanvas.Catalog.Discovery
import ComponentCanvas.Config.Loading
import ComponentCanvas.Project.OutputTree
import ComponentCanvas.Session

/-!
# The Command

One run of the command takes in the text of one batch and exports the page that it makes.  What
cannot be placed or exported is warned about; an error ends the run.
-/

namespace ComponentCanvas

namespace Command

/-- What a run is given. -/
structure Request where
  /-- The text of the batch, if it can be read. -/
  response : Option String
  /-- The texts of the configuration files, each over those before it. -/
  settings : List String := []
  /-- The variables of the environment. -/
  environment : List (String × String) := []
  /-- A directory that makes the catalog, instead of the built-in one. -/
  catalog : Option FileTree := none
  /-- The name of the output directory. -/
  output : String
  /-- Whether the files are listed and not written. -/
  dryRun : Bool := false

/-- What a run comes to. -/
structure Outcome where
  succeeded : Bool
  /-- The lines of the output. -/
  output : List String := []
  /-- The lines of the warnings. -/
  warnings : List String := []
  /-- The files to write, in order. -/
  files : Fields String := []

/-- A run that fails. -/
def Outcome.failed : Outcome where
  succeeded := false

/-- The exit code of a run. -/
def Outcome.code (outcome : Outcome) : Nat := if outcome.succeeded then 0 else 1

/-- The catalog of a run. -/
def Request.catalog? (request : Request) : Option Catalog :=
  match request.catalog with
  | none => some .builtIn
  | some files => (Catalog.discover "local" (some files)).toOption

/-- The session of a run, before it is given anything. -/
def Request.session? (request : Request) : Option Session := do
  let config ← Config.load? request.settings request.environment
  return Session.start (← request.catalog?) config

/-- The lines of a warning about a batch. -/
def warningLines : Session.Warning → List String
  | .rejectedSource typeId diagnostic =>
    ("warning: generated \x60" ++ typeId ++ "\x60 rejected: " ++ diagnostic.display) ::
      diagnostic.cause.hints.map ("  hint: " ++ ·)
  | .unknownType typeId => ["warning: unknown component type \x60" ++ typeId ++ "\x60"]

/-- The line of a warning about an instance that is left out. -/
def skippedLine (skipped : Project.Skipped) : String :=
  "warning: " ++ skipped.id.text ++ " (" ++ skipped.typeId ++ ") not exported: " ++
    skipped.reason.message

/-- The line that sums up a run. -/
def summaryLine (files instances : Nat) (output : String) : String :=
  "wrote " ++ toString files ++ " files for " ++ toString instances ++ " instances to " ++ output

/-- The outcome of an export. -/
def exported (request : Request) (report : Session.Report) (project : Project) : Outcome :=
  let warnings := report.warnings.flatMap warningLines ++ project.skipped.map skippedLine
  if request.dryRun then ⟨true, Fields.keys project.files, warnings, []⟩
  else
    let line := summaryLine project.files.length report.placed.length request.output
    ⟨true, [line], warnings, project.files⟩

/-- What a session does with the text of a batch. -/
def process (request : Request) (session : Session) (text : String) : Outcome :=
  match session.ingestText text with
  | .error _ => .failed
  | .ok (session, report) =>
    match session.synthesize with
    | .error _ => { Outcome.failed with warnings := report.warnings.flatMap warningLines }
    | .ok project => exported request report project

/-- Runs the command. -/
def run (request : Request) : Outcome :=
  match request.session?, request.response with
  | some session, some text => process request session text
  | _, _ => .failed

/-- The outcome as far as the files can be written, and what they make of the output directory. -/
def Outcome.write (outcome : Outcome) : Outcome × Project.OutputTree :=
  match Project.OutputTree.writeAll [] outcome.files with
  | (tree, true) => (outcome, tree)
  | (tree, false) => ({ outcome with succeeded := false, output := [] }, tree)

end Command

end ComponentCanvas
