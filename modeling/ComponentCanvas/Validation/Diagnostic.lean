import ComponentCanvas.Script.Syntax
import ComponentCanvas.Text.Lines

/-!
# Diagnostics

Why a generated source is turned down.  A cause has a code, the guarantee that it breaks, a message
and hints; a diagnostic adds where in the source it was found.
-/

namespace ComponentCanvas

open Text (Span LineColumn)
open Script (Fault ModuleForm)

/-- Why a source is turned down. -/
inductive Cause where
  | emptySource
  /-- A unit that was registered is gone. -/
  | lostUnit
  | noTypeId
  | unreadable (fault : Fault)
  | moduleItem (form : ModuleForm)
  | dynamicImport
  /-- There is no factory at all for the type with the given name and canonical form. -/
  | noFactory (typeId canonical : String)
  /-- There are factories, none of which has the name of the type. -/
  | otherFactories (canonical : String) (found : List String)
  | severalFactories (name : String)
  | notMarkup (name : String)
  /-- A name that resolves to nothing, further such names, and the names that may be used. -/
  | unresolved (name : String) (others available : List String)
  | notLowered (name : String)

namespace Cause

/-- The code of a cause. -/
def code : Cause → String
  | .emptySource | .lostUnit => "B-ERR-EMPTY"
  | .unreadable _ => "B-ERR-SYNTAX"
  | .moduleItem _ | .dynamicImport => "B-ERR-MODULE"
  | .noFactory _ _ => "B-ERR-FACTORY-MISSING"
  | .severalFactories _ => "B-ERR-FACTORY-AMBIGUOUS"
  | .noTypeId | .otherFactories _ _ | .notLowered _ => "B-ERR-FACTORY-NAME"
  | .notMarkup _ => "B-ERR-NOT-MARKUP"
  | .unresolved _ _ _ => "B-ERR-CAPABILITY"

/-- What an accepted source guarantees and this one does not. -/
def guarantee : Cause → String
  | .emptySource | .lostUnit => "Generated source contains a component definition."
  | .unreadable _ => "Generated source parses as a module body."
  | .moduleItem _ | .dynamicImport =>
    "Generated source is self-contained: capabilities are injected, never imported."
  | .noFactory _ _ => "Generated source defines a component factory."
  | .severalFactories _ => "Exactly one factory is registered per type identifier."
  | .noTypeId | .otherFactories _ _ | .notLowered _ =>
    "The factory name matches its type identifier."
  | .notMarkup _ => "The factory produces declarative markup."
  | .unresolved _ _ _ =>
    "Generated source only references its own bindings and injected capabilities."

/-- A name in quotes. -/
def quoted (name : String) : String := "\x60" ++ name ++ "\x60"

/-- What went wrong, in one sentence. -/
def message : Cause → String
  | .emptySource => "Generated source is empty."
  | .lostUnit => "Registered unit disappeared during batch."
  | .noTypeId => "Generated component has no type identifier."
  | .unreadable fault => fault.message
  | .moduleItem .importDeclaration => "Generated source contains an import declaration."
  | .moduleItem .exportDeclaration => "Generated source contains an export declaration."
  | .dynamicImport => "Generated source contains a dynamic import()."
  | .noFactory typeId _ => "No component factory found for " ++ quoted typeId ++ "."
  | .otherFactories canonical found =>
    "No factory is named " ++ quoted canonical ++ "; found " ++ ", ".intercalate found ++ "."
  | .severalFactories name => quoted name ++ " is defined more than once."
  | .notMarkup name => quoted name ++ " never returns markup."
  | .unresolved name _ _ => quoted name ++ " is not defined and is not an injected capability."
  | .notLowered name => quoted name ++ " could not be lowered to a component factory."

/-- What can be done about it. -/
def hints : Cause → List String
  | .moduleItem _ =>
    ["Remove import/export statements; atoms and hooks are provided in scope."]
  | .noFactory _ canonical =>
    ["Define \x60function " ++ canonical ++ "(props) \x7b return <...>; \x7d\x60."]
  | .otherFactories canonical _ => ["Rename the factory to " ++ quoted canonical ++ "."]
  | .notMarkup _ => ["A component factory must return a JSX element or fragment."]
  | .unresolved _ others available =>
    (if others.isEmpty then [] else ["Also unresolved: " ++ ", ".intercalate others]) ++
      ["Available capabilities: " ++ ", ".intercalate available]
  | .emptySource | .lostUnit | .noTypeId | .unreadable _ | .dynamicImport | .severalFactories _
  | .notLowered _ => []

end Cause

/-- A cause and where it was found. -/
structure Diagnostic where
  cause : Cause
  position : LineColumn
  /-- The first line of the text in question. -/
  context : Option String

namespace Diagnostic

/-- A diagnostic of the source as a whole, which stands at its start. -/
def general (cause : Cause) : Diagnostic := ⟨cause, .after [], none⟩

/-- A diagnostic of the text at a span. -/
def ofSpan (cause : Cause) (source : String) (span : Span) : Diagnostic where
  cause := cause
  position := Text.lineColumn source.toList span.start
  context := (Text.slice? source.toList span).map fun text => String.ofList (Text.firstLine text)

/-- A diagnostic in one line. -/
def display (d : Diagnostic) : String :=
  "[" ++ d.cause.code ++ "] " ++ d.cause.message ++ " (" ++ toString d.position.line ++ ":" ++
    toString d.position.column ++ ")"

end Diagnostic

end ComponentCanvas
