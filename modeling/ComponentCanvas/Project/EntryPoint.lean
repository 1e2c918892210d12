import ComponentCanvas.Project.ComponentModule

/-!
# The Entry Point

The module that imports the module of every placed type and shows the instances one below the
other.  Its function is called `App` unless a placed type is called so.
-/

namespace ComponentCanvas.Project

/-- The path of the entry point. -/
def entryPath : String := "src/App.jsx"

/-- The path of a module as the entry point imports it. -/
def entryImport (path : String) : String := "./" ++ withoutStart "src/" (withoutEnd ".jsx" path)

/-- Helper: lengthens a name until it is none of the given ones.  The first argument bounds the
number of steps; as many as there are names suffice. -/
def freeName : Nat → List String → String → String
  | 0, _, name => name
  | fuel + 1, taken, name =>
    if taken.contains name then freeName fuel taken (name ++ "Root") else name

/-- The name of the function of the entry point. -/
def entryName (modules : List ComponentModule) : String :=
  freeName modules.length (modules.map (·.typeId)) "App"

/-- The text of the entry point for modules and lines of markup. -/
def entryText (modules : List ComponentModule) (markup : List String) : String :=
  let imports := String.join (modules.map fun m => importText m.typeId (entryImport m.path))
  imports ++ (if modules.isEmpty then "" else "\n") ++
    "export default function " ++ entryName modules ++ "() \x7b\n" ++
    "  return (\n" ++
    "    <main className=\"min-h-screen\">\n" ++
    String.join (markup.map fun line => "      " ++ line ++ "\n") ++
    "    </main>\n  );\n\x7d\n"

end ComponentCanvas.Project
