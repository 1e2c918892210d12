import ComponentCanvas.Fields
import ComponentCanvas.Project.ModulePath

/-!
# Writing below an Output Directory

The files of a project are written one after the other, each below the output directory unless its
path leads out of it.  A file cannot stand where a directory stands, nor the other way round; the
first such clash ends the writing.
-/

namespace ComponentCanvas.Project

/-- A directory that is being written: the texts of its files by path. -/
abbrev OutputTree := List (List String × String)

/-- The place that a name leads to from a place below the root; none outside. -/
def stepInside (place : Option (List String)) (name : String) : Option (List String) :=
  match place with
  | none => none
  | some names =>
    if name == ".." && names.isEmpty then none else some (step names name)

/-- The place of a path below the output directory, if it does not lead out of it. -/
def insidePath? (path : String) : Option (List String) :=
  if path.toList.head? == some '/' then none
  else (pathSegments path).foldl stepInside (some [])

/-- Whether one path leads through another one, or ends where that leads through. -/
def clashes (a b : List String) : Bool := a != b && (a.isPrefixOf b || b.isPrefixOf a)

/-- The directory after a file has been written, if it can be written. -/
def OutputTree.write? (tree : OutputTree) (path : List String) (text : String) :
    Option OutputTree :=
  if path.isEmpty || tree.any (clashes path ·.1) then none
  else some (tree.filter (·.1 != path) ++ [(path, text)])

/-- Writes files in order.  The truth value tells whether all have been written. -/
def OutputTree.writeAll (tree : OutputTree) : List (String × String) → OutputTree × Bool
  | [] => (tree, true)
  | (path, text) :: rest =>
    match insidePath? path with
    | none => tree.writeAll rest
    | some names =>
      match tree.write? names text with
      | none => (tree, false)
      | some tree => tree.writeAll rest

/-- The files by path. -/
def OutputTree.toFields (tree : OutputTree) : Fields String :=
  tree.map fun (names, text) => ("/".intercalate names, text)

end ComponentCanvas.Project
