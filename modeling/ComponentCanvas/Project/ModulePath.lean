import ComponentCanvas.Text.Lines

/-!
# Paths of Modules

A path inside the exported project is a list of names with slashes between them.
-/

namespace ComponentCanvas.Project

/-- The names of a path. -/
def pathSegments (path : String) : List String :=
  (Text.splitBy (· == '/') path.toList).map String.ofList

/-- A name that stays where it is. -/
def isIdle (name : String) : Bool := name.isEmpty || name == "."

/-- The place that one name leads to. -/
def step (place : List String) (name : String) : List String :=
  if isIdle name then place
  else if name == ".." then place.dropLast
  else place ++ [name]

/-- The path of a module that is given relative to a directory.  Steps up apply to the relative
path only, and none leads above the root. -/
def joinPath (directory relative : String) : String :=
  let start := (pathSegments directory).filter (!isIdle ·)
  "/".intercalate ((pathSegments relative).foldl step start)

/-- A path without the slashes at its end. -/
def trimSlashesEnd (path : String) : String :=
  String.ofList (path.toList.reverse.dropWhile (· == '/')).reverse

/-- A path without the slashes at both ends. -/
def trimSlashes (path : String) : String :=
  trimSlashesEnd (String.ofList (path.toList.dropWhile (· == '/')))

/-- The text without a given end, if it has it. -/
def withoutEnd (ending text : String) : String :=
  if ending.toList.isSuffixOf text.toList then
    String.ofList (text.toList.take (text.toList.length - ending.toList.length))
  else text

/-- The text without a given start, if it has it. -/
def withoutStart (start text : String) : String :=
  if start.toList.isPrefixOf text.toList then
    String.ofList (text.toList.drop start.toList.length)
  else text

end ComponentCanvas.Project
