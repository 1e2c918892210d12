import ComponentCanvas.Text.Position

/-!
# Names of Packages

A package name is made of lower-case letters, digits and a few signs, may have a scope in front of
it, and is at most 214 bytes long.
-/

namespace ComponentCanvas.Project

/-- A character that a part of a package name may open with. -/
def isPackageStart (c : Char) : Bool := ('a' ≤ c && c ≤ 'z') || ('0' ≤ c && c ≤ '9')

/-- A character of a part of a package name. -/
def isPackagePart (c : Char) : Bool :=
  isPackageStart c || c == '.' || c == '_' || c == '~' || c == '-'

/-- A part of a package name: the scope or the name proper. -/
def isPackageWord : List Char → Bool
  | [] => false
  | c :: rest => isPackageStart c && rest.all isPackagePart

/-- Whether a text is a package name with or without a scope. -/
def isPackageForm : List Char → Bool
  | '@' :: rest =>
    match rest.dropWhile (· != '/') with
    | _ :: name => isPackageWord (rest.takeWhile (· != '/')) && isPackageWord name
    | [] => false
  | name => isPackageWord name

/-- The greatest number of bytes of a package name. -/
def packageNameLimit : Nat := 214

/-- Whether a name can be a package name. -/
def isPackageName (name : String) : Bool :=
  Text.byteSize name.toList ≤ packageNameLimit && isPackageForm name.toList

end ComponentCanvas.Project
