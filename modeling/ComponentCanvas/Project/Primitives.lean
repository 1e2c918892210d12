/-!
# The Primitives Module

The exported project carries an implementation of every atom that generated components may use.
The atoms that are known by name have one of their own; any other is a plain container.
-/

namespace ComponentCanvas.Project

/-- The implementations of the atoms that are known: for each its parameters and its body. -/
def knownAtoms : List (String × List String) := [
  ("Box", [
    "(\x7b as: Tag = 'div', className = '', children, ...rest \x7d) \x7b",
    "  return <Tag className=\x7bclassName\x7d \x7b...rest\x7d>\x7bchildren\x7d</Tag>;",
    "\x7d"]),
  ("Stack", [
    "(\x7b direction = 'column', gap = 4, className = '', children, ...rest \x7d) \x7b",
    "  const axis = direction === 'row' ? 'flex-row' : 'flex-col';",
    "  return <div className=\x7b\x60flex $\x7baxis\x7d gap-$\x7bgap\x7d $\x7bclassName\x7d\x60\x7d \x7b...rest\x7d>\x7bchildren\x7d</div>;",
    "\x7d"]),
  ("Text", [
    "(\x7b as: Tag = 'p', className = '', children, ...rest \x7d) \x7b",
    "  return <Tag className=\x7bclassName\x7d \x7b...rest\x7d>\x7bchildren\x7d</Tag>;",
    "\x7d"]),
  ("Heading", [
    "(\x7b level = 2, className = '', children, ...rest \x7d) \x7b",
    "  const Tag = \x60h$\x7bMath.min(Math.max(level, 1), 6)\x7d\x60;",
    "  return <Tag className=\x7b\x60font-semibold $\x7bclassName\x7d\x60\x7d \x7b...rest\x7d>\x7bchildren\x7d</Tag>;",
    "\x7d"]),
  ("Button", [
    "(\x7b variant = 'primary', className = '', children, ...rest \x7d) \x7b",
    "  const look = variant === 'primary' ? 'bg-black text-white' : 'border border-gray-300';",
    "  return <button className=\x7b\x60rounded-md px-4 py-2 $\x7blook\x7d $\x7bclassName\x7d\x60\x7d \x7b...rest\x7d>\x7bchildren\x7d</button>;",
    "\x7d"]),
  ("Image", [
    "(\x7b alt = '', className = '', ...rest \x7d) \x7b",
    "  return <img alt=\x7balt\x7d className=\x7bclassName\x7d \x7b...rest\x7d />;",
    "\x7d"]),
  ("Link", [
    "(\x7b href = '#', className = '', children, ...rest \x7d) \x7b",
    "  return <a href=\x7bhref\x7d className=\x7b\x60underline-offset-4 hover:underline $\x7bclassName\x7d\x60\x7d \x7b...rest\x7d>\x7bchildren\x7d</a>;",
    "\x7d"]),
  ("Icon", [
    "(\x7b name, className = '', ...rest \x7d) \x7b",
    "  return <span aria-hidden=\"true\" data-icon=\x7bname\x7d className=\x7bclassName\x7d \x7b...rest\x7d />;",
    "\x7d"]),
  ("Badge", [
    "(\x7b className = '', children, ...rest \x7d) \x7b",
    "  return <span className=\x7b\x60rounded-full bg-gray-100 px-2 py-0.5 text-xs $\x7bclassName\x7d\x60\x7d \x7b...rest\x7d>\x7bchildren\x7d</span>;",
    "\x7d"]),
  ("Input", [
    "(\x7b className = '', ...rest \x7d) \x7b",
    "  return <input className=\x7b\x60rounded-md border px-3 py-2 $\x7bclassName\x7d\x60\x7d \x7b...rest\x7d />;",
    "\x7d"])]

/-- The implementation of an atom that is not known. -/
def plainAtom : List String := [
  "(\x7b className = '', children, ...rest \x7d) \x7b",
  "  return <div className=\x7bclassName\x7d \x7b...rest\x7d>\x7bchildren\x7d</div>;",
  "\x7d"]

/-- The implementation of an atom. -/
def atomBody (atom : String) : List String := (knownAtoms.lookup atom).getD plainAtom

/-- The function that is exported for an atom. -/
def atomText (atom : String) : String :=
  "export function " ++ atom ++ "\n".intercalate (atomBody atom)

/-- The module that exports one function for each atom; an empty line parts two of them. -/
def primitivesModule (atoms : List String) : String :=
  let text := "\n\n".intercalate (atoms.map atomText)
  text ++ "\n"

end ComponentCanvas.Project
