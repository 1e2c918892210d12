import ComponentCanvas.Json.Shape

/-!
# Categories

The closed set of sections that a component belongs to.  Whatever is not listed is `other`.
-/

namespace ComponentCanvas

/-- The section of a page that a component is made for. -/
inductive Category where
  | layout | navigation | hero | content | features | pricing | testimonials | forms | media
  | footer | other
deriving DecidableEq, Inhabited

namespace Category

/-- The name of a category. -/
def name : Category → String
  | .layout => "layout"
  | .navigation => "navigation"
  | .hero => "hero"
  | .content => "content"
  | .features => "features"
  | .pricing => "pricing"
  | .testimonials => "testimonials"
  | .forms => "forms"
  | .media => "media"
  | .footer => "footer"
  | .other => "other"

/-- The categories with a name of their own. -/
def listed : List Category :=
  [.layout, .navigation, .hero, .content, .features, .pricing, .testimonials, .forms, .media,
   .footer]

/-- The category of a name. -/
def ofName (name : String) : Category := (listed.find? (·.name == name)).getD .other

/-- Reads a category.  Any string is the name of one, and so is the name of the only member of an
object if its value is null. -/
def ofJson? {β : Type} [Json.Readable β] (value : β) : Option Category :=
  match Json.text? value, Json.Readable.members? value with
  | some name, _ => some (ofName name)
  | none, some [(some name, inner)] => if Json.readsNull inner then some (ofName name) else none
  | none, _ => none

/-- A category as JSON. -/
def toJson (category : Category) : Json := .str category.name

end Category

end ComponentCanvas
