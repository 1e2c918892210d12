import ComponentCanvas.Catalog.Basic
import ComponentCanvas.Catalog.Template

/-!
# The Built-In Catalog

The components that every session knows unless it is given a catalog of its own.
-/

namespace ComponentCanvas.Catalog

/-- The entries of the built-in catalog. -/
def builtInEntries : List Entry := [
  { id := "navbar"
    displayName := "Navigation Bar"
    category := .navigation
    typeId := "Navbar"
    description := "Top navigation with brand, links and a call to action."
    defaultProperties := [
      ("brand", .str "Acme"), ("links", .arr [.obj [("label", .str "Features"),
      ("href", .str "#features")], .obj [("label", .str "Pricing"), ("href", .str "#pricing")],
      .obj [("label", .str "Contact"), ("href", .str "#contact")]]),
      ("ctaLabel", .str "Get started")]
    requiredPackages := ["lucide-react"]
    sourceImportPath := "components/navigation/Navbar"
    tags := ["header", "links"]
    template := Template.navbar },
  { id := "hero-section"
    displayName := "Hero Section"
    category := .hero
    typeId := "HeroSection"
    description := "Large headline block with supporting copy and two actions."
    defaultProperties := [
      ("title", .str "Build something people love"),
      ("subtitle", .str "Ship a polished landing page in minutes."),
      ("primaryAction", .str "Start free"), ("secondaryAction", .str "Learn more")]
    requiredPackages := ["framer-motion"]
    sourceImportPath := "components/hero/HeroSection"
    tags := ["headline", "landing"]
    template := Template.heroSection },
  { id := "feature-grid"
    displayName := "Feature Grid"
    category := .features
    typeId := "FeatureGrid"
    description := "Responsive grid of feature highlights."
    defaultProperties := [
      ("heading", .str "Everything you need"), ("features", .arr [.obj [("title", .str "Fast"),
      ("description", .str "Optimized for speed out of the box.")],
      .obj [("title", .str "Secure"), ("description", .str "Sensible defaults keep data safe.")],
      .obj [("title", .str "Flexible"),
      ("description", .str "Adapts to the way your team works.")]])]
    requiredPackages := ["lucide-react"]
    sourceImportPath := "components/features/FeatureGrid"
    tags := ["grid", "landing"]
    template := Template.featureGrid },
  { id := "card"
    displayName := "Card"
    category := .content
    typeId := "Card"
    description := "Simple content card with a title and body."
    defaultProperties := [
      ("title", .str "Default"), ("body", .str "Card body text.")]
    sourceImportPath := "components/content/Card"
    tags := ["content"]
    template := Template.card },
  { id := "pricing-table"
    displayName := "Pricing Table"
    category := .pricing
    typeId := "PricingTable"
    description := "Side-by-side pricing tiers."
    defaultProperties := [
      ("tiers", .arr [.obj [("name", .str "Starter"), ("price", .int 0),
      ("features", .arr [.str "1 project", .str "Community support"])],
      .obj [("name", .str "Pro"), ("price", .int 29),
      ("features", .arr [.str "Unlimited projects", .str "Priority support"]),
      ("highlighted", .bool true)]]), ("currency", .str "$")]
    requiredPackages := ["clsx", "lucide-react"]
    sourceImportPath := "components/pricing/PricingTable"
    tags := ["commerce", "landing"]
    template := Template.pricingTable },
  { id := "testimonial"
    displayName := "Testimonial"
    category := .testimonials
    typeId := "Testimonial"
    description := "Customer quote with attribution."
    defaultProperties := [
      ("quote", .str "This product changed how our team works."), ("author", .str "Jordan Lee"),
      ("role", .str "Head of Product")]
    sourceImportPath := "components/content/Testimonial"
    tags := ["social-proof"]
    template := Template.testimonial },
  { id := "contact-form"
    displayName := "Contact Form"
    category := .forms
    typeId := "ContactForm"
    description := "Name, email and message form."
    defaultProperties := [
      ("heading", .str "Get in touch"), ("submitLabel", .str "Send message")]
    requiredPackages := ["react-hook-form"]
    sourceImportPath := "components/forms/ContactForm"
    tags := ["contact", "form"]
    template := Template.contactForm },
  { id := "footer"
    displayName := "Footer"
    category := .footer
    typeId := "Footer"
    description := "Page footer with copyright line."
    defaultProperties := [
      ("company", .str "Acme Inc."), ("year", .int 2024)]
    sourceImportPath := "components/layout/Footer"
    tags := ["footer"]
    template := Template.footer }]

/-- The version of the built-in catalog. -/
def builtInVersion : String := "2024.11.1"

/-- The built-in catalog. -/
def builtIn : Catalog := ⟨builtInVersion, builtInEntries⟩

end ComponentCanvas.Catalog
