import ComponentCanvas.Fields

/-!
# Configuration

What a builder session can be told: how the exported project is named, which packages and versions
it depends on, where instances are placed and which names generated components may use.
-/

namespace ComponentCanvas

/-- Settings of the exported project. -/
structure ProjectConfig where
  name : String := "builder-app"
  version : String := "0.1.0"
  /-- The directory of generated component files, below the root of the project. -/
  generatedDir : String := "src/components/generated"

/-- The dependencies of the exported project.  The tables are sorted by package name. -/
structure PackageConfig where
  /-- Dependencies that every project has. -/
  baseline : Fields String := [("react", "^18.3.1"), ("react-dom", "^18.3.1")]
  /-- Development dependencies that every project has. -/
  devBaseline : Fields String :=
    [("@vitejs/plugin-react", "^4.3.4"), ("autoprefixer", "^10.4.20"), ("postcss", "^8.4.49"),
     ("tailwindcss", "^3.4.15"), ("vite", "^5.4.11")]
  /-- Versions of packages that catalog components require. -/
  versions : Fields String :=
    [("clsx", "^2.1.1"), ("framer-motion", "^11.11.17"), ("lucide-react", "^0.460.0"),
     ("react-hook-form", "^7.53.2")]
  /-- The version of a required package that has none of its own. -/
  defaultVersion : String := "latest"
  /-- Packages that are never depended on. -/
  denylist : List String := ["@/components/ui", "@/lib/utils", "@shadcn/ui", "shadcn-ui"]

/-- Where instances are placed that come without a position. -/
structure LayoutConfig where
  originX : Float := 40.0
  originY : Float := 40.0
  /-- The distance between two instances that are placed one after the other. -/
  rowSpacing : Float := 160.0

/-- The names that generated components may use. -/
structure CapabilityConfig where
  /-- The module of the atoms, as seen from the directory of generated files. -/
  atomsModule : String := "../ui/primitives"
  atoms : List String :=
    ["Box", "Stack", "Text", "Heading", "Button", "Image", "Link", "Icon", "Badge", "Input"]
  hooks : List String :=
    ["useState", "useEffect", "useMemo", "useRef", "useCallback", "Fragment"]
  /-- The module of the hooks and of the host namespace. -/
  hostModule : String := "react"

/-- The configuration of a session. -/
structure Config where
  project : ProjectConfig := {}
  packages : PackageConfig := {}
  layout : LayoutConfig := {}
  capabilities : CapabilityConfig := {}

/-- The version of a required package. -/
def PackageConfig.versionFor (config : PackageConfig) (package : String) : String :=
  (Fields.get? config.versions package).getD config.defaultVersion

/-- Whether a package is never depended on. -/
def PackageConfig.isDenied (config : PackageConfig) (package : String) : Bool :=
  config.denylist.contains package

end ComponentCanvas
