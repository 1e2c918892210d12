import ComponentCanvas.Config.Basic
import ComponentCanvas.Project.ModulePath
import ComponentCanvas.Project.Primitives

/-!
# The Scaffold

The files that every exported project has, whatever the document holds.
-/

namespace ComponentCanvas.Project

open Text (unlines)

/-- The configuration of the bundler. -/
def viteConfig : String := unlines [
  "import \x7b defineConfig \x7d from 'vite';",
  "import react from '@vitejs/plugin-react';",
  "",
  "export default defineConfig(\x7b",
  "  plugins: [react()],",
  "\x7d);"]

/-- The configuration of the style sheets. -/
def tailwindConfig : String := unlines [
  "/** @type \x7bimport('tailwindcss').Config\x7d */",
  "export default \x7b",
  "  content: ['./index.html', './src/**/*.\x7bjs,jsx\x7d'],",
  "  theme: \x7b",
  "    extend: \x7b\x7d,",
  "  \x7d,",
  "  plugins: [],",
  "\x7d;"]

/-- The configuration of the style sheet processor. -/
def postcssConfig : String := unlines [
  "export default \x7b",
  "  plugins: \x7b",
  "    tailwindcss: \x7b\x7d,",
  "    autoprefixer: \x7b\x7d,",
  "  \x7d,",
  "\x7d;"]

/-- The files that version control leaves out. -/
def ignoredFiles : String := unlines [
  "node_modules",
  "dist",
  ".DS_Store",
  "*.log"]

/-- The style sheet. -/
def styleSheet : String := unlines [
  "@tailwind base;",
  "@tailwind components;",
  "@tailwind utilities;"]

/-- The module that puts the application on the page. -/
def mainModule : String := unlines [
  "import React from 'react';",
  "import ReactDOM from 'react-dom/client';",
  "import App from './App';",
  "import './index.css';",
  "",
  "ReactDOM.createRoot(document.getElementById('root')).render(",
  "  <React.StrictMode>",
  "    <App />",
  "  </React.StrictMode>",
  ");"]

/-- A character of a title inside a page. -/
def escapeTitleChar (c : Char) : List Char :=
  if c == '&' then ['&', 'a', 'm', 'p', ';']
  else if c == '<' then ['&', 'l', 't', ';']
  else if c == '>' then ['&', 'g', 't', ';']
  else [c]

/-- A title inside a page. -/
def escapeTitle (title : String) : String := String.ofList (title.toList.flatMap escapeTitleChar)

/-- The page. -/
def indexPage (title : String) : String := unlines [
  "<!doctype html>",
  "<html lang=\"en\">",
  "  <head>",
  "    <meta charset=\"UTF-8\" />",
  "    <meta name=\"viewport\" content=\"width=device-width, initial-scale=1.0\" />",
  "    <title>" ++ escapeTitle title ++ "</title>",
  "  </head>",
  "  <body>",
  "    <div id=\"root\"></div>",
  "    <script type=\"module\" src=\"/src/main.jsx\"></script>",
  "  </body>",
  "</html>"]

/-- The path of the primitives module. -/
def primitivesPath (config : Config) : String :=
  joinPath config.project.generatedDir config.capabilities.atomsModule ++ ".jsx"

/-- The files of the scaffold. -/
def scaffold (config : Config) : List (String × String) :=
  [("index.html", indexPage config.project.name), ("vite.config.js", viteConfig),
   ("tailwind.config.js", tailwindConfig), ("postcss.config.js", postcssConfig),
   (".gitignore", ignoredFiles), ("src/main.jsx", mainModule), ("src/index.css", styleSheet),
   (primitivesPath config, primitivesModule config.capabilities.atoms)]

end ComponentCanvas.Project
