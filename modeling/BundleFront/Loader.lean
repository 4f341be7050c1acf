import BundleFront.Choice

/-!
# Loaders

A loader says how the contents of a file are understood before they are
compiled.  Which one a file gets depends on its extension; the options may add
to the built-in table or override it.
-/

namespace BundleFront

inductive Loader
  /-- No loader is chosen; whoever needs one takes a default -/
  | none
  | js
  | jsx
  | ts
  | tsx
  | json
  | text
  | base64
  | dataUrl
  /-- Copy the file next to the output and export its path -/
  | file
  | binary
deriving DecidableEq, Repr, Inhabited

namespace Loader

instance : Choice Loader where
  label := "loader"
  all := [none, js, jsx, ts, tsx, json, text, base64, dataUrl, file, binary]
  name
    | none => "none"
    | js => "js"
    | jsx => "jsx"
    | ts => "ts"
    | tsx => "tsx"
    | json => "json"
    | text => "text"
    | base64 => "base64"
    | dataUrl => "dataurl"
    | file => "file"
    | binary => "binary"

/-- Whether the loader needs a place to copy files to. -/
def requiresOutputPath (loader : Loader) : Bool := loader == file

/-- The loader itself, or `js` where none is chosen. -/
def orJs : Loader → Loader
  | none => js
  | loader => loader

/-- The built-in loaders by extension. -/
def builtin : List (String × Loader) :=
  [(".js", js), (".mjs", js), (".cjs", js), (".jsx", jsx), (".ts", ts), (".tsx", tsx),
   (".json", json), (".txt", text)]

end Loader
end BundleFront
