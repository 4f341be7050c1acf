import BundleFront.Checked
import BundleFront.Settings.Basic

/-!
# Checks of single options

Each check returns the value that an option comes to, with the problems it has.
-/

namespace BundleFront

/-- The demand that an engine makes on the output. -/
def checkEngine (engine : Engine) : Checked (Option (Runner × Version)) :=
  match Version.parse? engine.version with
  | some version => pure (some (.engine engine.name, version))
  | none => Checked.ensure none false (.version engine.version)

/-- The features that the output must not use.  The last version given for an engine counts. -/
def checkFeatures (target : Target) (engines : List Engine) : Checked (List Feature) := do
  let demands ← Checked.filterMap checkEngine engines
  let edition := target.edition?.toList.map fun number => (Runner.edition, [number])
  return Feature.unsupported (Table.ofList (edition ++ demands))

/-- The names of a path to a function, none for the empty text. -/
def checkJsx (kind text : String) : Checked (List String) :=
  if text.isEmpty then pure []
  else if isIdentifierPath text then pure (Text.segments '.' text)
  else Checked.ensure [] false (.jsx kind text)

/-- The absolute form of a path; the empty path stands for none. -/
def checkPath (fs : FileSystem) (p : Path) : Checked (Option Path) :=
  if p.isEmpty then pure none
  else match fs.absolute? p with
    | some absolute => pure (some absolute)
    | none => Checked.ensure none false (.path p)

def checkOptionalPath (fs : FileSystem) : Option Path → Checked (Option Path)
  | none => pure none
  | some p => checkPath fs p

/-- Whether an import names a package and not a file. -/
def isPackagePath (text : String) : Bool :=
  match text.toList with
  | '/' :: _ | '.' :: '/' :: _ | '.' :: '.' :: '/' :: _ | ['.'] | ['.', '.'] => false
  | _ => true

/-- What an external stands for. -/
inductive External
  | package (name : String)
  | file (path : Path)
deriving DecidableEq, Repr

def External.package? : External → Option String
  | package name => some name
  | file _ => none

def External.file? : External → Option String
  | package _ => none
  | file path => some path.text

def checkExternal (fs : FileSystem) (text : String) : Checked (Option External) :=
  if isPackagePath text then pure (some (.package text))
  else do
    let path ← checkPath fs ⟨text⟩
    return path.map .file

def checkExternals (fs : FileSystem) (texts : List String) : Checked Externals := do
  let found ← Checked.filterMap (checkExternal fs) texts
  return { packages := Table.distinct (found.filterMap External.package?)
           files := Table.distinct (found.filterMap External.file?) }

/-- Whether a text is a dot with something behind it, where neither a second dot follows nor a dot
ends it. -/
def isExtension (text : String) : Bool :=
  match text.toList with
  | '.' :: c :: rest => c != '.' && (c :: rest).getLast? != some '.'
  | _ => false

/-- The loaders of the options over the built-in ones; an invalid extension counts all the same. -/
def checkLoaders (loaders : List (String × Loader)) : Checked (List (String × Loader)) := do
  Checked.all isExtension .extension (loaders.map Prod.fst)
  return loaders.foldl (fun table entry => Table.put entry.1 entry.2 table) Loader.builtin

/-- The extensions that are tried when none are given. -/
def defaultExtensions : List String := [".tsx", ".ts", ".jsx", ".mjs", ".cjs", ".js", ".json"]

/-- The extensions to try; an invalid one counts all the same. -/
def checkResolveExtensions : Option (List String) → Checked (List String)
  | none => pure defaultExtensions
  | some extensions => do
      Checked.all isExtension .extension extensions
      return extensions

/-- The options that builds and transforms share. -/
structure SharedOptions where
  target : Target
  engines : List Engine
  strict : StrictOptions
  jsxFactory : String
  jsxFragment : String
  defines : List (String × String)
  pureFunctions : List String
  sourcemap : SourceMap
  minifySyntax : Bool
  minifyWhitespace : Bool
  minifyIdentifiers : Bool
deriving DecidableEq, Repr

/-- The settings that shared options come to; the others are as if nothing was asked for. -/
def SharedOptions.check (o : SharedOptions) : Checked Settings := do
  let unsupported ← checkFeatures o.target o.engines
  let jsxFactory ← checkJsx "factory" o.jsxFactory
  let jsxFragment ← checkJsx "fragment" o.jsxFragment
  let defines ← compileDefines o.defines o.pureFunctions
  return {
    unsupported
    strict := o.strict
    jsxFactory
    jsxFragment
    defines
    sourceMap := o.sourcemap
    minifySyntax := o.minifySyntax
    minifyWhitespace := o.minifyWhitespace
    minifyIdentifiers := o.minifyIdentifiers }

def BuildOptions.shared (o : BuildOptions) : SharedOptions where
  target := o.target
  engines := o.engines
  strict := o.strict
  jsxFactory := o.jsxFactory
  jsxFragment := o.jsxFragment
  defines := o.defines
  pureFunctions := o.pureFunctions
  sourcemap := o.sourcemap
  minifySyntax := o.minifySyntax
  minifyWhitespace := o.minifyWhitespace
  minifyIdentifiers := o.minifyIdentifiers

def TransformOptions.shared (o : TransformOptions) : SharedOptions where
  target := o.target
  engines := o.engines
  strict := o.strict
  jsxFactory := o.jsxFactory
  jsxFragment := o.jsxFragment
  defines := o.defines
  pureFunctions := o.pureFunctions
  sourcemap := o.sourcemap
  minifySyntax := o.minifySyntax
  minifyWhitespace := o.minifyWhitespace
  minifyIdentifiers := o.minifyIdentifiers

end BundleFront
