import BundleFront.Options.Choices
import BundleFront.Path

/-!
# Options as a host gives them

Nothing in these options is checked yet.  Tables keep the order in which a host
wrote their entries.
-/

namespace BundleFront

/-- An engine and the lowest version that the output has to run on. -/
structure Engine where
  name : EngineName
  /-- Such as `12`, `12.4` or `12.4.1` -/
  version : String
deriving DecidableEq, Repr, Inhabited

/-- Features whose output follows the standard to the letter. -/
structure StrictOptions where
  nullishCoalescing : Bool := false
  classFields : Bool := false
deriving DecidableEq, Repr, Inhabited

/-- An entry point that has no file. -/
structure StdinOptions where
  contents : String := ""
  loader : Loader := .none
  /-- The name of the entry point in messages -/
  sourcefile : String := ""
  /-- Where its relative imports start -/
  resolveDir : Option Path := none
deriving DecidableEq, Repr, Inhabited

/-- The options of one build. -/
structure BuildOptions where
  color : ColorChoice := .ifTerminal
  errorLimit : UInt64 := 0
  logLevel : LogLevel := .info
  sourcemap : SourceMap := .none
  target : Target := .esNext
  engines : List Engine := []
  strict : StrictOptions := {}
  minifyWhitespace : Bool := false
  minifyIdentifiers : Bool := false
  minifySyntax : Bool := false
  jsxFactory : String := ""
  jsxFragment : String := ""
  /-- Member paths and the values that replace them -/
  defines : List (String × String) := []
  pureFunctions : List String := []
  /-- The variable that takes the exports of a bundle -/
  globalName : String := ""
  bundle : Bool := false
  splitting : Bool := false
  outfile : Option Path := none
  metafile : Option Path := none
  outdir : Option Path := none
  platform : Platform := .browser
  format : Format := .default
  externals : List String := []
  /-- Loaders by extension, over the built-in ones -/
  loaders : List (String × Loader) := []
  /-- The extensions to try, in order; none for the built-in order -/
  resolveExtensions : Option (List String) := none
  entryPoints : List Path := []
  stdin : Option StdinOptions := none
deriving DecidableEq, Repr, Inhabited

/-- The options of one transformation of a single text. -/
structure TransformOptions where
  color : ColorChoice := .ifTerminal
  errorLimit : UInt64 := 0
  logLevel : LogLevel := .info
  sourcemap : SourceMap := .none
  target : Target := .esNext
  engines : List Engine := []
  strict : StrictOptions := {}
  minifyWhitespace : Bool := false
  minifyIdentifiers : Bool := false
  minifySyntax : Bool := false
  jsxFactory : String := ""
  jsxFragment : String := ""
  defines : List (String × String) := []
  pureFunctions : List String := []
  /-- The name of the text in messages -/
  sourcefile : String := ""
  loader : Loader := .none
deriving DecidableEq, Repr, Inhabited

def BuildOptions.logOptions (o : BuildOptions) : LogOptions :=
  { level := o.logLevel, errorLimit := o.errorLimit, color := o.color }

def TransformOptions.logOptions (o : TransformOptions) : LogOptions :=
  { level := o.logLevel, errorLimit := o.errorLimit, color := o.color }

end BundleFront
