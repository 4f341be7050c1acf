import BundleFront.Define
import BundleFront.Feature
import BundleFront.Options.Basic
import BundleFront.Plugin.Basic

/-!
# Settings

Settings are what checked options come to: the one configuration that a resolver,
a scanner and a compiler receive.  Paths are absolute, what was left open has been
decided, and every output has just one destination.
-/

namespace BundleFront

/-- The module format of the output. -/
inductive OutputFormat
  /-- The format of the input -/
  | preserve
  | iife
  | commonJs
  | esModule
deriving DecidableEq, Repr, Inhabited

namespace OutputFormat

def ofFormat : Format → OutputFormat
  | .default => preserve
  | .iife => iife
  | .cjs => commonJs
  | .esm => esModule

/-- The format that a host asks for to get this one. -/
def toFormat : OutputFormat → Format
  | preserve => .default
  | iife => .iife
  | commonJs => .cjs
  | esModule => .esm

/-- The format of a bundle when none is asked for. -/
def ofPlatform : Platform → OutputFormat
  | .browser => iife
  | .node => commonJs

end OutputFormat

/-- Where the output goes. -/
inductive Destination
  /-- One file -/
  | file (path : Path)
  /-- One file per output in the output directory -/
  | directory
  /-- Nowhere but back to the host -/
  | stdout
deriving DecidableEq, Repr, Inhabited

/-- Imports that the output leaves alone. -/
structure Externals where
  /-- Names of packages, ascending -/
  packages : List String := []
  /-- The texts of absolute paths, ascending -/
  files : List String := []
deriving DecidableEq, Repr, Inhabited

def Externals.isEmpty (externals : Externals) : Bool :=
  externals.packages.isEmpty && externals.files.isEmpty

/-- The entry point that has no file. -/
structure StdinUnit where
  loader : Loader
  contents : String
  sourceFile : String
  resolveDirectory : Option Path := none
deriving DecidableEq, Repr, Inhabited

structure Settings where
  /-- The features that the output must not use -/
  unsupported : List Feature := []
  strict : StrictOptions := {}
  /-- The names of the path to the element factory; none for the compiler's own -/
  jsxFactory : List String := []
  jsxFragment : List String := []
  /-- None if there is nothing to replace -/
  defines : Option DefineTable := none
  platform : Platform := .browser
  sourceMap : SourceMap := .none
  minifySyntax : Bool := false
  minifyWhitespace : Bool := false
  minifyIdentifiers : Bool := false
  globalName : String := ""
  bundling : Bool := false
  splitting : Bool := false
  format : OutputFormat := .preserve
  destination : Destination := .stdout
  /-- What outputs are relative to; without a destination, the working directory -/
  outputDirectory : Option Path := none
  metafile : Option Path := none
  /-- Loaders by extension -/
  loaders : List (String × Loader) := []
  resolveExtensions : List String := []
  externals : Externals := {}
  stdin : Option StdinUnit := none
  /-- In the order in which they are asked -/
  loaderPlugins : List LoaderPlugin := []
  log : LogOptions := {}

namespace Settings

/-- The one output file, if there is one. -/
def outputFile? (settings : Settings) : Option Path :=
  match settings.destination with
  | .file path => some path
  | _ => none

/-- Whether the output only goes back to the host. -/
def writesToStdout (settings : Settings) : Bool :=
  match settings.destination with
  | .stdout => true
  | _ => false

end Settings
end BundleFront
