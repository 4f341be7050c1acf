import BundleFront.Plugin.Setup
import BundleFront.Settings.Check

/-!
# Settings of builds and transforms

Plugins of a build are set up even if its options already have problems, so that
their own problems show in the same pass.

A transform compiles one text that the host holds.  It has no files, so its
output gets a name made from the name of the text, and a comment that names a
source map has nothing to point to.  A source map has to name the text as well,
which always has a name by then.
-/

namespace BundleFront

/-- Where the output goes, and the output directory. -/
structure OutputPlace where
  destination : Destination
  directory : Option Path
deriving DecidableEq, Repr

/-- The place of output that goes back to the host: nothing may need a path, but a working
directory must be known, since relative externals start there. -/
def checkStdout (fs : FileSystem) (sourceMap : SourceMap) (metafile : Option Path)
    (loaders : List (String × Loader)) : Checked OutputPlace := do
  Checked.note sourceMap.requiresOutputPath .sourceMapWithoutPath
  Checked.note metafile.isSome .metafileWithoutPath
  Checked.note (loaders.any fun entry => entry.2.requiresOutputPath) .fileLoaderWithoutPath
  match fs.workingDirectory with
  | .ok directory => return ⟨.stdout, some directory⟩
  | .error error => Checked.ensure ⟨.stdout, none⟩ false (.noBase error)

/-- What decides about the place of the output. -/
structure OutputRequest where
  entryCount : Nat
  splitting : Bool
  sourceMap : SourceMap
  metafile : Option Path
  loaders : List (String × Loader)
  file : Option Path
  directory : Option Path

/-- Choose the place of the output; the first rule that is broken is the only one to show. -/
def OutputRequest.check (fs : FileSystem) (o : OutputRequest) : Checked OutputPlace :=
  match o.file, o.directory with
  | some _, some directory => Checked.ensure ⟨.stdout, some directory⟩ false .fileAndDirectory
  | none, some directory => pure ⟨.directory, some directory⟩
  | file, none =>
      if 1 < o.entryCount then Checked.ensure ⟨.stdout, none⟩ false .entriesWithoutDirectory
      else if o.splitting then Checked.ensure ⟨.stdout, none⟩ false .splittingWithoutDirectory
      else match file with
        | some file => pure ⟨.file file, some file.directory⟩
        | none => checkStdout fs o.sourceMap o.metafile o.loaders

def checkStdin (fs : FileSystem) : Option StdinOptions → Checked (Option StdinUnit)
  | none => pure none
  | some stdin => do
      let resolveDirectory ← checkOptionalPath fs stdin.resolveDir
      return some {
        loader := stdin.loader.orJs
        contents := stdin.contents
        sourceFile := stdin.sourcefile
        resolveDirectory }

/-- The format of the output: a bundle always has one, and nothing else may ask for one. -/
def checkFormat (bundling : Bool) (platform : Platform) (asked : Format) (externals : Externals) :
    Checked OutputFormat :=
  if bundling then
    pure (if asked = .default then .ofPlatform platform else .ofFormat asked)
  else do
    Checked.note (decide (asked ≠ .default)) .formatWithoutBundle
    Checked.note (!externals.isEmpty) .externalWithoutBundle
    return .ofFormat asked

/-- The settings of a build, with the absolute paths of its entry points. -/
structure BuildPlan where
  settings : Settings
  entries : List Path

namespace BuildOptions

/-- The number of entry points that are asked for. -/
def entryCount (o : BuildOptions) : Nat :=
  o.entryPoints.length + if o.stdin.isSome then 1 else 0

/-- The settings for everything but plugins. -/
def check (fs : FileSystem) (o : BuildOptions) : Checked BuildPlan := do
  let shared ← o.shared.check
  let metafile ← checkOptionalPath fs o.metafile
  let loaders ← checkLoaders o.loaders
  let resolveExtensions ← checkResolveExtensions o.resolveExtensions
  let externals ← checkExternals fs o.externals
  let file ← checkOptionalPath fs o.outfile
  let directory ← checkOptionalPath fs o.outdir
  let entries ← Checked.filterMap (checkPath fs) o.entryPoints
  let stdin ← checkStdin fs o.stdin
  let place ← OutputRequest.check fs {
    entryCount := o.entryCount
    splitting := o.splitting
    sourceMap := o.sourcemap
    metafile
    loaders
    file
    directory }
  let format ← checkFormat o.bundle o.platform o.format externals
  Checked.note (o.splitting && format != .esModule) .splittingWithoutEsm
  return {
    settings := { shared with
      platform := o.platform
      globalName := o.globalName
      bundling := o.bundle
      splitting := o.splitting
      format
      destination := place.destination
      outputDirectory := place.directory
      metafile
      loaders
      resolveExtensions
      externals
      stdin
      log := o.logOptions }
    entries }

/-- The plan of a build after its plugins are set up, and the cache with their filters. -/
def plan (o : BuildOptions) (plugins : List Plugin) (fs : FileSystem) (cache : FilterCache) :
    Checked BuildPlan × FilterCache :=
  let installation := Installation.ofPlugins plugins cache
  let checked : Checked BuildPlan := do
    let build ← o.check fs
    let loaderPlugins ← installation.checked
    return { build with settings := { build.settings with loaderPlugins } }
  (checked, installation.cache)

end BuildOptions

namespace TransformOptions

/-- The name of the text in messages. -/
def sourceName (o : TransformOptions) : String :=
  if o.sourcefile.isEmpty then "<stdin>" else o.sourcefile

/-- The settings for a transform of `input`. -/
def plan (o : TransformOptions) (input : String) : Checked Settings := do
  let shared ← o.shared.check
  Checked.note (o.sourcemap == .linked) .linkedTransform
  Checked.note (o.sourcemap != .none && o.sourceName.isEmpty) .sourceMapWithoutName
  return { shared with
    destination := .file ⟨o.sourceName ++ "-out"⟩
    stdin := some {
      loader := o.loader.orJs
      contents := input
      sourceFile := o.sourceName }
    log := o.logOptions }

end TransformOptions
end BundleFront
