import BundleFront.Options.Basic
import BundleFront.Plugin.Setup
import BundleFront.Table

/-!
# Options put together step by step

A host may start from the options for its entry points and change them one by
one.  Some changes replace a value; engines and pure functions are appended;
defines and loaders keep one value a name; an external is listed once.

Besides its options a build has plugins and, if it does not share one with all
others, a cache for their filters.  A host gives them in further steps.  Plugins
are appended like engines; what a host knows a cache by is up to it.
-/

namespace BundleFront

/-- Append the texts that are not listed yet, each once. -/
def appendNew (listed : List String) (texts : List String) : List String :=
  texts.foldl (fun listed text => if listed.contains text then listed else listed ++ [text]) listed

namespace StdinOptions

/-- An entry point with the given contents. -/
def ofContents (contents : String) : StdinOptions := { contents }

inductive Change
  | loader (loader : Loader)
  | sourcefile (name : String)
  | resolveDir (path : Path)
deriving DecidableEq, Repr

def apply (o : StdinOptions) : Change → StdinOptions
  | .loader loader => { o with loader }
  | .sourcefile name => { o with sourcefile := name }
  | .resolveDir path => { o with resolveDir := some path }

end StdinOptions

namespace BuildOptions

/-- The options for some entry points. -/
def ofEntries (entryPoints : List Path) : BuildOptions := { entryPoints }

/-- The options for an entry point without a file. -/
def ofStdin (stdin : StdinOptions) : BuildOptions := { stdin := some stdin }

inductive Change
  | bundle (enabled : Bool)
  | splitting (enabled : Bool)
  | outfile (path : Path)
  | outdir (path : Path)
  | metafile (path : Path)
  | platform (platform : Platform)
  | format (format : Format)
  | sourcemap (mode : SourceMap)
  | target (target : Target)
  | engine (name : EngineName) (version : String)
  /-- All three ways of making the output smaller -/
  | minify (enabled : Bool)
  | external (modules : List String)
  | loader (extension : String) (loader : Loader)
  | resolveExtensions (extensions : List String)
  | define (key value : String)
  | pureFunction (path : String)
  | jsxFactory (factory : String)
  | jsxFragment (fragment : String)
  | globalName (name : String)
  | stdin (stdin : StdinOptions)
  | logLevel (level : LogLevel)
  | errorLimit (limit : UInt64)
deriving DecidableEq, Repr

def apply (o : BuildOptions) : Change → BuildOptions
  | .bundle enabled => { o with bundle := enabled }
  | .splitting enabled => { o with splitting := enabled }
  | .outfile path => { o with outfile := some path }
  | .outdir path => { o with outdir := some path }
  | .metafile path => { o with metafile := some path }
  | .platform platform => { o with platform }
  | .format format => { o with format }
  | .sourcemap mode => { o with sourcemap := mode }
  | .target target => { o with target }
  | .engine name version => { o with engines := o.engines ++ [⟨name, version⟩] }
  | .minify enabled =>
      { o with minifyWhitespace := enabled, minifyIdentifiers := enabled, minifySyntax := enabled }
  | .external modules => { o with externals := appendNew o.externals modules }
  | .loader extension loader => { o with loaders := Table.put extension loader o.loaders }
  | .resolveExtensions extensions => { o with resolveExtensions := some extensions }
  | .define key value => { o with defines := Table.put key value o.defines }
  | .pureFunction path => { o with pureFunctions := o.pureFunctions ++ [path] }
  | .jsxFactory factory => { o with jsxFactory := factory }
  | .jsxFragment fragment => { o with jsxFragment := fragment }
  | .globalName name => { o with globalName := name }
  | .stdin stdin => { o with stdin := some stdin }
  | .logLevel level => { o with logLevel := level }
  | .errorLimit limit => { o with errorLimit := limit }

end BuildOptions

namespace TransformOptions

/-- The options for a text with the given loader. -/
def ofLoader (loader : Loader) : TransformOptions := { loader }

inductive Change
  | sourcemap (mode : SourceMap)
  | sourcefile (name : String)
  | target (target : Target)
  | engine (name : EngineName) (version : String)
  | minify (enabled : Bool)
  | define (key value : String)
  | pureFunction (path : String)
  | jsxFactory (factory : String)
  | jsxFragment (fragment : String)
  | logLevel (level : LogLevel)
deriving DecidableEq, Repr

def apply (o : TransformOptions) : Change → TransformOptions
  | .sourcemap mode => { o with sourcemap := mode }
  | .sourcefile name => { o with sourcefile := name }
  | .target target => { o with target }
  | .engine name version => { o with engines := o.engines ++ [⟨name, version⟩] }
  | .minify enabled =>
      { o with minifyWhitespace := enabled, minifyIdentifiers := enabled, minifySyntax := enabled }
  | .define key value => { o with defines := Table.put key value o.defines }
  | .pureFunction path => { o with pureFunctions := o.pureFunctions ++ [path] }
  | .jsxFactory factory => { o with jsxFactory := factory }
  | .jsxFragment fragment => { o with jsxFragment := fragment }
  | .logLevel level => { o with logLevel := level }

/-- Whether two options differ at most in the order of their defines. -/
def agrees (a b : TransformOptions) : Bool :=
  decide ({ a with defines := [] } = { b with defines := [] }) && Table.same a.defines b.defines

end TransformOptions

/-- What a host asks of a build; `κ` is what caches are known by. -/
structure BuildRequest (κ : Type) where
  options : BuildOptions := {}
  /-- In the order in which they are set up -/
  plugins : List Plugin := []
  /-- The cache for the filters of the plugins; none for the one that all builds share -/
  cache : Option κ := none

namespace BuildRequest

/-- What a host starts from. -/
inductive Origin
  | blank
  | entries (entryPoints : List Path)
  | stdin (stdin : StdinOptions)
deriving DecidableEq, Repr

inductive Step (κ : Type)
  | change (change : BuildOptions.Change)
  | plugin (plugin : Plugin)
  | cache (cache : κ)

variable {κ : Type}

def ofOrigin : Origin → BuildRequest κ
  | .blank => {}
  | .entries entryPoints => { options := .ofEntries entryPoints }
  | .stdin stdin => { options := .ofStdin stdin }

def apply (r : BuildRequest κ) : Step κ → BuildRequest κ
  | .change change => { r with options := r.options.apply change }
  | .plugin plugin => { r with plugins := r.plugins ++ [plugin] }
  | .cache cache => { r with cache := some cache }

/-- The request that some steps come to, one after the other. -/
def run (origin : Origin) (steps : List (Step κ)) : BuildRequest κ :=
  steps.foldl apply (ofOrigin origin)

end BuildRequest

end BundleFront
