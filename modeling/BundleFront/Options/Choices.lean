import BundleFront.Loader
import BundleFront.Diagnostic.Report

/-!
# Options that pick a name
-/

namespace BundleFront

/-- Where the output runs. -/
inductive Platform
  | browser
  | node
deriving DecidableEq, Repr, Inhabited

instance : Choice Platform where
  label := "platform"
  all := [.browser, .node]
  name
    | .browser => "browser"
    | .node => "node"

/-- The module format a host asks for. -/
inductive Format
  /-- Keep the format of the input, or let the platform decide when bundling -/
  | default
  /-- A function that calls itself -/
  | iife
  | cjs
  | esm
deriving DecidableEq, Repr, Inhabited

instance : Choice Format where
  label := "format"
  all := [.default, .iife, .cjs, .esm]
  name
    | .default => "default"
    | .iife => "iife"
    | .cjs => "cjs"
    | .esm => "esm"

/-- The source map a host asks for. -/
inductive SourceMap
  | none
  /-- A file next to the output, which a comment names -/
  | linked
  /-- Inside the output -/
  | inline
  /-- A file next to the output, which nothing names -/
  | external
deriving DecidableEq, Repr, Inhabited

instance : Choice SourceMap where
  label := "source map"
  all := [.none, .linked, .inline, .external]
  name
    | .none => "none"
    | .linked => "linked"
    | .inline => "inline"
    | .external => "external"

/-- Whether the source map is a file next to the output. -/
def SourceMap.requiresOutputPath (mode : SourceMap) : Bool := mode == .linked || mode == .external

/-- The edition of the language that the output is written in. -/
inductive Target
  | esNext
  | es5
  | es2015
  | es2016
  | es2017
  | es2018
  | es2019
  | es2020
deriving DecidableEq, Repr, Inhabited

namespace Target

instance : Choice Target where
  label := "target"
  all := [esNext, es5, es2015, es2016, es2017, es2018, es2019, es2020]
  name
    | esNext => "esnext"
    | es5 => "es5"
    | es2015 => "es2015"
    | es2016 => "es2016"
    | es2017 => "es2017"
    | es2018 => "es2018"
    | es2019 => "es2019"
    | es2020 => "es2020"

/-- The number of the edition; the newest one has none and constrains nothing. -/
def edition? : Target → Option UInt32
  | esNext => none
  | es5 => some 5
  | es2015 => some 2015
  | es2016 => some 2016
  | es2017 => some 2017
  | es2018 => some 2018
  | es2019 => some 2019
  | es2020 => some 2020

end Target

/-- The engines whose support for features is known. -/
inductive EngineName
  | chrome
  | edge
  | firefox
  | ios
  | node
  | safari
deriving DecidableEq, Repr, Inhabited

instance : Choice EngineName where
  label := "engine"
  all := [.chrome, .edge, .firefox, .ios, .node, .safari]
  name
    | .chrome => "chrome"
    | .edge => "edge"
    | .firefox => "firefox"
    | .ios => "ios"
    | .node => "node"
    | .safari => "safari"

end BundleFront
