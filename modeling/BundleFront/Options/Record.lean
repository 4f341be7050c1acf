import BundleFront.Json.Record
import BundleFront.Options.Basic

/-!
# Options and messages as JSON

One list of fields per kind of record serves reading and writing.
-/

namespace BundleFront

namespace Json

def ofChoice {α : Type} [Choice α] (a : α) : Json := .string (Choice.name a)

def ofPath (p : Path) : Json := .string p.text

/-- A table as an object, the names in ascending order. -/
def ofTable {α : Type} (write : α → Json) (table : List (String × α)) : Json :=
  ofMembers (table.map fun entry => (entry.1, write entry.2))

end Json

def Shape.path : Shape Path := fun d => (Shape.textAs "path string" d).map Path.mk

def Engine.record : Record Engine where
  title := "Engine"
  blank := default
  fields :=
    [(Field.of "name" Shape.choice Json.ofChoice Engine.name
        fun a r => { r with name := a }).must,
     (Field.of "version" Shape.text .string Engine.version
        fun a r => { r with version := a }).must]

def StrictOptions.record : Record StrictOptions where
  title := "StrictOptions"
  blank := {}
  fields :=
    [Field.of "nullishCoalescing" Shape.bool .bool StrictOptions.nullishCoalescing
      fun a r => { r with nullishCoalescing := a },
     Field.of "classFields" Shape.bool .bool StrictOptions.classFields
      fun a r => { r with classFields := a }]

def StdinOptions.record : Record StdinOptions where
  title := "StdinOptions"
  blank := {}
  fields :=
    [Field.of "contents" Shape.text .string StdinOptions.contents
      fun a r => { r with contents := a },
     Field.of "loader" Shape.choice Json.ofChoice StdinOptions.loader
      fun a r => { r with loader := a },
     Field.of "sourcefile" Shape.text .string StdinOptions.sourcefile
      fun a r => { r with sourcefile := a },
     Field.of "resolveDir" (Shape.optional Shape.path) (Json.ofOption Json.ofPath)
      StdinOptions.resolveDir fun a r => { r with resolveDir := a }]

def Location.record : Record Location where
  title := "Location"
  blank := default
  fields :=
    [(Field.of "file" Shape.text .string Location.file
        fun a r => { r with file := a }).must,
     (Field.of "line" Shape.word32 (fun n => .ofNat n.toNat) Location.line
        fun a r => { r with line := a }).must,
     (Field.of "column" Shape.word32 (fun n => .ofNat n.toNat) Location.column
        fun a r => { r with column := a }).must,
     (Field.of "length" Shape.word32 (fun n => .ofNat n.toNat) Location.length
        fun a r => { r with length := a }).must,
     (Field.of "lineText" Shape.text .string Location.lineText
        fun a r => { r with lineText := a }).must]

/-- A message without a location is written without that member. -/
def Message.record : Record Message where
  title := "Message"
  blank := default
  fields :=
    [(Field.of "text" Shape.text .string Message.text
        fun a r => { r with text := a }).must,
     { name := "location"
       read := fun d r =>
        (Shape.optional Location.record.shape d).map fun a => { r with location := a }
       write := fun r => r.location.map Location.record.write }]

def BuildOptions.record : Record BuildOptions where
  title := "BuildOptions"
  blank := {}
  fields :=
    [Field.of "color" Shape.choice Json.ofChoice BuildOptions.color
      fun a r => { r with color := a },
     Field.of "errorLimit" Shape.word64 (fun n => .ofNat n.toNat) BuildOptions.errorLimit
      fun a r => { r with errorLimit := a },
     Field.of "logLevel" Shape.choice Json.ofChoice BuildOptions.logLevel
      fun a r => { r with logLevel := a },
     Field.of "sourcemap" Shape.choice Json.ofChoice BuildOptions.sourcemap
      fun a r => { r with sourcemap := a },
     Field.of "target" Shape.choice Json.ofChoice BuildOptions.target
      fun a r => { r with target := a },
     Field.of "engines" (Shape.list Engine.record.shape)
      (fun a => .array (a.map Engine.record.write))
      BuildOptions.engines fun a r => { r with engines := a },
     Field.of "strict" StrictOptions.record.shape StrictOptions.record.write BuildOptions.strict
      fun a r => { r with strict := a },
     Field.of "minifyWhitespace" Shape.bool .bool BuildOptions.minifyWhitespace
      fun a r => { r with minifyWhitespace := a },
     Field.of "minifyIdentifiers" Shape.bool .bool BuildOptions.minifyIdentifiers
      fun a r => { r with minifyIdentifiers := a },
     Field.of "minifySyntax" Shape.bool .bool BuildOptions.minifySyntax
      fun a r => { r with minifySyntax := a },
     Field.of "jsxFactory" Shape.text .string BuildOptions.jsxFactory
      fun a r => { r with jsxFactory := a },
     Field.of "jsxFragment" Shape.text .string BuildOptions.jsxFragment
      fun a r => { r with jsxFragment := a },
     Field.of "defines" (Shape.table Shape.text) (Json.ofTable .string) BuildOptions.defines
      fun a r => { r with defines := a },
     Field.of "pureFunctions" (Shape.list Shape.text) Json.ofStrings BuildOptions.pureFunctions
      fun a r => { r with pureFunctions := a },
     Field.of "globalName" Shape.text .string BuildOptions.globalName
      fun a r => { r with globalName := a },
     Field.of "bundle" Shape.bool .bool BuildOptions.bundle
      fun a r => { r with bundle := a },
     Field.of "splitting" Shape.bool .bool BuildOptions.splitting
      fun a r => { r with splitting := a },
     Field.of "outfile" (Shape.optional Shape.path) (Json.ofOption Json.ofPath)
      BuildOptions.outfile fun a r => { r with outfile := a },
     Field.of "metafile" (Shape.optional Shape.path) (Json.ofOption Json.ofPath)
      BuildOptions.metafile fun a r => { r with metafile := a },
     Field.of "outdir" (Shape.optional Shape.path) (Json.ofOption Json.ofPath)
      BuildOptions.outdir fun a r => { r with outdir := a },
     Field.of "platform" Shape.choice Json.ofChoice BuildOptions.platform
      fun a r => { r with platform := a },
     Field.of "format" Shape.choice Json.ofChoice BuildOptions.format
      fun a r => { r with format := a },
     Field.of "externals" (Shape.list Shape.text) Json.ofStrings BuildOptions.externals
      fun a r => { r with externals := a },
     Field.of "loaders" (Shape.table Shape.choice) (Json.ofTable Json.ofChoice)
      BuildOptions.loaders fun a r => { r with loaders := a },
     Field.of "resolveExtensions" (Shape.optional (Shape.list Shape.text))
      (Json.ofOption Json.ofStrings) BuildOptions.resolveExtensions
      fun a r => { r with resolveExtensions := a },
     Field.of "entryPoints" (Shape.list Shape.path) (fun a => .array (a.map Json.ofPath))
      BuildOptions.entryPoints fun a r => { r with entryPoints := a },
     Field.of "stdin" (Shape.optional StdinOptions.record.shape)
      (Json.ofOption StdinOptions.record.write) BuildOptions.stdin
      fun a r => { r with stdin := a }]

def TransformOptions.record : Record TransformOptions where
  title := "TransformOptions"
  blank := {}
  fields :=
    [Field.of "color" Shape.choice Json.ofChoice TransformOptions.color
      fun a r => { r with color := a },
     Field.of "errorLimit" Shape.word64 (fun n => .ofNat n.toNat) TransformOptions.errorLimit
      fun a r => { r with errorLimit := a },
     Field.of "logLevel" Shape.choice Json.ofChoice TransformOptions.logLevel
      fun a r => { r with logLevel := a },
     Field.of "sourcemap" Shape.choice Json.ofChoice TransformOptions.sourcemap
      fun a r => { r with sourcemap := a },
     Field.of "target" Shape.choice Json.ofChoice TransformOptions.target
      fun a r => { r with target := a },
     Field.of "engines" (Shape.list Engine.record.shape)
      (fun a => .array (a.map Engine.record.write))
      TransformOptions.engines fun a r => { r with engines := a },
     Field.of "strict" StrictOptions.record.shape StrictOptions.record.write
      TransformOptions.strict fun a r => { r with strict := a },
     Field.of "minifyWhitespace" Shape.bool .bool TransformOptions.minifyWhitespace
      fun a r => { r with minifyWhitespace := a },
     Field.of "minifyIdentifiers" Shape.bool .bool TransformOptions.minifyIdentifiers
      fun a r => { r with minifyIdentifiers := a },
     Field.of "minifySyntax" Shape.bool .bool TransformOptions.minifySyntax
      fun a r => { r with minifySyntax := a },
     Field.of "jsxFactory" Shape.text .string TransformOptions.jsxFactory
      fun a r => { r with jsxFactory := a },
     Field.of "jsxFragment" Shape.text .string TransformOptions.jsxFragment
      fun a r => { r with jsxFragment := a },
     Field.of "defines" (Shape.table Shape.text) (Json.ofTable .string) TransformOptions.defines
      fun a r => { r with defines := a },
     Field.of "pureFunctions" (Shape.list Shape.text) Json.ofStrings
      TransformOptions.pureFunctions fun a r => { r with pureFunctions := a },
     Field.of "sourcefile" Shape.text .string TransformOptions.sourcefile
      fun a r => { r with sourcefile := a },
     Field.of "loader" Shape.choice Json.ofChoice TransformOptions.loader
      fun a r => { r with loader := a }]

/-- Why the value of an option is refused. -/
inductive OptionProblem
  | name (e : UnknownName)
  | shape (e : ShapeError)

/-- A value that does not fit its option. -/
structure OptionError where
  field : String
  problem : OptionProblem

def OptionError.message (e : OptionError) : String :=
  "invalid value for " ++ e.field ++ ": " ++
    match e.problem with
    | .name e => e.message
    | .shape e => e.message

/-- The value that the text of an option names. -/
def Choice.readOption {α : Type} [Choice α] (field text : String) : Except OptionError α :=
  (Choice.read text).mapError fun e => ⟨field, .name e⟩

def BuildOptions.ofJson (value : Json) : Except OptionError BuildOptions :=
  (record.ofJson value).mapError fun e => ⟨"build options", .shape e⟩

def BuildOptions.toJson (options : BuildOptions) : Json := record.write options

def TransformOptions.ofJson (value : Json) : Except OptionError TransformOptions :=
  (record.ofJson value).mapError fun e => ⟨"transform options", .shape e⟩

def TransformOptions.toJson (options : TransformOptions) : Json := record.write options

end BundleFront
