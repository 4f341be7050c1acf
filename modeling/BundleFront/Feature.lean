import BundleFront.Options.Choices
import BundleFront.Table
import BundleFront.Text.Segments

/-!
# Language features and who supports them

A version is written as one to three numbers with dots between them.  Versions
are compared number by number, and a missing number counts as zero.

The output of a build may have to run on an edition of the language and on any
number of engines.  A feature is unsupported as soon as one of them is older
than the first version with the feature, or is not known to have it at all.
-/

namespace BundleFront

/-- Major, minor and patch number, as far as they are given. -/
abbrev Version := List UInt32

namespace Version

/-- The number that some decimal digits write, if 32 bits hold it. -/
def number? (cs : List Char) : Option UInt32 :=
  if cs.isEmpty || !cs.all Char.isDigit then none
  else
    let n := cs.foldl (fun n c => n * 10 + (c.toNat - '0'.toNat)) 0
    if n < 0x100000000 then some (UInt32.ofNat n) else none

/-- The version that a text writes. -/
def parse? (text : String) : Option Version :=
  let parts := Text.splitOn '.' text.toList
  if parts.length ≤ 3 then parts.mapM number? else none

/-- The order of versions. -/
def order : Version → Version → Ordering
  | [], [] => .eq
  | a :: v, [] => (compare a 0).then (order v [])
  | [], b :: w => (compare 0 b).then (order [] w)
  | a :: v, b :: w => (compare a b).then (order v w)

end Version

/-- The features of the language that a compiler may have to replace. -/
inductive Feature
  | arrow
  | classes
  | templateLiteral
  | destructuring
  | letConst
  | exponentOperator
  | asyncAwait
  | objectRestSpread
  | asyncGenerator
  | optionalCatchBinding
  | optionalChain
  | nullishCoalescing
  | bigInt
  | importMeta
  | classField
deriving DecidableEq, Repr

/-- What output may have to run on. -/
inductive Runner
  /-- An edition of the language -/
  | edition
  | engine (name : EngineName)
deriving DecidableEq, Repr

/-- The version demanded of each runner. -/
abbrev Constraints := List (Runner × Version)

namespace Feature

/-- Every feature; the place of a feature is the place of its bit. -/
def all : List Feature :=
  [arrow, classes, templateLiteral, destructuring, letConst, exponentOperator, asyncAwait,
   objectRestSpread, asyncGenerator, optionalCatchBinding, optionalChain, nullishCoalescing,
   bigInt, importMeta, classField]

def name : Feature → String
  | arrow => "ARROW"
  | classes => "CLASS"
  | templateLiteral => "TEMPLATE_LITERAL"
  | destructuring => "DESTRUCTURING"
  | letConst => "LET_CONST"
  | exponentOperator => "EXPONENT_OPERATOR"
  | asyncAwait => "ASYNC_AWAIT"
  | objectRestSpread => "OBJECT_REST_SPREAD"
  | asyncGenerator => "ASYNC_GENERATOR"
  | optionalCatchBinding => "OPTIONAL_CATCH_BINDING"
  | optionalChain => "OPTIONAL_CHAIN"
  | nullishCoalescing => "NULLISH_COALESCING"
  | bigInt => "BIG_INT"
  | importMeta => "IMPORT_META"
  | classField => "CLASS_FIELD"

/-- The bit that stands for the feature in a set. -/
def bit (feature : Feature) : Nat := Nat.pow 2 (all.idxOf feature)

/-- The bits of a set of features. -/
def bits (features : List Feature) : Nat :=
  features.foldl (fun bits feature => bits + feature.bit) 0

/-- The first version of each engine with a feature, in the order chrome, edge, firefox, ios,
node, safari. -/
def engines (chrome edge firefox ios node safari : Version) : Constraints :=
  [(.engine .chrome, chrome), (.engine .edge, edge), (.engine .firefox, firefox),
   (.engine .ios, ios), (.engine .node, node), (.engine .safari, safari)]

/-- The first versions with the feature.  Class fields are in no edition yet. -/
def support : Feature → Constraints
  | arrow => (.edition, [2015]) :: engines [49] [13] [45] [10] [6] [10]
  | classes => (.edition, [2015]) :: engines [49] [13] [45] [10] [6] [10]
  | templateLiteral => (.edition, [2015]) :: engines [41] [13] [34] [9] [4] [9]
  | destructuring => (.edition, [2015]) :: engines [51] [18] [53] [10] [6, 5] [10]
  | letConst => (.edition, [2015]) :: engines [49] [14] [51] [11] [6] [11]
  | exponentOperator => (.edition, [2016]) :: engines [52] [14] [52] [10, 3] [7] [10, 1]
  | asyncAwait => (.edition, [2017]) :: engines [55] [15] [52] [11] [7, 6] [11]
  | objectRestSpread => (.edition, [2018]) :: engines [60] [79] [55] [11, 3] [8, 3] [11, 1]
  | asyncGenerator => (.edition, [2018]) :: engines [63] [79] [57] [12] [10] [12]
  | optionalCatchBinding => (.edition, [2019]) :: engines [66] [79] [58] [11, 3] [10] [11, 1]
  | optionalChain => (.edition, [2020]) :: engines [80] [80] [74] [13, 4] [14] [13, 1]
  | nullishCoalescing => (.edition, [2020]) :: engines [80] [80] [72] [13, 4] [14] [13, 1]
  | bigInt => (.edition, [2020]) :: engines [67] [79] [68] [14] [10, 4] [14]
  | importMeta => (.edition, [2020]) :: engines [64] [79] [62] [12] [10, 4] [11, 1]
  | classField => engines [73] [79] [69] [14] [12] [14]

/-- Whether a runner of the given version lacks the feature. -/
def missingOn (feature : Feature) (runner : Runner) (version : Version) : Bool :=
  match Table.get? runner feature.support with
  | some first => (version.order first).isLT
  | none => true

/-- The features that at least one runner lacks. -/
def unsupported (constraints : Constraints) : List Feature :=
  all.filter fun feature => constraints.any fun c => feature.missingOn c.1 c.2

end Feature
end BundleFront
