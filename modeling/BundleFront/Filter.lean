import BundleFront.Path
import BundleFront.Pattern.Match
import BundleFront.Pattern.Reader
import BundleFront.Pattern.Size

/-!
# Filters

A filter is a compiled pattern that loaders are chosen by.  Plugins ask for the
same few patterns in every build, so filters are kept in a cache: each pattern is
compiled once, and whoever asks for it again shares the filter.
-/

namespace BundleFront

/-- The node that the text of a pattern stands for, unless it is invalid or too large. -/
def Pattern.compile? (text : String) : Option Pattern.Node := do
  let node ← Node.read? text
  if node.fits then some node else none

structure Filter where
  /-- The place in the cache that the filter comes from; shared filters have the same place. -/
  slot : Nat
  pattern : String
  node : Pattern.Node
deriving DecidableEq, Repr

namespace Filter

/-- Whether the pattern matches some part of the path's text. -/
def accepts (filter : Filter) (path : Path) : Bool := filter.node.matchesIn path.text

end Filter

/-- Why there is no filter. -/
inductive FilterError
  | empty
  | invalid (pattern : String)
deriving DecidableEq, Repr

/-- What is wrong; an invalid pattern is shown as it is. -/
def FilterError.message : FilterError → String
  | empty => "filter pattern is empty"
  | invalid pattern => pattern

/-- The filters so far, the oldest first, with the number of patterns compiled and of lookups
answered without compiling. -/
structure FilterCache where
  filters : List Filter := []
  compiles : Nat := 0
  hits : Nat := 0
deriving DecidableEq, Repr

namespace FilterCache

def size (cache : FilterCache) : Nat := cache.filters.length

def isEmpty (cache : FilterCache) : Bool := cache.filters.isEmpty

/-- The filter that is kept for a pattern. -/
def find? (cache : FilterCache) (pattern : String) : Option Filter :=
  cache.filters.find? fun filter => filter.pattern == pattern

/-- The filter for a pattern, compiled unless it is kept.  A lookup that fails leaves no trace. -/
def lookup (cache : FilterCache) (pattern : String) : Except FilterError Filter × FilterCache :=
  if pattern.isEmpty then (.error .empty, cache)
  else match cache.find? pattern with
    | some filter => (.ok filter, { cache with hits := cache.hits + 1 })
    | none =>
        match Pattern.compile? pattern with
        | none => (.error (.invalid pattern), cache)
        | some node =>
            let filter : Filter := ⟨cache.size, pattern, node⟩
            (.ok filter,
              { cache with filters := cache.filters ++ [filter], compiles := cache.compiles + 1 })

end FilterCache
end BundleFront
