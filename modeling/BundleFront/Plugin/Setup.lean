import BundleFront.Checked
import BundleFront.Plugin.Basic

/-!
# Setting plugins up

A plugin is the list of steps that it takes when a build sets it up: it names
itself once and then registers loaders.  A step that is out of place is refused
with a problem and changes nothing else, so one pass shows every mistake.
-/

namespace BundleFront

inductive SetupStep
  | setName (name : String)
  | addLoader (filter : String) (matchInternal : Bool) (callback : LoaderCallback)

/-- The steps of a plugin's setup. -/
abbrev Plugin := List SetupStep

/-- A plugin's setup so far. -/
structure Registration where
  cache : FilterCache := {}
  name : Option String := none
  loaders : List LoaderPlugin := []
  problems : List SetupProblem := []

namespace Registration

def refuse (r : Registration) (problem : SetupProblem) : Registration :=
  { r with problems := r.problems ++ [problem] }

/-- Register a loader for a plugin that has a name. -/
def addLoader (r : Registration) (name filter : String) (matchInternal : Bool)
    (callback : LoaderCallback) : Registration :=
  match r.cache.lookup filter with
  | (.ok filter, cache) =>
      { r with cache, loaders := r.loaders ++ [⟨name, filter, matchInternal, callback⟩] }
  | (.error .empty, cache) => { r with cache }.refuse (.missingFilter name)
  | (.error (.invalid pattern), cache) => { r with cache }.refuse (.invalidFilter name pattern)

def step (r : Registration) : SetupStep → Registration
  | .setName name =>
      if name.isEmpty then r.refuse .emptyName
      else if r.name.isSome then r.refuse .repeatedName
      else { r with name := some name }
  | .addLoader filter matchInternal callback =>
      match r.name with
      | none => r.refuse .loaderBeforeName
      | some name => r.addLoader name filter matchInternal callback

/-- The name after each of the steps. -/
def names (r : Registration) : List SetupStep → List (Option String)
  | [] => []
  | step :: rest =>
      let r := r.step step
      r.name :: r.names rest

end Registration

/-- Take all steps of a plugin. -/
def Plugin.setup (plugin : Plugin) (cache : FilterCache) : Registration :=
  plugin.foldl Registration.step { cache }

/-- What the setup of several plugins comes to. -/
structure Installation where
  /-- The loaders in the order in which they were registered -/
  loaders : List LoaderPlugin := []
  problems : List SetupProblem := []
  cache : FilterCache

namespace Installation

/-- Set plugins up one after the other. -/
def ofPlugins : List Plugin → FilterCache → Installation
  | [], cache => { cache }
  | plugin :: rest, cache =>
      let first := plugin.setup cache
      let others := ofPlugins rest first.cache
      { others with
        loaders := first.loaders ++ others.loaders
        problems := first.problems ++ others.problems }

/-- The loaders, with the problems that were met. -/
def checked (installation : Installation) : Checked (List LoaderPlugin) :=
  { value := installation.loaders, problems := installation.problems.map .setup }

end Installation
end BundleFront
