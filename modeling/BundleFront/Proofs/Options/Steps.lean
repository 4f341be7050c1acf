import BundleFront.Options.Change
import BundleFront.Proofs.Table

/-!
# What the steps of a request come to

The steps in which a host puts a request together gather their values in four ways.  A
field with a single value has the last one that it was given; lists have theirs in the order
of the steps; a table has its keys in the order in which they first came, each with its last
value; and the externals are listed once each, in the order in which they first came.

No way looks at anything but the values for the field itself.  So steps for different fields
may change places, and a step may be taken twice unless it adds to a list.

* `SingleField`, `ListField`, `TableField` — the fields, by the way in which they gather.
* `BuildRequest.get_apply` and its like — what one step does to each field.
* `BuildRequest.Follows` — what a request is after some steps, field by field.
* `BuildRequest.run_follows_steps` — the whole account, by induction on the steps.
-/

namespace BundleFront

/-- The fields of a request that have a single value.  For some of them there is no step, so they
keep the value that they start from. -/
inductive SingleField
  | color
  | errorLimit
  | logLevel
  | sourcemap
  | target
  | strict
  | minifyWhitespace
  | minifyIdentifiers
  | minifySyntax
  | jsxFactory
  | jsxFragment
  | globalName
  | bundle
  | splitting
  | outfile
  | metafile
  | outdir
  | platform
  | format
  | resolveExtensions
  | entryPoints
  | stdin
  | cache
deriving DecidableEq, Repr

/-- The fields that list what they are given. -/
inductive ListField
  | engines
  | pureFunctions
  | plugins
deriving DecidableEq, Repr

/-- The fields that keep one value for a name. -/
inductive TableField
  | defines
  | loaders
deriving DecidableEq, Repr

attribute [ext] BuildOptions BuildRequest

/-! ## Texts that are listed once -/

theorem appendNew_cons (listed : List String) (text : String) (texts : List String) :
    appendNew listed (text :: texts) =
      appendNew (if text ∈ listed then listed else listed ++ [text]) texts := by
  simp only [appendNew, List.foldl_cons, List.contains_iff_mem]

theorem mem_appendNew {text : String} {listed texts : List String} :
    text ∈ appendNew listed texts ↔ text ∈ listed ∨ text ∈ texts := by
  induction texts generalizing listed with
  | nil => simp [appendNew]
  | cons head rest ih =>
      rw [appendNew_cons, ih, List.mem_cons]
      by_cases hhead : head ∈ listed
      · rw [if_pos hhead]
        constructor
        · exact Or.imp_right Or.inr
        · rintro (hlisted | rfl | hrest)
          · exact Or.inl hlisted
          · exact Or.inl hhead
          · exact Or.inr hrest
      · rw [if_neg hhead, List.mem_append, List.mem_singleton, or_assoc]

theorem appendNew_eq_self {listed texts : List String} (h : ∀ text ∈ texts, text ∈ listed) :
    appendNew listed texts = listed := by
  induction texts with
  | nil => rfl
  | cons head rest ih =>
      obtain ⟨hhead, hrest⟩ := List.forall_mem_cons.mp h
      rw [appendNew_cons, if_pos hhead, ih hrest]

/-- Texts that were listed a moment ago are not listed again. -/
theorem appendNew_appendNew (listed texts : List String) :
    appendNew (appendNew listed texts) texts = appendNew listed texts :=
  appendNew_eq_self fun _ htext => mem_appendNew.mpr (Or.inr htext)

theorem appendNew_append (listed first second : List String) :
    appendNew listed (first ++ second) = appendNew (appendNew listed first) second :=
  List.foldl_append

/-- Listing texts once each keeps the first of every text. -/
theorem appendNew_eraseDups (prior texts : List String) :
    appendNew prior.eraseDups texts = (prior ++ texts).eraseDups := by
  -- What has been listed stays behind as `prior`, with all repetitions, so that it can grow.
  induction texts generalizing prior with
  | nil => rw [List.append_nil]; rfl
  | cons text rest ih =>
      have hnext : (if text ∈ prior.eraseDups then prior.eraseDups else prior.eraseDups ++ [text]) =
          (prior ++ [text]).eraseDups := by
        rw [List.eraseDups_append]
        by_cases hmem : text ∈ prior
        · simp [List.removeAll, hmem]
        · simp [List.removeAll, List.eraseDups_cons, hmem]
      rw [appendNew_cons, hnext, ih, ← List.append_cons]

/-- Entries that are laid over a table add the keys that it lacks, in their order. -/
theorem Table.keys_overlay {α : Type} (table entries : List (String × α)) :
    keys (overlay table entries) = appendNew (keys table) (keys entries) := by
  induction entries generalizing table with
  | nil => rfl
  | cons entry rest ih =>
      rw [overlay_cons, ih, keys_put, keys_cons, appendNew_cons]

/-! ## The fields -/

def SingleField.Value (κ : Type) : SingleField → Type
  | color => ColorChoice
  | errorLimit => UInt64
  | logLevel => LogLevel
  | sourcemap => SourceMap
  | target => Target
  | strict => StrictOptions
  | minifyWhitespace | minifyIdentifiers | minifySyntax | bundle | splitting => Bool
  | jsxFactory | jsxFragment | globalName => String
  | outfile | metafile | outdir => Option Path
  | platform => Platform
  | format => Format
  | resolveExtensions => Option (List String)
  | entryPoints => List Path
  | stdin => Option StdinOptions
  | cache => Option κ

def ListField.Item : ListField → Type
  | engines => Engine
  | pureFunctions => String
  | plugins => Plugin

def TableField.Item : TableField → Type
  | defines => String
  | loaders => Loader

namespace BuildRequest

variable {κ : Type}

/-! ## The fields of a request, and what a step gives them -/

def get (r : BuildRequest κ) : (f : SingleField) → f.Value κ
  | .color => r.options.color
  | .errorLimit => r.options.errorLimit
  | .logLevel => r.options.logLevel
  | .sourcemap => r.options.sourcemap
  | .target => r.options.target
  | .strict => r.options.strict
  | .minifyWhitespace => r.options.minifyWhitespace
  | .minifyIdentifiers => r.options.minifyIdentifiers
  | .minifySyntax => r.options.minifySyntax
  | .jsxFactory => r.options.jsxFactory
  | .jsxFragment => r.options.jsxFragment
  | .globalName => r.options.globalName
  | .bundle => r.options.bundle
  | .splitting => r.options.splitting
  | .outfile => r.options.outfile
  | .metafile => r.options.metafile
  | .outdir => r.options.outdir
  | .platform => r.options.platform
  | .format => r.options.format
  | .resolveExtensions => r.options.resolveExtensions
  | .entryPoints => r.options.entryPoints
  | .stdin => r.options.stdin
  | .cache => r.cache

def items (r : BuildRequest κ) : (f : ListField) → List f.Item
  | .engines => r.options.engines
  | .pureFunctions => r.options.pureFunctions
  | .plugins => r.plugins

def table (r : BuildRequest κ) : (f : TableField) → List (String × f.Item)
  | .defines => r.options.defines
  | .loaders => r.options.loaders

namespace Step

/-- The value that a step gives a field. -/
def value? : (s : Step κ) → (f : SingleField) → Option (f.Value κ)
  | .change (.errorLimit limit), .errorLimit => some limit
  | .change (.logLevel level), .logLevel => some level
  | .change (.sourcemap mode), .sourcemap => some mode
  | .change (.target target), .target => some target
  | .change (.minify enabled), .minifyWhitespace => some enabled
  | .change (.minify enabled), .minifyIdentifiers => some enabled
  | .change (.minify enabled), .minifySyntax => some enabled
  | .change (.jsxFactory factory), .jsxFactory => some factory
  | .change (.jsxFragment fragment), .jsxFragment => some fragment
  | .change (.globalName name), .globalName => some name
  | .change (.bundle enabled), .bundle => some enabled
  | .change (.splitting enabled), .splitting => some enabled
  | .change (.outfile path), .outfile => some (some path)
  | .change (.metafile path), .metafile => some (some path)
  | .change (.outdir path), .outdir => some (some path)
  | .change (.platform platform), .platform => some platform
  | .change (.format format), .format => some format
  | .change (.resolveExtensions extensions), .resolveExtensions => some (some extensions)
  | .change (.stdin stdin), .stdin => some (some stdin)
  | .cache given, .cache => some (some given)
  | _, _ => none

/-- What a step appends to a list. -/
def item? : (s : Step κ) → (f : ListField) → Option f.Item
  | .change (.engine name version), .engines => some (⟨name, version⟩ : Engine)
  | .change (.pureFunction path), .pureFunctions => some path
  | .plugin added, .plugins => some added
  | _, _ => none

/-- The entry that a step puts into a table. -/
def entry? : (s : Step κ) → (f : TableField) → Option (String × f.Item)
  | .change (.define key value), .defines => some (key, value)
  | .change (.loader extension loader), .loaders => some (extension, loader)
  | _, _ => none

/-- The externals that a step names. -/
def externals : Step κ → List String
  | .change (.external modules) => modules
  | _ => []

/-- Two steps give nothing to one and the same field. -/
structure Apart (s t : Step κ) : Prop where
  single : ∀ f, s.value? f = none ∨ t.value? f = none
  list : ∀ f, s.item? f = none ∨ t.item? f = none
  table : ∀ f, s.entry? f = none ∨ t.entry? f = none
  externals : s.externals = [] ∨ t.externals = []

end Step

/-- A request is known by its fields. -/
theorem eq_of_fields {r r' : BuildRequest κ} (hsingle : ∀ f, r.get f = r'.get f)
    (hlist : ∀ f, r.items f = r'.items f) (htable : ∀ f, r.table f = r'.table f)
    (hexternals : r.options.externals = r'.options.externals) : r = r' := by
  refine BuildRequest.ext ?_ (hlist .plugins) (hsingle .cache)
  exact BuildOptions.ext (hsingle .color) (hsingle .errorLimit) (hsingle .logLevel)
    (hsingle .sourcemap) (hsingle .target) (hlist .engines) (hsingle .strict)
    (hsingle .minifyWhitespace) (hsingle .minifyIdentifiers) (hsingle .minifySyntax)
    (hsingle .jsxFactory) (hsingle .jsxFragment) (htable .defines) (hlist .pureFunctions)
    (hsingle .globalName) (hsingle .bundle) (hsingle .splitting) (hsingle .outfile)
    (hsingle .metafile) (hsingle .outdir) (hsingle .platform) (hsingle .format) hexternals
    (htable .loaders) (hsingle .resolveExtensions) (hsingle .entryPoints) (hsingle .stdin)

/-! ## One step -/

theorem get_apply (r : BuildRequest κ) (s : Step κ) (f : SingleField) :
    (r.apply s).get f = (s.value? f).getD (r.get f) := by
  cases s with
  | plugin added => cases f <;> rfl
  | cache given => cases f <;> rfl
  | change change => cases change <;> cases f <;> rfl

theorem items_apply (r : BuildRequest κ) (s : Step κ) (f : ListField) :
    (r.apply s).items f = r.items f ++ (s.item? f).toList := by
  have hstep : (r.apply s).items f =
      (s.item? f).elim (r.items f) fun item => r.items f ++ [item] := by
    cases s with
    | plugin added => cases f <;> rfl
    | cache given => cases f <;> rfl
    | change change => cases change <;> cases f <;> rfl
  rw [hstep]
  cases s.item? f with
  | none => exact (List.append_nil _).symm
  | some item => rfl

theorem table_apply (r : BuildRequest κ) (s : Step κ) (f : TableField) :
    (r.apply s).table f = Table.overlay (r.table f) (s.entry? f).toList := by
  cases s with
  | plugin added => cases f <;> rfl
  | cache given => cases f <;> rfl
  | change change => cases change <;> cases f <;> rfl

theorem externals_apply (r : BuildRequest κ) (s : Step κ) :
    (r.apply s).options.externals = appendNew r.options.externals s.externals := by
  cases s with
  | plugin added => rfl
  | cache given => rfl
  | change change => cases change <;> rfl

/-- Steps that give nothing to the same field may change places. -/
theorem apply_comm {s t : Step κ} (h : s.Apart t) (r : BuildRequest κ) :
    (r.apply s).apply t = (r.apply t).apply s := by
  refine eq_of_fields ?_ ?_ ?_ ?_
  · intro f
    simp only [get_apply]
    rcases h.single f with hs | ht
    · rw [hs, Option.getD_none, Option.getD_none]
    · rw [ht, Option.getD_none, Option.getD_none]
  · intro f
    simp only [items_apply]
    rcases h.list f with hs | ht
    · rw [hs, Option.toList_none, List.append_nil, List.append_nil]
    · rw [ht, Option.toList_none, List.append_nil, List.append_nil]
  · intro f
    simp only [table_apply]
    rcases h.table f with hs | ht
    · rw [hs]
      rfl
    · rw [ht]
      rfl
  · simp only [externals_apply]
    rcases h.externals with hs | ht
    · rw [hs]
      rfl
    · rw [ht]
      rfl

/-- A step that appends nothing may be taken twice. -/
theorem apply_apply {s : Step κ} (h : ∀ f, s.item? f = none) (r : BuildRequest κ) :
    (r.apply s).apply s = r.apply s := by
  refine eq_of_fields ?_ ?_ ?_ ?_
  · intro f
    rw [get_apply, get_apply]
    cases s.value? f with
    | none => rfl
    | some value => rfl
  · intro f
    rw [items_apply, h f, Option.toList_none, List.append_nil]
  · intro f
    rw [table_apply, table_apply]
    cases s.entry? f with
    | none => rfl
    | some entry => exact Table.put_put entry.1 entry.2 (r.table f)
  · rw [externals_apply, externals_apply, appendNew_appendNew]

/-! ## All steps -/

theorem get_foldl_apply (steps : List (Step κ)) (r : BuildRequest κ) (f : SingleField) :
    (steps.foldl apply r).get f =
      (steps.filterMap fun s => s.value? f).getLast?.getD (r.get f) := by
  -- What a step gives the field becomes the value that the steps behind it start from.
  induction steps generalizing r with
  | nil => rfl
  | cons s rest ih =>
      rw [List.foldl_cons, ih, get_apply]
      cases hvalue : s.value? f with
      | none => simp only [List.filterMap_cons, hvalue, Option.getD_none]
      | some value =>
          simp only [List.filterMap_cons, hvalue, List.getLast?_cons, Option.getD_some]

theorem items_foldl_apply (steps : List (Step κ)) (r : BuildRequest κ) (f : ListField) :
    (steps.foldl apply r).items f = r.items f ++ steps.filterMap fun s => s.item? f := by
  induction steps generalizing r with
  | nil => exact (List.append_nil _).symm
  | cons s rest ih =>
      rw [List.foldl_cons, ih, items_apply, List.append_assoc]
      cases hitem : s.item? f with
      | none => simp only [List.filterMap_cons, hitem, Option.toList_none, List.nil_append]
      | some item => simp only [List.filterMap_cons, hitem]; rfl

theorem table_foldl_apply (steps : List (Step κ)) (r : BuildRequest κ) (f : TableField) :
    (steps.foldl apply r).table f =
      Table.overlay (r.table f) (steps.filterMap fun s => s.entry? f) := by
  induction steps generalizing r with
  | nil => rfl
  | cons s rest ih =>
      rw [List.foldl_cons, ih, table_apply]
      cases hentry : s.entry? f with
      | none => simp only [List.filterMap_cons, hentry]; rfl
      | some entry => simp only [List.filterMap_cons, hentry]; rfl

theorem externals_foldl_apply (steps : List (Step κ)) (r : BuildRequest κ) :
    (steps.foldl apply r).options.externals =
      appendNew r.options.externals (steps.flatMap Step.externals) := by
  induction steps generalizing r with
  | nil => rfl
  | cons s rest ih => rw [List.foldl_cons, ih, externals_apply, List.flatMap_cons, appendNew_append]

/-! ## What a request comes to -/

/-- What a request is after some steps, field by field. -/
structure Follows (origin : Origin) (steps : List (Step κ)) (r : BuildRequest κ) : Prop where
  /-- The last value that was given, and what the request started from where none was -/
  single : ∀ f, r.get f =
    (steps.filterMap fun s => s.value? f).getLast?.getD ((ofOrigin origin).get f)
  list : ∀ f, r.items f = steps.filterMap fun s => s.item? f
  table_keys : ∀ f, Table.keys (r.table f) =
    (Table.keys (steps.filterMap fun s => s.entry? f)).eraseDups
  table_get? : ∀ f key, Table.get? key (r.table f) =
    Table.last? key (steps.filterMap fun s => s.entry? f)
  externals : r.options.externals = (steps.flatMap Step.externals).eraseDups

theorem items_ofOrigin (origin : Origin) (f : ListField) :
    (ofOrigin origin : BuildRequest κ).items f = [] := by
  cases origin <;> cases f <;> rfl

theorem table_ofOrigin (origin : Origin) (f : TableField) :
    (ofOrigin origin : BuildRequest κ).table f = [] := by
  cases origin <;> cases f <;> rfl

theorem externals_ofOrigin (origin : Origin) :
    (ofOrigin origin : BuildRequest κ).options.externals = [] := by
  cases origin <;> rfl

theorem follows_run (origin : Origin) (steps : List (Step κ)) :
    Follows origin steps (run origin steps) where
  single f := get_foldl_apply steps (ofOrigin origin) f
  list f := by rw [run, items_foldl_apply, items_ofOrigin, List.nil_append]
  table_keys f := by
    rw [run, table_foldl_apply, table_ofOrigin, Table.keys_overlay]
    exact appendNew_eraseDups [] _
  table_get? f key := by
    rw [run, table_foldl_apply, table_ofOrigin, Table.get?_overlay]
    exact Option.or_none
  externals := by
    rw [run, externals_foldl_apply, externals_ofOrigin]
    exact appendNew_eraseDups [] _

/-- The request after some steps, then after one more, then after the others. -/
theorem run_append_cons (origin : Origin) (before : List (Step κ)) (s : Step κ)
    (after : List (Step κ)) :
    run origin (before ++ s :: after) = after.foldl apply ((run origin before).apply s) := by
  rw [run, List.foldl_append, List.foldl_cons, run]

/-- Every request is known field by field from its steps; neighbouring steps that give nothing to
the same field may change places, and a step that appends nothing may be taken twice. -/
theorem run_follows_steps :
    (∀ (origin : Origin) (steps : List (Step κ)), Follows origin steps (run origin steps)) ∧
      (∀ (origin : Origin) (before : List (Step κ)) (s t : Step κ) (after : List (Step κ)),
        s.Apart t →
          run origin (before ++ s :: t :: after) = run origin (before ++ t :: s :: after)) ∧
      ∀ (origin : Origin) (before : List (Step κ)) (s : Step κ) (after : List (Step κ)),
        (∀ f, s.item? f = none) →
          run origin (before ++ s :: s :: after) = run origin (before ++ s :: after) := by
  refine ⟨follows_run, ?_, ?_⟩
  · intro origin before s t after hapart
    rw [run_append_cons, run_append_cons, List.foldl_cons, List.foldl_cons, apply_comm hapart]
  · intro origin before s after hlist
    rw [run_append_cons, run_append_cons, List.foldl_cons, apply_apply hlist]

/-- Externals that are named twice, in one step and by a step that is taken twice, behind a define
that changes its value after them. -/
theorem run_follows_steps_externals :
    let external : Step Nat := .change (.external ["fs", "path", "fs"])
    let define : Step Nat := .change (.define "DEBUG" "false")
    let redefine : Step Nat := .change (.define "DEBUG" "true")
    let result : BuildRequest Nat := run .blank [define, external, external, redefine]
    Step.Apart define external ∧ (∀ f, external.item? f = none) ∧
      result = run .blank [external, define, redefine] ∧
      result.options.externals = ["fs", "path"] ∧ result.get .metafile = none ∧
      Table.keys (result.table .defines) = ["DEBUG"] ∧
      Table.get? "DEBUG" (result.table .defines) = some "true" := by
  intro external define redefine result
  have hapart : Step.Apart define external :=
    { single := fun f => by cases f <;> exact .inl rfl
      list := fun f => by cases f <;> exact .inl rfl
      table := fun f => by cases f <;> exact .inr rfl
      externals := .inl rfl }
  have hlist : ∀ f, external.item? f = none := fun f => by cases f <;> rfl
  obtain ⟨hfollows, hswap, hrepeat⟩ := run_follows_steps (κ := Nat)
  have hresult := hfollows .blank [define, external, external, redefine]
  refine ⟨hapart, hlist, ?_, ?_, ?_, ?_, ?_⟩
  · exact (hrepeat .blank [define] external [redefine] hlist).trans
      (hswap .blank [] define external [redefine] hapart)
  · exact hresult.externals
  · exact hresult.single .metafile
  · exact hresult.table_keys .defines
  · exact hresult.table_get? .defines "DEBUG"

end BuildRequest
end BundleFront
