import BundleFront.Proofs.Settings.Check

/-!
# Extensions

Extensions come in two places of the options: in the order in which they are tried, and as
keys of the table of loaders.  What is wrong with one is reported in both places and changes
nothing: the order stays as it is given, and a loader for an invalid extension counts like
any other.

* `isExtension_iff` — the texts that are accepted.
* `extensions_reported_and_kept` — what the two checks report and what they come to.
-/

namespace BundleFront

/-- An extension starts with a dot, which another character follows, and no dot ends it. -/
theorem isExtension_iff {text : String} :
    isExtension text = true ↔
      text.toList.head? = some '.' ∧ (∃ c, text.toList[1]? = some c ∧ c ≠ '.') ∧
        text.toList.getLast? ≠ some '.' := by
  unfold isExtension
  cases text.toList with
  | nil => simp
  | cons first rest =>
      cases rest with
      | nil => simp
      | cons second rest =>
          by_cases hfirst : first = '.'
          · subst hfirst
            simp [List.getLast?_cons_cons]
          · simp [hfirst]

/-- What is reported of an invalid extension. -/
def invalidExtension (text : String) : Diagnostic :=
  ⟨.error, ⟨"Invalid file extension: " ++ Text.quoted text, none⟩⟩

/-- Invalid extensions are reported one by one, as they come. -/
theorem log_record_of_problems {α : Type} {x : Checked α} {extensions : List String}
    (h : x.problems = Problem.each isExtension .extension extensions) (log : Log) :
    (x.record log).2 =
      log ++ (extensions.filter fun text => !isExtension text).map invalidExtension := by
  rw [Checked.record_log, h]
  unfold Problem.each
  rw [List.map_map]
  rfl

/-- Extensions are reported where they are invalid, once for every time that they come and in the
order in which they come, and kept whether they are valid or not.  The order in which they are tried
is the given one.  The table of loaders answers with the loader that is given for an extension, or
else with the built-in one, and knows no other extension. -/
theorem extensions_reported_and_kept :
    (∀ text : String, isExtension text = true ↔
      text.toList.head? = some '.' ∧ (∃ c, text.toList[1]? = some c ∧ c ≠ '.') ∧
        text.toList.getLast? ≠ some '.') ∧
    (∀ (order : List String) (log : Log),
      (checkResolveExtensions (some order)).record log =
        (order, log ++ (order.filter fun text => !isExtension text).map invalidExtension)) ∧
    ∀ loaders : List (String × Loader), (Table.keys loaders).Nodup → ∀ log : Log,
      ∃ table, (checkLoaders loaders).record log =
          (table, log ++ ((Table.keys loaders).filter fun text => !isExtension text).map
            invalidExtension) ∧
        (Table.keys table).Nodup ∧
        (∀ extension, Table.get? extension table =
          (Table.get? extension loaders).or (Table.get? extension Loader.builtin)) ∧
        ∀ extension, extension ∈ Table.keys table ↔
          extension ∈ Table.keys loaders ∨ extension ∈ Table.keys Loader.builtin := by
  refine ⟨fun text => isExtension_iff, ?order, ?loaders⟩
  case order =>
    intro order log
    exact Prod.ext rfl (log_record_of_problems (problems_checkResolveExtensions (some order)) log)
  case loaders =>
    intro loaders hnodup log
    refine ⟨Table.overlay Loader.builtin loaders, ?_, ?_, ?_, ?_⟩
    · exact Prod.ext (value_checkLoaders loaders)
        (log_record_of_problems (problems_checkLoaders loaders) log)
    · exact Table.nodup_keys_overlay (by decide) loaders
    · intro extension
      exact Table.get?_overlay_of_nodup extension Loader.builtin hnodup
    · intro extension
      exact Table.mem_keys_overlay

/-- A loader for an extension that ends with a dot is reported and kept, next to one whose second
character takes two bytes and one for a built-in extension. -/
theorem extensions_reported_and_kept_trailingDot :
    let loaders : List (String × Loader) := [(".é", .text), (".a.", .file), (".js", .jsx)]
    (Table.keys loaders).Nodup ∧
      ∃ table, (checkLoaders loaders).record [] = (table, [invalidExtension ".a."]) ∧
        Table.get? ".a." table = some .file ∧ Table.get? ".js" table = some .jsx ∧
        Table.get? ".ts" table = some .ts ∧ Table.get? ".b" table = none := by
  intro loaders
  have hnodup : (Table.keys loaders).Nodup := by decide
  obtain ⟨table, hrecord, -, hget, -⟩ := extensions_reported_and_kept.2.2 loaders hnodup []
  refine ⟨hnodup, table, ?_, ?_, ?_, ?_, ?_⟩
  · rw [hrecord]
    rfl
  · rw [hget]
    rfl
  · rw [hget]
    rfl
  · rw [hget]
    rfl
  · rw [hget]
    rfl

end BundleFront
