/-!
# Segments of a text

A separator divides a text into segments, one more than there are separators.
`splitOn` and `joinWith` are inverse to each other as long as no segment holds
the separator, so a text is known by its segments.
-/

namespace BundleFront.Text

/-- The segments between the separators; the empty text is one empty segment. -/
def splitOn (separator : Char) : List Char → List (List Char)
  | [] => [[]]
  | c :: rest =>
      if c = separator then [] :: splitOn separator rest
      else match splitOn separator rest with
        | [] => [[c]]
        | segment :: segments => (c :: segment) :: segments

/-- The segments with the separator between any two. -/
def joinWith (separator : Char) : List (List Char) → List Char
  | [] => []
  | [segment] => segment
  | segment :: segments => segment ++ separator :: joinWith separator segments

theorem joinWith_cons_cons (separator : Char) (segment next : List Char)
    (more : List (List Char)) :
    joinWith separator (segment :: next :: more) =
      segment ++ separator :: joinWith separator (next :: more) := rfl

theorem joinWith_eq_intercalate (separator : Char) (segments : List (List Char)) :
    joinWith separator segments = [separator].intercalate segments := by
  induction segments with
  | nil => rfl
  | cons segment rest ih =>
      cases rest with
      | nil => rw [joinWith, List.intercalate_singleton]
      | cons next more =>
          rw [joinWith_cons_cons, List.intercalate_cons_cons, ih, List.append_assoc]
          rfl

/-- The segments of a text, as texts. -/
def segments (separator : Char) (text : String) : List String :=
  (splitOn separator text.toList).map String.ofList

theorem splitOn_ne_nil (separator : Char) (cs : List Char) : splitOn separator cs ≠ [] := by
  cases cs with
  | nil => simp [splitOn]
  | cons c rest =>
      by_cases h : c = separator
      · simp [splitOn, h]
      · simp only [splitOn, h, if_false]
        cases splitOn separator rest <;> simp

theorem joinWith_splitOn (separator : Char) (cs : List Char) :
    joinWith separator (splitOn separator cs) = cs := by
  induction cs with
  | nil => rfl
  | cons c rest ih =>
      by_cases h : c = separator
      · cases hs : splitOn separator rest with
        | nil => exact absurd hs (splitOn_ne_nil separator rest)
        | cons segment more =>
            rw [hs] at ih
            simp [splitOn, h, hs, joinWith, ih]
      · cases hs : splitOn separator rest with
        | nil => exact absurd hs (splitOn_ne_nil separator rest)
        | cons segment more =>
            rw [hs] at ih
            cases more with
            | nil => simp_all [splitOn, joinWith]
            | cons other others => simp_all [splitOn, joinWith]

/-- A text without the separator is one segment. -/
theorem splitOn_eq_singleton {separator : Char} {cs : List Char} (h : separator ∉ cs) :
    splitOn separator cs = [cs] := by
  induction cs with
  | nil => rfl
  | cons c rest ih =>
      rw [List.mem_cons, not_or] at h
      obtain ⟨hc, hrest⟩ := h
      rw [splitOn, if_neg (Ne.symm hc), ih hrest]

/-- A separator between two texts divides their segments. -/
theorem splitOn_append_separator (separator : Char) (cs others : List Char) :
    splitOn separator (cs ++ separator :: others) =
      splitOn separator cs ++ splitOn separator others := by
  induction cs with
  | nil => simp [splitOn]
  | cons c rest ih =>
      rw [List.cons_append, splitOn, splitOn, ih]
      by_cases h : c = separator
      · simp [h]
      · cases hs : splitOn separator rest with
        | nil => exact absurd hs (splitOn_ne_nil separator rest)
        | cons segment more => simp [h]

/-- Parts that are joined are divided into the segments of each. -/
theorem splitOn_joinWith_eq_flatMap {separator : Char} {parts : List (List Char)}
    (hne : parts ≠ []) :
    splitOn separator (joinWith separator parts) = parts.flatMap (splitOn separator) := by
  induction parts with
  | nil => exact absurd rfl hne
  | cons part rest ih =>
      cases rest with
      | nil => simp [joinWith]
      | cons next more =>
          rw [joinWith_cons_cons, splitOn_append_separator, ih (List.cons_ne_nil _ _)]
          rfl

/-- Segments that do not hold the separator are found again. -/
theorem splitOn_joinWith {separator : Char} {segments : List (List Char)} (hne : segments ≠ [])
    (h : ∀ segment ∈ segments, separator ∉ segment) :
    splitOn separator (joinWith separator segments) = segments := by
  have hone : segments.map (splitOn separator) = segments.map fun segment => [segment] :=
    List.map_congr_left fun segment hsegment => splitOn_eq_singleton (h segment hsegment)
  rw [splitOn_joinWith_eq_flatMap hne, List.flatMap_def, hone, ← List.flatMap_def]
  exact List.flatMap_singleton' segments

/-- No segment holds the separator. -/
theorem not_mem_of_mem_splitOn {separator : Char} {cs segment : List Char}
    (h : segment ∈ splitOn separator cs) : separator ∉ segment := by
  induction cs generalizing segment with
  | nil =>
      rw [splitOn, List.mem_singleton] at h
      rw [h]
      exact List.not_mem_nil
  | cons c rest ih =>
      unfold splitOn at h
      by_cases hc : c = separator
      · rw [if_pos hc, List.mem_cons] at h
        rcases h with rfl | hmem
        · exact List.not_mem_nil
        · exact ih hmem
      · rw [if_neg hc] at h
        cases hs : splitOn separator rest with
        | nil => exact absurd hs (splitOn_ne_nil separator rest)
        | cons first more =>
            rw [hs] at h ih
            rcases List.mem_cons.mp h with rfl | hmem
            · rw [List.mem_cons, not_or]
              exact ⟨Ne.symm hc, ih List.mem_cons_self⟩
            · exact ih (List.mem_cons_of_mem _ hmem)

theorem segments_ne_nil (separator : Char) (text : String) : segments separator text ≠ [] := by
  unfold segments
  rw [Ne, List.map_eq_nil_iff]
  exact splitOn_ne_nil separator text.toList

/-- Different texts have different segments. -/
theorem segments_injective {separator : Char} {a b : String}
    (h : segments separator a = segments separator b) : a = b := by
  have hchars (text : String) :
      (segments separator text).map String.toList = splitOn separator text.toList := by
    unfold segments
    rw [List.map_map]
    exact (List.map_congr_left fun segment _ => String.toList_ofList).trans (List.map_id _)
  have hsplit : splitOn separator a.toList = splitOn separator b.toList := by
    rw [← hchars a, h, hchars b]
  have hjoin := congrArg (joinWith separator) hsplit
  rw [joinWith_splitOn, joinWith_splitOn] at hjoin
  exact String.toList_injective hjoin

end BundleFront.Text
