import BundleFront.Diagnostic.Report
import Mathlib.Data.List.Basic
import Mathlib.Tactic.Common

/-!
# What a report shows

Whether a report shows a diagnostic depends on its severity, on the level, and for an error
on how many errors come before it.  The diagnostics shown keep their order, and the
error limit leaves warnings alone.  The errors behind the limit are counted in one last line.

* `LogOptions.reportFrom_cons` — one diagnostic, from what the report has counted so far.
* `LogOptions.reportFrom_eq` — the lines for the rest of a log, by induction on it.
* `LogOptions.filter_isError_shownBehind` — the errors shown are the first ones.
* `Log.report_shows` — reports of all logs at all levels and limits.
-/

namespace BundleFront

namespace LogLevel

theorem reports_warning_iff {level : LogLevel} :
    level.reports .warning = true ↔ level = .info ∨ level = .warning := by
  cases level <;> decide

theorem reports_error_iff {level : LogLevel} : level.reports .error = true ↔ level ≠ .silent := by
  cases level <;> decide

end LogLevel

namespace Log

theorem errorCount_append_warning (log : Log) (message : Message) :
    errorCount (log ++ [⟨.warning, message⟩]) = log.errorCount := by
  simp [errorCount, Diagnostic.isError]

theorem errorCount_append_error (log : Log) (message : Message) :
    errorCount (log ++ [⟨.error, message⟩]) = log.errorCount + 1 := by
  simp [errorCount, Diagnostic.isError]

end Log

namespace LogOptions

variable {options : LogOptions} {before : Log} {message : Message}

/-- Whether a diagnostic is shown, by what comes before it in the log. -/
def Shows (options : LogOptions) (before : Log) (d : Diagnostic) : Prop :=
  match d.kind with
  | .warning => options.level = .info ∨ options.level = .warning
  | .error => options.level ≠ .silent ∧
      (options.errorLimit = 0 ∨ before.errorCount < options.errorLimit.toNat)

instance (before : Log) : (d : Diagnostic) → Decidable (options.Shows before d)
  | ⟨.warning, _⟩ => inferInstanceAs (Decidable (_ ∨ _))
  | ⟨.error, _⟩ => inferInstanceAs (Decidable (_ ∧ _))

/-! ## The two counts -/

/-- The number of errors of a log that are shown. -/
def shownErrors (options : LogOptions) (log : Log) : Nat :=
  if options.level = .silent then 0
  else if options.errorLimit = 0 then log.errorCount
  else min log.errorCount options.errorLimit.toNat

/-- The number of errors of a log that only the limit leaves out. -/
def hiddenErrors (options : LogOptions) (log : Log) : Nat :=
  if options.level = .silent ∨ options.errorLimit = 0 then 0
  else log.errorCount - options.errorLimit.toNat

/-- In silence no error is counted. -/
theorem counts_of_silent (hlevel : options.level = .silent) (log : Log) :
    options.shownErrors log = 0 ∧ options.hiddenErrors log = 0 := by
  rw [shownErrors, hiddenErrors, if_pos hlevel, if_pos (.inl hlevel)]
  exact ⟨rfl, rfl⟩

theorem shownErrors_add_hiddenErrors (hlevel : options.level ≠ .silent) (log : Log) :
    options.shownErrors log + options.hiddenErrors log = log.errorCount := by
  simp only [shownErrors, hiddenErrors, hlevel, if_false, false_or]
  split_ifs
  · rfl
  · omega

theorem shownErrors_le (hlimit : options.errorLimit ≠ 0) (log : Log) :
    options.shownErrors log ≤ options.errorLimit.toNat := by
  simp only [shownErrors, hlimit, if_false]
  split_ifs
  · exact Nat.zero_le _
  · exact Nat.min_le_right _ _

theorem counts_append_warning (options : LogOptions) (before : Log) (message : Message) :
    options.shownErrors (before ++ [⟨.warning, message⟩]) = options.shownErrors before ∧
      options.hiddenErrors (before ++ [⟨.warning, message⟩]) = options.hiddenErrors before := by
  simp only [shownErrors, hiddenErrors, Log.errorCount_append_warning, and_self]

/-- The limit is reached exactly if the next error is not shown. -/
theorem limit_le_shownErrors_iff (hlevel : options.level ≠ .silent) :
    options.errorLimit ≠ 0 ∧ options.errorLimit.toNat ≤ options.shownErrors before ↔
      ¬ options.Shows before ⟨.error, message⟩ := by
  rw [shownErrors, if_neg hlevel]
  by_cases hlimit : options.errorLimit = 0
  · simp [Shows, hlevel, hlimit]
  · simp only [Shows, ne_eq, hlevel, hlimit, not_false_eq_true, true_and, false_or, Nat.not_lt,
      if_false]
    omega

theorem counts_append_of_shows (h : options.Shows before ⟨.error, message⟩) :
    options.shownErrors (before ++ [⟨.error, message⟩]) = options.shownErrors before + 1 ∧
      options.hiddenErrors (before ++ [⟨.error, message⟩]) = options.hiddenErrors before := by
  obtain ⟨hlevel, hroom⟩ := h
  simp only [shownErrors, hiddenErrors, Log.errorCount_append_error, hlevel, if_false, false_or]
  by_cases hlimit : options.errorLimit = 0
  · simp [hlimit]
  · have hless := hroom.resolve_left hlimit
    simp only [hlimit, if_false]
    omega

theorem counts_append_of_not_shows (hlevel : options.level ≠ .silent)
    (h : ¬ options.Shows before ⟨.error, message⟩) :
    options.shownErrors (before ++ [⟨.error, message⟩]) = options.shownErrors before ∧
      options.hiddenErrors (before ++ [⟨.error, message⟩]) = options.hiddenErrors before + 1 := by
  have hfull : options.errorLimit ≠ 0 ∧ options.errorLimit.toNat ≤ before.errorCount := by
    simpa [Shows, hlevel] using h
  obtain ⟨hlimit, hfull⟩ := hfull
  simp only [shownErrors, hiddenErrors, Log.errorCount_append_error, hlevel, hlimit, if_false,
    or_self]
  omega

/-! ## One diagnostic after the other -/

/-- A report that has counted what came before shows a diagnostic or not, and then has counted it
too. -/
theorem reportFrom_cons (options : LogOptions) (before rest : Log) (d : Diagnostic) :
    reportFrom options (options.shownErrors before) (options.hiddenErrors before) (d :: rest) =
      (if options.Shows before d then [d.line] else []) ++
        reportFrom options (options.shownErrors (before ++ [d]))
          (options.hiddenErrors (before ++ [d])) rest := by
  obtain ⟨kind, message⟩ := d
  rw [reportFrom]
  cases kind with
  | warning =>
      obtain ⟨hshown, hhidden⟩ := options.counts_append_warning before message
      rw [hshown, hhidden]
      by_cases hlevel : options.level.reports .warning = true
      · have hshows : options.Shows before ⟨.warning, message⟩ :=
          LogLevel.reports_warning_iff.mp hlevel
        simp [hlevel, hshows, Diagnostic.isError]
      · have hshows : ¬ options.Shows before ⟨.warning, message⟩ :=
          LogLevel.reports_warning_iff.not.mp hlevel
        simp [hlevel, hshows]
  | error =>
      -- In silence the counts stand still; otherwise each error raises just one of them.
      by_cases hsilent : options.level = .silent
      · have hlevel : options.level.reports .error = false := by rw [hsilent]; rfl
        have hshows : ¬ options.Shows before ⟨.error, message⟩ := fun h => h.1 hsilent
        simp [hlevel, hshows, counts_of_silent hsilent]
      have hlevel : options.level.reports .error = true := LogLevel.reports_error_iff.mpr hsilent
      have hlimit : options.errorLimit ≠ 0 ∧
          options.errorLimit.toNat ≤ options.shownErrors before ↔
            ¬ options.Shows before ⟨.error, message⟩ := limit_le_shownErrors_iff hsilent
      by_cases hshows : options.Shows before ⟨.error, message⟩
      · obtain ⟨hshown, hhidden⟩ := counts_append_of_shows hshows
        rw [hshown, hhidden]
        simp [hlevel, hshows, hlimit, Diagnostic.isError]
      · obtain ⟨hshown, hhidden⟩ := counts_append_of_not_shows hsilent hshows
        rw [hshown, hhidden]
        simp [hlevel, hshows, hlimit, Diagnostic.isError]

/-! ## A whole log -/

/-- The diagnostics that are shown behind others, in order. -/
def shownBehind (options : LogOptions) (before rest : Log) : Log :=
  ((rest.zipIdx before.length).filter fun entry =>
    options.Shows ((before ++ rest).take entry.2) entry.1).map Prod.fst

theorem shownBehind_cons (options : LogOptions) (before rest : Log) (d : Diagnostic) :
    options.shownBehind before (d :: rest) =
      (if options.Shows before d then [d] else []) ++ options.shownBehind (before ++ [d]) rest := by
  have hbefore : (before ++ d :: rest).take before.length = before := List.take_left
  unfold shownBehind
  rw [List.zipIdx_cons, List.filter_cons, hbefore, ← List.append_cons, List.length_append,
    List.length_singleton]
  by_cases hshows : options.Shows before d
  · simp [hshows]
  · simp [hshows]

/-- The lines for the rest of a log, up to what the counts leave for the end. -/
theorem reportFrom_eq (options : LogOptions) (before rest : Log) :
    reportFrom options (options.shownErrors before) (options.hiddenErrors before) rest =
      (options.shownBehind before rest).map Diagnostic.line ++
        reportFrom options (options.shownErrors (before ++ rest))
          (options.hiddenErrors (before ++ rest)) [] := by
  -- What came before grows by one diagnostic with each step, and the two counts grow with it.
  induction rest generalizing before with
  | nil => simp [shownBehind]
  | cons d rest ih =>
      rw [reportFrom_cons, shownBehind_cons, ih, ← List.append_cons, List.map_append,
        List.append_assoc]
      by_cases hshows : options.Shows before d
      · simp [hshows]
      · simp [hshows]

/-- Where what comes before plays no part, all of a kind is shown or nothing. -/
theorem filter_shownBehind_of_forall {p : Diagnostic → Bool} {c : Prop} [Decidable c]
    (h : ∀ before d, p d = true → (options.Shows before d ↔ c)) (before rest : Log) :
    (options.shownBehind before rest).filter p = if c then rest.filter p else [] := by
  induction rest generalizing before with
  | nil => simp [shownBehind]
  | cons d rest ih =>
      rw [shownBehind_cons, List.filter_append, ih]
      by_cases hp : p d = true
      · have hshows := h before d hp
        by_cases hc : c
        · simp [hp, hc, hshows]
        · simp [hc, hshows]
      · by_cases hshows : options.Shows before d
        · simp [hp, hshows]
        · simp [hp, hshows]

/-- Under a limit, the errors shown are the first ones that it has room for. -/
theorem filter_isError_shownBehind (hlevel : options.level ≠ .silent)
    (hlimit : options.errorLimit ≠ 0) (before rest : Log) :
    (options.shownBehind before rest).filter Diagnostic.isError =
      (rest.filter Diagnostic.isError).take
        (options.errorLimit.toNat - before.errorCount) := by
  induction rest generalizing before with
  | nil => simp [shownBehind]
  | cons d rest ih =>
      rw [shownBehind_cons, List.filter_append, ih]
      obtain ⟨kind, message⟩ := d
      cases kind with
      | warning =>
          rw [Log.errorCount_append_warning]
          by_cases hshows : options.Shows before ⟨.warning, message⟩
          · simp [hshows, Diagnostic.isError]
          · simp [hshows, Diagnostic.isError]
      | error =>
          rw [Log.errorCount_append_error]
          -- While there is room, the error takes one place of it; later there is none to take.
          by_cases hroom : before.errorCount < options.errorLimit.toNat
          · have hshows : options.Shows before ⟨.error, message⟩ := ⟨hlevel, .inr hroom⟩
            have hleft : options.errorLimit.toNat - before.errorCount =
                options.errorLimit.toNat - (before.errorCount + 1) + 1 := by omega
            rw [hleft]
            simp [hshows, Diagnostic.isError]
          · have hshows : ¬ options.Shows before ⟨.error, message⟩ :=
              fun h => hroom (h.2.resolve_left hlimit)
            have hnone : options.errorLimit.toNat - before.errorCount = 0 := by omega
            have hnext : options.errorLimit.toNat - (before.errorCount + 1) = 0 := by omega
            rw [hnone, hnext]
            simp [hshows]

end LogOptions

namespace Log

variable (log : Log) (options : LogOptions)

/-- The diagnostics of a log that a report shows, in order. -/
def shown : Log :=
  (log.zipIdx.filter fun entry => options.Shows (log.take entry.2) entry.1).map Prod.fst

theorem shown_sublist : (log.shown options).Sublist log := by
  have hkept := (List.filter_sublist (l := log.zipIdx)
    (p := fun entry => options.Shows (log.take entry.2) entry.1)).map Prod.fst
  rw [List.zipIdx_map_fst] at hkept
  exact hkept

theorem filter_warning_shown :
    (log.shown options).filter (·.kind = .warning) =
      if options.level = .info ∨ options.level = .warning then log.filter (·.kind = .warning)
      else [] := by
  refine LogOptions.filter_shownBehind_of_forall ?_ [] log
  rintro before ⟨kind, message⟩ hkind
  cases of_decide_eq_true hkind
  exact Iff.rfl

theorem filter_isError_shown :
    (log.shown options).filter Diagnostic.isError =
      if options.level = .silent then []
      else if options.errorLimit = 0 then log.filter Diagnostic.isError
      else (log.filter Diagnostic.isError).take options.errorLimit.toNat := by
  have hshows (before : Log) (d : Diagnostic) (herror : d.isError = true) :
      options.Shows before d ↔ options.level ≠ .silent ∧
        (options.errorLimit = 0 ∨ before.errorCount < options.errorLimit.toNat) := by
    obtain ⟨kind, message⟩ := d
    cases eq_of_beq herror
    exact Iff.rfl
  split_ifs with hlevel hlimit
  · have hnone (before : Log) (d : Diagnostic) (herror : d.isError = true) :
        options.Shows before d ↔ False := by
      simp [hshows before d herror, hlevel]
    exact (LogOptions.filter_shownBehind_of_forall hnone [] log).trans (if_neg not_false)
  · have hall (before : Log) (d : Diagnostic) (herror : d.isError = true) :
        options.Shows before d ↔ True := by
      simp [hshows before d herror, hlevel, hlimit]
    exact (LogOptions.filter_shownBehind_of_forall hall [] log).trans (if_pos trivial)
  · exact LogOptions.filter_isError_shownBehind hlevel hlimit [] log

/-- The last line counts the errors behind the limit. -/
theorem report_eq :
    log.report options = (log.shown options).map Diagnostic.line ++
      if options.hiddenErrors log = 0 then []
      else [⟨.error, toString (options.hiddenErrors log) ++ " more errors"⟩] := by
  have hshown : options.shownErrors [] = 0 := by simp [LogOptions.shownErrors, errorCount]
  have hhidden : options.hiddenErrors [] = 0 := by simp [LogOptions.hiddenErrors, errorCount]
  have hlines := LogOptions.reportFrom_eq options [] log
  rw [hshown, hhidden] at hlines
  exact hlines

theorem length_filter_isError_shown :
    ((log.shown options).filter Diagnostic.isError).length = options.shownErrors log := by
  rw [filter_isError_shown, LogOptions.shownErrors, errorCount, List.countP_eq_length_filter]
  split_ifs
  · rfl
  · rfl
  · rw [List.length_take]
    exact Nat.min_comm _ _

theorem length_filter_error_report_le (hlimit : options.errorLimit ≠ 0) :
    ((log.report options).filter (·.kind = .error)).length ≤ options.errorLimit.toNat + 1 := by
  have hlines : ((log.shown options).map Diagnostic.line).filter (·.kind = .error) =
      ((log.shown options).filter Diagnostic.isError).map Diagnostic.line := List.filter_map
  rw [report_eq, List.filter_append, List.length_append, hlines, List.length_map,
    length_filter_isError_shown]
  refine Nat.add_le_add (LogOptions.shownErrors_le hlimit log) ?_
  split_ifs
  · exact Nat.zero_le 1
  · exact List.length_filter_le _ _

/-- Reports show, in the order of the log, the warnings that the level lets through and the errors
that the limit has room for, followed by at most one more line, which counts the other errors. -/
theorem report_shows :
    let shown := log.shown options
    let errors := log.filter Diagnostic.isError
    let limit := options.errorLimit.toNat
    let hidden := errors.length - limit
    let isCut := options.level ≠ .silent ∧ options.errorLimit ≠ 0 ∧ 0 < hidden
    log.report options = shown.map (fun d => ⟨d.kind, d.message.line⟩) ++
        (if isCut then [⟨.error, toString hidden ++ " more errors"⟩] else []) ∧
      shown.Sublist log ∧
      shown.filter (·.kind = .warning) =
        (if options.level = .info ∨ options.level = .warning then log.filter (·.kind = .warning)
        else []) ∧
      shown.filter Diagnostic.isError =
        (if options.level = .silent then []
        else if options.errorLimit = 0 then errors else errors.take limit) ∧
      (options.level ≠ .silent →
        (shown.filter Diagnostic.isError).length + (if isCut then hidden else 0) =
          errors.length) ∧
      (options.errorLimit ≠ 0 →
        ((log.report options).filter (·.kind = .error)).length ≤ limit + 1) := by
  intro shown errors limit hidden isCut
  have hcount : log.errorCount = errors.length := List.countP_eq_length_filter
  have hhidden : options.hiddenErrors log = if isCut then hidden else 0 := by
    unfold LogOptions.hiddenErrors
    rw [hcount]
    by_cases hoff : options.level = .silent ∨ options.errorLimit = 0
    · have hcut : ¬ isCut := fun h => hoff.elim h.1 h.2.1
      rw [if_pos hoff, if_neg hcut]
    · rw [if_neg hoff]
      rw [not_or] at hoff
      split_ifs with hcut
      · rfl
      · exact Nat.eq_zero_of_not_pos fun hmore => hcut ⟨hoff.1, hoff.2, hmore⟩
  refine ⟨?lines, log.shown_sublist options, log.filter_warning_shown options,
    log.filter_isError_shown options, ?account, log.length_filter_error_report_le options⟩
  case lines =>
    rw [report_eq, hhidden]
    by_cases hcut : isCut
    · have hmore : hidden ≠ 0 := Nat.ne_of_gt hcut.2.2
      simp only [if_pos hcut, if_neg hmore]
      rfl
    · simp only [if_neg hcut]
      rfl
  case account =>
    intro hlevel
    rw [log.length_filter_isError_shown options, ← hhidden,
      LogOptions.shownErrors_add_hiddenErrors hlevel, hcount]

/-- Warnings are shown behind the limit, too. -/
example : Log.report [.error "a", .warning "b", .error "c", .error "d", .warning "e"]
    { errorLimit := 2 } = [⟨.error, "a"⟩, ⟨.warning, "b"⟩, ⟨.error, "c"⟩, ⟨.warning, "e"⟩,
      ⟨.error, "1 more errors"⟩] := by
  decide +kernel

end Log
end BundleFront
