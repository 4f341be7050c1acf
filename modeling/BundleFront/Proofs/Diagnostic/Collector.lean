import BundleFront.Diagnostic.Collector
import BundleFront.Proofs.Diagnostic.Order
import BundleFront.Proofs.Diagnostic.Partition

/-!
# What collectors keep

Several handles lead to one collector, and each may add, look and empty it.  Nothing that
is added gets lost in this: it is handed out once, when the collector is emptied, or it is
there still, in the order in which it was added.

* `Collector.step_accounts` — one operation on what a collector holds.
* `Collector.Store.history` — the operations that commands come to, each with the
  collector that it reaches and its answer.
* `Collector.Store.run_accounts` — all commands, by induction on them; a command leaves
  the other collectors alone.
* `Collector.Store.nothing_lost` — the whole account of collectors, from the first on.
-/

namespace BundleFront

namespace Diagnostic

/-- The messages of a batch in the order of presentation, those tied as they stand in the batch. -/
structure IsStableSort (batch ordered : List Diagnostic) : Prop where
  perm : ordered.Perm batch
  pairwise : ordered.Pairwise fun a b => (order a b).isLE = true
  ties_eq : ∀ d, ordered.filter (tied d) = batch.filter (tied d)

theorem isStableSort_sorted (batch : List Diagnostic) : IsStableSort batch (sorted batch) :=
  ⟨sorted_perm batch, pairwise_sorted batch, fun d => filter_tied_sorted d batch⟩

/-- A batch has only one stable order. -/
theorem isStableSort_iff {batch ordered : List Diagnostic} :
    IsStableSort batch ordered ↔ ordered = sorted batch := by
  constructor
  · intro h
    refine eq_of_perm_of_filter_tied h.pairwise (pairwise_sorted batch)
      (h.perm.trans (sorted_perm batch).symm) ?_
    intro d
    rw [h.ties_eq, filter_tied_sorted]
  · rintro rfl
    exact isStableSort_sorted batch

/-- The errors of a split are as many as the log counts. -/
theorem Split.length_errors {ds : List Diagnostic} {errors warnings : List Message}
    (h : Split ds errors warnings) : errors.length = Log.errorCount ds := by
  induction h with
  | nil => rfl
  | error rest ih => simp [Log.errorCount, isError, ih]
  | warning rest ih => simp [Log.errorCount, isError, ih]

end Diagnostic

namespace Collector

/-! ## One operation -/

/-- What an operation adds: one message, or those of a batch in the order of presentation. -/
def Operation.added : Operation → Log
  | add d => [d]
  | addError text => [⟨.error, ⟨text, none⟩⟩]
  | addWarning text => [⟨.warning, ⟨text, none⟩⟩]
  | addBatch batch => Diagnostic.sorted batch
  | length | isEmpty | errorCount | hasErrors | snapshot | finish _ => []

/-- What an answer hands out of the collector. -/
def Answer.drained : Answer → Log
  | finished drained _ => drained
  | nothing | number _ | flag _ | seen _ => []

/-- What was there and what is added is handed out or there afterwards. -/
theorem step_accounts (log : Log) (operation : Operation) :
    log ++ operation.added = (step log operation).1.drained ++ (step log operation).2 := by
  cases operation with
  | add d => rfl
  | addError text => rfl
  | addWarning text => rfl
  | addBatch batch => rfl
  | finish options => rfl
  | length => exact List.append_nil log
  | isEmpty => exact List.append_nil log
  | errorCount => exact List.append_nil log
  | hasErrors => exact List.append_nil log
  | snapshot => exact List.append_nil log

/-! ## Collectors side by side -/

namespace Store

variable {store : Store} {handle place other : Nat}

theorem lt_of_place?_eq_some (h : store.place? handle = some place) :
    place < store.logs.length :=
  store.handles_lt place (List.mem_of_getElem? h)

theorem logAt_create (store : Store) (place : Nat) :
    store.create.logAt place = store.logAt place := by
  unfold logAt create
  rw [List.getD_eq_getElem?_getD, List.getD_eq_getElem?_getD, List.getElem?_append]
  split_ifs with hplace
  · rfl
  · rw [List.getElem?_eq_none (Nat.le_of_not_lt hplace)]
    cases place - store.logs.length <;> rfl

theorem logAt_operate (hplace : place < store.logs.length) (operation : Operation) :
    (store.operate place operation).2.logAt place = (step (store.logAt place) operation).2 := by
  simp [operate, logAt, hplace]

/-- An operation leaves the other collectors alone. -/
theorem logAt_operate_of_ne (hother : other ≠ place) (operation : Operation) :
    (store.operate place operation).2.logAt other = store.logAt other := by
  simp [operate, logAt, List.getElem?_set_ne hother.symm]

/-- An operation that leaves what the collector holds leaves everything. -/
theorem operate_eq (hplace : place < store.logs.length) {operation : Operation}
    (hstep : (step (store.logAt place) operation).2 = store.logAt place) :
    store.operate place operation = ((step (store.logAt place) operation).1, store) := by
  have hlogs : store.logs.set place (step (store.logAt place) operation).2 = store.logs := by
    rw [hstep, logAt, List.getD_eq_getElem?_getD, List.getElem?_eq_getElem hplace]
    exact List.set_getElem_self hplace
  exact Prod.ext rfl (Store.ext hlogs rfl)

theorem execute_use (h : store.place? handle = some place) (operation : Operation) :
    store.execute (.use handle operation) = store.operate place operation := by
  simp only [execute, h]

/-! ### Handles -/

theorem place?_operate (h : store.place? handle = some place) (other : Nat)
    (operation : Operation) : (store.operate other operation).2.place? handle = some place := h

/-- A handle leads to the same collector for good. -/
theorem place?_execute (h : store.place? handle = some place) (command : Command) :
    (store.execute command).2.place? handle = some place := by
  have hlt : handle < store.handles.length := (List.getElem?_eq_some_iff.mp h).1
  cases command with
  | create => exact (List.getElem?_append_left hlt).trans h
  | copy copied => exact (List.getElem?_append_left hlt).trans h
  | use used operation =>
      cases hused : store.place? used with
      | none => simpa only [execute, hused] using h
      | some reached => rw [execute_use hused, place?_operate h]

theorem place?_run (h : store.place? handle = some place) (commands : List Command) :
    (store.run commands).2.place? handle = some place := by
  induction commands generalizing store with
  | nil => exact h
  | cons command rest ih => exact ih (place?_execute h command)

/-- A copy leads where the handle that is copied leads. -/
theorem place?_copy (store : Store) (handle : Nat) :
    (store.copy handle).place? store.handles.length = store.place? handle := by
  unfold copy place?
  simp only [List.getElem?_append_right (Nat.le_refl _), Nat.sub_self]
  cases store.handles[handle]? <;> rfl

end Store

/-! ## What commands come to -/

/-- An operation that has reached a collector, with its answer. -/
structure Entry where
  place : Nat
  operation : Operation
  answer : Answer
deriving DecidableEq, Repr

/-- Everything that was added to a collector, in order. -/
def addedTo (place : Nat) (entries : List Entry) : Log :=
  (entries.filter (·.place == place)).flatMap (·.operation.added)

/-- Everything that was handed out of a collector, in order. -/
def drainedFrom (place : Nat) (entries : List Entry) : Log :=
  (entries.filter (·.place == place)).flatMap (·.answer.drained)

theorem addedTo_append (place : Nat) (entries others : List Entry) :
    addedTo place (entries ++ others) = addedTo place entries ++ addedTo place others := by
  rw [addedTo, List.filter_append, List.flatMap_append, addedTo, addedTo]

theorem drainedFrom_append (place : Nat) (entries others : List Entry) :
    drainedFrom place (entries ++ others) =
      drainedFrom place entries ++ drainedFrom place others := by
  rw [drainedFrom, List.filter_append, List.flatMap_append, drainedFrom, drainedFrom]

namespace Store

/-- The operation that a command comes to, if it uses a handle that there is. -/
def entries (store : Store) : Command → List Entry
  | .create | .copy _ => []
  | .use handle operation =>
      (store.place? handle).toList.map fun place =>
        ⟨place, operation, (store.execute (.use handle operation)).1⟩

/-- The operations that commands come to, through whichever handles. -/
def history : Store → List Command → List Entry
  | _, [] => []
  | store, command :: rest => store.entries command ++ (store.execute command).2.history rest

variable {store : Store} {handle place other : Nat}

/-- One command on any of the collectors. -/
theorem execute_accounts (store : Store) (command : Command) (place : Nat) :
    store.logAt place ++ addedTo place (store.entries command) =
      drainedFrom place (store.entries command) ++ (store.execute command).2.logAt place := by
  cases command with
  | create => exact (List.append_nil _).trans (store.logAt_create place).symm
  | copy handle => exact List.append_nil _
  | use handle operation =>
      cases hplace : store.place? handle with
      | none => simp [entries, execute, hplace, addedTo, drainedFrom]
      | some reached =>
          have hentries : store.entries (.use handle operation) =
              [⟨reached, operation, (step (store.logAt reached) operation).1⟩] := by
            simp only [entries, hplace, Option.toList_some, List.map_singleton,
              execute_use hplace]
            rfl
          rw [hentries, execute_use hplace]
          -- The collector that is reached keeps its own account; any other one stays as it is.
          by_cases hreached : reached = place
          · subst hreached
            rw [logAt_operate (lt_of_place?_eq_some hplace)]
            simpa [addedTo, drainedFrom] using step_accounts (store.logAt reached) operation
          · rw [logAt_operate_of_ne (Ne.symm hreached)]
            simp [addedTo, drainedFrom, hreached]

/-- Commands add to a collector what they hand out of it, and what it holds in the end. -/
theorem run_accounts (store : Store) (commands : List Command) (place : Nat) :
    store.logAt place ++ addedTo place (store.history commands) =
      drainedFrom place (store.history commands) ++ (store.run commands).2.logAt place := by
  induction commands generalizing store with
  | nil => exact List.append_nil _
  | cons command rest ih =>
      rw [history, addedTo_append, drainedFrom_append, ← List.append_assoc,
        execute_accounts store command place, List.append_assoc, ih, List.append_assoc]
      rfl

/-! ## Looking and emptying -/

/-- A snapshot of what a handle leads to, and all other questions, agree; asking leaves everything
as it was. -/
structure Shows (store : Store) (handle : Nat) (seen : Log) : Prop where
  snapshot : store.execute (.use handle .snapshot) = (.seen seen, store)
  length : store.execute (.use handle .length) = (.number seen.length, store)
  isEmpty : store.execute (.use handle .isEmpty) = (.flag (decide (seen = [])), store)
  errors : ∃ errors warnings : List Message, Diagnostic.Split seen errors warnings ∧
    store.execute (.use handle .errorCount) = (.number errors.length, store) ∧
    store.execute (.use handle .hasErrors) = (.flag (decide (errors ≠ [])), store)

theorem shows_of_place? (h : store.place? handle = some place) :
    store.Shows handle (store.logAt place) := by
  have hplace := lt_of_place?_eq_some h
  refine ⟨?_, ?_, ?_, _, _, Diagnostic.split_partition (store.logAt place), ?_, ?_⟩
  · rw [execute_use h, operate_eq hplace rfl]
    rfl
  · rw [execute_use h, operate_eq hplace rfl]
    rfl
  · rw [execute_use h, operate_eq hplace rfl]
    cases hlog : store.logAt place <;> rfl
  · rw [execute_use h, operate_eq hplace rfl,
      (Diagnostic.split_partition (store.logAt place)).length_errors]
    rfl
  · have herrors := (Diagnostic.split_partition (store.logAt place)).errors_eq_nil_iff
    have hflag : (store.logAt place).hasErrors =
        decide ((Diagnostic.partition (store.logAt place)).1 ≠ []) := by
      simp [herrors]
    rw [execute_use h, operate_eq hplace rfl, ← hflag]
    rfl

/-- A call that is over gets what its collector holds, and reports it.  The collector is empty then
for every handle on it, and the other collectors are as they were. -/
structure Finishes (store : Store) (handle place : Nat) (options : LogOptions)
    (next : Answer × Store) : Prop where
  answer_eq : next.1 =
    .finished (store.logAt place) ((store.logAt place).report options)
  emptied : ∀ other, store.place? other = some place → next.2.Shows other []
  kept : ∀ other elsewhere, store.place? other = some elsewhere → elsewhere ≠ place →
    next.2.Shows other (store.logAt elsewhere)

theorem finishes_of_place? (h : store.place? handle = some place) (options : LogOptions) :
    store.Finishes handle place options (store.execute (.use handle (.finish options))) := by
  have hlog := logAt_operate (lt_of_place?_eq_some h) (.finish options)
  rw [execute_use h]
  refine ⟨rfl, ?_, ?_⟩
  · intro other hother
    have hshows := shows_of_place? (place?_operate hother place (.finish options))
    rwa [hlog] at hshows
  · intro other elsewhere hother hne
    have hshows := shows_of_place? (place?_operate hother place (.finish options))
    rwa [logAt_operate_of_ne hne] at hshows

/-- The account of collectors, whatever commands they get.  All that was handed out of a collector,
with what it holds behind it, is all that was added to it, in order.  At every point a snapshot
through any handle agrees with the other questions, a call that is over empties the collector for
all handles on it, and copies of a handle lead to its collector for good. -/
theorem nothing_lost (commands : List Command) :
    let store := (empty.run commands).2
    let history := empty.history commands
    (∀ place, drainedFrom place history ++ store.logAt place = addedTo place history) ∧
      (∀ batch, Diagnostic.IsStableSort batch (Operation.addBatch batch).added) ∧
      (∀ handle place, store.place? handle = some place →
        store.Shows handle (store.logAt place) ∧
          (∀ options, store.Finishes handle place options
            (store.execute (.use handle (.finish options)))) ∧
          (store.copy handle).place? store.handles.length = some place ∧
          ∀ more, (store.run more).2.place? handle = some place) := by
  intro store history
  refine ⟨?_, Diagnostic.isStableSort_sorted, ?_⟩
  · intro place
    exact (run_accounts empty commands place).symm
  · intro handle place hplace
    refine ⟨shows_of_place? hplace, finishes_of_place? hplace, ?_, place?_run hplace⟩
    rw [place?_copy, hplace]

/-- Two handles on one collector and one on another: what the first call hands out is not seen
again, and what was added elsewhere is not in it. -/
theorem nothing_lost_twoHandles :
    let commands : List Command := [
      .create, .copy 0, .create, .use 0 (.addError "first"), .use 1 (.addWarning "second"),
      .use 2 (.addError "elsewhere"), .use 1 (.addBatch []),
      .use 1 (.finish { errorLimit := 1 }), .use 0 (.addError "third")]
    let store := (empty.run commands).2
    let history := empty.history commands
    store.place? 1 = some 0 ∧ store.Shows 1 [.error "third"] ∧
      drainedFrom 0 history = [.error "first", .warning "second"] ∧
      addedTo 0 history = [.error "first", .warning "second", .error "third"] ∧
      addedTo 1 history = [.error "elsewhere"] := by
  intro commands store history
  have hplace : store.place? 1 = some 0 := rfl
  have haccount := nothing_lost commands
  refine ⟨hplace, (haccount.2.2 1 0 hplace).1, by decide +kernel, ?_, ?_⟩
  · exact (haccount.1 0).symm.trans (by decide +kernel)
  · exact (haccount.1 1).symm.trans (by decide +kernel)

end Store
end Collector
end BundleFront
