import BundleFront.Plugin.Basic
import Mathlib.Data.List.Basic
import Mathlib.Tactic.Common

/-!
# How far the order of presentation decides

Presentation looks at the position of a diagnostic and at its text.  It has no order
for two diagnostics that agree in these, though they may differ in their severity, in
the length of what they point to, or in the line that they quote.  Such ties stay as
they were, so a sorted batch still shows in which order its producer came to them.  It
shows nothing else of what the producer did.

* `Diagnostic.sorted_eq_sorted_iff` — two batches are presented alike exactly if they
  hold the same diagnostics and the same sequence within every tie.
* `Diagnostic.toldApart_iff_forall_perm` — reordering keeps the sequences within all
  ties exactly if only equal diagnostics are tied.
* `reordering_unseen_iff` — when the order of a batch, or of the errors and of the
  warnings of a loader, does not show in the log.
-/

namespace BundleFront

/-- The part of a location that presentation looks at. -/
def Location.position (place : Location) : String × UInt32 × UInt32 :=
  (place.file, place.line, place.column)

namespace Diagnostic

def position? (d : Diagnostic) : Option (String × UInt32 × UInt32) :=
  d.message.location.map Location.position

/-- Whether presentation has no order for two diagnostics. -/
def tied (a b : Diagnostic) : Bool := order a b == .eq

/-- Diagnostics that agree in position and text agree in everything else. -/
def ToldApart (ds : List Diagnostic) : Prop :=
  ∀ a ∈ ds, ∀ b ∈ ds, a.position? = b.position? → a.text = b.text → a = b

/-! ## The order -/

/-- The order goes by four keys; having no location comes first in each of them. -/
theorem order_eq_compareLex :
    order =
      compareLex (compareOn fun d => d.message.location.map Location.file)
        (compareLex (compareOn fun d => d.message.location.map Location.line)
          (compareLex (compareOn fun d => d.message.location.map Location.column)
            (compareOn text))) := by
  funext a b
  obtain ⟨_, _, first⟩ := a
  obtain ⟨_, _, second⟩ := b
  cases first <;> cases second <;> rfl

instance : Std.TransCmp order := by
  rw [order_eq_compareLex]
  infer_instance

theorem tied_iff {a b : Diagnostic} :
    tied a b = true ↔ a.position? = b.position? ∧ a.text = b.text := by
  rw [tied, beq_iff_eq, order]
  unfold position?
  cases a.message.location <;> cases b.message.location <;>
    simp [Ordering.then_eq_eq, Location.position, and_assoc]

@[simp] theorem tied_self (d : Diagnostic) : tied d d = true := tied_iff.mpr ⟨rfl, rfl⟩

/-- Diagnostics tied with the same one are tied with each other. -/
theorem order_eq_of_tied {d a b : Diagnostic} (ha : tied d a = true) (hb : tied d b = true) :
    order a b = .eq := by
  obtain ⟨hposition, htext⟩ := tied_iff.mp ha
  have hab : tied a b = true := by
    rw [tied_iff, ← hposition, ← htext]
    exact tied_iff.mp hb
  exact eq_of_beq hab

theorem isLE_total (a b : Diagnostic) : ((order a b).isLE || (order b a).isLE) = true := by
  have hswap : order b a = (order a b).swap := Std.OrientedCmp.eq_swap
  rw [hswap]
  cases order a b <;> rfl

/-! ## Sorted batches -/

theorem sorted_perm (ds : List Diagnostic) : (sorted ds).Perm ds := List.mergeSort_perm ds _

theorem pairwise_sorted (ds : List Diagnostic) :
    (sorted ds).Pairwise fun a b => (order a b).isLE = true :=
  List.pairwise_mergeSort (fun _ _ _ => Std.TransCmp.isLE_trans) isLE_total ds

theorem sorted_sorted (ds : List Diagnostic) : sorted (sorted ds) = sorted ds :=
  List.mergeSort_of_pairwise (pairwise_sorted ds)

/-- Sorting is stable: what is tied keeps its sequence. -/
theorem filter_tied_sorted (d : Diagnostic) (ds : List Diagnostic) :
    (sorted ds).filter (tied d) = ds.filter (tied d) := by
  have hties : (ds.filter (tied d)).Pairwise fun a b => (order a b).isLE = true := by
    refine List.pairwise_iff_forall_sublist.mpr ?_
    intro a b hab
    have ha : a ∈ ds.filter (tied d) := hab.subset (by simp)
    have hb : b ∈ ds.filter (tied d) := hab.subset (by simp)
    rw [order_eq_of_tied (List.mem_filter.mp ha).2 (List.mem_filter.mp hb).2]
    rfl
  -- The ties are ordered as they stand, so they are still a sublist after sorting.
  have hkept : (ds.filter (tied d)).Sublist (sorted ds) :=
    List.sublist_mergeSort (fun _ _ _ => Std.TransCmp.isLE_trans) isLE_total hties
      List.filter_sublist
  have hfilter := hkept.filter (tied d)
  rw [List.filter_filter] at hfilter
  simp only [Bool.and_self] at hfilter
  exact (hfilter.eq_of_length ((sorted_perm ds).filter _).length_eq.symm).symm

/-- In a list in order, the head comes before every member or is tied with it. -/
theorem isLE_head {a b : Diagnostic} {rest : List Diagnostic}
    (h : (a :: rest).Pairwise fun a b => (order a b).isLE = true) (hb : b ∈ a :: rest) :
    (order a b).isLE = true := by
  rcases List.mem_cons.mp hb with rfl | hrest
  · rw [order_eq_of_tied (tied_self b) (tied_self b)]
    rfl
  · exact List.rel_of_pairwise_cons h hrest

/-- Lists in order are known by their members and by the sequences within their ties. -/
theorem eq_of_perm_of_filter_tied {ds es : List Diagnostic}
    (hds : ds.Pairwise fun a b => (order a b).isLE = true)
    (hes : es.Pairwise fun a b => (order a b).isLE = true)
    (hperm : ds.Perm es) (hties : ∀ d, ds.filter (tied d) = es.filter (tied d)) : ds = es := by
  induction ds generalizing es with
  | nil => exact hperm.nil_eq
  | cons a rest ih =>
      cases es with
      | nil => exact hperm.eq_nil
      | cons b others =>
          -- Each head is a member of the other list, so the heads are tied.
          have hab : tied a b = true := by
            have hle := isLE_head hds (hperm.mem_iff.mpr List.mem_cons_self)
            have hge := isLE_head hes (hperm.mem_iff.mp List.mem_cons_self)
            exact beq_iff_eq.mpr (Std.OrientedCmp.isLE_antisymm hle hge)
          have hhead : a = b := by
            have htie := hties a
            rw [List.filter_cons_of_pos (tied_self a), List.filter_cons_of_pos hab] at htie
            exact (List.cons.inj htie).1
          subst hhead
          have hrest : ∀ d, rest.filter (tied d) = others.filter (tied d) := by
            intro d
            have htie := hties d
            cases hd : tied d a with
            | true => simpa [List.filter_cons, hd] using htie
            | false => simpa [List.filter_cons, hd] using htie
          rw [ih hds.of_cons hes.of_cons hperm.cons_inv hrest]

/-- Two batches are presented alike exactly if they hold the same diagnostics and the same sequence
within every tie. -/
theorem sorted_eq_sorted_iff {ds es : List Diagnostic} :
    sorted ds = sorted es ↔ ds.Perm es ∧ ∀ d, ds.filter (tied d) = es.filter (tied d) := by
  constructor
  · intro h
    refine ⟨?_, ?_⟩
    · exact (sorted_perm ds).symm.trans (h ▸ sorted_perm es)
    · intro d
      rw [← filter_tied_sorted d ds, h, filter_tied_sorted]
  · rintro ⟨hperm, hties⟩
    refine eq_of_perm_of_filter_tied (pairwise_sorted ds) (pairwise_sorted es) ?_ ?_
    · exact (sorted_perm ds).trans (hperm.trans (sorted_perm es).symm)
    · intro d
      rw [filter_tied_sorted, filter_tied_sorted]
      exact hties d

/-! ## Reordering -/

/-- Reordering keeps the sequences within all ties exactly if only equal diagnostics are tied. -/
theorem toldApart_iff_forall_perm {ds : List Diagnostic} :
    ToldApart ds ↔
      ∀ es : List Diagnostic, es.Perm ds → ∀ d, es.filter (tied d) = ds.filter (tied d) := by
  constructor
  · intro hapart es hperm d
    -- All members of a tie are equal, so its only sequence is the one that it has.
    have hany (es : List Diagnostic) : es.Pairwise fun _ _ => True :=
      List.pairwise_of_forall fun _ _ => trivial
    refine List.Perm.eq_of_pairwise ?_ (hany _) (hany _) (hperm.filter _)
    intro a b ha hb _ _
    obtain ⟨hames, hatied⟩ := List.mem_filter.mp ha
    obtain ⟨hbmem, hbtied⟩ := List.mem_filter.mp hb
    have hab : tied a b = true := beq_iff_eq.mpr (order_eq_of_tied hatied hbtied)
    obtain ⟨hposition, htext⟩ := tied_iff.mp hab
    exact hapart a (hperm.mem_iff.mp hames) b hbmem hposition htext
  · intro hsame a ha b hb hposition htext
    by_contra hne
    have hab : tied a b = true := tied_iff.mpr ⟨hposition, htext⟩
    have hmem : b ∈ ds.erase a := (List.mem_erase_of_ne (Ne.symm hne)).mpr hb
    have hfirst : (a :: b :: (ds.erase a).erase b).Perm ds :=
      ((List.perm_cons_erase hmem).symm.cons a).trans (List.perm_cons_erase ha).symm
    have hsecond : (b :: a :: (ds.erase a).erase b).Perm ds :=
      (List.Perm.swap a b _).trans hfirst
    -- The same tie would start with either of the two.
    have hheads := (hsame _ hfirst a).trans (hsame _ hsecond a).symm
    simp only [List.filter_cons, tied_self, hab, if_true] at hheads
    exact hne (List.cons.inj hheads).1

end Diagnostic

theorem Log.addBatch_eq_addBatch_iff {log : Log} {batch other : List Diagnostic} :
    log.addBatch other = log.addBatch batch ↔
      Diagnostic.sorted other = Diagnostic.sorted batch :=
  List.append_right_inj log

/-- The order in which a batch was collected does not show in the log exactly if presentation tells
its diagnostics apart. -/
theorem Log.addBatch_perm_iff (batch : List Diagnostic) :
    (∀ other : List Diagnostic, other.Perm batch →
        ∀ log : Log, log.addBatch other = log.addBatch batch) ↔
      Diagnostic.ToldApart batch := by
  rw [Diagnostic.toldApart_iff_forall_perm]
  constructor
  · intro h other hperm
    have hsorted : Diagnostic.sorted other = Diagnostic.sorted batch :=
      Log.addBatch_eq_addBatch_iff.mp (h other hperm [])
    exact (Diagnostic.sorted_eq_sorted_iff.mp hsorted).2
  · intro h other hperm log
    rw [Log.addBatch_eq_addBatch_iff, Diagnostic.sorted_eq_sorted_iff]
    exact ⟨hperm, h other hperm⟩

/-! ## Loaders -/

/-- The loader with a callback that finds the same for every file. -/
def LoaderPlugin.finding (loader : LoaderPlugin) (output : LoaderOutput) : LoaderPlugin :=
  { loader with callback := fun _ => .ok output }

/-- What a callback finds is put in order once, however often it is sorted. -/
theorem LoaderPlugin.loadInto_of_ok {loader : LoaderPlugin} {path : Path} {output : LoaderOutput}
    (h : loader.callback path = .ok output) (log : Log) :
    loader.loadInto path log =
      (some (output.contents, output.loader),
        log.addBatch (Diagnostic.ofMessages .error output.errors ++
          Diagnostic.ofMessages .warning output.warnings)) := by
  unfold loadInto load
  rw [h]
  change (_, Log.addBatch log (Diagnostic.sorted _)) = _
  unfold Log.addBatch
  rw [Diagnostic.sorted_sorted]

theorem LoaderPlugin.loadInto_finding (loader : LoaderPlugin) (output : LoaderOutput) (path : Path)
    (log : Log) :
    (loader.finding output).loadInto path log =
      (some (output.contents, output.loader),
        log.addBatch (Diagnostic.ofMessages .error output.errors ++
          Diagnostic.ofMessages .warning output.warnings)) := loadInto_of_ok rfl log

theorem Diagnostic.exists_perm_ofMessages {kind : Severity} {messages : List Message}
    {ds : List Diagnostic} (h : ds.Perm (Diagnostic.ofMessages kind messages)) :
    ∃ others : List Message, others.Perm messages ∧ ds = Diagnostic.ofMessages kind others := by
  refine ⟨ds.map Diagnostic.message, ?_, ?_⟩
  · simpa [Diagnostic.ofMessages, Function.comp_def] using h.map Diagnostic.message
  · have hkind : ∀ d ∈ ds, d = Diagnostic.mk kind d.message := by
      intro d hd
      obtain ⟨message, -, rfl⟩ := List.mem_map.mp (h.mem_iff.mp hd)
      rfl
    unfold Diagnostic.ofMessages
    rw [List.map_map]
    exact (List.map_id ds).symm.trans (List.map_congr_left hkind)

/-- Two lists of errors and warnings leave the same exactly if they are presented alike. -/
theorem LoaderPlugin.loadInto_finding_eq_iff {loader : LoaderPlugin} {output : LoaderOutput}
    {errors warnings : List Message} {path : Path} {log : Log} :
    (loader.finding { output with errors, warnings }).loadInto path log =
        (loader.finding output).loadInto path log ↔
      Diagnostic.sorted (Diagnostic.ofMessages .error errors ++
          Diagnostic.ofMessages .warning warnings) =
        Diagnostic.sorted (Diagnostic.ofMessages .error output.errors ++
          Diagnostic.ofMessages .warning output.warnings) := by
  rw [loadInto_finding, loadInto_finding, Prod.mk.injEq, Log.addBatch_eq_addBatch_iff]
  exact and_iff_right rfl

/-- The order in which a loader collected its errors and its warnings does not show in the log
exactly if presentation tells its errors apart, and its warnings.  An error and a warning may be
tied, because errors are handed over first. -/
theorem LoaderPlugin.loadInto_perm_iff (loader : LoaderPlugin) (output : LoaderOutput) :
    (∀ errors warnings : List Message, errors.Perm output.errors →
        warnings.Perm output.warnings → ∀ (path : Path) (log : Log),
          (loader.finding { output with errors, warnings }).loadInto path log =
            (loader.finding output).loadInto path log) ↔
      Diagnostic.ToldApart (Diagnostic.ofMessages .error output.errors) ∧
        Diagnostic.ToldApart (Diagnostic.ofMessages .warning output.warnings) := by
  rw [Diagnostic.toldApart_iff_forall_perm, Diagnostic.toldApart_iff_forall_perm]
  constructor
  · intro h
    constructor
    · intro ds hperm d
      obtain ⟨errors, herrors, rfl⟩ := Diagnostic.exists_perm_ofMessages hperm
      have hsorted := loadInto_finding_eq_iff.mp
        (h errors output.warnings herrors (List.Perm.refl _) ⟨""⟩ [])
      have htie := (Diagnostic.sorted_eq_sorted_iff.mp hsorted).2 d
      rw [List.filter_append, List.filter_append] at htie
      exact List.append_cancel_right htie
    · intro ds hperm d
      obtain ⟨warnings, hwarnings, rfl⟩ := Diagnostic.exists_perm_ofMessages hperm
      have hsorted := loadInto_finding_eq_iff.mp
        (h output.errors warnings (List.Perm.refl _) hwarnings ⟨""⟩ [])
      have htie := (Diagnostic.sorted_eq_sorted_iff.mp hsorted).2 d
      rw [List.filter_append, List.filter_append] at htie
      exact List.append_cancel_left htie
  · rintro ⟨herrorTies, hwarningTies⟩ errors warnings herrors hwarnings path log
    have herrorPerm := herrors.map (Diagnostic.mk .error)
    have hwarningPerm := hwarnings.map (Diagnostic.mk .warning)
    rw [loadInto_finding_eq_iff, Diagnostic.sorted_eq_sorted_iff]
    refine ⟨herrorPerm.append hwarningPerm, ?_⟩
    intro d
    rw [List.filter_append, List.filter_append]
    exact congrArg₂ (· ++ ·) (herrorTies _ herrorPerm d) (hwarningTies _ hwarningPerm d)

/-- When the order in which a producer collected its messages does not show: for a batch, if no two
different diagnostics agree in position and text; for a loader, if no two different errors do, and
no two different warnings. -/
theorem reordering_unseen_iff (batch : List Diagnostic) (loader : LoaderPlugin)
    (output : LoaderOutput) :
    ((∀ other : List Diagnostic, other.Perm batch →
          ∀ log : Log, log.addBatch other = log.addBatch batch) ↔
        Diagnostic.ToldApart batch) ∧
      ((∀ errors warnings : List Message, errors.Perm output.errors →
          warnings.Perm output.warnings → ∀ (path : Path) (log : Log),
            (loader.finding { output with errors, warnings }).loadInto path log =
              (loader.finding output).loadInto path log) ↔
        Diagnostic.ToldApart (Diagnostic.ofMessages .error output.errors) ∧
          Diagnostic.ToldApart (Diagnostic.ofMessages .warning output.warnings)) :=
  ⟨Log.addBatch_perm_iff batch, loader.loadInto_perm_iff output⟩

/-- Two errors that differ only in the length of what they point to stay as they were collected, in
a batch and from a loader. -/
theorem reordering_seen_of_lengths :
    let place : Location := ⟨"x.js", 1, 0, 1, "let x"⟩
    let short : Message := ⟨"unused", some place⟩
    let long : Message := ⟨"unused", some { place with length := 5 }⟩
    let loader : LoaderPlugin := ⟨"lint", ⟨0, "x", .empty⟩, false, fun _ => .ok {}⟩
    Log.addBatch [] [⟨.error, short⟩, ⟨.error, long⟩] ≠
        Log.addBatch [] [⟨.error, long⟩, ⟨.error, short⟩] ∧
      (loader.finding { errors := [short, long] }).loadInto ⟨"/x.js"⟩ [] ≠
        (loader.finding { errors := [long, short] }).loadInto ⟨"/x.js"⟩ [] := by
  intro place short long loader
  have hsorted : Diagnostic.sorted [⟨.error, short⟩, ⟨.error, long⟩] ≠
      Diagnostic.sorted [⟨.error, long⟩, ⟨.error, short⟩] := by
    rw [Ne, Diagnostic.sorted_eq_sorted_iff]
    rintro ⟨-, hties⟩
    exact absurd (hties ⟨.error, short⟩) (by decide +kernel)
  refine ⟨?_, ?_⟩
  · rw [Ne, Log.addBatch_eq_addBatch_iff]
    exact hsorted
  · rw [LoaderPlugin.loadInto_finding, LoaderPlugin.loadInto_finding, Ne, Prod.mk.injEq,
      Log.addBatch_eq_addBatch_iff]
    exact fun h => hsorted h.2

end BundleFront
