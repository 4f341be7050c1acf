import BundleFront.Proofs.Toolchain.Gates
import Mathlib.Data.List.Forall2
import Mathlib.Tactic.Common

/-!
# Toolchains that do not tell settings apart

The settings of two calls may differ in something that a toolchain never looks at.
The two calls then show the same, but what the methods hand on to each other need not
be the same: a resolver or a module graph may hold on to the settings that it was made
from.  A toolchain therefore comes with relations that say which resolvers and which
graphs are alike to it.

* `Toolchain.Respects` — alike arguments get replies that are alike, and from a compiler
  the same units.
* `Toolchain.Respects.alike_run` — a run is then as long on either side, with alike calls,
  and it leaves the same log and the same units.
-/

namespace BundleFront

variable {ε ρ γ : Type}

/-- Replies that show the same, with values that are alike. -/
structure Reply.Alike {α : Type} (same : α → α → Prop) (x y : Reply ε α) : Prop where
  value : same x.value y.value
  found_eq : x.found = y.found
  events_eq : x.events = y.events

/-- The methods of a toolchain do not tell alike settings, resolvers or graphs apart. -/
structure Toolchain.Respects (toolchain : Toolchain ε ρ γ) (same : Settings → Settings → Prop)
    (sameResolver : ρ → ρ → Prop) (sameGraph : γ → γ → Prop) : Prop where
  resolver : ∀ (fs : FileSystem) (log : Log) {s t : Settings}, same s t →
    Reply.Alike sameResolver (toolchain.resolver fs log s) (toolchain.resolver fs log t)
  scan : ∀ (log : Log) (fs : FileSystem) (entries : List Path) {r q : ρ} {s t : Settings},
    sameResolver r q → same s t →
      Reply.Alike sameGraph (toolchain.scan log fs r entries s) (toolchain.scan log fs q entries t)
  compile : ∀ (log : Log) {g h : γ} {s t : Settings}, sameGraph g h → same s t →
    Reply.Alike Eq (toolchain.compile g log s) (toolchain.compile h log t)

/-- Calls of the same method with the same arguments, as far as the toolchain can tell. -/
inductive ToolchainCall.Alike (same : Settings → Settings → Prop) (sameResolver : ρ → ρ → Prop)
    (sameGraph : γ → γ → Prop) : ToolchainCall ρ γ → ToolchainCall ρ γ → Prop
  | resolver (fs : FileSystem) (log : Log) {s t : Settings} (hsettings : same s t) :
      Alike same sameResolver sameGraph (.resolver fs log s) (.resolver fs log t)
  | scan (log : Log) (fs : FileSystem) (entries : List Path) {r q : ρ} {s t : Settings}
      (hresolver : sameResolver r q) (hsettings : same s t) :
      Alike same sameResolver sameGraph (.scan log fs r entries s) (.scan log fs q entries t)
  | compile (log : Log) {g h : γ} {s t : Settings} (hgraph : sameGraph g h)
      (hsettings : same s t) :
      Alike same sameResolver sameGraph (.compile g log s) (.compile h log t)

/-- Alike calls that were told the same about. -/
structure TraceEntry.Alike (same : Settings → Settings → Prop) (sameResolver : ρ → ρ → Prop)
    (sameGraph : γ → γ → Prop) (x y : TraceEntry ε ρ γ) : Prop where
  call : x.call.Alike same sameResolver sameGraph y.call
  events_eq : x.events = y.events

/-- Runs that make alike calls, one for one, and come to the same. -/
structure ToolchainRun.Alike (same : Settings → Settings → Prop) (sameResolver : ρ → ρ → Prop)
    (sameGraph : γ → γ → Prop) (x y : ToolchainRun ε ρ γ) : Prop where
  log_eq : x.log = y.log
  trace : List.Forall₂ (TraceEntry.Alike same sameResolver sameGraph) x.trace y.trace
  units_eq : x.units = y.units

/-- Replies of a whole toolchain that show the same. -/
structure Replies.Alike (sameResolver : ρ → ρ → Prop) (sameGraph : γ → γ → Prop)
    (x y : Replies ε ρ γ) : Prop where
  resolver : Reply.Alike sameResolver x.resolver y.resolver
  scan : Reply.Alike sameGraph x.scan y.scan
  compile : Reply.Alike Eq x.compile y.compile

theorem Replies.Alike.scanned_eq {sameResolver : ρ → ρ → Prop} {sameGraph : γ → γ → Prop}
    {x y : Replies ε ρ γ} (h : x.Alike sameResolver sameGraph y) (log : Log) :
    x.scanned log = y.scanned log := by
  unfold scanned found
  rw [h.resolver.found_eq, h.scan.found_eq]

namespace Toolchain.Respects

variable {same : Settings → Settings → Prop} {sameResolver : ρ → ρ → Prop}
  {sameGraph : γ → γ → Prop} {toolchain : Toolchain ε ρ γ} {s t : Settings}

theorem alike_replies (h : toolchain.Respects same sameResolver sameGraph)
    (hsettings : same s t) (log : Log) (fs : FileSystem) (entries : List Path) :
    Replies.Alike sameResolver sameGraph (toolchain.replies log fs entries s)
      (toolchain.replies log fs entries t) := by
  have hresolver := h.resolver fs log hsettings
  have hscan := h.scan (log ++ (toolchain.resolver fs log s).found) fs entries hresolver.value
    hsettings
  have hcompile := h.compile (log ++ (toolchain.resolver fs log s).found ++
    (toolchain.scan (log ++ (toolchain.resolver fs log s).found) fs
      (toolchain.resolver fs log s).value entries s).found) hscan.value hsettings
  -- The later methods get logs that hold what the earlier ones found.
  rw [hscan.found_eq, hresolver.found_eq] at hcompile
  rw [hresolver.found_eq] at hscan
  refine ⟨hresolver, ?_, ?_⟩
  · dsimp only [replies]
    rw [hresolver.found_eq]
    exact hscan
  · dsimp only [replies]
    rw [hresolver.found_eq, hscan.found_eq]
    exact hcompile

/-- The calls of both sides, as far as they go, are alike one for one. -/
theorem alike_fullTrace (h : toolchain.Respects same sameResolver sameGraph)
    (hsettings : same s t) (log : Log) (fs : FileSystem) (entries : List Path) :
    List.Forall₂ (TraceEntry.Alike same sameResolver sameGraph)
      (toolchain.fullTrace log fs entries s) (toolchain.fullTrace log fs entries t) := by
  have hreplies := h.alike_replies hsettings log fs entries
  unfold fullTrace
  dsimp only
  rw [hreplies.resolver.found_eq, hreplies.scanned_eq]
  refine .cons ?resolver (.cons ?scan (.cons ?compile .nil))
  case resolver => exact ⟨.resolver fs log hsettings, hreplies.resolver.events_eq⟩
  case scan =>
    exact ⟨.scan _ fs entries hreplies.resolver.value hsettings, hreplies.scan.events_eq⟩
  case compile => exact ⟨.compile _ hreplies.scan.value hsettings, hreplies.compile.events_eq⟩

/-- Both sides end at the same gate, since the logs in front of the gates are the same. -/
theorem alike_run (h : toolchain.Respects same sameResolver sameGraph)
    (hsettings : same s t) (log : Log) (fs : FileSystem) (entries : List Path) :
    ToolchainRun.Alike same sameResolver sameGraph (toolchain.run log fs entries s)
      (toolchain.run log fs entries t) := by
  have hreplies := h.alike_replies hsettings log fs entries
  have htrace := h.alike_fullTrace hsettings log fs entries
  have hfirst := toolchain.gated_run log fs entries s
  have hsecond := toolchain.gated_run log fs entries t
  have hscanned := hreplies.scanned_eq log
  have hcompile : (toolchain.replies log fs entries s).found .compile =
      (toolchain.replies log fs entries t).found .compile := hreplies.compile.found_eq
  have hunits := hreplies.compile.value
  generalize toolchain.fullTrace log fs entries s = full at hfirst htrace
  generalize toolchain.fullTrace log fs entries t = full' at hsecond htrace
  generalize toolchain.replies log fs entries s = r at *
  generalize toolchain.replies log fs entries t = q at *
  generalize toolchain.run log fs entries s = first at *
  generalize toolchain.run log fs entries t = second at *
  cases hfirst with
  | unstarted hlog =>
      cases hsecond with
      | unstarted => exact ⟨rfl, .nil, rfl⟩
      | uncompiled hlog' => simp [hlog] at hlog'
      | compiled hlog' => simp [hlog] at hlog'
  | uncompiled hlog hfound =>
      cases hsecond with
      | unstarted hlog' => simp [hlog] at hlog'
      | uncompiled => exact ⟨hscanned, List.forall₂_take 2 htrace, rfl⟩
      | compiled _ hfound' => simp [← hscanned, hfound] at hfound'
  | compiled hlog hfound =>
      cases hsecond with
      | unstarted hlog' => simp [hlog] at hlog'
      | uncompiled _ hfound' => simp [← hscanned, hfound] at hfound'
      | compiled =>
          refine ⟨?_, htrace, ?_⟩
          · dsimp only
            rw [hscanned, hcompile]
          · dsimp only
            rw [hscanned, hcompile, hunits]

end Toolchain.Respects

end BundleFront
