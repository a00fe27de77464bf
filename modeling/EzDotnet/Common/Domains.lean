/-
EzDotnet.Common.Domains — the backends that load each assembly into an app
domain of its own, and the law "only loaded assemblies are registered".

`DomainBackend` adds to the interface what such a backend shares with the
runtime: the domain an entry holds, if it holds one, and the live domains.
`Represents` connects a state to a pool in which the handles own the domains;
a backend is `Disciplined` when every `clrInit`, every `runMethod` and every
`clrDeInit` of a REGISTERED handle is simulated by steps of the pool. What
an unregistered handle does to `clrDeInit` is outside the simulation, and
`onlyLoaded_iff` is exactly that boundary: the law holds along a run when no
`clrDeInit` of the run meets an unregistered handle, and in no other.
-/
import EzDotnet.Common.Handles
import EzDotnet.Lib.Ownership
import Mathlib.Logic.Relation

namespace EzDotnet

open Lib (Pool)
open Relation (ReflTransGen)

/-- A backend over app domains, which the runtime numbers in the order of
their creation. -/
structure DomainBackend (σ η ι δ ρ ε : Type) extends Backend σ η ι δ ρ ε where
  /-- the domain an entry holds -/
  domain : η → Option Nat
  live : σ → Finset Nat
  nextDomain : σ → Nat
  /-- the call ends a domain, or tries to -/
  unloads : ε → Bool

namespace DomainBackend

variable {σ η ι δ ρ ε : Type} (B : DomainBackend σ η ι δ ρ ε)

/-! ## The law -/

/-- Every `clrDeInit` of the run is applied to a handle then registered. -/
def DeInitsRegistered (calls : List (ApiCall ι δ ρ)) : Prop :=
  ∀ s h env, (s, ApiCall.clrDeInit h env) ∈ B.machine.trace B.start calls → B.registered s h

/-- The handle is registered for an assembly whose domain is live. -/
def Loaded (s : σ) (h : AsmHandle) : Prop :=
  ∃ e d, (B.registry s)[h]? = some e ∧ B.domain e = some d ∧ d ∈ B.live s

/-- Only loaded assemblies are registered, in every state of the run. -/
structure OnlyLoaded (calls : List (ApiCall ι δ ρ)) : Prop where
  loaded : ∀ pre, pre <+: calls → ∀ h, B.registered (B.run pre) h → B.Loaded (B.run pre) h
  /-- an entry was inserted by a `clrInit` that returned its handle -/
  inserted : ∀ pre, pre <+: calls → ∀ h, B.registered (B.run pre) h →
    ∃ before p dir env,
      B.machine.SwitchedOn (B.registered · h) B.start pre before (.clrInit p dir env) ∧
        (B.clrInit (B.run before) p dir env).ret = .value h
  /-- `clrDeInit` of an unregistered handle ends no domain and leaves the
  registry alone -/
  harmless : ∀ s h env, (s, ApiCall.clrDeInit h env) ∈ B.machine.trace B.start calls →
    ¬ B.registered s h →
      (∀ c ∈ (B.clrDeInit s h env).calls, B.unloads c = false) ∧
        B.registry (B.clrDeInit s h env).state = B.registry s
  /-- a handle that `clrInit` hands out is the handle of a loaded assembly -/
  granted : ∀ s p dir env, (s, ApiCall.clrInit p dir env) ∈ B.machine.trace B.start calls →
    ∀ h, (B.clrInit s p dir env).ret = .value h → h ≠ nullAsmHandle →
      B.Loaded (B.clrInit s p dir env).state h

/-! ## The pool behind a state -/

/-- The handles own the domains of their entries, and the live domains of
the pool are those of the runtime. -/
structure Represents (s : σ) (P : Pool AsmHandle) : Prop where
  owner : ∀ h, (B.registry s)[h]?.map B.domain = (P.owner h).map some
  live : P.live = B.live s
  next : P.next = B.nextDomain s

/-- Every step is simulated by steps of the pool, `clrDeInit` only where its
handle is registered. -/
structure Disciplined : Prop extends B.toBackend.Keyed where
  represents_start : B.Represents B.start Pool.empty
  represents_clrInit : ∀ {s P} p dir env, B.Represents s P →
    ∃ Q, ReflTransGen Pool.Step P Q ∧ B.Represents (B.clrInit s p dir env).state Q
  represents_runMethod : ∀ {s P} h ty me a env, B.Represents s P →
    B.Represents (B.runMethod s h ty me a env).state P
  represents_clrDeInit : ∀ {s P} h env, B.Represents s P → B.registered s h →
    ∃ Q, ReflTransGen Pool.Step P Q ∧ B.Represents (B.clrDeInit s h env).state Q
  /-- `clrDeInit` of a registered handle inserts nothing -/
  clrDeInit_old : ∀ {s h env g}, B.registered s h →
    B.registered (B.clrDeInit s h env).state g → B.registered s g
  /-- `clrDeInit` of an unregistered handle inserts an entry -/
  phantom : ∀ {s h env}, ¬ B.registered s h → B.registered (B.clrDeInit s h env).state h

variable {B}

/-! ### One step of the pool -/

theorem Represents.stay {s s' : σ} {P : Pool AsmHandle} (h : B.Represents s P)
    (hreg : B.registry s' = B.registry s) (hlive : B.live s' = B.live s)
    (hnext : B.nextDomain s' = B.nextDomain s) : B.Represents s' P where
  owner := hreg ▸ h.owner
  live := hlive ▸ h.live
  next := hnext ▸ h.next

/-- A new domain that no entry holds. -/
theorem Represents.leak {s s' : σ} {P : Pool AsmHandle} (h : B.Represents s P)
    (hreg : B.registry s' = B.registry s)
    (hlive : B.live s' = insert (B.nextDomain s) (B.live s))
    (hnext : B.nextDomain s' = B.nextDomain s + 1) : B.Represents s' P.leak where
  owner := hreg ▸ h.owner
  live := by
    show insert P.next P.live = B.live s'
    rw [hlive, h.live, h.next]
  next := by
    show P.next + 1 = B.nextDomain s'
    rw [hnext, h.next]

theorem Represents.owner_eq_none {s : σ} {P : Pool AsmHandle} (h : B.Represents s P)
    {k : AsmHandle} (hk : ¬ B.registered s k) : P.owner k = none := by
  have howner := h.owner k
  rw [Std.ExtTreeMap.getElem?_eq_none hk, Option.map_none, eq_comm,
    Option.map_eq_none_iff] at howner
  exact howner

/-- A new entry with a new domain. -/
theorem Represents.acquire {s s' : σ} {P : Pool AsmHandle} (h : B.Represents s P)
    {k : AsmHandle} {e : η} (hk : ¬ B.registered s k)
    (hreg : B.registry s' = (B.registry s).insertIfNew k e)
    (hdomain : B.domain e = some (B.nextDomain s))
    (hlive : B.live s' = insert (B.nextDomain s) (B.live s))
    (hnext : B.nextDomain s' = B.nextDomain s + 1) : B.Represents s' (P.acquire k) where
  owner g := by
    rw [hreg, Std.ExtTreeMap.getElem?_insertIfNew]
    show _ = (Function.update P.owner k (some P.next) g).map some
    by_cases hg : g = k
    · subst hg
      have hnew : compare g g = .eq ∧ g ∉ B.registry s := ⟨Std.compare_self, hk⟩
      rw [if_pos hnew, Function.update_self, Option.map_some, Option.map_some, hdomain, h.next]
    · rw [if_neg (by simp [Ne.symm hg]), Function.update_of_ne hg]
      exact h.owner g
  live := by
    show insert P.next P.live = B.live s'
    rw [hlive, h.live, h.next]
  next := by
    show P.next + 1 = B.nextDomain s'
    rw [hnext, h.next]

theorem Represents.owner_eq_some {s : σ} {P : Pool AsmHandle} (h : B.Represents s P)
    {k : AsmHandle} {e : η} (hk : (B.registry s)[k]? = some e) :
    ∃ d, P.owner k = some d ∧ B.domain e = some d := by
  have howner := h.owner k
  rw [hk, Option.map_some, eq_comm, Option.map_eq_some_iff] at howner
  obtain ⟨d, hd, hdom⟩ := howner
  exact ⟨d, hd, hdom.symm⟩

/-- An entry goes, and its domain ends. -/
theorem Represents.release {s s' : σ} {P : Pool AsmHandle} (h : B.Represents s P)
    {k : AsmHandle} {d : Nat} (hk : P.owner k = some d)
    (hreg : ∀ g, (B.registry s')[g]? = if g = k then none else (B.registry s)[g]?)
    (hlive : B.live s' = (B.live s).erase d)
    (hnext : B.nextDomain s' = B.nextDomain s) : B.Represents s' (P.release k d hk) where
  owner g := by
    rw [hreg g]
    show _ = (Function.update P.owner k none g).map some
    by_cases hg : g = k
    · rw [if_pos hg, hg, Function.update_self, Option.map_none, Option.map_none]
    · rw [if_neg hg, Function.update_of_ne hg]
      exact h.owner g
  live := by
    show P.live.erase d = B.live s'
    rw [hlive, h.live]
  next := by
    show P.next = B.nextDomain s'
    rw [hnext, h.next]

/-- A registered handle of a represented state is loaded: its entry has an
owner in the pool, and what is owned is live. -/
theorem Represents.loaded {s : σ} {P : Pool AsmHandle} (h : B.Represents s P) {g : AsmHandle}
    (hg : B.registered s g) : B.Loaded s g := by
  obtain ⟨e, he⟩ := Lib.mem_iff_exists_getElem?.mp hg
  obtain ⟨d, hd, hdom⟩ := h.owner_eq_some he
  exact ⟨e, d, he, hdom, h.live ▸ P.owner_live hd⟩

/-! ## Runs -/

/-- One step of a run, `clrDeInit` applied to registered handles only. -/
theorem Disciplined.next (hB : B.Disciplined) {s : σ} {P : Pool AsmHandle}
    (hs : B.Represents s P) (c : ApiCall ι δ ρ)
    (hc : ∀ h env, c = .clrDeInit h env → B.registered s h) :
    ∃ Q, ReflTransGen Pool.Step P Q ∧ B.Represents (B.machine.next s c) Q := by
  cases c with
  | clrInit p dir env => exact hB.represents_clrInit p dir env hs
  | clrDeInit h env => exact hB.represents_clrDeInit h env hs (hc h env rfl)
  | runMethod h ty me a env => exact ⟨P, .refl, hB.represents_runMethod h ty me a env hs⟩

/-- Every state of such a run is represented by a pool that grew out of the
empty one. -/
theorem Disciplined.represents_run (hB : B.Disciplined) {calls : List (ApiCall ι δ ρ)}
    (hcalls : B.DeInitsRegistered calls) :
    ∃ P, ReflTransGen Pool.Step Pool.empty P ∧ B.Represents (B.run calls) P := by
  refine B.machine.exec_invariant
    (P := fun s => ∃ P, ReflTransGen Pool.Step Pool.empty P ∧ B.Represents s P)
    ⟨_, .refl, hB.represents_start⟩ ?_
  rintro ⟨s, c⟩ hx ⟨P, hreach, hs⟩
  obtain ⟨Q, hstep, hQ⟩ := hB.next hs c fun h env hc => hcalls s h env (hc ▸ hx)
  exact ⟨Q, hreach.trans hstep, hQ⟩

/-- A part of such a run is such a run. -/
theorem DeInitsRegistered.of_prefix {pre calls : List (ApiCall ι δ ρ)}
    (hcalls : B.DeInitsRegistered calls) (hpre : pre <+: calls) : B.DeInitsRegistered pre := by
  obtain ⟨post, rfl⟩ := hpre
  intro s h env hx
  refine hcalls s h env ?_
  rw [B.machine.trace_append]
  exact List.mem_append_left _ hx

/-- In such a run a registered handle is loaded. -/
theorem Disciplined.loaded (hB : B.Disciplined) {calls : List (ApiCall ι δ ρ)}
    (hcalls : B.DeInitsRegistered calls) {h : AsmHandle} (hreg : B.registered (B.run calls) h) :
    B.Loaded (B.run calls) h := by
  obtain ⟨P, _, hP⟩ := hB.represents_run hcalls
  exact hP.loaded hreg

/-- In such a run an entry was inserted by a `clrInit` that answered its
handle. -/
theorem Disciplined.inserted (hB : B.Disciplined) {calls : List (ApiCall ι δ ρ)}
    (hcalls : B.DeInitsRegistered calls) {h : AsmHandle} (hreg : B.registered (B.run calls) h) :
    ∃ before p dir env,
      B.machine.SwitchedOn (B.registered · h) B.start calls before (.clrInit p dir env) ∧
        (B.clrInit (B.run before) p dir env).ret = .value h := by
  have hfilled := hB.toKeyed.filledBy
    (fun s c => ∀ g env, c = .clrDeInit g env → B.registered s g)
    fun s g env hc k hk => hB.clrDeInit_old (hc g env rfl) hk
  obtain ⟨before, c, hon, p, dir, env, rfl, _⟩ :=
    hfilled.registered_by (fun x hx g env hc => hcalls x.1 g env (hc ▸ hx)) hreg
  obtain ⟨_, hoff, hafter⟩ := hon.flips
  exact ⟨before, p, dir, env, hon, (hB.answered hoff hafter).2⟩

/-- Only loaded assemblies are registered along a run, and what the run does
to unregistered handles is harmless, exactly when no `clrDeInit` of it meets
an unregistered handle. -/
theorem Disciplined.onlyLoaded_iff (hB : B.Disciplined) (calls : List (ApiCall ι δ ρ)) :
    B.OnlyLoaded calls ↔ B.DeInitsRegistered calls := by
  constructor
  · intro hlaw s h env hx
    by_contra hreg
    have hsame := (hlaw.harmless s h env hx hreg).2
    have hphantom : B.registered (B.clrDeInit s h env).state h := hB.phantom hreg
    rw [Backend.registered, hsame] at hphantom
    exact hreg hphantom
  · intro hcalls
    refine ⟨fun pre hpre h => hB.loaded (hcalls.of_prefix hpre),
      fun pre hpre h => hB.inserted (hcalls.of_prefix hpre),
      fun s h env hx hreg => absurd (hcalls s h env hx) hreg, ?_⟩
    intro s p dir env hx h hret hne
    obtain ⟨pre, post, rfl, rfl⟩ := B.machine.mem_trace.mp hx
    have hpre : B.DeInitsRegistered (pre ++ [.clrInit p dir env]) :=
      hcalls.of_prefix ⟨post, by simp⟩
    have hreg := (hB.granted hret hne).2
    have hrun : B.run (pre ++ [.clrInit p dir env])
        = (B.clrInit (B.machine.exec B.start pre) p dir env).state :=
      B.machine.exec_concat B.start pre (.clrInit p dir env)
    rw [← hrun] at hreg ⊢
    exact hB.loaded hpre hreg

end DomainBackend

end EzDotnet
