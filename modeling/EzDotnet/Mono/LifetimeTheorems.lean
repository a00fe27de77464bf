/-
EzDotnet.Mono.LifetimeTheorems — the app domains of the Mono backend, seen
from the runtime: which calls name which domain, and when.

Every call the backend makes into Mono creates a domain, works in one, ends
one, or has nothing to do with domains (`MonoCall.deeds`). Over a whole run
these deeds are orderly — no domain is worked with before it exists or after
it was unloaded, and none is unloaded twice — exactly when no `clrDeInit` of
the run meets an unregistered handle (`domains_orderly_iff`). One such call
is enough to spoil the run: it hands `mono_domain_unload` a pointer that was
never stored.
-/
import EzDotnet.Lib.Lifetime
import EzDotnet.Common.Emitted
import EzDotnet.Mono.DisciplineTheorems

namespace EzDotnet.Mono

open Lib (Deed Orderly Stock)

variable {abi : Abi} {s : State} {p d : Str} {env : InitEnv}

/-! ## What a call does to the domains -/

def MonoCall.deeds : MonoCall → List Deed
  | .jitInit (some root) => [.create root]
  | .createAppdomain _ domain => [.create domain]
  | .setConfig domain _ _ => [.use domain]
  | .openAssembly domain _ => [.use domain]
  | .attach domain => [.use domain]
  | .unload (.ptr domain) => [.finish domain]
  | .unload _ => [.stray]
  | _ => []

/-- The deeds of a run, in order. -/
def domainDeeds (abi : Abi) (calls : List Call) : List Deed :=
  ((backend abi).emitted calls).flatMap MonoCall.deeds

/-! ## The stock of a state -/

/-- The ledger holds the domains of the state. -/
structure Carries (s : State) (S : Stock) : Prop where
  live : S.live = s.runtime.liveDomains
  next : S.next = s.runtime.nextDomain

/-- Only the runtime counts. -/
theorem Carries.congr {t : State} {S : Stock} (hs : Carries s S)
    (hlive : t.runtime.liveDomains = s.runtime.liveDomains)
    (hnext : t.runtime.nextDomain = s.runtime.nextDomain) : Carries t S :=
  ⟨hs.live.trans hlive.symm, hs.next.trans hnext.symm⟩

theorem Carries.create {S : Stock} (hs : Carries s S) :
    Carries { s with runtime := s.runtime.createDomain } S.create where
  live := by simp [Stock.create, Runtime.createDomain, hs.live, hs.next]
  next := by simp [Stock.create, Runtime.createDomain, hs.next]

/-- The JIT brings its root domain up, once. -/
theorem check_initMono {S : Stock} (hs : Carries s S) (env : InitEnv) :
    ∃ T, S.check ((initMono s env).2.2.flatMap MonoCall.deeds) = some T ∧
      Carries (readyState s env) T := by
  unfold readyState initMono
  cases s.gMonoInitialized with
  | true => exact ⟨S, rfl, hs⟩
  | false =>
    cases env.jitInit with
    | true =>
      refine ⟨S.create, ?_, hs.create.congr rfl rfl⟩
      simp [MonoCall.deeds, ← hs.next]
    | false => exact ⟨S, rfl, hs.congr rfl rfl⟩

/-- Behind the JIT, `clrInit` creates one domain and works in it; the rows of
the reference table name none. -/
theorem clrInit_deeds (d : Str) (env : InitEnv) (h : (backend abi).key p ∉ s.gPlugins)
    (hjit : (initMono s env).1 = true) :
    let next := (readyState s env).runtime.nextDomain
    (clrInit abi s p d env).calls.flatMap MonoCall.deeds =
        (initMono s env).2.2.flatMap MonoCall.deeds ++ [.create next, .use next, .use next] ∧
      (clrInit abi s p d env).state.runtime.liveDomains
        = (readyState s env).runtime.createDomain.liveDomains ∧
      (clrInit abi s p d env).state.runtime.nextDomain
        = (readyState s env).runtime.createDomain.nextDomain := by
  unfold clrInit initializeAsm
  dsimp only
  rw [pluginKey, if_neg h, if_neg (by rw [hjit]; simp)]
  cases env.assembly with
  | none => exact ⟨by simp [MonoCall.deeds, readyState], rfl, rfl⟩
  | some opened =>
    obtain ⟨name, image⟩ := opened
    cases image with
    | none => exact ⟨by simp [MonoCall.deeds, readyState], rfl, rfl⟩
    | some image =>
      exact ⟨by simp [MonoCall.deeds, readyState, List.flatMap_map], rfl, rfl⟩

theorem check_clrInit {S : Stock} (hs : Carries s S) (p d : Str) (env : InitEnv) :
    ∃ T, S.check ((clrInit abi s p d env).calls.flatMap MonoCall.deeds) = some T ∧
      Carries (clrInit abi s p d env).state T := by
  by_cases hmem : (backend abi).key p ∈ s.gPlugins
  · rw [clrInit_hit hmem]
    exact ⟨S, rfl, hs⟩
  obtain ⟨T, hT, hready⟩ := check_initMono hs env
  cases hjit : (initMono s env).1 with
  | false =>
    rw [clrInit_noJit hmem hjit]
    exact ⟨T, hT, hready.congr (by rw [readyState, (initMono_false hjit).2.2])
      (by rw [readyState, (initMono_false hjit).2.2])⟩
  | true =>
    obtain ⟨hdeeds, hlive, hnext⟩ := clrInit_deeds d env hmem hjit
    refine ⟨T.create, ?_, hready.create.congr hlive hnext⟩
    rw [hdeeds, Stock.check_append, hT, Option.bind_some, ← hready.next, Stock.check_create,
      Stock.check_use T.next_mem_create, Stock.check_use T.next_mem_create, Stock.check_nil]

/-- Unloading the domain of a registered plugin. -/
theorem check_clrDeInit {S : Stock} (hs : Carries s S) {h : AsmHandle}
    {data : PluginInstanceData} {dom : Domain} (hdata : s.gPlugins[h]? = some data)
    (hdom : data.appDomain = .ptr dom) (hlive : dom ∈ s.runtime.liveDomains) :
    ∃ T, S.check ((clrDeInit s h ()).calls.flatMap MonoCall.deeds) = some T ∧
      Carries (clrDeInit s h ()).state T := by
  rw [clrDeInit_registered hdata hdom]
  rw [← hs.live] at hlive
  refine ⟨S.finish dom, Stock.check_finish hlive [], ?_, hs.next⟩
  show S.live.erase dom = s.runtime.liveDomains.erase dom
  rw [hs.live]

/-- `runMethod` attaches the thread to the domain of its plugin. -/
theorem check_runMethod {S : Stock} (hs : Carries s S) {h : AsmHandle}
    (hloaded : h ∈ s.gPlugins → (domainBackend abi).Loaded s h) (ty me : Str) (a : Argv)
    (env : RunEnv) :
    ∃ T, S.check ((runMethod abi s h ty me a env).calls.flatMap MonoCall.deeds) = some T ∧
      Carries (runMethod abi s h ty me a env).state T := by
  obtain ⟨attached, hstate⟩ := runMethod_state abi s h ty me a env
  refine ⟨S, ?_, hstate ▸ hs.congr rfl rfl⟩
  by_cases hmem : h ∈ s.gPlugins
  · obtain ⟨data, dom, hdata, hdom, hlive⟩ := hloaded hmem
    change s.gPlugins[h]? = some data at hdata
    change dom ∈ s.runtime.liveDomains at hlive
    have hptr : data.appDomain = .ptr dom := Slot.get?_eq_some.mp hdom
    rw [← hs.live] at hlive
    unfold runMethod
    rw [hdata]
    dsimp only
    unfold PluginInstanceData.runMethod
    split
    · next heq =>
      obtain rfl := Slot.ptr.inj hptr
      dsimp only
      split <;> simp [MonoCall.deeds, Stock.check_use hlive]
    · rfl
  · unfold runMethod
    rw [Std.ExtTreeMap.getElem?_eq_none hmem]
    rfl

/-! ## Runs -/

/-- A step that applies `clrDeInit` to registered handles only does what the
stock of its state allows. -/
theorem check_step {S : Stock} {P : Lib.Pool AsmHandle}
    (hP : (domainBackend abi).Represents s P) (hs : Carries s S) (c : Call)
    (hc : ∀ h env, c = .clrDeInit h env → h ∈ s.gPlugins) :
    ∃ T, S.check (((backend abi).stepCalls s c).flatMap MonoCall.deeds) = some T ∧
      Carries ((backend abi).machine.next s c) T := by
  cases c with
  | clrInit p d env => exact check_clrInit hs p d env
  | clrDeInit h env =>
    obtain ⟨data, dom, hdata, hdom, hlive⟩ := hP.loaded (hc h env rfl)
    exact check_clrDeInit hs hdata (Slot.get?_eq_some.mp hdom) hlive
  | runMethod h ty me a env => exact check_runMethod hs (fun hmem => hP.loaded hmem) ty me a env

/-- The ledger lets a run pass that applies `clrDeInit` to registered handles
only, and holds the domains of its last state. -/
theorem check_run {calls : List Call} (hcalls : (domainBackend abi).DeInitsRegistered calls) :
    ∃ S, Stock.empty.check (domainDeeds abi calls) = some S ∧
      Carries ((backend abi).run calls) S := by
  have hstart : Carries start Stock.empty := ⟨rfl, rfl⟩
  have hrun : ∃ S, Stock.empty.check ((backend abi).machine.events
        (fun s c => ((backend abi).stepCalls s c).flatMap MonoCall.deeds) start calls) = some S ∧
      (∃ P, (domainBackend abi).Represents ((backend abi).run calls) P) ∧
        Carries ((backend abi).run calls) S := by
    refine (backend abi).machine.run_events
      (R := fun s S => (∃ P, (domainBackend abi).Represents s P) ∧ Carries s S)
      ⟨⟨_, (disciplined abi).represents_start⟩, hstart⟩ ?_
    rintro ⟨s, c⟩ hx S ⟨⟨P, hP⟩, hs⟩
    have hc : ∀ h env, c = .clrDeInit h env → h ∈ s.gPlugins :=
      fun h env heq => hcalls s h env (heq ▸ hx)
    obtain ⟨T, hT, hnext⟩ := check_step hP hs c hc
    obtain ⟨Q, -, hQ⟩ := (disciplined abi).next hP c hc
    exact ⟨T, hT, ⟨Q, hQ⟩, hnext⟩
  obtain ⟨S, hS, -, hend⟩ := hrun
  refine ⟨S, ?_, hend⟩
  rw [domainDeeds, (backend abi).emitted_flatMap]
  exact hS

/-- `clrDeInit` of an unregistered handle does a stray deed. -/
theorem stray_mem {calls : List Call} {h : AsmHandle} {env : Unit}
    (hx : (s, ApiCall.clrDeInit h env) ∈ (backend abi).machine.trace start calls)
    (hmem : h ∉ s.gPlugins) : Deed.stray ∈ domainDeeds abi calls := by
  rw [domainDeeds, (backend abi).emitted_flatMap]
  refine List.mem_flatMap.mpr ⟨_, hx, ?_⟩
  show Deed.stray ∈ (clrDeInit s h ()).calls.flatMap MonoCall.deeds
  rw [clrDeInit_unregistered hmem]
  simp [MonoCall.deeds]

/-- Over every run, no domain is worked with or unloaded before it was
created or after it was unloaded exactly when every `clrDeInit` of the run
meets a registered handle; and then the domains that are live at the end are
those that were created and not unloaded. -/
theorem domains_orderly_iff (abi : Abi) (calls : List Call) :
    (Orderly (domainDeeds abi calls) ↔ (domainBackend abi).DeInitsRegistered calls) ∧
      (Orderly (domainDeeds abi calls) → ∀ d,
        d ∈ ((backend abi).run calls).runtime.liveDomains ↔
          Deed.create d ∈ domainDeeds abi calls ∧ Deed.finish d ∉ domainDeeds abi calls) := by
  have hiff : Orderly (domainDeeds abi calls) ↔ (domainBackend abi).DeInitsRegistered calls := by
    constructor
    · intro horderly s h env hx
      by_contra hmem
      exact horderly.stray_notMem (stray_mem hx hmem)
    · intro hcalls
      obtain ⟨S, hS, -⟩ := check_run hcalls
      exact (Stock.accounts_of_check hS).1
  refine ⟨hiff, fun horderly d => ?_⟩
  obtain ⟨S, hS, hend⟩ := check_run (hiff.mp horderly)
  rw [← hend.live]
  exact (Stock.accounts_of_check hS).2.live d

/-- Loading a plugin twice around an unload is orderly, and its deeds are
these. -/
example : domainDeeds linux64 (loadUnload ++ loadUnload) =
    [.create 0, .create 1, .use 1, .use 1, .finish 1, .create 2, .use 2, .use 2,
      .finish 2] := by decide

end EzDotnet.Mono
