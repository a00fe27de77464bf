/-
EzDotnet.Mono.DisciplineTheorems — the globals of the Mono backend, its
registry and the domains of the runtime, over whole runs.

`Grounded` links `gMonoInitialized`, `rootDomain` and the numbering of the
domains; it holds in every reachable state, also after a `clrDeInit` of a
handle that was never registered. The ledger for "the JIT comes up at most
once" is the sticky flag itself. That `clrDeInit` undoes a `clrInit`
(`clrDeInit_clrInit`) rests on the domain of the new entry being fresh: its
unloading can end no domain that was there before.
-/
import EzDotnet.Common.Emitted
import EzDotnet.Mono.HostTheorems

namespace EzDotnet.Mono

/-- The live domains, but for the root domain. -/
def appDomains (s : State) : Finset Domain :=
  s.runtime.liveDomains.filter fun d => s.rootDomain ≠ some d

/-- `mono_jit_init_version` returned a domain. -/
def MonoCall.isJitSuccess : MonoCall → Bool
  | .jitInit root => root.isSome
  | _ => false

/-- `mono_domain_create_appdomain`. -/
def MonoCall.isCreateAppdomain : MonoCall → Bool
  | .createAppdomain _ _ => true
  | _ => false

/-! ## The globals and the numbers of the domains -/

/-- The flag tells whether there is a root domain, and the next domain gets
a number that no domain has. -/
structure Grounded (s : State) : Prop where
  root_iff : s.gMonoInitialized = true ↔ s.rootDomain ≠ none
  root_lt : ∀ r, s.rootDomain = some r → r < s.runtime.nextDomain
  live_lt : ∀ d ∈ s.runtime.liveDomains, d < s.runtime.nextDomain

variable {abi : Abi} {s : State} {p d : Str} {env : InitEnv}

theorem Grounded.root_eq_none (hs : Grounded s) (h : s.gMonoInitialized = false) :
    s.rootDomain = none := by
  by_contra hroot
  rw [hs.root_iff.mpr hroot] at h
  cases h

theorem Grounded.next_notMem (hs : Grounded s) :
    s.runtime.nextDomain ∉ s.runtime.liveDomains :=
  fun h => Nat.lt_irrefl _ (hs.live_lt _ h)

theorem Grounded.root_ne_next (hs : Grounded s) :
    s.rootDomain ≠ some s.runtime.nextDomain :=
  fun h => Nat.lt_irrefl _ (hs.root_lt _ h)

theorem grounded_start : Grounded start where
  root_iff := by simp [start]
  root_lt := by simp [start]
  live_lt := by simp [start]

/-- A new domain, with whatever is loaded into the process and filed in the
registry. -/
theorem Grounded.create (hs : Grounded s)
    (gPlugins : Std.ExtTreeMap AsmHandle PluginInstanceData) (loaded : List MonoAssembly) :
    Grounded { s with
      gPlugins := gPlugins
      runtime := s.runtime.createDomain.load loaded } where
  root_iff := hs.root_iff
  root_lt r hr := Nat.lt_succ_of_lt (hs.root_lt r hr)
  live_lt dom hdom := by
    rcases Finset.mem_insert.mp hdom with rfl | hdom
    · exact Nat.lt_succ_self _
    · exact Nat.lt_succ_of_lt (hs.live_lt dom hdom)

theorem Grounded.ready (hs : Grounded s) (env : InitEnv) : Grounded (readyState s env) := by
  unfold readyState initMono
  cases hinit : s.gMonoInitialized with
  | true =>
    rw [if_pos rfl]
    exact hs
  | false =>
    rw [if_neg (by simp)]
    have hroot := hs.root_eq_none hinit
    split
    · constructor
      · simp
      · intro r hr
        rw [← Option.some.inj hr]
        exact Nat.lt_succ_self _
      · intro dom hdom
        rcases Finset.mem_insert.mp hdom with rfl | hdom
        · exact Nat.lt_succ_self _
        · exact Nat.lt_succ_of_lt (hs.live_lt dom hdom)
    · exact ⟨by simp, by simp, hs.live_lt⟩

theorem Grounded.clrInit (hs : Grounded s) (p d : Str) (env : InitEnv) :
    Grounded (clrInit abi s p d env).state := by
  by_cases hmem : (backend abi).key p ∈ s.gPlugins
  · rw [clrInit_hit hmem]
    exact hs
  cases hjit : (initMono s env).1 with
  | false =>
    rw [clrInit_noJit hmem hjit, ← (initMono_false hjit).2.2]
    exact hs.ready env
  | true =>
    by_cases hasm : ∃ name image, env.assembly = some (name, some image)
    · obtain ⟨name, image, hasm⟩ := hasm
      obtain ⟨loaded, hstate, _⟩ := clrInit_loaded (d := d) hmem hjit hasm
      rw [hstate]
      exact (hs.ready env).create _ loaded
    · obtain ⟨loaded, hstate, _⟩ :=
        clrInit_failed (d := d) hmem hjit fun name image heq => hasm ⟨name, image, heq⟩
      rw [hstate]
      exact (hs.ready env).create _ loaded

theorem Grounded.clrDeInit (hs : Grounded s) (h : AsmHandle) :
    Grounded (clrDeInit s h ()).state := by
  unfold Mono.clrDeInit
  dsimp only
  split
  · exact ⟨hs.root_iff, hs.root_lt, fun dom hdom =>
      hs.live_lt dom (Finset.mem_of_mem_erase hdom)⟩
  · exact ⟨hs.root_iff, hs.root_lt, hs.live_lt⟩

theorem Grounded.next (hs : Grounded s) (c : Call) :
    Grounded ((backend abi).machine.next s c) := by
  cases c with
  | clrInit p d env => exact hs.clrInit p d env
  | clrDeInit h env => exact hs.clrDeInit h
  | runMethod h ty me a env =>
    obtain ⟨attached, hstate⟩ := runMethod_state abi s h ty me a env
    show Grounded (runMethod abi s h ty me a env).state
    rw [hstate]
    exact ⟨hs.root_iff, hs.root_lt, hs.live_lt⟩

theorem grounded_run (abi : Abi) (calls : List Call) : Grounded ((backend abi).run calls) :=
  (backend abi).machine.exec_invariant grounded_start fun x _ hx => hx.next x.2

/-! ## The app domains -/

/-- Bringing the JIT up makes no app domain. -/
theorem Grounded.appDomains_ready (hs : Grounded s) (env : InitEnv) :
    appDomains (readyState s env) = appDomains s := by
  unfold readyState initMono
  cases hinit : s.gMonoInitialized with
  | true => rw [if_pos rfl]
  | false =>
    rw [if_neg (by simp)]
    have hroot := hs.root_eq_none hinit
    have hfresh := hs.next_notMem
    unfold appDomains
    split
    · ext dom
      simp only [Runtime.attach, Runtime.createDomain, Finset.mem_filter, Finset.mem_insert,
        hroot]
      constructor
      · intro hdom
        obtain ⟨rfl | hlive, hne⟩ := hdom
        · exact absurd rfl hne
        · exact ⟨hlive, by simp⟩
      · intro hdom
        refine ⟨.inr hdom.1, fun heq => hfresh ?_⟩
        rw [Option.some.inj heq]
        exact hdom.1
    · simp [hroot]

/-- A new domain is an app domain. -/
theorem Grounded.appDomains_create (hs : Grounded s)
    (gPlugins : Std.ExtTreeMap AsmHandle PluginInstanceData) (loaded : List MonoAssembly) :
    appDomains { s with
        gPlugins := gPlugins
        runtime := s.runtime.createDomain.load loaded } =
      insert s.runtime.nextDomain (appDomains s) := by
  unfold appDomains
  exact (Finset.filter_insert _ _ _).trans (if_pos hs.root_ne_next)

theorem Grounded.next_notMem_appDomains (hs : Grounded s) :
    s.runtime.nextDomain ∉ appDomains s :=
  fun h => hs.next_notMem (Finset.mem_filter.mp h).1

/-- A `clrInit` that registers its path opened an assembly with an image. -/
theorem clrInit_registers (hmem : (backend abi).key p ∉ s.gPlugins)
    (hreg : (backend abi).key p ∈ (clrInit abi s p d env).state.gPlugins) :
    (initMono s env).1 = true ∧ ∃ name image, env.assembly = some (name, some image) := by
  have hjit : (initMono s env).1 = true := by
    by_contra hjit
    rw [clrInit_noJit hmem (by simpa using hjit)] at hreg
    exact hmem hreg
  refine ⟨hjit, ?_⟩
  by_contra hasm
  obtain ⟨loaded, hstate, _⟩ :=
    clrInit_failed (d := d) hmem hjit fun name image heq => hasm ⟨name, image, heq⟩
  rw [hstate] at hreg
  exact hmem ((initMono_gPlugins s env) ▸ hreg)

/-- `clrDeInit` undoes a `clrInit` that registered its path. -/
theorem clrDeInit_clrInit (hs : Grounded s) (hmem : (backend abi).key p ∉ s.gPlugins)
    (hreg : (backend abi).key p ∈ (clrInit abi s p d env).state.gPlugins) :
    (clrInit abi s p d env).ret = .value ((backend abi).key p) ∧
      (clrDeInit (clrInit abi s p d env).state ((backend abi).key p) ()).ret = .value true ∧
      (clrDeInit (clrInit abi s p d env).state ((backend abi).key p) ()).state.gPlugins =
        s.gPlugins ∧
      appDomains (clrDeInit (clrInit abi s p d env).state ((backend abi).key p) ()).state =
        appDomains s := by
  obtain ⟨hjit, name, image, hasm⟩ := clrInit_registers hmem hreg
  obtain ⟨loaded, hstate, hret⟩ := clrInit_loaded (d := d) hmem hjit hasm
  have hready := hs.ready env
  have hentry : (clrInit abi s p d env).state.gPlugins[(backend abi).key p]? =
      some ⟨.ptr name, .ptr (readyState s env).runtime.nextDomain⟩ := by
    rw [hstate, Std.ExtTreeMap.getElem?_insertIfNew, if_pos ⟨by simp, hmem⟩]
  have hregistry : (clrInit abi s p d env).state.gPlugins =
      s.gPlugins.insertIfNew ((backend abi).key p)
        ⟨.ptr name, .ptr (readyState s env).runtime.nextDomain⟩ := by
    rw [hstate]
  rw [clrDeInit_registered hentry rfl]
  refine ⟨hret, rfl, ?_, ?_⟩
  · dsimp only
    rw [Lib.insertIfNew_of_mem hreg, hregistry, Lib.erase_insertIfNew hmem]
  · -- the new domain ends, and it is no other one
    rw [← hs.appDomains_ready env, hstate]
    unfold appDomains
    dsimp only [Runtime.unload, Runtime.load, Runtime.createDomain]
    rw [Finset.erase_insert hready.next_notMem]

/-! ## The calls into Mono -/

/-- How often the JIT came up, as far as the flag tells. -/
def jitUps (s : State) : Nat := if s.gMonoInitialized then 1 else 0

/-- The JIT is brought up exactly when it was not up, and then first of
all. -/
theorem initMono_calls (s : State) (env : InitEnv) :
    jitUps (readyState s env) =
        jitUps s + (initMono s env).2.2.countP MonoCall.isJitSuccess ∧
      Lib.NoneBefore MonoCall.isJitSuccess MonoCall.isCreateAppdomain (initMono s env).2.2 ∧
      ((initMono s env).1 = true → (readyState s env).gMonoInitialized = true) := by
  unfold readyState initMono jitUps
  cases hinit : s.gMonoInitialized with
  | true => simp [hinit, Lib.NoneBefore]
  | false =>
    cases hjit : env.jitInit with
    | true => simp [Lib.NoneBefore, MonoCall.isJitSuccess, List.countP_cons]
    | false => simp [Lib.NoneBefore, MonoCall.isJitSuccess, MonoCall.isCreateAppdomain]

/-- An unregistered path goes through the JIT first, and on with the app
domain only when the JIT is up. -/
theorem clrInit_calls (d : Str) (env : InitEnv) (h : (backend abi).key p ∉ s.gPlugins) :
    ∃ rest, (clrInit abi s p d env).calls = (initMono s env).2.2 ++ rest ∧
      (∀ c ∈ rest, c.isJitSuccess = false) ∧ (rest ≠ [] → (initMono s env).1 = true) ∧
      (clrInit abi s p d env).state.gMonoInitialized = (readyState s env).gMonoInitialized := by
  cases hjit : (initMono s env).1 with
  | false =>
    rw [clrInit_noJit h hjit, readyState, (initMono_false hjit).2.2]
    exact ⟨[], by simp, by simp, by simp, rfl⟩
  | true =>
    unfold clrInit initializeAsm
    dsimp only
    rw [pluginKey, if_neg h, if_neg (by rw [hjit]; simp)]
    cases env.assembly with
    | none =>
      refine ⟨_, rfl, ?_, fun _ => rfl, rfl⟩
      simp [MonoCall.isJitSuccess]
    | some opened =>
      obtain ⟨name, image⟩ := opened
      cases image with
      | none =>
        refine ⟨_, rfl, ?_, fun _ => rfl, rfl⟩
        simp [MonoCall.isJitSuccess]
      | some image =>
        refine ⟨_, List.append_assoc _ _ _, ?_, fun _ => rfl, rfl⟩
        simp [MonoCall.isJitSuccess]

theorem clrDeInit_calls (s : State) (h : AsmHandle) :
    (∃ v, (clrDeInit s h ()).calls = [.unload v]) ∧
      (clrDeInit s h ()).state.gMonoInitialized = s.gMonoInitialized := by
  unfold clrDeInit
  dsimp only
  split
  · exact ⟨⟨_, rfl⟩, rfl⟩
  · exact ⟨⟨_, rfl⟩, rfl⟩

theorem runMethod_calls (abi : Abi) (s : State) (h : AsmHandle) (ty me : Str) (a : Argv)
    (env : RunEnv) :
    ∀ c ∈ (runMethod abi s h ty me a env).calls,
      (∃ dom, c = .attach dom) ∨ (∃ method, c = .invoke method a.argv (a.sizeInBytes abi)) ∨
        c = .detach := by
  unfold runMethod
  cases s.gPlugins[h]? with
  | none => simp
  | some data =>
    unfold PluginInstanceData.runMethod
    dsimp only
    split
    · split <;> simp
    · simp

/-- What a step from `s` to `t` says to Mono of the JIT and of new domains: the
flag counts the one, and the other waits for it. -/
def CountsJit (s t : State) (calls : List MonoCall) : Prop :=
  jitUps t = jitUps s + calls.countP MonoCall.isJitSuccess ∧
    (s.gMonoInitialized = false →
      Lib.NoneBefore MonoCall.isJitSuccess MonoCall.isCreateAppdomain calls)

theorem countsJit_clrInit (s : State) (p d : Str) (env : InitEnv) :
    CountsJit s (clrInit abi s p d env).state (clrInit abi s p d env).calls := by
  by_cases hmem : (backend abi).key p ∈ s.gPlugins
  · rw [clrInit_hit hmem]
    simp [CountsJit, Lib.NoneBefore]
  obtain ⟨rest, hcalls, hrest, hready, hflag⟩ := clrInit_calls d env hmem
  obtain ⟨hups, hfirst, hup⟩ := initMono_calls s env
  have hzero : rest.countP MonoCall.isJitSuccess = 0 := Lib.countP_eq_zero_of hrest
  have hups' : jitUps (clrInit abi s p d env).state = jitUps (readyState s env) := by
    unfold jitUps
    rw [hflag]
  unfold CountsJit
  rw [hcalls, List.countP_append, hzero, hups', hups]
  refine ⟨rfl, fun hoff => ?_⟩
  by_cases hnil : rest = []
  · rw [hnil, List.append_nil]
    exact hfirst
  · -- the JIT came up in this very step
    refine hfirst.append_of_mem ?_ rest
    have hone : jitUps (readyState s env) = 1 := by simp [jitUps, hup (hready hnil)]
    have hnone : jitUps s = 0 := by simp [jitUps, hoff]
    exact List.countP_pos_iff.mp (by omega)

theorem countsJit_clrDeInit (s : State) (h : AsmHandle) :
    CountsJit s (clrDeInit s h ()).state (clrDeInit s h ()).calls := by
  obtain ⟨⟨v, hcalls⟩, hflag⟩ := clrDeInit_calls s h
  unfold CountsJit
  rw [hcalls]
  refine ⟨by simp [jitUps, hflag, MonoCall.isJitSuccess], fun _ => ?_⟩
  simp [Lib.NoneBefore, MonoCall.isJitSuccess, MonoCall.isCreateAppdomain]

theorem countsJit_runMethod (s : State) (h : AsmHandle) (ty me : Str) (a : Argv) (env : RunEnv) :
    CountsJit s (runMethod abi s h ty me a env).state (runMethod abi s h ty me a env).calls := by
  have hcalls := runMethod_calls abi s h ty me a env
  obtain ⟨attached, hstate⟩ := runMethod_state abi s h ty me a env
  have hzero : (runMethod abi s h ty me a env).calls.countP MonoCall.isJitSuccess = 0 := by
    refine Lib.countP_eq_zero_of fun c hc => ?_
    rcases hcalls c hc with ⟨dom, rfl⟩ | ⟨method, rfl⟩ | rfl <;> rfl
  unfold CountsJit
  rw [hzero, hstate]
  refine ⟨rfl, fun _ c hc => ?_⟩
  rcases hcalls c ((List.takeWhile_sublist _).subset hc) with ⟨dom, rfl⟩ | ⟨method, rfl⟩ | rfl <;>
    rfl

theorem countsJit_step (s : State) (c : Call) :
    CountsJit s ((backend abi).machine.next s c) ((backend abi).stepCalls s c) := by
  cases c with
  | clrInit p d env => exact countsJit_clrInit s p d env
  | clrDeInit h env => exact countsJit_clrDeInit s h
  | runMethod h ty me a env => exact countsJit_runMethod s h ty me a env

/-- The flag counts how often the JIT came up in the run. -/
theorem jitUps_run (abi : Abi) (calls : List Call) :
    jitUps ((backend abi).run calls) =
      ((backend abi).emitted calls).countP MonoCall.isJitSuccess := by
  have hrun : jitUps ((backend abi).run calls) = jitUps (backend abi).start +
      ((backend abi).emitted calls).countP MonoCall.isJitSuccess :=
    Backend.countP_emitted_eq (f := jitUps) fun x _ => (countsJit_step x.1 x.2).1
  rw [hrun]
  exact Nat.zero_add _

/-- No app domain is created before the JIT came up. -/
theorem noneBefore_run (abi : Abi) (calls : List Call) :
    Lib.NoneBefore MonoCall.isJitSuccess MonoCall.isCreateAppdomain
      ((backend abi).emitted calls) := by
  induction calls using List.reverseRecOn with
  | nil => simp [Lib.NoneBefore]
  | append_singleton calls c ih =>
    rw [Backend.emitted_concat]
    cases hflag : ((backend abi).run calls).gMonoInitialized with
    | true =>
      refine ih.append_of_mem (List.countP_pos_iff.mp ?_) _
      rw [← jitUps_run]
      simp [jitUps, hflag]
    | false => exact ih.append ((countsJit_step _ c).2 hflag)

/-! ## The discipline -/

/-- What the globals, the registry and the runtime's domains promise each
other at the end of a run. -/
structure RunDiscipline (abi : Abi) (calls : List Call) : Prop where
  jitOnce : ((backend abi).emitted calls).countP MonoCall.isJitSuccess ≤ 1
  jitFirst : Lib.NoneBefore MonoCall.isJitSuccess MonoCall.isCreateAppdomain
    ((backend abi).emitted calls)
  flag : ((backend abi).run calls).gMonoInitialized = true ↔
    ((backend abi).run calls).rootDomain ≠ none
  live : ∀ h, h ∈ ((backend abi).run calls).gPlugins → ∃ data dom,
    ((backend abi).run calls).gPlugins[h]? = some data ∧ data.appDomain = .ptr dom ∧
      dom ∈ ((backend abi).run calls).runtime.liveDomains
  distinct : ∀ (g h : AsmHandle) (data data' : PluginInstanceData) dom,
    ((backend abi).run calls).gPlugins[g]? = some data →
    ((backend abi).run calls).gPlugins[h]? = some data' →
    data.appDomain = .ptr dom → data'.appDomain = .ptr dom → g = h
  /-- a path whose handle is registered -/
  again : ∀ p d env, (backend abi).key p ∈ ((backend abi).run calls).gPlugins →
    clrInit abi ((backend abi).run calls) p d env =
      ⟨(backend abi).run calls, .value ((backend abi).key p), []⟩
  /-- a path whose handle is not: `clrDeInit` undoes a `clrInit` that
  registers it -/
  undone : ∀ p d env, (backend abi).key p ∉ ((backend abi).run calls).gPlugins →
    ∀ s, (clrInit abi ((backend abi).run calls) p d env).state = s →
      (backend abi).key p ∈ s.gPlugins →
      (clrInit abi ((backend abi).run calls) p d env).ret = .value ((backend abi).key p) ∧
        (clrDeInit s ((backend abi).key p) ()).ret = .value true ∧
        (clrDeInit s ((backend abi).key p) ()).state.gPlugins =
          ((backend abi).run calls).gPlugins ∧
        appDomains (clrDeInit s ((backend abi).key p) ()).state =
          appDomains ((backend abi).run calls)

/-- Every run keeps the discipline in which `clrDeInit` is applied to handles
then registered only, whatever Mono answers. -/
theorem runDiscipline (abi : Abi) (calls : List Call)
    (hcalls : (domainBackend abi).DeInitsRegistered calls) : RunDiscipline abi calls := by
  have hgrounded := grounded_run abi calls
  obtain ⟨P, _, hP⟩ := (disciplined abi).represents_run hcalls
  constructor
  · rw [← jitUps_run]
    unfold jitUps
    split <;> omega
  · exact noneBefore_run abi calls
  · exact hgrounded.root_iff
  · intro h hmem
    obtain ⟨data, dom, hdata, hdom, hlive⟩ := hP.loaded hmem
    exact ⟨data, dom, hdata, Slot.get?_eq_some.mp hdom, hlive⟩
  · intro g h data data' dom hg hh hdom hdom'
    obtain ⟨e, howner, he⟩ := hP.owner_eq_some hg
    obtain ⟨e', howner', he'⟩ := hP.owner_eq_some hh
    -- both handles own the one domain in the pool
    have hsame : e = e' := by
      have hget : data.appDomain.get? = data'.appDomain.get? := by rw [hdom, hdom']
      exact Option.some.inj (he.symm.trans (hget.trans he'))
    exact P.owner_inj howner (hsame ▸ howner')
  · intro p d env hmem
    exact clrInit_hit hmem
  · intro p d env hmem s hs hreg
    subst hs
    exact clrDeInit_clrInit hgrounded hmem hreg

/-- A Mono in which everything works and the assembly has this name and
image. -/
def assemblyEnv (name : Str) (image : Image) : InitEnv := ⟨0, true, some (name, some image), []⟩

def pluginPath : Str := lit "/app/P.dll"

def pluginHandle : AsmHandle := strHash linux64 (lit "P")

/-- Load a plugin and unload it. -/
def loadUnload : List Call :=
  [.clrInit pluginPath [] (assemblyEnv (lit "P") 1), .clrDeInit pluginHandle ()]

theorem runDiscipline_loadUnload : RunDiscipline linux64 loadUnload := by
  refine runDiscipline linux64 loadUnload fun s h env hx => ?_
  simp only [loadUnload, Lib.Machine.trace_cons, Lib.Machine.trace_nil, List.mem_cons,
    List.not_mem_nil, or_false, Prod.mk.injEq, reduceCtorEq, and_false, false_or] at hx
  obtain ⟨rfl, hh⟩ := hx
  cases hh
  show pluginHandle ∈ (clrInit linux64 start pluginPath [] (assemblyEnv (lit "P") 1)).state.gPlugins
  decide

end EzDotnet.Mono
