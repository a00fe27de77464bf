/-
EzDotnet.CLRHost.HostTheorems — what the operations of the CLRHost backend
do to its registry and to the app domains.

The cases of `clrInit` are those of the Mono backend, with an exception in
place of a null handle; `clrDeInit` of a registered handle may also fail in
either of its two external calls, and then the entry and its domain both
stay. An unregistered handle leaves an entry of two null references behind
(`clrDeInit_unregistered`).
-/
import EzDotnet.CLRHost.Host
import EzDotnet.Common.Domains

namespace EzDotnet.CLRHost

open Lib (Pool)
open Relation (ReflTransGen)

/-- The CLRHost backend with the app domains of the process. -/
def domainBackend (fs : PathFns) (abi : Abi) :
    DomainBackend State AssemblyInstanceData InitEnv DeInitEnv RunEnv ClrCall where
  toBackend := backend fs abi
  domain := AssemblyInstanceData.appDomain
  live := State.liveDomains
  nextDomain := State.nextDomain
  unloads
    | .unload _ => true
    | _ => false

variable {fs : PathFns} {abi : Abi} {s : State} {p d : Str} {env : InitEnv}

/-! ## `clrInit` by cases -/

theorem pathKey (fs : PathFns) (abi : Abi) (p : Str) :
    strHash abi (toNativePath .windows p) = (backend fs abi).key p := rfl

theorem clrInit_hit (h : (backend fs abi).key p ∈ s.gHandles) :
    clrInit fs abi s p d env = ⟨s, .value ((backend fs abi).key p), []⟩ := if_pos h

theorem clrInit_noDomain (h : (backend fs abi).key p ∉ s.gHandles)
    (hdom : env.createDomain = false) :
    (clrInit fs abi s p d env).state = s ∧ (clrInit fs abi s p d env).ret = .throws := by
  unfold clrInit initializeAsm
  dsimp only
  rw [pathKey fs, if_neg h, if_pos hdom]
  exact ⟨rfl, rfl⟩

/-- The state after the new domain is created and the handler added. -/
def readyState (s : State) : State :=
  { s with
    nextDomain := s.nextDomain + 1
    liveDomains := insert s.nextDomain s.liveDomains
    resolveHandlers := s.resolveHandlers ++ [.loadFromSameFolder] }

/-- The instance is created: the framework says where this assembly lies and
the constructor loads its target. -/
def InstanceCreated (env : InitEnv) (targetAsm : Addr) : Prop :=
  (∃ thisAsmPath, env.location = .ok thisAsmPath) ∧ env.createInstance = .ok targetAsm

/-- The domain and the handler stay when the instance is not created. -/
theorem clrInit_failed (h : (backend fs abi).key p ∉ s.gHandles)
    (hdom : env.createDomain = true) (hinst : ∀ a, ¬ InstanceCreated env a) :
    (clrInit fs abi s p d env).state = readyState s ∧
      (clrInit fs abi s p d env).ret = .throws := by
  unfold clrInit initializeAsm
  dsimp only
  rw [pathKey fs, if_neg h, if_neg (by rw [hdom]; simp)]
  cases hloc : env.location with
  | error _ => exact ⟨rfl, rfl⟩
  | ok thisAsmPath =>
    cases hnew : env.createInstance with
    | error _ => exact ⟨rfl, rfl⟩
    | ok a => exact absurd ⟨⟨thisAsmPath, hloc⟩, hnew⟩ (hinst a)

theorem clrInit_loaded (h : (backend fs abi).key p ∉ s.gHandles)
    (hdom : env.createDomain = true) {a : Addr} (hinst : InstanceCreated env a) :
    ∃ pl : AssemblyInstance, (clrInit fs abi s p d env).state =
        { readyState s with
          gHandles := s.gHandles.insertIfNew ((backend fs abi).key p)
            ⟨some s.nextDomain, some pl⟩ } ∧
      (clrInit fs abi s p d env).ret = .value ((backend fs abi).key p) := by
  obtain ⟨⟨thisAsmPath, hloc⟩, hnew⟩ := hinst
  unfold clrInit initializeAsm
  dsimp only
  rw [pathKey fs, if_neg h, if_neg (by rw [hdom]; simp), hloc, hnew]
  exact ⟨_, rfl, rfl⟩

/-- The registry after `clrInit`, and what `clrInit` answers. -/
theorem clrInit_registry (fs : PathFns) (abi : Abi) (s : State) (p d : Str) (env : InitEnv) :
    ∃ made, (clrInit fs abi s p d env).state.gHandles
        = Lib.acquire s.gHandles ((backend fs abi).key p) made ∧
      (clrInit fs abi s p d env).ret =
        if (backend fs abi).key p ∈ s.gHandles ∨ made.isSome
        then .value ((backend fs abi).key p) else .throws := by
  by_cases hmem : (backend fs abi).key p ∈ s.gHandles
  · refine ⟨none, ?_⟩
    rw [clrInit_hit hmem]
    simp [hmem]
  cases hdom : env.createDomain with
  | false =>
    obtain ⟨hstate, hret⟩ := clrInit_noDomain (d := d) hmem hdom
    refine ⟨none, ?_⟩
    rw [hstate, hret]
    simp [hmem]
  | true =>
    by_cases hinst : ∃ a, InstanceCreated env a
    · obtain ⟨a, hinst⟩ := hinst
      obtain ⟨pl, hstate, hret⟩ := clrInit_loaded (d := d) hmem hdom hinst
      refine ⟨some ⟨some s.nextDomain, some pl⟩, ?_⟩
      rw [hstate, hret, Lib.acquire_some hmem]
      simp
    · obtain ⟨hstate, hret⟩ :=
        clrInit_failed (d := d) hmem hdom fun a ha => hinst ⟨a, ha⟩
      refine ⟨none, ?_⟩
      rw [hstate, hret]
      simp [hmem, readyState]

/-! ## `runMethod` and `clrDeInit` -/

@[simp] theorem runMethod_state (abi : Abi) (s : State) (h : AsmHandle) (ty me : Str)
    (a : Argv) (env : RunEnv) : (runMethod abi s h ty me a env).state = s := by
  unfold runMethod
  split
  · rfl
  · split
    · rfl
    · split <;> rfl

/-- `clrDeInit` of a registered handle either changes no entry and no domain,
or takes the entry and its domain away. -/
theorem clrDeInit_registered {h : AsmHandle} {data : AssemblyInstanceData}
    (hdata : s.gHandles[h]? = some data) (env : DeInitEnv) :
    (clrDeInit s h env).state = { s with gHandles := s.gHandles.insertIfNew h data } ∨
      ∃ dom, data.appDomain = some dom ∧ (clrDeInit s h env).state =
        { s with
          gHandles := (s.gHandles.insertIfNew h data).erase h
          liveDomains := s.liveDomains.erase dom } := by
  unfold clrDeInit
  dsimp only
  rw [hdata, Option.getD_some]
  split
  · exact .inl rfl
  · split
    · exact .inl rfl
    · next dom hdom =>
      split
      · exact .inl rfl
      · exact .inr ⟨dom, hdom, rfl⟩

theorem clrDeInit_unregistered {h : AsmHandle} (hmem : h ∉ s.gHandles) (env : DeInitEnv) :
    clrDeInit s h env =
      ⟨{ s with gHandles := s.gHandles.insertIfNew h {} }, .throws, [.disconnect none]⟩ := by
  unfold clrDeInit
  dsimp only
  rw [Std.ExtTreeMap.getElem?_eq_none hmem, Option.getD_none, if_pos (.inl rfl)]

/-! ## The registry and the domains -/

theorem insertIfNew_of_getElem? {h : AsmHandle} {data : AssemblyInstanceData}
    (hdata : s.gHandles[h]? = some data) : s.gHandles.insertIfNew h data = s.gHandles := by
  exact Lib.insertIfNew_of_mem (Lib.mem_iff_exists_getElem?.mpr ⟨data, hdata⟩) data

theorem keyed (fs : PathFns) (abi : Abi) : (backend fs abi).Keyed where
  start := rfl
  clrInit s p d env := by
    obtain ⟨made, hreg, hans⟩ := clrInit_registry fs abi s p d env
    refine ⟨made, hreg, fun hentry => hans.trans (if_pos hentry), ?_⟩
    intro hentry h hret
    cases (hans.trans (if_neg hentry)).symm.trans hret
  runMethod s h ty me a env := by
    show (runMethod abi s h ty me a env).state.gHandles = s.gHandles
    rw [runMethod_state]

theorem represents_clrInit {P : Pool AsmHandle} (hs : (domainBackend fs abi).Represents s P)
    (p d : Str) (env : InitEnv) : ∃ Q, ReflTransGen Pool.Step P Q ∧
      (domainBackend fs abi).Represents (clrInit fs abi s p d env).state Q := by
  by_cases hmem : (backend fs abi).key p ∈ s.gHandles
  · rw [clrInit_hit hmem]
    exact ⟨P, .refl, hs⟩
  cases hdom : env.createDomain with
  | false =>
    rw [(clrInit_noDomain hmem hdom).1]
    exact ⟨P, .refl, hs⟩
  | true =>
    by_cases hinst : ∃ a, InstanceCreated env a
    · obtain ⟨a, hinst⟩ := hinst
      obtain ⟨pl, hstate, -⟩ := clrInit_loaded (d := d) hmem hdom hinst
      refine ⟨P.acquire ((backend fs abi).key p),
        .single (.acquire (hs.owner_eq_none hmem)), ?_⟩
      rw [hstate]
      exact hs.acquire hmem rfl rfl rfl rfl
    · rw [(clrInit_failed (d := d) hmem hdom fun a ha => hinst ⟨a, ha⟩).1]
      exact ⟨P.leak, .single .leak, hs.leak rfl rfl rfl⟩

theorem represents_clrDeInit {P : Pool AsmHandle}
    (hs : (domainBackend fs abi).Represents s P) {h : AsmHandle} (hreg : h ∈ s.gHandles)
    (env : DeInitEnv) : ∃ Q, ReflTransGen Pool.Step P Q ∧
      (domainBackend fs abi).Represents (clrDeInit s h env).state Q := by
  obtain ⟨data, hdata⟩ := Lib.mem_iff_exists_getElem?.mp hreg
  rcases clrDeInit_registered hdata env with hstate | ⟨dom, hdom, hstate⟩
  · rw [hstate, insertIfNew_of_getElem? hdata]
    exact ⟨P, .refl, hs⟩
  · obtain ⟨dom', hown, hdom'⟩ := hs.owner_eq_some hdata
    obtain rfl : dom = dom' := Option.some.inj (hdom.symm.trans hdom')
    refine ⟨P.release h dom hown, .single (.release hown), ?_⟩
    rw [hstate, insertIfNew_of_getElem? hdata]
    refine hs.release hown (fun g => ?_) rfl rfl
    show (s.gHandles.erase h)[g]? = if g = h then none else s.gHandles[g]?
    rw [Std.ExtTreeMap.getElem?_erase]
    by_cases hg : g = h
    · simp [hg]
    · simp [hg, Ne.symm hg]

theorem mem_of_mem_clrDeInit {h g : AsmHandle} (hmem : h ∈ s.gHandles) {env : DeInitEnv}
    (hg : g ∈ (clrDeInit s h env).state.gHandles) : g ∈ s.gHandles := by
  obtain ⟨data, hdata⟩ := Lib.mem_iff_exists_getElem?.mp hmem
  rcases clrDeInit_registered hdata env with hstate | ⟨dom, -, hstate⟩
  · rw [hstate, insertIfNew_of_getElem? hdata] at hg
    exact hg
  · rw [hstate, insertIfNew_of_getElem? hdata] at hg
    exact (Std.ExtTreeMap.mem_erase.mp hg).2

/-- The handles of the CLRHost backend own their app domains. -/
theorem disciplined (fs : PathFns) (abi : Abi) : (domainBackend fs abi).Disciplined where
  toKeyed := keyed fs abi
  represents_start := ⟨fun _ => rfl, rfl, rfl⟩
  represents_clrInit p d env hs := represents_clrInit hs p d env
  represents_runMethod {s P} h ty me a env hs := by
    show (domainBackend fs abi).Represents (runMethod abi s h ty me a env).state P
    rw [runMethod_state]
    exact hs
  represents_clrDeInit h env hs hreg := represents_clrDeInit hs hreg env
  clrDeInit_old hreg hg := mem_of_mem_clrDeInit hreg hg
  phantom {s h env} hmem := by
    show h ∈ (clrDeInit s h env).state.gHandles
    rw [clrDeInit_unregistered hmem]
    exact Std.ExtTreeMap.mem_insertIfNew_self

end EzDotnet.CLRHost
