/-
EzDotnet.Mono.HostTheorems — what the operations of the Mono backend do to
its registry and to the domains of the runtime.

`clrInit` ends in one of four ways (`clrInit_hit`, `clrInit_noJit`,
`clrInit_failed`, `clrInit_loaded`); in the third the new domain stays
without an entry. From these follow that the registry is filled under the
hash of the stem (`keyed`) and that the handles own their domains as the
keys of a pool do (`disciplined`).
-/
import EzDotnet.Mono.Host
import EzDotnet.Common.Domains

namespace EzDotnet.Mono

open Lib (Pool)
open Relation (ReflTransGen)

/-- The Mono backend with the domains of its runtime. -/
def domainBackend (abi : Abi) :
    DomainBackend State PluginInstanceData InitEnv Unit RunEnv MonoCall where
  toBackend := backend abi
  domain data := data.appDomain.get?
  live s := s.runtime.liveDomains
  nextDomain s := s.runtime.nextDomain
  unloads
    | .unload _ => true
    | _ => false

variable {abi : Abi} {s : State} {p d : Str} {env : InitEnv}

/-- The handle is the hash of the stem. -/
theorem key_eq (abi : Abi) (p : Str) : (backend abi).key p = strHash abi (posix.stem p) := by
  show strHash abi (posix.removeExtension (posix.filename p)) = _
  rw [Lib.PathSyntax.removeExtension_filename]

theorem pluginKey (abi : Abi) (p : Str) :
    strHash abi (pluginName (toNativePath .unix p)) = (backend abi).key p := rfl

/-! ## `clrInit` by cases -/

@[simp] theorem initMono_gPlugins (s : State) (env : InitEnv) :
    (initMono s env).2.1.gPlugins = s.gPlugins := by
  unfold initMono
  split
  · rfl
  · split <;> rfl

theorem initMono_false (h : (initMono s env).1 = false) :
    s.gMonoInitialized = false ∧ env.jitInit = false ∧
      (initMono s env).2.1 = { s with rootDomain := none } := by
  unfold initMono at h ⊢
  cases hinit : s.gMonoInitialized with
  | true => simp [hinit] at h
  | false =>
    cases hjit : env.jitInit with
    | true => simp [hinit, hjit] at h
    | false => simp

theorem clrInit_hit (h : (backend abi).key p ∈ s.gPlugins) :
    clrInit abi s p d env = ⟨s, .value ((backend abi).key p), []⟩ := if_pos h

theorem clrInit_noJit (h : (backend abi).key p ∉ s.gPlugins)
    (hjit : (initMono s env).1 = false) :
    clrInit abi s p d env =
      ⟨{ s with rootDomain := none }, .value nullAsmHandle, (initMono s env).2.2⟩ := by
  rw [← (initMono_false hjit).2.2]
  unfold clrInit initializeAsm
  exact (if_neg h).trans (if_pos hjit)

@[simp] theorem Runtime.load_nil (rt : Runtime) : rt.load [] = rt := by
  simp [Runtime.load]

/-- The state in which the new domain is created. -/
def readyState (s : State) (env : InitEnv) : State := (initMono s env).2.1

/-- The assembly did not open or has no image: its domain stays. -/
theorem clrInit_failed (h : (backend abi).key p ∉ s.gPlugins)
    (hjit : (initMono s env).1 = true)
    (hasm : ∀ name image, env.assembly ≠ some (name, some image)) :
    ∃ loaded, (clrInit abi s p d env).state =
        { readyState s env with
          runtime := (readyState s env).runtime.createDomain.load loaded } ∧
      (clrInit abi s p d env).ret = .value nullAsmHandle := by
  unfold clrInit initializeAsm
  dsimp only
  rw [pluginKey, if_neg h, if_neg (by rw [hjit]; simp)]
  cases hopen : env.assembly with
  | none =>
    refine ⟨[], ?_, rfl⟩
    rw [Runtime.load_nil]
    rfl
  | some opened =>
    obtain ⟨name, image⟩ := opened
    cases image with
    | none => exact ⟨_, rfl, rfl⟩
    | some image => exact absurd hopen (hasm name image)

theorem clrInit_loaded (h : (backend abi).key p ∉ s.gPlugins)
    (hjit : (initMono s env).1 = true) {name : Str} {image : Image}
    (hasm : env.assembly = some (name, some image)) :
    ∃ loaded, (clrInit abi s p d env).state =
        { readyState s env with
          gPlugins := s.gPlugins.insertIfNew ((backend abi).key p)
            ⟨.ptr name, .ptr (readyState s env).runtime.nextDomain⟩
          runtime := (readyState s env).runtime.createDomain.load loaded } ∧
      (clrInit abi s p d env).ret = .value ((backend abi).key p) := by
  unfold clrInit initializeAsm
  dsimp only
  rw [pluginKey, if_neg h, if_neg (by rw [hjit]; simp), hasm, initMono_gPlugins]
  exact ⟨_, rfl, rfl⟩

/-- The registry after `clrInit`, and what `clrInit` answers. -/
theorem clrInit_registry (abi : Abi) (s : State) (p d : Str) (env : InitEnv) :
    ∃ made, (clrInit abi s p d env).state.gPlugins
        = Lib.acquire s.gPlugins ((backend abi).key p) made ∧
      (clrInit abi s p d env).ret =
        if (backend abi).key p ∈ s.gPlugins ∨ made.isSome then .value ((backend abi).key p)
        else .value nullAsmHandle := by
  by_cases hmem : (backend abi).key p ∈ s.gPlugins
  · refine ⟨none, ?_⟩
    rw [clrInit_hit hmem]
    simp [hmem]
  cases hjit : (initMono s env).1 with
  | false =>
    refine ⟨none, ?_⟩
    rw [clrInit_noJit hmem hjit]
    simp [hmem]
  | true =>
    by_cases hasm : ∃ name image, env.assembly = some (name, some image)
    · obtain ⟨name, image, hasm⟩ := hasm
      obtain ⟨loaded, hstate, hret⟩ := clrInit_loaded (d := d) hmem hjit hasm
      refine ⟨some ⟨.ptr name, .ptr (readyState s env).runtime.nextDomain⟩, ?_⟩
      rw [hstate, hret, Lib.acquire_some hmem]
      simp
    · obtain ⟨loaded, hstate, hret⟩ :=
        clrInit_failed (d := d) hmem hjit fun name image heq => hasm ⟨name, image, heq⟩
      refine ⟨none, ?_⟩
      rw [hstate, hret]
      simp [hmem, readyState]

/-! ## `runMethod` and `clrDeInit` -/

/-- `runMethod` changes nothing but which threads are attached. -/
theorem runMethod_state (abi : Abi) (s : State) (h : AsmHandle) (ty me : Str) (a : Argv)
    (env : RunEnv) : ∃ attached, (runMethod abi s h ty me a env).state
      = { s with runtime := { s.runtime with attached := attached } } := by
  unfold runMethod
  cases hdata : s.gPlugins[h]? with
  | none => exact ⟨_, rfl⟩
  | some data =>
    dsimp only
    unfold PluginInstanceData.runMethod
    split
    · dsimp only
      split
      · exact ⟨_, rfl⟩
      · exact ⟨_, rfl⟩
    · exact ⟨_, rfl⟩

theorem clrDeInit_registered {h : AsmHandle} {data : PluginInstanceData} {dom : Domain}
    (hdata : s.gPlugins[h]? = some data) (hdom : data.appDomain = .ptr dom) :
    clrDeInit s h () =
      ⟨{ s with
          gPlugins := (s.gPlugins.insertIfNew h data).erase h
          runtime := s.runtime.unload dom },
        .value true, [.unload (.ptr dom)]⟩ := by
  unfold clrDeInit
  simp only [hdata, Option.getD_some, hdom]

theorem clrDeInit_unregistered {h : AsmHandle} (hmem : h ∉ s.gPlugins) :
    clrDeInit s h () =
      ⟨{ s with gPlugins := s.gPlugins.insertIfNew h {} }, .undefined, [.unload .unset]⟩ := by
  unfold clrDeInit
  simp only [Std.ExtTreeMap.getElem?_eq_none hmem, Option.getD_none]

theorem mem_of_mem_clrDeInit {h g : AsmHandle} (hmem : h ∈ s.gPlugins)
    (hg : g ∈ (clrDeInit s h ()).state.gPlugins) : g ∈ s.gPlugins := by
  unfold clrDeInit at hg
  dsimp only at hg
  split at hg
  · simp only [Std.ExtTreeMap.mem_erase, Std.ExtTreeMap.mem_insertIfNew,
      Std.compare_eq_iff_eq] at hg
    exact hg.2.resolve_left fun heq => hg.1 (by simp [heq])
  · simp only [Std.ExtTreeMap.mem_insertIfNew, Std.compare_eq_iff_eq] at hg
    rcases hg with rfl | hg
    · exact hmem
    · exact hg

/-! ## The registry and the domains -/

theorem keyed (abi : Abi) : (backend abi).Keyed where
  start := rfl
  clrInit s p d env := by
    obtain ⟨made, hreg, hans⟩ := clrInit_registry abi s p d env
    refine ⟨made, hreg, fun hentry => hans.trans (if_pos hentry), ?_⟩
    intro hentry h hret
    exact (Ret.value.inj ((hans.trans (if_neg hentry)).symm.trans hret)).symm
  runMethod s h ty me a env := by
    obtain ⟨attached, hstate⟩ := runMethod_state abi s h ty me a env
    show (runMethod abi s h ty me a env).state.gPlugins = s.gPlugins
    rw [hstate]

/-- Bringing the JIT up creates the root domain, which no handle owns. -/
theorem represents_ready {P : Pool AsmHandle} (hs : (domainBackend abi).Represents s P)
    (env : InitEnv) : ∃ Q, ReflTransGen Pool.Step P Q ∧
      (domainBackend abi).Represents (readyState s env) Q := by
  unfold readyState initMono
  split
  · exact ⟨P, .refl, hs⟩
  · split
    · exact ⟨P.leak, .single .leak, hs.leak rfl rfl rfl⟩
    · exact ⟨P, .refl, hs.stay rfl rfl rfl⟩

theorem represents_clrInit {P : Pool AsmHandle} (hs : (domainBackend abi).Represents s P)
    (p d : Str) (env : InitEnv) : ∃ Q, ReflTransGen Pool.Step P Q ∧
      (domainBackend abi).Represents (clrInit abi s p d env).state Q := by
  by_cases hmem : (backend abi).key p ∈ s.gPlugins
  · rw [clrInit_hit hmem]
    exact ⟨P, .refl, hs⟩
  cases hjit : (initMono s env).1 with
  | false =>
    rw [clrInit_noJit hmem hjit]
    exact ⟨P, .refl, hs.stay rfl rfl rfl⟩
  | true =>
    obtain ⟨Q, hsteps, hQ⟩ := represents_ready hs env
    have hmem' : ¬ (domainBackend abi).registered (readyState s env) ((backend abi).key p) := by
      show (backend abi).key p ∉ (initMono s env).2.1.gPlugins
      rwa [initMono_gPlugins]
    by_cases hasm : ∃ name image, env.assembly = some (name, some image)
    · obtain ⟨name, image, hasm⟩ := hasm
      obtain ⟨loaded, hstate, hret⟩ := clrInit_loaded (d := d) hmem hjit hasm
      refine ⟨Q.acquire ((backend abi).key p),
        hsteps.tail (.acquire (hQ.owner_eq_none hmem')), ?_⟩
      rw [hstate]
      exact hQ.acquire hmem'
        (by show s.gPlugins.insertIfNew _ _ = (initMono s env).2.1.gPlugins.insertIfNew _ _
            rw [initMono_gPlugins]) rfl rfl rfl
    · obtain ⟨loaded, hstate, hret⟩ :=
        clrInit_failed (d := d) hmem hjit fun name image heq => hasm ⟨name, image, heq⟩
      refine ⟨Q.leak, hsteps.tail .leak, ?_⟩
      rw [hstate]
      exact hQ.leak rfl rfl rfl

theorem represents_clrDeInit {P : Pool AsmHandle} (hs : (domainBackend abi).Represents s P)
    {h : AsmHandle} (hreg : h ∈ s.gPlugins) : ∃ Q, ReflTransGen Pool.Step P Q ∧
      (domainBackend abi).Represents (clrDeInit s h ()).state Q := by
  obtain ⟨data, hdata⟩ := Lib.mem_iff_exists_getElem?.mp hreg
  obtain ⟨dom, hown, hdom⟩ := hs.owner_eq_some hdata
  have hptr : data.appDomain = .ptr dom := Slot.get?_eq_some.mp hdom
  refine ⟨P.release h dom hown, .single (.release hown), ?_⟩
  rw [clrDeInit_registered hdata hptr]
  refine hs.release hown (fun g => ?_) rfl rfl
  show ((s.gPlugins.insertIfNew h data).erase h)[g]? = if g = h then none else s.gPlugins[g]?
  rw [Std.ExtTreeMap.getElem?_erase, Std.ExtTreeMap.getElem?_insertIfNew]
  by_cases hg : g = h
  · simp [hg]
  · simp [hg, Ne.symm hg]

/-- The handles of the Mono backend own the domains of their plugins. -/
theorem disciplined (abi : Abi) : (domainBackend abi).Disciplined where
  toKeyed := keyed abi
  represents_start := ⟨fun _ => rfl, rfl, rfl⟩
  represents_clrInit p d env hs := represents_clrInit hs p d env
  represents_runMethod {s P} h ty me a env hs := by
    obtain ⟨attached, hstate⟩ := runMethod_state abi s h ty me a env
    show (domainBackend abi).Represents (runMethod abi s h ty me a env).state P
    rw [hstate]
    exact hs.stay rfl rfl rfl
  represents_clrDeInit h _ hs hreg := represents_clrDeInit hs hreg
  clrDeInit_old hreg hg := mem_of_mem_clrDeInit hreg hg
  phantom {s h _} hmem := by
    show h ∈ (clrDeInit s h ()).state.gPlugins
    rw [clrDeInit_unregistered hmem]
    exact Std.ExtTreeMap.mem_insertIfNew_self

end EzDotnet.Mono
