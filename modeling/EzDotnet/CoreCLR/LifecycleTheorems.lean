/-
EzDotnet.CoreCLR.LifecycleTheorems — what becomes of a host context: who
closes it (`closesOwnContexts_iff`) and what a closed one can still be
used for (`clrDeInit_law_fails`).

Both results rest on one invariant, `Registered`: a plugin in the map has
its `pfnClose`, which `loadAndInitHostFxr` checked, and has no
`runtimeHandle`, because `initHostFxr` keeps the handle the initializer
wrote in a local variable. So the only value this backend ever passes to
`hostfxr_close` is the unset member, and it passes it whenever `clrDeInit`
meets a registered handle. The entry then stays: nothing in this backend
erases from `gPlugins`.
-/
import EzDotnet.CoreCLR.PluginsTheorems

namespace EzDotnet.CoreCLR

/-! ## Registered plugins -/

/-- What every registered plugin has, and what it lacks. -/
structure PluginInstance.Registered (plugin : PluginInstance) : Prop where
  handleUnset : plugin.mCtx.runtimeHandle = .unset
  closeSet : ∃ f, plugin.mCtx.pfnClose = .ptr f

def AllRegistered (s : State) : Prop :=
  ∀ (h : AsmHandle) (plugin : PluginInstance),
    s.gPlugins[h]? = some plugin → plugin.Registered

theorem registered_ready {env : InitEnv} {p : Str} (hready : HostfxrReady env p) :
    PluginInstance.Registered ⟨(initHostFxr env.hostfxr (readyCtx env p)).2.1⟩ := by
  obtain ⟨f, hf⟩ := Option.ne_none_iff_exists'.mp hready.closeFound
  constructor
  · show (initHostFxr env.hostfxr (readyCtx env p)).2.1.runtimeHandle = .unset
    rw [initHostFxr_frame]
    rfl
  · refine ⟨f, ?_⟩
    show (initHostFxr env.hostfxr (readyCtx env p)).2.1.pfnClose = .ptr f
    rw [initHostFxr_frame]
    show Slot.ofOption (env.hostfxr.symbol (lit "hostfxr_close")) = .ptr f
    rw [hf]
    rfl

theorem allRegistered_next (abi : Abi) (s : State) (c : Call) (hs : AllRegistered s) :
    AllRegistered ((backend abi).machine.next s c) := by
  cases c with
  | clrInit p d env =>
    intro h plugin hplugin
    change (clrInit abi s p d env).state.gPlugins[h]? = some plugin at hplugin
    rcases clrInit_state abi s p d env with heq | ⟨_, _, hready, heq⟩
    · exact hs h plugin (heq ▸ hplugin)
    · rw [heq, Std.ExtTreeMap.getElem?_insertIfNew] at hplugin
      split at hplugin
      · obtain rfl := Option.some.inj hplugin
        exact registered_ready hready
      · exact hs h plugin hplugin
  | clrDeInit g rc =>
    show AllRegistered (clrDeInit s g rc).state
    rw [clrDeInit_state]; exact hs
  | runMethod g ty me a env =>
    show AllRegistered (runMethod abi s g ty me a env).state
    rw [runMethod_state]; exact hs

theorem allRegistered_start : AllRegistered start := by
  intro h plugin hplugin
  have hempty : start.gPlugins[h]? = none := Std.ExtTreeMap.getElem?_empty
  rw [hempty] at hplugin
  cases hplugin

theorem allRegistered_of_reachable {abi : Abi} {s : State}
    (hs : (backend abi).machine.Reachable s) : AllRegistered s :=
  hs.invariant _ allRegistered_start (allRegistered_next abi)

/-- `clrDeInit` of a registered handle closes the unset member. -/
theorem clrDeInit_registered {s : State} {h : AsmHandle} {plugin : PluginInstance}
    (hplugin : s.gPlugins[h]? = some plugin) (hreg : plugin.Registered) (rc : Int) :
    clrDeInit s h rc = ⟨s, .value (decide (rc ≠ 0)), [.close .unset]⟩ := by
  obtain ⟨f, hf⟩ := hreg.closeSet
  simp [clrDeInit, hplugin, PluginInstance.clrDeInit, hf, hreg.handleUnset]

theorem clrDeInit_unregistered {s : State} {h : AsmHandle} (hmem : h ∉ s.gPlugins) (rc : Int) :
    clrDeInit s h rc = ⟨s, .throws, []⟩ := by
  simp [clrDeInit, Std.ExtTreeMap.getElem?_eq_none hmem]

/-! ## Who calls `hostfxr_close` -/

theorem close_notMem_initHostFxr (env : HostfxrEnv) (ctx : DotnetCtx) (v : Slot HostContext) :
    HostCall.close v ∉ (initHostFxr env ctx).2.2 := by
  unfold initHostFxr
  dsimp only
  split
  · simp
  · split <;> simp

theorem close_notMem_loadAndInitHostFxr (env : HostfxrEnv) (ctx : DotnetCtx)
    (v : Slot HostContext) : HostCall.close v ∉ (loadAndInitHostFxr env ctx).2.2 := by
  unfold loadAndInitHostFxr
  dsimp only
  split
  · simp
  · split
    · simp
    · simp [close_notMem_initHostFxr]

theorem close_notMem_getHostFxrPath (env : NethostEnv 8) (dir : Str) (v : Slot HostContext) :
    HostCall.close v ∉ (getHostFxrPath env dir).2 := by
  unfold getHostFxrPath
  dsimp only
  repeat' split
  all_goals simp

theorem close_notMem_clrInit (abi : Abi) (s : State) (p d : Str) (env : InitEnv)
    (v : Slot HostContext) : HostCall.close v ∉ (clrInit abi s p d env).calls := by
  have hpath := close_notMem_getHostFxrPath env.nethost (posix.parentPath p) v
  unfold clrInit
  dsimp only
  split
  · simp
  split
  · simp
  split
  · split
    · next hres => simpa [hres] using hpath
    · next path calls hres =>
      have hload := close_notMem_loadAndInitHostFxr env.hostfxr (newCtx p path) v
      rw [hres] at hpath
      dsimp only at hpath ⊢
      split <;> simp [hpath, hload]
  · simp

theorem close_notMem_runMethod (abi : Abi) (s : State) (h : AsmHandle) (ty me : Str)
    (a : Argv) (env : RunEnv) (v : Slot HostContext) :
    HostCall.close v ∉ (runMethod abi s h ty me a env).calls := by
  unfold runMethod PluginInstance.runMethod
  split
  · simp
  · dsimp only
    split
    · split <;> simp
    · simp

/-! ## Ownership of host contexts -/

/-- A `clrInit` of the run `calls` wrote this context for the plugin with
this handle. -/
def WroteFor (abi : Abi) (calls : List Call) (h : AsmHandle) (context : HostContext) : Prop :=
  ∃ s p d env args,
    (s, ApiCall.clrInit p d env) ∈ (backend abi).machine.trace start calls ∧
      strHash abi p = h ∧
      HostCall.initializer args (some context) ∈ (clrInit abi s p d env).calls

/-- The contexts a run passes to `hostfxr_close`, in order. -/
def closedContexts (abi : Abi) (calls : List Call) : List HostContext :=
  ((backend abi).machine.trace start calls).flatMap fun x =>
    ((backend abi).machine.out x.1 x.2).2.filterMap fun
      | .close (.ptr context) => some context
      | _ => none

/-- Every value passed to `hostfxr_close` is a context that the
initializer wrote before for that same plugin, and none is passed twice. -/
structure ClosesOwnContexts (abi : Abi) (calls : List Call) : Prop where
  own : ∀ pre c post, calls = pre ++ c :: post →
    ∀ v, HostCall.close v ∈ ((backend abi).machine.out ((backend abi).run pre) c).2 →
      ∃ h rc context, c = .clrDeInit h rc ∧ v = .ptr context ∧ WroteFor abi pre h context
  once : (closedContexts abi calls).Nodup

/-- No `clrDeInit` of the run meets a registered handle. -/
def NeverDeInits (abi : Abi) (calls : List Call) : Prop :=
  ∀ s h rc, (s, ApiCall.clrDeInit h rc) ∈ (backend abi).machine.trace start calls →
    h ∉ s.gPlugins

theorem close_notMem_out {abi : Abi} {s : State} {c : Call}
    (hc : ∀ h rc, c = .clrDeInit h rc → h ∉ s.gPlugins) (v : Slot HostContext) :
    HostCall.close v ∉ ((backend abi).machine.out s c).2 := by
  cases c with
  | clrInit p d env => exact close_notMem_clrInit abi s p d env v
  | clrDeInit h rc =>
    show HostCall.close v ∉ (clrDeInit s h rc).calls
    rw [clrDeInit_unregistered (hc h rc rfl)]
    simp
  | runMethod h ty me a env => exact close_notMem_runMethod abi s h ty me a env v

/-- The contexts this backend closes are its own, each once, in exactly
the runs that never close one: the value it closes is always unset. -/
theorem closesOwnContexts_iff (abi : Abi) (calls : List Call) :
    ClosesOwnContexts abi calls ↔ NeverDeInits abi calls := by
  constructor
  · intro hown s h rc hx hmem
    obtain ⟨pre, post, hsplit, rfl⟩ := (backend abi).machine.mem_trace.mp hx
    obtain ⟨plugin, hplugin⟩ := Lib.mem_iff_exists_getElem?.mp hmem
    have hreg := allRegistered_of_reachable
      ((backend abi).machine.reachable_exec pre) h plugin hplugin
    have hclose : HostCall.close .unset ∈
        ((backend abi).machine.out ((backend abi).run pre) (.clrDeInit h rc)).2 := by
      show HostCall.close .unset ∈
        (clrDeInit ((backend abi).machine.exec start pre) h rc).calls
      rw [clrDeInit_registered hplugin hreg]
      simp
    obtain ⟨_, _, _, _, hset, _⟩ := hown.own pre _ post hsplit _ hclose
    cases hset
  · intro hnever
    have hno : ∀ s c, (s, c) ∈ (backend abi).machine.trace start calls →
        ∀ v, HostCall.close v ∉ ((backend abi).machine.out s c).2 := fun s c hx v =>
      close_notMem_out (fun h rc hc => hnever s h rc (hc ▸ hx)) v
    constructor
    · rintro pre c post rfl v hv
      exact absurd hv (hno _ c ((backend abi).machine.mem_trace_split start pre c post) v)
    · have hnil : closedContexts abi calls = [] := by
        refine List.flatMap_eq_nil_iff.mpr fun x hx => List.filterMap_eq_nil_iff.mpr ?_
        intro call hcall
        split
        · exact absurd hcall (hno x.1 x.2 hx _)
        · rfl
      rw [hnil]
      exact List.nodup_nil

/-- A hostfxr that initialises context `7` with the delegate `2`. -/
def workingEnv : InitEnv :=
  { noContextEnv with
    hostfxr := { noContextEnv.hostfxr with initializer := fun _ => some 7 } }

/-- One load and one `clrDeInit`: `hostfxr_close` gets the unset member. -/
theorem closes_unset_context :
    ¬ ClosesOwnContexts linux64
      [.clrInit samplePath [] workingEnv, .clrDeInit (strHash linux64 samplePath) 0] := by
  intro hown
  have hclose : HostCall.close .unset ∈
      ((backend linux64).machine.out
        ((backend linux64).run [.clrInit samplePath [] workingEnv])
        (.clrDeInit (strHash linux64 samplePath) 0)).2 := by decide
  obtain ⟨_, _, _, _, hset, _⟩ :=
    hown.own [.clrInit samplePath [] workingEnv] _ [] rfl _ hclose
  cases hset

/-! ## After `clrDeInit` -/

/-- From `s`, the plugin `plugin`, once registered as `h` for the path
`p`, is out of use: the handle is gone, no continuation calls its delegate
through `h`, and none hands `h` out for `p` again without a context that
the initializer wrote in between. -/
structure OutOfUse (abi : Abi) (s : State) (h : AsmHandle) (p : Str)
    (plugin : PluginInstance) : Prop where
  absent : h ∉ s.gPlugins
  silent : ∀ calls ty me a env f className methodName,
    plugin.mCtx.pfnLoadAssembly = .ptr f →
      HostCall.loadAssembly f className methodName ∉
        (runMethod abi ((backend abi).machine.exec s calls) h ty me a env).calls
  renewed : ∀ calls d env,
    (clrInit abi ((backend abi).machine.exec s calls) p d env).ret = .value h →
      ∃ t q e env' args context,
        (t, ApiCall.clrInit q e env') ∈
          (backend abi).machine.trace s (calls ++ [.clrInit p d env]) ∧
        strHash abi q = h ∧
        HostCall.initializer args (some context) ∈ (clrInit abi t q e env').calls

/-- `clrDeInit` reports whether `hostfxr_close` succeeded, and after a
success the handle is out of use. -/
def DeInitLaw (abi : Abi) (s : State) (h : AsmHandle) (p : Str) (plugin : PluginInstance)
    (rc : Int) : Prop :=
  ((clrDeInit s h rc).ret = .value true ↔ rc = 0) ∧
    (rc = 0 → OutOfUse abi (clrDeInit s h rc).state h p plugin)

theorem loadAssembly_mem_runMethod {abi : Abi} {s : State} {h : AsmHandle}
    {plugin : PluginInstance} {f : Addr} (hplugin : s.gPlugins[h]? = some plugin)
    (hf : plugin.mCtx.pfnLoadAssembly = .ptr f) (ty me : Str) (a : Argv) (env : RunEnv) :
    ∃ className methodName, HostCall.loadAssembly f className methodName ∈
      (runMethod abi s h ty me a env).calls := by
  refine ⟨strConv 8 ty ++ lit "," ++ posix.stem plugin.mCtx.asmPath, strConv 8 me, ?_⟩
  simp only [runMethod, hplugin, PluginInstance.runMethod, hf]
  split <;> simp

/-- The law fails for every registered handle and every result of
`hostfxr_close`, and each part of it does: the result is the negation of
the promised one, the handle stays registered and is handed out again
without a call to hostfxr, and it still runs the closed context's delegate,
if the plugin has one. -/
theorem clrDeInit_law_fails (abi : Abi) {s : State} (hs : (backend abi).machine.Reachable s)
    {h : AsmHandle} {plugin : PluginInstance} (hplugin : s.gPlugins[h]? = some plugin)
    {p : Str} (hp : strHash abi p = h) (rc : Int) :
    ¬ DeInitLaw abi s h p plugin rc ∧
      (clrDeInit s h rc).ret = .value (decide (rc ≠ 0)) ∧
      h ∈ (clrDeInit s h rc).state.gPlugins ∧
      (∀ d env, clrInit abi (clrDeInit s h rc).state p d env =
        ⟨(clrDeInit s h rc).state, .value h, []⟩) ∧
      ∀ f, plugin.mCtx.pfnLoadAssembly = .ptr f → ∀ ty me a env, ∃ className methodName,
        HostCall.loadAssembly f className methodName ∈
          (runMethod abi (clrDeInit s h rc).state h ty me a env).calls := by
  have hret := clrDeInit_registered hplugin (allRegistered_of_reachable hs h plugin hplugin) rc
  have hmem : h ∈ s.gPlugins := Lib.mem_iff_exists_getElem?.mpr ⟨plugin, hplugin⟩
  rw [clrDeInit_state]
  refine ⟨fun hlaw => ?_, by rw [hret], hmem, fun d env => ?_,
    fun f hf ty me a env => loadAssembly_mem_runMethod hplugin hf ty me a env⟩
  · -- `rc = 0` is reported as `false`, and every other code as `true`
    have hiff := hlaw.1
    rw [hret] at hiff
    by_cases hrc : rc = 0
    · have hfalse := hiff.mpr hrc
      simp [hrc] at hfalse
    · exact hrc (hiff.mp (by simp [hrc]))
  · subst hp
    exact clrInit_hit hmem

/-- The state after one successful load. -/
def loaded : State := (backend linux64).run [.clrInit samplePath [] workingEnv]

def loadedPlugin : PluginInstance :=
  ⟨(initHostFxr workingEnv.hostfxr (readyCtx workingEnv samplePath)).2.1⟩

/-- `hostfxr_close` succeeds: `clrDeInit` answers `false` and the handle
stays registered. -/
theorem clrDeInit_success_false :
    ¬ DeInitLaw linux64 loaded (strHash linux64 samplePath) samplePath loadedPlugin 0 ∧
      (clrDeInit loaded (strHash linux64 samplePath) 0).ret = .value false ∧
      strHash linux64 samplePath ∈
        (clrDeInit loaded (strHash linux64 samplePath) 0).state.gPlugins := by
  refine ⟨fun hlaw => ?_, by decide, by decide⟩
  have htrue : (clrDeInit loaded (strHash linux64 samplePath) 0).ret = .value true :=
    hlaw.1.mpr rfl
  exact absurd htrue (by decide)

theorem clrDeInit_law_fails_loaded :
    ¬ DeInitLaw linux64 loaded (strHash linux64 samplePath) samplePath loadedPlugin 0 :=
  (clrDeInit_law_fails linux64 ((backend linux64).machine.reachable_exec _)
    (show loaded.gPlugins[strHash linux64 samplePath]? = some loadedPlugin by decide) rfl 0).1

end EzDotnet.CoreCLR
