/-
EzDotnet.CoreCLR.PluginsTheorems — failure atomicity of `clrInit`.

`clrInit` runs through ten mandatory external steps in four nested
functions. Eight of them are checked and their failure leaves `gPlugins`
alone (`HostfxrReady`, `clrInit_notReady`). The last two, the context handle
and the delegate, are checked by `initHostFxr`, whose result
`loadAndInitHostFxr` drops: a failure there registers a plugin without a
delegate (`clrInit_ready`, `initHostFxr_pfnLoadAssembly`).

`clrInit_failureAtomic_iff` says exactly when a call is atomic, and that a
run registers complete plugins only exactly when no call of it loses the
error of `initHostFxr`. That direction needs that an entry stays for good
(`getElem?_exec`): this backend never erases one.
-/
import EzDotnet.Common.Handles
import EzDotnet.CoreCLR.Plugins

namespace EzDotnet.CoreCLR

/-! ## The mandatory steps -/

/-- The buffer `get_hostfxr_path` fills, as the path of hostfxr. -/
def reportedPath (env : InitEnv) : Str :=
  strConv 8 (env.nethost.path (List.replicate env.nethost.pathSize.2 0#8)).2

/-- The mandatory steps before the initializer is called. -/
structure HostfxrReady (env : InitEnv) (assemblyPath : Str) : Prop where
  nethostOpens : env.nethost.opens
    (toNativePath .unix (posix.join (posix.parentPath assemblyPath) nethostName)) = true
  nethostSymbol : env.nethost.hasSymbol = true
  sizeReported : env.nethost.pathSize.1 ≠ 0 ∧ env.nethost.pathSize.2 ≠ 0
  pathReported : (env.nethost.path (List.replicate env.nethost.pathSize.2 0#8)).1 = 0
  hostfxrOpens : env.hostfxr.opens (cstr (toNativePath .unix (reportedPath env))) = true
  initializerFound :
    env.hostfxr.symbol (lit "hostfxr_initialize_for_dotnet_command_line") ≠ none
  getDelegateFound : env.hostfxr.symbol (lit "hostfxr_get_runtime_delegate") ≠ none
  closeFound : env.hostfxr.symbol (lit "hostfxr_close") ≠ none

/-- The context `initHostFxr` starts from when these steps succeed. -/
def readyCtx (env : InitEnv) (assemblyPath : Str) : DotnetCtx :=
  resolveSymbols env.hostfxr (newCtx assemblyPath (reportedPath env))

/-- The last two mandatory steps: a context handle and a delegate. -/
def ContextInitialised (env : InitEnv) (assemblyPath : Str) : Prop :=
  ∃ context delegate,
    env.hostfxr.initializer (initializerArgs (readyCtx env assemblyPath)) = some context ∧
      env.hostfxr.getDelegate context = some delegate

def MandatorySteps (env : InitEnv) (assemblyPath : Str) : Prop :=
  HostfxrReady env assemblyPath ∧ ContextInitialised env assemblyPath

/-! ## What each function does -/

theorem initHostFxr_pfnLoadAssembly (env : HostfxrEnv) (ctx : DotnetCtx) (f : Addr)
    (hunset : ctx.pfnLoadAssembly = .unset) :
    (initHostFxr env ctx).2.1.pfnLoadAssembly = .ptr f ↔
      ∃ context, env.initializer (initializerArgs ctx) = some context ∧
        env.getDelegate context = some f := by
  unfold initHostFxr
  cases hinit : env.initializer (initializerArgs ctx) with
  | none => simp [hinit, hunset]
  | some context =>
    cases hdel : env.getDelegate context with
    | none => simp [hinit, hdel, hunset]
    | some g => simp [hinit, hdel]

/-- `initHostFxr` writes no member but `pfnLoadAssembly`; the context
handle is not kept. -/
theorem initHostFxr_frame (env : HostfxrEnv) (ctx : DotnetCtx) :
    (initHostFxr env ctx).2.1 =
      { ctx with pfnLoadAssembly := (initHostFxr env ctx).2.1.pfnLoadAssembly } := by
  unfold initHostFxr
  dsimp only
  split
  · rfl
  · split <;> rfl

theorem getHostFxrPath_ok {env : InitEnv} {p : Str} (h : HostfxrReady env p) :
    (getHostFxrPath env.nethost (posix.parentPath p)).1 = .ok (reportedPath env) := by
  unfold getHostFxrPath
  simp [h.nethostOpens, h.nethostSymbol, h.sizeReported, h.pathReported, reportedPath]

/-- The path is delivered only when nethost's four steps succeeded. -/
theorem getHostFxrPath_inv {env : NethostEnv 8} {dir path : Str}
    (h : (getHostFxrPath env dir).1 = .ok path) :
    env.opens (toNativePath .unix (posix.join dir nethostName)) = true ∧
      env.hasSymbol = true ∧ (env.pathSize.1 ≠ 0 ∧ env.pathSize.2 ≠ 0) ∧
      (env.path (List.replicate env.pathSize.2 0#8)).1 = 0 ∧
      path = strConv 8 (env.path (List.replicate env.pathSize.2 0#8)).2 := by
  unfold getHostFxrPath at h
  dsimp only at h
  split at h
  · cases h
  · next hopen =>
    split at h
    · cases h
    · next hsym =>
      split at h
      · cases h
      · next hsize =>
        split at h
        · cases h
        · next hpath =>
          have hpath' : path = _ := (Except.ok.inj h).symm
          refine ⟨by simpa using hopen, by simpa using hsym, by simpa using hsize,
            by simpa using hpath, hpath'⟩

theorem loadAndInitHostFxr_ready {env : InitEnv} {p : Str} (h : HostfxrReady env p) :
    loadAndInitHostFxr env.hostfxr (newCtx p (reportedPath env)) =
      (0, (initHostFxr env.hostfxr (readyCtx env p)).2.1,
        .openLibrary (cstr (toNativePath .unix (reportedPath env))) true ::
          (initHostFxr env.hostfxr (readyCtx env p)).2.2) := by
  unfold loadAndInitHostFxr
  simp [newCtx, h.hostfxrOpens, resolveSymbols, h.initializerFound, h.getDelegateFound,
    h.closeFound, readyCtx]

/-- It reports success only when the library and the three symbols it
needs were found. -/
theorem loadAndInitHostFxr_inv {env : HostfxrEnv} {ctx : DotnetCtx}
    (h : (loadAndInitHostFxr env ctx).1 = 0) :
    env.opens (cstr ctx.hostfxrPath) = true ∧
      env.symbol (lit "hostfxr_initialize_for_dotnet_command_line") ≠ none ∧
      env.symbol (lit "hostfxr_get_runtime_delegate") ≠ none ∧
      env.symbol (lit "hostfxr_close") ≠ none := by
  unfold loadAndInitHostFxr at h
  dsimp only at h
  split at h
  · simp at h
  · next hopen =>
    split at h
    · simp at h
    · next hsym =>
      simp only [resolveSymbols, Slot.ofOption_eq_null, not_or] at hsym
      exact ⟨by simpa using hopen, hsym⟩

/-! ## `clrInit` by cases -/

variable {abi : Abi} {s : State} {p d : Str} {env : InitEnv}

theorem clrInit_hit (h : strHash abi p ∈ s.gPlugins) :
    clrInit abi s p d env = ⟨s, .value (strHash abi p), []⟩ := if_pos h

theorem clrInit_busy (h : strHash abi p ∉ s.gPlugins) (hsize : 0 < s.gPlugins.size) :
    clrInit abi s p d env = ⟨s, .value nullAsmHandle, []⟩ := by
  unfold clrInit
  rw [if_neg h, if_pos hsize]

theorem clrInit_notReady (h : strHash abi p ∉ s.gPlugins) (hsize : s.gPlugins.size = 0)
    (hready : ¬ HostfxrReady env p) :
    ∃ calls, clrInit abi s p d env = ⟨s, .value nullAsmHandle, calls⟩ := by
  unfold clrInit
  rw [if_neg h, if_neg (by omega), if_pos (by omega)]
  cases hpath : getHostFxrPath env.nethost (posix.parentPath p) with
  | mk result calls =>
    cases result with
    | error e => exact ⟨calls, rfl⟩
    | ok path =>
      obtain ⟨hopen, hsym, hsize, hresult, rfl⟩ := getHostFxrPath_inv (congrArg Prod.fst hpath)
      have hrc : (loadAndInitHostFxr env.hostfxr (newCtx p (reportedPath env))).1 ≠ 0 := by
        intro hzero
        obtain ⟨hlib, hinit, hdel, hclose⟩ := loadAndInitHostFxr_inv hzero
        exact hready ⟨hopen, hsym, hsize, hresult, hlib, hinit, hdel, hclose⟩
      exact ⟨_, if_pos hrc⟩

theorem clrInit_ready (h : strHash abi p ∉ s.gPlugins) (hsize : s.gPlugins.size = 0)
    (hready : HostfxrReady env p) :
    ∃ calls, clrInit abi s p d env =
      ⟨⟨s.gPlugins.insertIfNew (strHash abi p)
          ⟨(initHostFxr env.hostfxr (readyCtx env p)).2.1⟩⟩,
        .value (strHash abi p),
        calls ++ (initHostFxr env.hostfxr (readyCtx env p)).2.2⟩ := by
  unfold clrInit
  rw [if_neg h, if_neg (by omega), if_pos (by omega)]
  have hok := getHostFxrPath_ok hready
  cases hpath : getHostFxrPath env.nethost (posix.parentPath p) with
  | mk result calls =>
    rw [hpath] at hok
    obtain rfl : result = .ok (reportedPath env) := hok
    refine ⟨calls ++ [.openLibrary (cstr (toNativePath .unix (reportedPath env))) true], ?_⟩
    simp [loadAndInitHostFxr_ready hready]

/-- Either nothing changes, or the first plugin of the process goes in. -/
theorem clrInit_state (abi : Abi) (s : State) (p d : Str) (env : InitEnv) :
    (clrInit abi s p d env).state = s ∨
      (strHash abi p ∉ s.gPlugins ∧ s.gPlugins.size = 0 ∧ HostfxrReady env p ∧
        (clrInit abi s p d env).state =
          ⟨s.gPlugins.insertIfNew (strHash abi p)
            ⟨(initHostFxr env.hostfxr (readyCtx env p)).2.1⟩⟩) := by
  by_cases hmem : strHash abi p ∈ s.gPlugins
  · exact .inl (by rw [clrInit_hit hmem])
  rcases Nat.eq_zero_or_pos s.gPlugins.size with hsize | hsize
  · by_cases hready : HostfxrReady env p
    · obtain ⟨calls, hr⟩ := clrInit_ready (d := d) hmem hsize hready
      exact .inr ⟨hmem, hsize, hready, by rw [hr]⟩
    · obtain ⟨calls, hr⟩ := clrInit_notReady (d := d) hmem hsize hready
      exact .inl (by rw [hr])
  · exact .inl (by rw [clrInit_busy hmem hsize])

@[simp] theorem clrDeInit_state (s : State) (h : AsmHandle) (rc : Int) :
    (clrDeInit s h rc).state = s := by
  unfold clrDeInit
  split
  · rfl
  · split <;> rfl

@[simp] theorem runMethod_state (abi : Abi) (s : State) (h : AsmHandle) (ty me : Str)
    (a : Argv) (env : RunEnv) : (runMethod abi s h ty me a env).state = s := by
  unfold runMethod
  split <;> rfl

/-- The registry is filled under the hash of the path as it was given. -/
theorem keyed (abi : Abi) : (backend abi).Keyed where
  start := rfl
  clrInit s p d env := by
    show ∃ made, (clrInit abi s p d env).state.gPlugins
        = Lib.acquire s.gPlugins (strHash abi p) made ∧
      (strHash abi p ∈ s.gPlugins ∨ made.isSome →
        (clrInit abi s p d env).ret = .value (strHash abi p)) ∧
      (¬ (strHash abi p ∈ s.gPlugins ∨ made.isSome) →
        ∀ h, (clrInit abi s p d env).ret = .value h → h = nullAsmHandle)
    by_cases hmem : strHash abi p ∈ s.gPlugins
    · rw [clrInit_hit hmem]
      exact ⟨none, by simp, fun _ => rfl, fun h => absurd (.inl hmem) h⟩
    rcases Nat.eq_zero_or_pos s.gPlugins.size with hsize | hsize
    · by_cases hready : HostfxrReady env p
      · obtain ⟨calls, hr⟩ := clrInit_ready (d := d) hmem hsize hready
        rw [hr]
        exact ⟨some _, (Lib.acquire_some hmem _).symm, fun _ => rfl, by simp⟩
      · obtain ⟨calls, hr⟩ := clrInit_notReady (d := d) hmem hsize hready
        rw [hr]
        exact ⟨none, by simp, by simp [hmem], fun _ h hh => (Ret.value.inj hh).symm⟩
    · rw [clrInit_busy hmem hsize]
      exact ⟨none, by simp, by simp [hmem], fun _ h hh => (Ret.value.inj hh).symm⟩
  runMethod s h ty me a env := by
    show (runMethod abi s h ty me a env).state.gPlugins = s.gPlugins
    rw [runMethod_state]

/-! ## Entries stay -/

theorem notMem_of_size_eq_zero {s : State} (hsize : s.gPlugins.size = 0) (h : AsmHandle) :
    h ∉ s.gPlugins := by
  rw [Std.ExtTreeMap.eq_empty_iff_size_eq_zero.mpr hsize]
  exact Std.ExtTreeMap.not_mem_empty

theorem getElem?_next {s : State} {h : AsmHandle} {plugin : PluginInstance}
    (hs : s.gPlugins[h]? = some plugin) (abi : Abi) (c : Call) :
    ((backend abi).machine.next s c).gPlugins[h]? = some plugin := by
  cases c with
  | clrInit p d env =>
    show (clrInit abi s p d env).state.gPlugins[h]? = some plugin
    rcases clrInit_state abi s p d env with heq | ⟨hmem, _, _, heq⟩
    · rw [heq]; exact hs
    · rw [heq]
      have hne : strHash abi p ≠ h := by
        rintro rfl
        exact hmem (Lib.mem_iff_exists_getElem?.mpr ⟨plugin, hs⟩)
      rw [Std.ExtTreeMap.getElem?_insertIfNew, if_neg (by simp [hne])]
      exact hs
  | clrDeInit g rc =>
    show (clrDeInit s g rc).state.gPlugins[h]? = some plugin
    rw [clrDeInit_state]; exact hs
  | runMethod g ty me a env =>
    show (runMethod abi s g ty me a env).state.gPlugins[h]? = some plugin
    rw [runMethod_state]; exact hs

theorem getElem?_exec {s : State} {h : AsmHandle} {plugin : PluginInstance}
    (hs : s.gPlugins[h]? = some plugin) (abi : Abi) (calls : List Call) :
    ((backend abi).machine.exec s calls).gPlugins[h]? = some plugin :=
  (backend abi).machine.exec_invariant (P := fun t => t.gPlugins[h]? = some plugin) hs
    fun x _ hx => getElem?_next hx abi x.2

/-! ## Failure atomicity -/

/-- `clrInit` hands out a registered handle only when every mandatory step
succeeded; when one failed it answers `NULL_ASMHANDLE` and the map is as
before. -/
def FailureAtomic (abi : Abi) (s : State) (p d : Str) (env : InitEnv) : Prop :=
  let r := clrInit abi s p d env
  (∀ h, r.ret = .value h → h ≠ nullAsmHandle → h ∈ r.state.gPlugins →
      MandatorySteps env p) ∧
    (¬ MandatorySteps env p →
      r.ret = .value nullAsmHandle ∧ r.state.gPlugins = s.gPlugins)

/-- `initHostFxr` is reached and fails: the error `loadAndInitHostFxr`
drops. -/
def LosesInitError (s : State) (p : Str) (env : InitEnv) : Prop :=
  s.gPlugins.size = 0 ∧ HostfxrReady env p ∧ ¬ ContextInitialised env p

/-- No call of the run loses that error. -/
def KeepsInitErrors (abi : Abi) (calls : List Call) : Prop :=
  ∀ s p d env, (s, ApiCall.clrInit p d env) ∈ (backend abi).machine.trace start calls →
    ¬ LosesInitError s p env

/-- The delegate that `runMethod` calls was stored. -/
def PluginInstance.HasDelegate (plugin : PluginInstance) : Prop :=
  ∃ f, plugin.mCtx.pfnLoadAssembly = .ptr f

def AllHaveDelegate (s : State) : Prop :=
  ∀ (h : AsmHandle) (plugin : PluginInstance),
    s.gPlugins[h]? = some plugin → plugin.HasDelegate

theorem readyCtx_pfnLoadAssembly (env : InitEnv) (p : Str) :
    (readyCtx env p).pfnLoadAssembly = .unset := rfl

theorem hasDelegate_iff (env : InitEnv) (p : Str) :
    PluginInstance.HasDelegate ⟨(initHostFxr env.hostfxr (readyCtx env p)).2.1⟩ ↔
      ContextInitialised env p := by
  unfold PluginInstance.HasDelegate ContextInitialised
  simp only [initHostFxr_pfnLoadAssembly _ _ _ (readyCtx_pfnLoadAssembly env p)]
  exact exists_comm

theorem failureAtomic_of_unchanged {abi : Abi} {s : State} {p d : Str} {env : InitEnv}
    (hret : (clrInit abi s p d env).ret = .value nullAsmHandle)
    (hstate : (clrInit abi s p d env).state = s) : FailureAtomic abi s p d env := by
  refine ⟨fun h hh hne => ?_, fun _ => ⟨hret, by rw [hstate]⟩⟩
  rw [hret] at hh
  cases hh
  exact absurd rfl hne

theorem failureAtomic_iff {abi : Abi} {s : State} {p d : Str} {env : InitEnv}
    (hmem : strHash abi p ∉ s.gPlugins) :
    FailureAtomic abi s p d env ↔ ¬ LosesInitError s p env := by
  rcases Nat.eq_zero_or_pos s.gPlugins.size with hsize | hsize
  · by_cases hready : HostfxrReady env p
    · obtain ⟨calls, hr⟩ := clrInit_ready (d := d) hmem hsize hready
      by_cases hctx : ContextInitialised env p
      · have hall : MandatorySteps env p := ⟨hready, hctx⟩
        exact ⟨fun _ hlose => hlose.2.2 hctx,
          fun _ => ⟨fun _ _ _ _ => hall, fun hnot => absurd hall hnot⟩⟩
      · -- the plugin went in although the context was not initialised
        refine ⟨fun hatomic => ?_, fun hkeep => absurd ⟨hsize, hready, hctx⟩ hkeep⟩
        obtain ⟨_, hsame⟩ := hatomic.2 fun hall => hctx hall.2
        rw [hr] at hsame
        exact absurd (hsame ▸ Std.ExtTreeMap.mem_insertIfNew_self) hmem
    · obtain ⟨calls, hr⟩ := clrInit_notReady (d := d) hmem hsize hready
      exact ⟨fun _ hlose => hready hlose.2.1,
        fun _ => failureAtomic_of_unchanged (by rw [hr]) (by rw [hr])⟩
  · have hr : clrInit abi s p d env = ⟨s, .value nullAsmHandle, []⟩ := clrInit_busy hmem hsize
    refine ⟨fun _ hlose => ?_, fun _ => failureAtomic_of_unchanged (by rw [hr]) (by rw [hr])⟩
    have hzero := hlose.1
    omega

/-- A step that keeps the error registers no plugin without a delegate. -/
theorem allHaveDelegate_next {abi : Abi} {s : State} {c : Call}
    (hkeep : ∀ p d env, c = .clrInit p d env → ¬ LosesInitError s p env)
    (hs : AllHaveDelegate s) : AllHaveDelegate ((backend abi).machine.next s c) := by
  cases c with
  | clrInit p d env =>
    intro h plugin hplugin
    change (clrInit abi s p d env).state.gPlugins[h]? = some plugin at hplugin
    rcases clrInit_state abi s p d env with heq | ⟨hmem, hsize, hready, heq⟩
    · exact hs h plugin (heq ▸ hplugin)
    · rw [heq, Std.ExtTreeMap.getElem?_insertIfNew] at hplugin
      split at hplugin
      · have hctx : ContextInitialised env p := by
          by_contra hctx
          exact hkeep p d env rfl ⟨hsize, hready, hctx⟩
        obtain rfl := Option.some.inj hplugin
        exact (hasDelegate_iff env p).mpr hctx
      · exact hs h plugin hplugin
  | clrDeInit g rc =>
    show AllHaveDelegate (clrDeInit s g rc).state
    rw [clrDeInit_state]; exact hs
  | runMethod g ty me a env =>
    show AllHaveDelegate (runMethod abi s g ty me a env).state
    rw [runMethod_state]; exact hs

theorem allHaveDelegate_start : AllHaveDelegate start := by
  intro h plugin hplugin
  have hempty : start.gPlugins[h]? = none := Std.ExtTreeMap.getElem?_empty
  rw [hempty] at hplugin
  cases hplugin

theorem allHaveDelegate_of_keepsInitErrors {abi : Abi} {calls : List Call}
    (hkeep : KeepsInitErrors abi calls) : AllHaveDelegate ((backend abi).run calls) := by
  refine (backend abi).machine.exec_invariant allHaveDelegate_start ?_
  rintro ⟨s, c⟩ hx hs
  exact allHaveDelegate_next (fun p d env hc => hkeep s p d env (hc ▸ hx)) hs

/-- A lost error leaves a plugin without delegate in the map for good. -/
theorem keepsInitErrors_of_allHaveDelegate {abi : Abi} {calls : List Call}
    (hall : AllHaveDelegate ((backend abi).run calls)) : KeepsInitErrors abi calls := by
  intro s p d env hx hlose
  obtain ⟨pre, post, rfl, rfl⟩ := (backend abi).machine.mem_trace.mp hx
  obtain ⟨hsize, hready, hctx⟩ := hlose
  have hmem := notMem_of_size_eq_zero hsize (strHash abi p)
  obtain ⟨icalls, hr⟩ := clrInit_ready (d := d) hmem hsize hready
  have hnew : ((backend abi).machine.next ((backend abi).machine.exec start pre)
      (.clrInit p d env)).gPlugins[strHash abi p]? =
        some ⟨(initHostFxr env.hostfxr (readyCtx env p)).2.1⟩ := by
    show (clrInit abi _ p d env).state.gPlugins[strHash abi p]? = _
    rw [hr, Std.ExtTreeMap.getElem?_insertIfNew, if_pos ⟨by simp, hmem⟩]
  have hend := getElem?_exec hnew abi post
  rw [← (backend abi).machine.exec_cons, ← (backend abi).machine.exec_append] at hend
  exact hctx ((hasDelegate_iff env p).mp (hall _ _ hend))

theorem runMethod_defined {abi : Abi} {s : State} (hs : AllHaveDelegate s)
    (h : AsmHandle) (ty me : Str) (a : Argv) (env : RunEnv) :
    (runMethod abi s h ty me a env).ret ≠ .undefined := by
  unfold runMethod
  split
  · simp
  · next plugin hplugin =>
    obtain ⟨f, hf⟩ := hs h plugin hplugin
    simp only [PluginInstance.runMethod, hf]
    split
    · simp
    · split <;> simp

/-- Exactly when `clrInit` is atomic in its failures, for one call and over
a run: a call is, unless `initHostFxr` is reached and fails; and the plugins
of a run all have their delegate, so that no `runMethod` goes through an
unset pointer, when no call of the run loses that failure. -/
theorem clrInit_failureAtomic_iff (abi : Abi) :
    (∀ s p d env, strHash abi p ∉ s.gPlugins →
      (FailureAtomic abi s p d env ↔ ¬ LosesInitError s p env)) ∧
    ∀ calls : List Call,
      (AllHaveDelegate ((backend abi).run calls) ↔ KeepsInitErrors abi calls) ∧
      (KeepsInitErrors abi calls →
        (∀ h ty me a env,
          (runMethod abi ((backend abi).run calls) h ty me a env).ret ≠ .undefined) ∧
        ∀ s p d env,
          (s, ApiCall.clrInit p d env) ∈ (backend abi).machine.trace start calls →
          strHash abi p ∉ s.gPlugins → FailureAtomic abi s p d env) := by
  refine ⟨fun s p d env hmem => failureAtomic_iff hmem, fun calls => ⟨?_, fun hkeep => ⟨?_, ?_⟩⟩⟩
  · exact ⟨keepsInitErrors_of_allHaveDelegate, allHaveDelegate_of_keepsInitErrors⟩
  · exact runMethod_defined (allHaveDelegate_of_keepsInitErrors hkeep)
  · intro s p d env hx hmem
    exact (failureAtomic_iff hmem).mpr (hkeep s p d env hx)

/-- A hostfxr whose initializer leaves `runtimeHandle` null. -/
def noContextEnv : InitEnv where
  nethost :=
    { opens := fun _ => true
      hasSymbol := true
      pathSize := (0x80008098, 5)
      path := fun _ => (0, lit "/fxr" ++ [0#8]) }
  hostfxr :=
    { opens := fun _ => true
      symbol := fun _ => some 1
      initializer := fun _ => none
      getDelegate := fun _ => some 2 }

def samplePath : Str := lit "/app/P.dll"

/-- The initializer failed, and yet the plugin is registered, its handle
is handed out, and the next `runMethod` calls through an unset pointer. -/
theorem clrInit_registers_without_context :
    strHash linux64 samplePath ∉ start.gPlugins ∧
    ¬ FailureAtomic linux64 start samplePath [] noContextEnv ∧
    (clrInit linux64 start samplePath [] noContextEnv).ret =
      .value (strHash linux64 samplePath) ∧
    strHash linux64 samplePath ≠ nullAsmHandle ∧
    (runMethod linux64 (clrInit linux64 start samplePath [] noContextEnv).state
      (strHash linux64 samplePath) (lit "T") (lit "M") ⟨0, 0⟩
      ⟨fun _ _ _ => some 3, fun _ => true⟩).ret = .undefined := by
  have hmem : strHash linux64 samplePath ∉ start.gPlugins := Std.ExtTreeMap.not_mem_empty
  refine ⟨hmem, fun hatomic => ?_, by decide, by decide, by decide⟩
  refine (failureAtomic_iff hmem).mp hatomic ⟨rfl, ?_, ?_⟩
  · constructor <;> decide
  · intro hex
    obtain ⟨context, delegate, hnone, -⟩ := hex
    cases hnone

end EzDotnet.CoreCLR
