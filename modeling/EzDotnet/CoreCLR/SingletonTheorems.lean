/-
EzDotnet.CoreCLR.SingletonTheorems — at most one runtime and one plugin in
the life of a process.

The ledger is `gPlugins` itself: a `clrInit` that comes to the initializer
inserts an entry, whatever the initializer then does, and no other call
does (`size_next`). So the number of entries is at any time the number of
initializer calls so far, and the guard `gPlugins.size() > 0` keeps it from
going past one. Attempts that fail before hostfxr is loaded cost nothing and
may be repeated at will.
-/
import EzDotnet.Common.Emitted
import EzDotnet.CoreCLR.PluginsTheorems

namespace EzDotnet.CoreCLR

/-- The call of `hostfxr_initialize_for_dotnet_command_line`. -/
def HostCall.isInitializer : HostCall → Bool
  | .initializer _ _ => true
  | _ => false

/-! ## Who calls the initializer -/

theorem countP_initHostFxr (env : HostfxrEnv) (ctx : DotnetCtx) :
    (initHostFxr env ctx).2.2.countP HostCall.isInitializer = 1 := by
  unfold initHostFxr
  dsimp only
  split
  · rfl
  · split <;> rfl

/-- `loadAndInitHostFxr` returns 0 exactly when it came to the
initializer. -/
theorem countP_loadAndInitHostFxr (env : HostfxrEnv) (ctx : DotnetCtx) :
    (loadAndInitHostFxr env ctx).2.2.countP HostCall.isInitializer =
      if (loadAndInitHostFxr env ctx).1 = 0 then 1 else 0 := by
  unfold loadAndInitHostFxr
  dsimp only
  split
  · rfl
  · split
    · rfl
    · rw [if_pos rfl, List.countP_cons_of_neg (by simp [HostCall.isInitializer]),
        countP_initHostFxr]

theorem countP_getHostFxrPath {w : Nat} (env : NethostEnv w) (baseDir : Str) :
    (getHostFxrPath env baseDir).2.countP HostCall.isInitializer = 0 := by
  unfold getHostFxrPath
  dsimp only
  split
  · rfl
  · split
    · rfl
    · split
      · rfl
      · split <;> rfl

variable {abi : Abi}

/-- `clrInit` inserts as many entries as it calls the initializer. -/
theorem size_clrInit (s : State) (p d : Str) (env : InitEnv) :
    (clrInit abi s p d env).state.gPlugins.size =
      s.gPlugins.size + (clrInit abi s p d env).calls.countP HostCall.isInitializer := by
  by_cases hmem : strHash abi p ∈ s.gPlugins
  · rw [clrInit_hit hmem]
    simp
  rcases Nat.eq_zero_or_pos s.gPlugins.size with hsize | hsize
  · unfold clrInit
    rw [if_neg hmem, if_neg (by omega), if_pos (by omega)]
    have hpath := countP_getHostFxrPath env.nethost (posix.parentPath p)
    cases hres : getHostFxrPath env.nethost (posix.parentPath p) with
    | mk result calls =>
      rw [hres] at hpath
      cases result with
      | error e =>
        show s.gPlugins.size = s.gPlugins.size + calls.countP HostCall.isInitializer
        rw [hpath, Nat.add_zero]
      | ok hostFxrPath =>
        have hload := countP_loadAndInitHostFxr env.hostfxr (newCtx p hostFxrPath)
        dsimp only
        by_cases hrc : (loadAndInitHostFxr env.hostfxr (newCtx p hostFxrPath)).1 = 0
        · -- the initializer was called, and the entry goes in
          rw [if_pos hrc] at hload
          rw [if_neg (by simp [hrc])]
          dsimp only
          rw [List.countP_append, hpath, hload, Std.ExtTreeMap.size_insertIfNew, if_neg hmem]
        · rw [if_neg hrc] at hload
          rw [if_pos hrc]
          dsimp only
          rw [List.countP_append, hpath, hload, Nat.add_zero]
  · rw [clrInit_busy hmem hsize]
    simp

theorem countP_clrDeInit (s : State) (h : AsmHandle) (rc : Int) :
    (clrDeInit s h rc).calls.countP HostCall.isInitializer = 0 := by
  unfold clrDeInit
  split
  · rfl
  · next plugin _ =>
    unfold PluginInstance.clrDeInit
    cases plugin.mCtx.pfnClose <;> rfl

theorem countP_runMethod (s : State) (h : AsmHandle) (ty me : Str) (a : Argv) (env : RunEnv) :
    (runMethod abi s h ty me a env).calls.countP HostCall.isInitializer = 0 := by
  unfold runMethod
  split
  · rfl
  · unfold PluginInstance.runMethod
    dsimp only
    split
    · split <;> rfl
    · rfl

/-- Every step pays for its initializer calls with entries. -/
theorem size_next (s : State) (c : Call) :
    ((backend abi).machine.next s c).gPlugins.size =
      s.gPlugins.size + ((backend abi).stepCalls s c).countP HostCall.isInitializer := by
  cases c with
  | clrInit p d env => exact size_clrInit s p d env
  | clrDeInit h rc =>
    show (clrDeInit s h rc).state.gPlugins.size =
      s.gPlugins.size + (clrDeInit s h rc).calls.countP HostCall.isInitializer
    rw [clrDeInit_state, countP_clrDeInit, Nat.add_zero]
  | runMethod h ty me a env =>
    show (runMethod abi s h ty me a env).state.gPlugins.size =
      s.gPlugins.size + (runMethod abi s h ty me a env).calls.countP HostCall.isInitializer
    rw [runMethod_state, countP_runMethod, Nat.add_zero]

/-! ## Runs -/

theorem size_next_le_one {s : State} (c : Call) (hs : s.gPlugins.size ≤ 1) :
    ((backend abi).machine.next s c).gPlugins.size ≤ 1 := by
  cases c with
  | clrInit p d env =>
    show (clrInit abi s p d env).state.gPlugins.size ≤ 1
    rcases clrInit_state abi s p d env with heq | ⟨hmem, hsize, _, heq⟩
    · rw [heq]
      exact hs
    · rw [heq]
      dsimp only
      rw [Std.ExtTreeMap.size_insertIfNew, if_neg hmem, hsize]
  | clrDeInit h rc =>
    show (clrDeInit s h rc).state.gPlugins.size ≤ 1
    rw [clrDeInit_state]
    exact hs
  | runMethod h ty me a env =>
    show (runMethod abi s h ty me a env).state.gPlugins.size ≤ 1
    rw [runMethod_state]
    exact hs

theorem size_run_le_one (abi : Abi) (calls : List Call) :
    ((backend abi).run calls).gPlugins.size ≤ 1 := by
  have hstart : start.gPlugins.size ≤ 1 := by
    rw [show start.gPlugins = ∅ from rfl, Std.ExtTreeMap.size_empty]
    omega
  exact (backend abi).machine.exec_invariant (P := fun s => s.gPlugins.size ≤ 1) hstart
    fun x _ hx => size_next_le_one x.2 hx

/-- The entries of a state are the initializer calls that led to it. -/
theorem size_run (abi : Abi) (calls : List Call) :
    ((backend abi).run calls).gPlugins.size =
      ((backend abi).emitted calls).countP HostCall.isInitializer := by
  have hempty : (backend abi).start.gPlugins.size = 0 := Std.ExtTreeMap.size_empty
  have hrun : ((backend abi).run calls).gPlugins.size = (backend abi).start.gPlugins.size +
      ((backend abi).emitted calls).countP HostCall.isInitializer :=
    Backend.countP_emitted_eq (f := fun s => s.gPlugins.size) fun x _ => size_next x.1 x.2
  rw [hrun, hempty, Nat.zero_add]

/-- An entry stays registered as a run goes on. -/
theorem mem_run_later {pre calls : List Call} (hpre : pre <+: calls) {h : AsmHandle}
    (hmem : h ∈ ((backend abi).run pre).gPlugins) : h ∈ ((backend abi).run calls).gPlugins := by
  obtain ⟨post, rfl⟩ := hpre
  obtain ⟨plugin, hplugin⟩ := Lib.mem_iff_exists_getElem?.mp hmem
  rw [Backend.run, Lib.Machine.exec_append]
  exact Lib.mem_iff_exists_getElem?.mpr ⟨plugin, getElem?_exec hplugin abi post⟩

/-- At most one runtime is initialised and at most one plugin registered in
the run, and from the moment that `p` is registered it is the only path
that `clrInit` knows. -/
structure AtMostOnePlugin (abi : Abi) (calls : List Call) : Prop where
  onePlugin : ((backend abi).run calls).gPlugins.size ≤ 1
  oneInitializer : ((backend abi).emitted calls).countP HostCall.isInitializer ≤ 1
  /-- another path is refused, the entry is as before, and nothing outside
  is called -/
  refused : ∀ pre p, pre <+: calls → strHash abi p ∈ ((backend abi).run pre).gPlugins →
    ∀ q d env, strHash abi q ≠ strHash abi p →
      clrInit abi ((backend abi).run calls) q d env =
        ⟨(backend abi).run calls, .value nullAsmHandle, []⟩
  granted : ∀ pre p, pre <+: calls → strHash abi p ∈ ((backend abi).run pre).gPlugins →
    ∀ d env, clrInit abi ((backend abi).run calls) p d env =
      ⟨(backend abi).run calls, .value (strHash abi p), []⟩

/-- Every run of `clrInit`, `runMethod` and `clrDeInit`, whatever the
external calls answer, keeps to one runtime and one plugin. -/
theorem atMostOnePlugin (abi : Abi) (calls : List Call) : AtMostOnePlugin abi calls where
  onePlugin := size_run_le_one abi calls
  oneInitializer := by
    rw [← size_run]
    exact size_run_le_one abi calls
  refused pre p hpre hmem q d env hne := by
    have hp := mem_run_later hpre hmem
    have hsize := size_run_le_one abi calls
    have hq : strHash abi q ∉ ((backend abi).run calls).gPlugins := fun hq =>
      hne (Lib.eq_of_mem_of_size_le_one hsize hq hp)
    refine clrInit_busy hq (Nat.pos_of_ne_zero fun hzero => ?_)
    exact notMem_of_size_eq_zero hzero _ hp
  granted pre p hpre hmem d env := clrInit_hit (mem_run_later hpre hmem)

end EzDotnet.CoreCLR
