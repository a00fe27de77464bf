/-
EzDotnet.CoreCLR.DispatchTheorems — which entry point `runMethod` calls.

The entry of a handle is made once, by the `clrInit` that registered it, and
stays (`Holds`, `MadeBy`): its path is the one this call was given, and its
delegate the one that hostfxr wrote for the context of that path.

**Main theorem** (`entry_called_iff`): in every run, an entry point is called
under a handle exactly when that delegate finds it, for the class with the
name of THAT assembly behind it. What later calls of `clrInit` meet, and what
`hostfxr_close` does, has no part in it.
-/
import EzDotnet.CoreCLR.PluginsTheorems

namespace EzDotnet.CoreCLR

/-- The entry `h` holds this plugin. -/
def Holds (h : AsmHandle) (plugin : PluginInstance) (s : State) : Prop :=
  s.gPlugins[h]? = some plugin

/-- What the initializer is given for an assembly. -/
def hostArgs (p : Str) : InitializerArgs where
  argv := [toNativeFxPath .unix p]
  hostPath := toNativeFxPath .unix (posix.parentPath p)
  dotnetRoot := none

/-- The plugin that a `clrInit` of `p` registers. -/
structure MadeBy (abi : Abi) (plugin : PluginInstance) (h : AsmHandle) (p : Str)
    (env : InitEnv) : Prop where
  handle : strHash abi p = h
  ready : HostfxrReady env p
  asmPath : plugin.mCtx.asmPath = p
  pfnLoadAssembly : ∀ f, plugin.mCtx.pfnLoadAssembly = .ptr f ↔
    ∃ context, env.hostfxr.initializer (hostArgs p) = some context ∧
      env.hostfxr.getDelegate context = some f

/-- The delegate of the plugin finds this entry point. -/
def PluginInstance.Finds (plugin : PluginInstance) (typeName methodName : Str) (env : RunEnv)
    (pfnEntry : Addr) : Prop :=
  ∃ f, plugin.mCtx.pfnLoadAssembly = .ptr f ∧
    env.getFunctionPointer f
      (strConv 8 typeName ++ lit "," ++ posix.stem plugin.mCtx.asmPath)
      (strConv 8 methodName) = some pfnEntry

variable {abi : Abi} {s : State}

theorem madeBy_ready {env : InitEnv} {p : Str} (hready : HostfxrReady env p) :
    MadeBy abi ⟨(initHostFxr env.hostfxr (readyCtx env p)).2.1⟩ (strHash abi p) p env where
  handle := rfl
  ready := hready
  asmPath := by
    rw [initHostFxr_frame]
    rfl
  pfnLoadAssembly f := initHostFxr_pfnLoadAssembly env.hostfxr (readyCtx env p) f rfl

/-- Only `clrInit` puts a plugin into an entry. -/
theorem holds_next (h : AsmHandle) (plugin : PluginInstance) (s : State) (c : Call)
    (hnot : ¬ Holds h plugin s) (hnext : Holds h plugin ((backend abi).machine.next s c)) :
    ∃ p d env, c = .clrInit p d env ∧ MadeBy abi plugin h p env := by
  cases c with
  | clrInit p d env =>
    refine ⟨p, d, env, rfl, ?_⟩
    change Holds h plugin (clrInit abi s p d env).state at hnext
    rcases clrInit_state abi s p d env with heq | ⟨-, -, hready, heq⟩
    · rw [heq] at hnext
      exact absurd hnext hnot
    · unfold Holds at hnext
      rw [heq, Std.ExtTreeMap.getElem?_insertIfNew] at hnext
      split at hnext
      · next hkey =>
        obtain rfl : strHash abi p = h := Std.compare_eq_iff_eq.mp hkey.1
        obtain rfl := Option.some.inj hnext
        exact madeBy_ready hready
      · exact absurd hnext hnot
  | clrDeInit g rc =>
    change Holds h plugin (clrDeInit s g rc).state at hnext
    rw [clrDeInit_state] at hnext
    exact absurd hnext hnot
  | runMethod g ty me a env =>
    change Holds h plugin (runMethod abi s g ty me a env).state at hnext
    rw [runMethod_state] at hnext
    exact absurd hnext hnot

theorem not_holds_start (h : AsmHandle) (plugin : PluginInstance) : ¬ Holds h plugin start := by
  simp [Holds, start]

/-- `PluginInstance::runMethod` calls the entry point that its delegate finds. -/
theorem entry_mem_plugin {plugin : PluginInstance} {ty me : Str} {a : Argv} {env : RunEnv}
    {pfnEntry args : Addr} {size : BitVec 32} :
    HostCall.entry pfnEntry args size ∈ (plugin.runMethod abi ty me a env).2 ↔
      args = a.argv ∧ size = a.sizeInBytes abi ∧ plugin.Finds ty me env pfnEntry := by
  unfold PluginInstance.runMethod PluginInstance.Finds
  cases hdelegate : plugin.mCtx.pfnLoadAssembly with
  | unset => simp
  | null => simp
  | ptr f =>
    simp only [Slot.ptr.injEq, exists_eq_left']
    cases hfound : env.getFunctionPointer f
        (strConv 8 ty ++ lit "," ++ posix.stem plugin.mCtx.asmPath) (strConv 8 me) with
    | none => simp
    | some found =>
      simp only [List.mem_cons, reduceCtorEq, HostCall.entry.injEq, List.not_mem_nil, or_false,
        false_or, Option.some.injEq]
      constructor
      · rintro ⟨rfl, rfl, rfl⟩
        exact ⟨rfl, rfl, rfl⟩
      · rintro ⟨rfl, rfl, rfl⟩
        exact ⟨rfl, rfl, rfl⟩

theorem entry_mem_runMethod {h : AsmHandle} {ty me : Str} {a : Argv} {env : RunEnv}
    {pfnEntry args : Addr} {size : BitVec 32} :
    HostCall.entry pfnEntry args size ∈ (runMethod abi s h ty me a env).calls ↔
      args = a.argv ∧ size = a.sizeInBytes abi ∧
        ∃ plugin, Holds h plugin s ∧ plugin.Finds ty me env pfnEntry := by
  unfold runMethod Holds
  cases hplugin : s.gPlugins[h]? with
  | none => simp
  | some plugin => simp only [entry_mem_plugin, Option.some.injEq, exists_eq_left']

/-- In every run, an entry point is called under a handle exactly when the
delegate that the `clrInit` which registered the handle got from hostfxr finds
it, in the assembly that this `clrInit` was given. -/
theorem entry_called_iff (abi : Abi) (calls : List Call) (h : AsmHandle) (ty me : Str)
    (a : Argv) (env : RunEnv) (pfnEntry args : Addr) (size : BitVec 32) :
    HostCall.entry pfnEntry args size ∈
        (runMethod abi ((backend abi).run calls) h ty me a env).calls ↔
      args = a.argv ∧ size = a.sizeInBytes abi ∧ ∃ plugin pre c,
        (backend abi).machine.SwitchedOn (Holds h plugin) start calls pre c ∧
          (∃ p d env', c = .clrInit p d env' ∧ MadeBy abi plugin h p env') ∧
          plugin.Finds ty me env pfnEntry := by
  rw [entry_mem_runMethod]
  refine and_congr_right fun _ => and_congr_right fun _ => ?_
  exact (backend abi).machine.exists_exec_iff (not_holds_start h) (holds_next h)

end EzDotnet.CoreCLR
