/-
EzDotnet.CLRHost.DispatchTheorems — which method `runMethod` invokes.

A handle may be registered, deinitialised and registered again, for the same
path or for one that collides with it, and each time the entry gets an
instance in a domain of its own. `resolve_instance` says where an instance
comes from; here it is what its methods are looked up in.

**Main theorem** (`instance_invoked_iff`): in every run, a method is invoked under a
handle exactly when it is found in the assembly that the LAST `initialize`
which made an instance for the handle has loaded, with no `clrDeInit` that
took the entry away since. One that throws, in `Disconnect` or in `Unload`,
leaves it there.
-/
import EzDotnet.CLRHost.AssemblyResolve

namespace EzDotnet.CLRHost

variable {fs : PathFns} {abi : Abi} {s : State}

theorem not_holds_start (h : AsmHandle) (inst : AssemblyInstance) : ¬ Holds h inst start := by
  simp [Holds, start]

/-- `AssemblyInstance::runMethod` invokes the method that its assembly has. -/
theorem invoke_mem_instance {inst : AssemblyInstance} {ty me : Str} {a : Argv} {env : RunEnv}
    {method : Method} {args : Addr} {size : BitVec 32} :
    ClrCall.invoke method args size ∈ (inst.runMethod abi ty me a env).2 ↔
      args = a.argv ∧ size = a.sizeInBytes abi ∧ inst.findMethod ty me env = .ok (some method) := by
  unfold AssemblyInstance.runMethod
  rcases inst.findMethod ty me env with e | (_ | found)
  · simp
  · simp
  · simp only [List.mem_singleton, ClrCall.invoke.injEq, Except.ok.injEq, Option.some.injEq]
    constructor
    · rintro ⟨rfl, rfl, rfl⟩
      exact ⟨rfl, rfl, rfl⟩
    · rintro ⟨rfl, rfl, rfl⟩
      exact ⟨rfl, rfl, rfl⟩

theorem invoke_mem_runMethod {h : AsmHandle} {ty me : Str} {a : Argv} {env : RunEnv}
    {method : Method} {args : Addr} {size : BitVec 32} :
    ClrCall.invoke method args size ∈ (runMethod abi s h ty me a env).calls ↔
      args = a.argv ∧ size = a.sizeInBytes abi ∧
        ∃ inst, Holds h inst s ∧ inst.findMethod ty me env = .ok (some method) := by
  unfold runMethod Holds
  cases hdata : s.gHandles[h]? with
  | none => simp
  | some data =>
    dsimp only [Option.bind_some]
    cases data.instance? with
    | none => simp
    | some inst =>
      -- what `runMethod` makes of the outcome does not touch the calls
      simp only [Option.some.injEq, exists_eq_left']
      rw [← invoke_mem_instance]
      rcases inst.runMethod abi ty me a env with ⟨_ | _, _⟩ <;> exact Iff.rfl

/-- In every run, a method is invoked under a handle exactly when it is found
in the assembly of the instance that the last `initialize` which made one for
the handle has left there, and no `clrDeInit` has taken away since. -/
theorem instance_invoked_iff (fs : PathFns) (abi : Abi) (calls : List NativeCall) (h : AsmHandle)
    (ty me : Str) (a : Argv) (env : RunEnv) (method : Method) (args : Addr)
    (size : BitVec 32) :
    ClrCall.invoke method args size ∈
        (runMethod abi ((nativeMachine fs abi).exec start calls) h ty me a env).calls ↔
      args = a.argv ∧ size = a.sizeInBytes abi ∧ ∃ inst pre c,
        (nativeMachine fs abi).SwitchedOn (Holds h inst) start calls pre c ∧
          (∃ p d env' hostDir, c = .initializeAsm p d env' ∧
            MadeBy fs abi inst h p env' hostDir) ∧
          inst.findMethod ty me env = .ok (some method) := by
  rw [invoke_mem_runMethod]
  refine and_congr_right fun _ => and_congr_right fun _ => ?_
  exact (nativeMachine fs abi).exists_exec_iff (not_holds_start h) fun _ _ _ => holds_next

end EzDotnet.CLRHost
