/-
EzDotnet.MonoCoreClr.DispatchTheorems — which method `runMethod` invokes.

Every handle lives in the one root domain, beside whatever else the process
has loaded. An entry holds no more than an image: the one of the assembly
that the runtime found under the name of the project of the deps file, when
the handle was registered (`MadeBy`). It is never replaced and never erased.

**Main theorem** (`image_invoked_iff`): in every run, a method is invoked under a
handle exactly when THAT image has a class for the split of the type name,
and the class a method of two parameters with the name. Neither a second
runtime nor a deps file that has changed since has a part in it.
-/
import EzDotnet.MonoCoreClr.HostTheorems

namespace EzDotnet.MonoCoreClr

/-- The entry `h` holds this image. -/
def Holds (h : AsmHandle) (data : AsmInstanceData) (s : State) : Prop :=
  s.gAssemblies[h]? = some data

/-- The entry that a `clrInit` of `p` registers. -/
structure MadeBy (abi : Abi) (data : AsmInstanceData) (h : AsmHandle) (p : Str)
    (env : InitEnv) : Prop where
  handle : strHash abi (getDepsJsonPath p) = h
  m_image : ∃ deps r, readDeps env p = some deps ∧ tpaOf p deps = .ok r ∧
    imageOf env (cstr r.main_asm_fqdn) = some data.m_image

/-- The image has this method. -/
def AsmInstanceData.Finds (abi : Abi) (data : AsmInstanceData) (typeName methodName : Str)
    (env : RunEnv) (method : Method) : Prop :=
  ∃ typeNs typeCls kls, splitType abi typeName = .value (typeNs, typeCls) ∧
    env.classFromName data.m_image (cstr typeNs) (cstr typeCls) = some kls ∧
      env.methodFromName kls (cstr methodName) 2 = some method

variable {abi : Abi} {s : State}

/-- Only `clrInit` puts an image into an entry. -/
theorem holds_next (h : AsmHandle) (data : AsmInstanceData) (s : State) (c : Call)
    (hnot : ¬ Holds h data s) (hnext : Holds h data ((backend abi).machine.next s c)) :
    ∃ p d env, c = .clrInit p d env ∧ MadeBy abi data h p env := by
  cases c with
  | clrInit p d env =>
    refine ⟨p, d, env, rfl, ?_⟩
    change Holds h data (clrInit abi s p d env).state at hnext
    by_cases hmem : (backend abi).key p ∈ s.gAssemblies
    · rw [clrInit_hit hmem] at hnext
      exact absurd hnext hnot
    cases hdeps : readDeps env p with
    | none =>
      rw [(clrInit_noDeps hmem hdeps).1] at hnext
      exact absurd hnext hnot
    | some deps =>
      cases hbuilt : tpaOf p deps with
      | error f =>
        rw [(clrInit_fault hmem hdeps hbuilt).1] at hnext
        exact absurd hnext hnot
      | ok r =>
        unfold Holds at hnext
        rw [(clrInit_built hmem hdeps hbuilt).1] at hnext
        cases himage : imageOf env (cstr r.main_asm_fqdn) with
        | none =>
          rw [himage, Option.map_none, Lib.acquire_none] at hnext
          exact absurd hnext hnot
        | some img =>
          rw [himage, Option.map_some, Lib.acquire_some hmem,
            Std.ExtTreeMap.getElem?_insertIfNew] at hnext
          split at hnext
          · next hkey =>
            obtain rfl := Option.some.inj hnext
            exact ⟨Std.compare_eq_iff_eq.mp hkey.1, deps, r, hdeps, hbuilt, himage⟩
          · exact absurd hnext hnot
  | clrDeInit g env => exact absurd hnext hnot
  | runMethod g ty me a env =>
    change Holds h data (runMethod abi s g ty me a env).state at hnext
    rw [runMethod_state] at hnext
    exact absurd hnext hnot

theorem not_holds_start (h : AsmHandle) (data : AsmInstanceData) : ¬ Holds h data start := by
  simp [Holds, start]

/-- `AsmInstanceData::runMethod` invokes the method that its image has. -/
theorem invoke_mem_data {data : AsmInstanceData} {ty me : Str} {a : Argv} {env : RunEnv}
    {method : Method} {args : Addr} {size : BitVec 32} :
    MonoCall.invoke method args size ∈ (data.runMethod abi ty me a env).2 ↔
      args = a.argv ∧ size = a.sizeInBytes abi ∧ data.Finds abi ty me env method := by
  unfold AsmInstanceData.runMethod AsmInstanceData.Finds
  cases splitType abi ty with
  | throws => simp
  | undefined => simp
  | value names =>
    obtain ⟨typeNs, typeCls⟩ := names
    simp only [Ret.value.injEq, Prod.mk.injEq]
    cases hclass : env.classFromName data.m_image (cstr typeNs) (cstr typeCls) with
    | none => simp [hclass]
    | some kls =>
      dsimp only
      cases hmethod : env.methodFromName kls (cstr me) 2 with
      | none => simp [hclass, hmethod]
      | some found =>
        simp only [List.mem_cons, reduceCtorEq, MonoCall.invoke.injEq, List.not_mem_nil, or_false,
          false_or]
        constructor
        · rintro ⟨rfl, rfl, rfl⟩
          exact ⟨rfl, rfl, typeNs, typeCls, kls, ⟨rfl, rfl⟩, hclass, hmethod⟩
        · rintro ⟨rfl, rfl, _, _, kls', ⟨rfl, rfl⟩, hclass', hmethod'⟩
          obtain rfl : kls = kls' := Option.some.inj (hclass.symm.trans hclass')
          exact ⟨Option.some.inj (hmethod'.symm.trans hmethod), rfl, rfl⟩

theorem invoke_mem_runMethod {h : AsmHandle} {ty me : Str} {a : Argv} {env : RunEnv}
    {method : Method} {args : Addr} {size : BitVec 32} :
    MonoCall.invoke method args size ∈ (runMethod abi s h ty me a env).calls ↔
      args = a.argv ∧ size = a.sizeInBytes abi ∧
        ∃ data, Holds h data s ∧ data.Finds abi ty me env method := by
  unfold runMethod Holds
  cases hdata : s.gAssemblies[h]? with
  | none => simp
  | some data => simp only [invoke_mem_data, Option.some.injEq, exists_eq_left']

/-- In every run, a method is invoked under a handle exactly when it is in the
image that the `clrInit` which registered the handle got from the runtime for
the project of its deps file. -/
theorem image_invoked_iff (abi : Abi) (calls : List Call) (h : AsmHandle) (ty me : Str) (a : Argv)
    (env : RunEnv) (method : Method) (args : Addr) (size : BitVec 32) :
    MonoCall.invoke method args size ∈
        (runMethod abi ((backend abi).run calls) h ty me a env).calls ↔
      args = a.argv ∧ size = a.sizeInBytes abi ∧ ∃ data pre c,
        (backend abi).machine.SwitchedOn (Holds h data) start calls pre c ∧
          (∃ p d env', c = .clrInit p d env' ∧ MadeBy abi data h p env') ∧
          data.Finds abi ty me env method := by
  rw [invoke_mem_runMethod]
  refine and_congr_right fun _ => and_congr_right fun _ => ?_
  exact (backend abi).machine.exists_exec_iff (not_holds_start h) (holds_next h)

end EzDotnet.MonoCoreClr
