/-
EzDotnet.Backends.RunMethod — what `runMethod` reports, in the four backends.

Each backend looks a method up in its own way. `invocation` is, for each of
them, what came of it for one entry of the registry: no method, a method that
returned, or one that ended in an exception. `Reports` is the promise that
the result tells these apart. Every backend keeps it as long as the entry is
one that a successful load made; CLRHost, whose exported wrapper drops the
status, keeps it only where a method is found (`reports_iff`).
-/
import EzDotnet.Backends.Registries

namespace EzDotnet

/-- What came of one `runMethod`. -/
inductive Invocation where
  /-- the type or the method was not found -/
  | missing
  | returned
  | threw
  deriving DecidableEq, Repr

/-- The result is 0 exactly when a method was found and returned, negative
when none was found, and never positive. -/
structure Reports (ret : Ret Int) (outcome : Invocation) : Prop where
  zero : ret = .value 0 ↔ outcome = .returned
  missing : outcome = .missing → ∃ rc, ret = .value rc ∧ rc < 0
  nonpos : ∀ rc, ret = .value rc → rc ≤ 0

/-- Two backends that report one outcome and return, return one sign. -/
theorem Reports.sign_eq {ret ret' : Ret Int} {outcome : Invocation} (h : Reports ret outcome)
    (h' : Reports ret' outcome) {rc rc' : Int} (hret : ret = .value rc)
    (hret' : ret' = .value rc') : rc.sign = rc'.sign := by
  by_cases hok : outcome = .returned
  · have hz := h.zero.mpr hok
    have hz' := h'.zero.mpr hok
    rw [hret] at hz
    rw [hret'] at hz'
    rw [Ret.value.inj hz, Ret.value.inj hz']
  · have hne : rc ≠ 0 := by
      rintro rfl
      exact hok (h.zero.mp hret)
    have hne' : rc' ≠ 0 := by
      rintro rfl
      exact hok (h'.zero.mp hret')
    have hle := h.nonpos rc hret
    have hle' := h'.nonpos rc' hret'
    rw [Int.sign_eq_neg_one_of_neg (by omega), Int.sign_eq_neg_one_of_neg (by omega)]

theorem reports_returned : Reports (.value 0) .returned :=
  ⟨by simp, by simp, fun rc h => by rw [← Ret.value.inj h]⟩

theorem reports_missing : Reports (.value (-1)) .missing :=
  ⟨by simp, fun _ => ⟨-1, rfl, by decide⟩, fun rc h => by rw [← Ret.value.inj h]; decide⟩

theorem reports_threw : Reports (.value (-1)) .threw :=
  ⟨by simp, by simp, fun rc h => by rw [← Ret.value.inj h]; decide⟩

/-- An exception that leaves `runMethod` is no report of success. -/
theorem reports_throws : Reports .throws .threw :=
  ⟨by simp, by simp, by simp⟩

/-- Where nothing was found, only a returned number is a report. -/
theorem not_reports_missing {r : Ret Int} (h : ∀ rc, rc < 0 → r ≠ .value rc) :
    ¬ Reports r .missing := by
  intro hreports
  obtain ⟨rc, hret, hneg⟩ := hreports.missing rfl
  exact h rc hneg hret

/-! ## The outcome of one call -/

namespace CoreCLR

def PluginInstance.invocation (plugin : PluginInstance) (typeName methodName : Str)
    (env : RunEnv) : Invocation :=
  match plugin.mCtx.pfnLoadAssembly with
  | .ptr f =>
    match env.getFunctionPointer f
        (strConv 8 typeName ++ lit "," ++ posix.stem plugin.mCtx.asmPath)
        (strConv 8 methodName) with
    | none => .missing
    | some pfnEntry => if env.entryReturns pfnEntry then .returned else .threw
  | _ => .missing

theorem reports_iff (abi : Abi) {s : State} {h : AsmHandle} {plugin : PluginInstance}
    (hplugin : s.gPlugins[h]? = some plugin) (ty me : Str) (a : Argv) (env : RunEnv) :
    Reports (runMethod abi s h ty me a env).ret (plugin.invocation ty me env) ↔
      plugin.HasDelegate := by
  unfold runMethod PluginInstance.invocation PluginInstance.runMethod PluginInstance.HasDelegate
  simp only [hplugin]
  cases hf : plugin.mCtx.pfnLoadAssembly with
  | ptr f =>
    refine ⟨fun _ => ⟨f, rfl⟩, fun _ => ?_⟩
    dsimp only
    cases env.getFunctionPointer f (strConv 8 ty ++ lit "," ++ posix.stem plugin.mCtx.asmPath)
        (strConv 8 me) with
    | none => exact reports_missing
    | some pfnEntry =>
      dsimp only
      cases env.entryReturns pfnEntry with
      | true => exact reports_returned
      | false => exact reports_throws
  | unset => simpa using not_reports_missing (r := .undefined) (by simp)
  | null => simpa using not_reports_missing (r := .undefined) (by simp)

end CoreCLR

namespace Mono

def PluginInstanceData.invocation (data : PluginInstanceData) (typeName methodName : Str)
    (rt : Runtime) (env : RunEnv) : Invocation :=
  match data with
  | ⟨.ptr asmName, .ptr _⟩ =>
    match findMethod env (rt.attach env.thread)
        (cstr (typeName ++ lit "::" ++ methodName)) asmName with
    | none => .missing
    | some method => if (env.exception method).isSome then .threw else .returned
  | _ => .missing

/-- The entry was made by the constructor that names an assembly and its
domain. -/
def PluginInstanceData.Constructed (data : PluginInstanceData) : Prop :=
  ∃ asmName appDomain, data = ⟨.ptr asmName, .ptr appDomain⟩

/-- An entry of the default constructor has nothing to look in. -/
theorem runMethod_notConstructed (abi : Abi) {data : PluginInstanceData}
    (hdata : ¬ data.Constructed) (ty me : Str) (a : Argv) (rt : Runtime) (env : RunEnv) :
    (data.runMethod abi ty me a rt env).ret = .undefined ∧
      data.invocation ty me rt env = .missing := by
  constructor
  · unfold PluginInstanceData.runMethod
    split
    · next asmName appDomain => exact absurd ⟨asmName, appDomain, rfl⟩ hdata
    · rfl
  · unfold PluginInstanceData.invocation
    split
    · next asmName appDomain => exact absurd ⟨asmName, appDomain, rfl⟩ hdata
    · rfl

theorem reports_iff (abi : Abi) {s : State} {h : AsmHandle} {data : PluginInstanceData}
    (hdata : s.gPlugins[h]? = some data) (ty me : Str) (a : Argv) (env : RunEnv) :
    Reports (runMethod abi s h ty me a env).ret (data.invocation ty me s.runtime env) ↔
      data.Constructed := by
  unfold runMethod
  simp only [hdata]
  by_cases hc : data.Constructed
  · refine ⟨fun _ => hc, fun _ => ?_⟩
    obtain ⟨asmName, appDomain, rfl⟩ := hc
    unfold PluginInstanceData.invocation PluginInstanceData.runMethod
    dsimp only
    cases findMethod env (s.runtime.attach env.thread) (cstr (ty ++ lit "::" ++ me))
        asmName with
    | none => exact reports_missing
    | some method =>
      dsimp only
      cases env.exception method with
      | none => exact reports_returned
      | some e => exact reports_threw
  · obtain ⟨hret, hinv⟩ := runMethod_notConstructed abi hc ty me a s.runtime env
    rw [hret, hinv]
    exact ⟨fun hreports => absurd hreports (not_reports_missing (by simp)),
      fun hyes => absurd hyes hc⟩

end Mono

namespace MonoCoreClr

def AsmInstanceData.invocation (abi : Abi) (data : AsmInstanceData) (typeName methodName : Str)
    (env : RunEnv) : Invocation :=
  match splitType abi typeName with
  | .throws | .undefined => .missing
  | .value (typeNs, typeCls) =>
    match env.classFromName data.m_image (cstr typeNs) (cstr typeCls) with
    | none => .missing
    | some kls =>
      match env.methodFromName kls (cstr methodName) 2 with
      | none => .missing
      | some method => if (env.exception method).isSome then .threw else .returned

theorem reports_iff (abi : Abi) {s : State} {h : AsmHandle} {data : AsmInstanceData}
    (hdata : s.gAssemblies[h]? = some data) (ty me : Str) (a : Argv) (env : RunEnv) :
    Reports (runMethod abi s h ty me a env).ret (data.invocation abi ty me env) ↔
      ∃ parts, splitType abi ty = .value parts := by
  unfold runMethod AsmInstanceData.invocation AsmInstanceData.runMethod
  simp only [hdata]
  cases splitType abi ty with
  | throws => simpa using not_reports_missing (r := .throws) (by simp)
  | undefined => simpa using not_reports_missing (r := .undefined) (by simp)
  | value parts =>
    refine ⟨fun _ => ⟨parts, rfl⟩, fun _ => ?_⟩
    dsimp only
    cases env.classFromName data.m_image (cstr parts.1) (cstr parts.2) with
    | none => exact reports_missing
    | some kls =>
      dsimp only
      cases env.methodFromName kls (cstr me) 2 with
      | none => exact reports_missing
      | some method =>
        dsimp only
        cases env.exception method with
        | none => exact reports_returned
        | some e => exact reports_threw

end MonoCoreClr

namespace CLRHost

def AssemblyInstanceData.invocation (data : AssemblyInstanceData) (typeName methodName : Str)
    (env : RunEnv) : Invocation :=
  match data.instance? with
  | none => .missing
  | some inst =>
    match inst.findMethod typeName methodName env with
    | .error _ => .threw
    | .ok none => .missing
    | .ok (some method) => if env.invoke method then .returned else .threw

/-- An instance is there, and the lookup in it does not come back empty. -/
def AssemblyInstanceData.Finds (data : AssemblyInstanceData) (typeName methodName : Str)
    (env : RunEnv) : Prop :=
  ∃ inst, data.instance? = some inst ∧ inst.findMethod typeName methodName env ≠ .ok none

theorem reports_iff (abi : Abi) {s : State} {h : AsmHandle} {data : AssemblyInstanceData}
    (hdata : s.gHandles[h]? = some data) (ty me : Str) (a : Argv) (env : RunEnv) :
    Reports (runMethod abi s h ty me a env).ret (data.invocation ty me env) ↔
      data.Finds ty me env := by
  unfold runMethod AssemblyInstanceData.invocation AssemblyInstanceData.Finds
    AssemblyInstance.runMethod
  simp only [hdata]
  cases data.instance? with
  | none => simpa using not_reports_missing (r := .throws) (by simp)
  | some inst =>
    dsimp only
    cases hfind : inst.findMethod ty me env with
    | error e =>
      exact ⟨fun _ => ⟨inst, rfl, by rw [hfind]; simp⟩, fun _ => reports_throws⟩
    | ok found =>
      cases found with
      | none =>
        -- the wrapper returns 0 for the status -1
        have hzero : ∀ rc : Int, rc < 0 → Ret.value 0 ≠ Ret.value rc := by
          intro rc hneg heq
          have hrc := Ret.value.inj heq
          omega
        constructor
        · intro hreports
          exact absurd hreports (not_reports_missing hzero)
        · intro hfinds
          obtain ⟨inst', hinst, hne⟩ := hfinds
          obtain rfl := Option.some.inj hinst
          exact absurd hfind hne
      | some method =>
        refine ⟨fun _ => ⟨inst, rfl, by rw [hfind]; simp⟩, fun _ => ?_⟩
        dsimp only
        cases env.invoke method with
        | true => exact reports_returned
        | false => exact reports_throws

end CLRHost

namespace Backends

open CLRHost (windowsNames)

/-! ## The four backends -/

/-- For every registered handle, `runMethod` reports what came of the call
exactly when: the plugin has its delegate (CoreCLR), the entry is one that a
load constructed (Mono), the type name can be split, as every name of less
than 2^31 bytes can (MonoCoreClr), the lookup does not come back empty
(CLRHost). Backends that report one outcome agree in the sign. -/
theorem runMethod_reports_iff (abi : Abi) :
    (∀ (s : CoreCLR.State) h plugin, s.gPlugins[h]? = some plugin → ∀ ty me a env,
      (Reports (CoreCLR.runMethod abi s h ty me a env).ret (plugin.invocation ty me env) ↔
        plugin.HasDelegate)) ∧
    (∀ (s : Mono.State) h data, s.gPlugins[h]? = some data → ∀ ty me a env,
      (Reports (Mono.runMethod abi s h ty me a env).ret
          (data.invocation ty me s.runtime env) ↔ data.Constructed)) ∧
    (∀ (s : MonoCoreClr.State) h data, s.gAssemblies[h]? = some data → ∀ ty me a env,
      (Reports (MonoCoreClr.runMethod abi s h ty me a env).ret
          (data.invocation abi ty me env) ↔
            ∃ parts, MonoCoreClr.splitType abi ty = .value parts) ∧
        (4 ≤ abi.ptrBytes → ty.length < 2 ^ 31 →
          ∃ parts, MonoCoreClr.splitType abi ty = .value parts)) ∧
    (∀ (s : CLRHost.State) h data, s.gHandles[h]? = some data → ∀ ty me a env,
      (Reports (CLRHost.runMethod abi s h ty me a env).ret (data.invocation ty me env) ↔
        data.Finds ty me env)) ∧
    ∀ ret ret' outcome rc rc', Reports ret outcome → Reports ret' outcome →
      ret = .value rc → ret' = .value rc' → rc.sign = rc'.sign :=
  ⟨fun _ _ _ h => CoreCLR.reports_iff abi h, fun _ _ _ h => Mono.reports_iff abi h,
    fun _ _ _ h ty me a env => ⟨MonoCoreClr.reports_iff abi h ty me a env,
      fun hptr hlen => MonoCoreClr.splitType_returns hptr hlen⟩,
    fun _ _ _ h => CLRHost.reports_iff abi h,
    fun _ _ _ _ _ h h' hret hret' => h.sign_eq h' hret hret'⟩

/-- A CLRHost process with one assembly loaded. -/
def clrLoaded : CLRHost.State :=
  (CLRHost.backend windowsNames win64).run [.clrInit clrPath [] clrEnv]

/-- Its instance. -/
def clrInstance : CLRHost.AssemblyInstance :=
  ⟨1, 0, clrPath, [lit "C:\\host", lit "C:\\app"]⟩

/-- An assembly without types. -/
def noTypes : CLRHost.RunEnv := ⟨fun _ _ => .ok none, fun _ _ => .ok none, fun _ => true⟩

/-- The type cannot be found, and `runMethod` returns 0. -/
theorem missing_type_returns_zero :
    clrLoaded.gHandles[clrHandle]? = some ⟨some 0, some clrInstance⟩ ∧
      (CLRHost.runMethod win64 clrLoaded clrHandle (lit "T") (lit "M") ⟨0, 0⟩ noTypes).ret
        = .value 0 ∧
      ¬ Reports
        (CLRHost.runMethod win64 clrLoaded clrHandle (lit "T") (lit "M") ⟨0, 0⟩ noTypes).ret
        (CLRHost.AssemblyInstanceData.invocation ⟨some 0, some clrInstance⟩ (lit "T") (lit "M")
          noTypes) := by
  have hret : (CLRHost.runMethod win64 clrLoaded clrHandle (lit "T") (lit "M") ⟨0, 0⟩
      noTypes).ret = .value 0 := by decide
  refine ⟨by decide, hret, fun hreports => ?_⟩
  exact absurd (hreports.zero.mp hret) (by decide)

end Backends

end EzDotnet
