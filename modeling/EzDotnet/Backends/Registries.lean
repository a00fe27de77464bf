/-
EzDotnet.Backends.Registries — what the registries of the four backends
promise, side by side.

  * Only loaded assemblies are registered (Mono, CLRHost): the domains of
    both backends are disciplined as long as `clrDeInit` meets registered
    handles, and `operator[]` ends that with the first handle that is not.
  * A handle identifies its assembly (all four) as far as the hash of the
    string that the backend derives from the path does: the path itself
    (CoreCLR, CLRHost), its stem (Mono) or the path of its deps file
    (MonoCoreClr).
-/
import EzDotnet.CoreCLR.LifecycleTheorems
import EzDotnet.Mono.HostTheorems
import EzDotnet.MonoCoreClr.DocumentTheorems
import EzDotnet.CLRHost.HostTheorems

namespace EzDotnet.Backends

open CLRHost (windowsNames)
open MonoCoreClr (appDoc appEnv)

/-! ## Only loaded assemblies are registered -/

/-- In both backends with app domains, every entry of every state of a run
was inserted by a `clrInit` that returned its handle and has a live domain,
and unregistered handles are harmless, exactly in the runs whose `clrDeInit`s
are all applied to handles then registered. -/
theorem registered_only_loaded_iff (fs : CLRHost.PathFns) (abi : Abi) :
    (∀ calls : List Mono.Call, (Mono.domainBackend abi).OnlyLoaded calls ↔
      (Mono.domainBackend abi).DeInitsRegistered calls) ∧
    (∀ calls : List CLRHost.Call, (CLRHost.domainBackend fs abi).OnlyLoaded calls ↔
      (CLRHost.domainBackend fs abi).DeInitsRegistered calls) :=
  ⟨(Mono.disciplined abi).onlyLoaded_iff, (CLRHost.disciplined fs abi).onlyLoaded_iff⟩

/-- A framework in which every load succeeds. -/
def clrEnv : CLRHost.InitEnv :=
  ⟨true, .ok (lit "C:\\host\\CLRHost.dll"), windowsNames.parentPath, .ok 1⟩

def clrPath : Str := lit "C:\\app\\P.dll"

def clrHandle : AsmHandle := strHash win64 clrPath

/-- De-initialise what was never loaded. -/
def strayDeInit : List CLRHost.Call := [.clrDeInit clrHandle ⟨false, false⟩]

/-- The `clrDeInit` throws and leaves an entry of two null references; the next
`clrInit` of the path returns its handle without loading anything. -/
theorem phantom_handle :
    ¬ (CLRHost.domainBackend windowsNames win64).OnlyLoaded
        (strayDeInit ++ [.clrInit clrPath [] clrEnv]) ∧
      clrHandle ≠ nullAsmHandle ∧
      let s := (CLRHost.backend windowsNames win64).run strayDeInit
      s.gHandles[clrHandle]? = some {} ∧ s.liveDomains = ∅ ∧
        (CLRHost.clrInit windowsNames win64 s clrPath [] clrEnv).ret = .value clrHandle ∧
        (CLRHost.clrInit windowsNames win64 s clrPath [] clrEnv).calls = [] := by
  have hentry : ((CLRHost.backend windowsNames win64).run strayDeInit).gHandles[clrHandle]?
      = some {} := by decide
  have hret : (CLRHost.clrInit windowsNames win64
      ((CLRHost.backend windowsNames win64).run strayDeInit) clrPath [] clrEnv).ret
        = .value clrHandle := by decide
  refine ⟨fun hlaw => ?_, by decide, hentry, by decide, hret, by decide⟩
  obtain ⟨e, dom, he, hdom, _⟩ := hlaw.loaded strayDeInit ⟨_, rfl⟩ clrHandle (by
    show clrHandle ∈ ((CLRHost.backend windowsNames win64).run strayDeInit).gHandles
    exact Lib.mem_iff_exists_getElem?.mpr ⟨_, hentry⟩)
  obtain rfl : ({} : CLRHost.AssemblyInstanceData) = e :=
    Option.some.inj (hentry.symm.trans he)
  cases hdom

/-! ## Handles identify assemblies -/

/-- A Mono in which every call succeeds. -/
def monoEnv : Mono.InitEnv := ⟨0, true, some (lit "P", some 1), []⟩

theorem mono_loads (abi : Abi) (p : Str) :
    (Mono.clrInit abi Mono.start p [] monoEnv).ret = .value ((Mono.backend abi).key p) := by
  have hnew : (Mono.backend abi).key p ∉ Mono.start.gPlugins := Std.ExtTreeMap.not_mem_empty
  have hjit : (Mono.initMono Mono.start monoEnv).1 = true := rfl
  obtain ⟨loaded, -, hret⟩ := Mono.clrInit_loaded (d := []) hnew hjit rfl
  exact hret

theorem monoCoreClr_loads (abi : Abi) (p : Str) :
    (MonoCoreClr.clrInit abi MonoCoreClr.start p [] appEnv).ret
        = .value ((MonoCoreClr.backend abi).key p) ∧
      (MonoCoreClr.backend abi).key p ∈
        (MonoCoreClr.clrInit abi MonoCoreClr.start p [] appEnv).state.gAssemblies := by
  have hnew : (MonoCoreClr.backend abi).key p ∉ MonoCoreClr.start.gAssemblies :=
    Std.ExtTreeMap.not_mem_empty
  have hdeps : MonoCoreClr.readDeps appEnv p = some appDoc := rfl
  have hmain : MonoCoreClr.MainProject appDoc _ (lit "App/1.0")
      (MonoCoreClr.targetEntry [(lit "Lib", lit "1.0")] [lit "App.dll"]) :=
    MonoCoreClr.mainProject_depsDoc ⟨_, rfl⟩ rfl
  obtain ⟨r, hr⟩ : Lib.Returns (MonoCoreClr.tpaOf p appDoc) :=
    (MonoCoreClr.wellTyped_depsDoc _ _).returns hmain
  have hname : r.main_asm_fqdn = lit "App, Version=1.0" := by
    rw [MonoCoreClr.buildTpaList_eq_ok hmain (by decide) hr]
    show MonoCoreClr.displayName (lit "App/1.0") = lit "App, Version=1.0"
    decide
  have himage : MonoCoreClr.imageOf appEnv (cstr r.main_asm_fqdn) = some 2 := by
    rw [hname]
    decide
  obtain ⟨hstate, hret, -⟩ := MonoCoreClr.clrInit_built (d := []) hnew hdeps hr
  rw [hret, hstate, himage, Lib.mem_acquire]
  exact ⟨rfl, .inr ⟨rfl, rfl⟩⟩

theorem clrHost_loads (fs : CLRHost.PathFns) (abi : Abi) (p : Str) :
    (CLRHost.clrInit fs abi CLRHost.start p [] clrEnv).ret
      = .value ((CLRHost.backend fs abi).key p) := by
  have hnew : (CLRHost.backend fs abi).key p ∉ CLRHost.start.gHandles :=
    Std.ExtTreeMap.not_mem_empty
  have hinst : CLRHost.InstanceCreated clrEnv 1 := ⟨⟨_, rfl⟩, rfl⟩
  obtain ⟨pl, -, hret⟩ := CLRHost.clrInit_loaded (d := []) hnew rfl hinst
  exact hret

end EzDotnet.Backends
