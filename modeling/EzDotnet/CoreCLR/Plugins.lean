/-
EzDotnet.CoreCLR.Plugins — the exported functions of the CoreCLR backend
(`dotnetcore.cpp`) over its map `gPlugins`.

One call of `hostfxr_close` may report any code (`Int`), one call of a
runtime delegate may or may not find the method, and an entry point that is
found may return or end in an unhandled managed exception, which does not
come back to the caller.
-/
import EzDotnet.CoreCLR.Hostfxr

namespace EzDotnet.CoreCLR

open Std (ExtTreeMap)

/-- What one `runMethod` meets in the runtime. -/
structure RunEnv where
  /-- what the delegate leaves in `pfnEntry` -/
  getFunctionPointer : Addr → FxStr → FxStr → Option Addr
  /-- the entry point returns -/
  entryReturns : Addr → Bool

/-- `struct PluginInstance`. -/
structure PluginInstance where
  mCtx : DotnetCtx
  deriving DecidableEq, Repr

structure State where
  gPlugins : ExtTreeMap AsmHandle PluginInstance

def start : State := ⟨∅⟩

/-! ## `PluginInstance` -/

/-- `PluginInstance::clrDeInit`: the code of `hostfxr_close`. -/
def PluginInstance.clrDeInit (plugin : PluginInstance) (closeResult : Int) :
    Ret Int × List HostCall :=
  match plugin.mCtx.pfnClose with
  | .ptr _ => (.value closeResult, [.close plugin.mCtx.runtimeHandle])
  | _ => (.undefined, [])

/-- `PluginInstance::runMethod`. The entry point's own result is dropped. -/
def PluginInstance.runMethod (abi : Abi) (plugin : PluginInstance)
    (typeName methodName : Str) (args : Argv) (env : RunEnv) : Ret Int × List HostCall :=
  let targetMethodName : FxStr := strConv 8 methodName
  let assemblyName := posix.stem plugin.mCtx.asmPath
  let targetClassName : FxStr := strConv 8 typeName ++ lit "," ++ assemblyName
  match plugin.mCtx.pfnLoadAssembly with
  | .ptr pfnLoadAssembly =>
    let loaded := HostCall.loadAssembly pfnLoadAssembly targetClassName targetMethodName
    match env.getFunctionPointer pfnLoadAssembly targetClassName targetMethodName with
    | none => (.value (-1), [loaded])
    | some pfnEntry =>
      (if env.entryReturns pfnEntry then .value 0 else .throws,
        [loaded, .entry pfnEntry args.argv (args.sizeInBytes abi)])
  -- a call through a pointer that was never stored
  | _ => (.undefined, [])

/-! ## The exported functions -/

/-- The context `clrInit` builds before hostfxr is loaded. -/
def newCtx (assemblyPath hostFxrPath : Str) : DotnetCtx :=
  let asmDir := posix.parentPath assemblyPath
  { hostfxrPath := toNativePath .unix hostFxrPath
    hostPath := toNativeFxPath .unix asmDir
    asmBase := toNativeFxPath .unix asmDir ++ strConv 8 [slash] ++ posix.stem assemblyPath
    asmPath := assemblyPath
    dotnetRoot := none }

def clrInit (abi : Abi) (s : State) (assemblyPath _pluginFolder : Str) (env : InitEnv) :
    Result State AsmHandle HostCall :=
  let handle := strHash abi assemblyPath
  if handle ∈ s.gPlugins then ⟨s, .value handle, []⟩
  -- CLR already loaded, multiple runtimes not allowed
  else if s.gPlugins.size > 0 then ⟨s, .value nullAsmHandle, []⟩
  else if s.gPlugins.size < 1 then
    match getHostFxrPath env.nethost (posix.parentPath assemblyPath) with
    | (.error _, calls) => ⟨s, .value nullAsmHandle, calls⟩
    | (.ok hostFxrPath, calls) =>
      let (rc, ctx, calls') := loadAndInitHostFxr env.hostfxr (newCtx assemblyPath hostFxrPath)
      if rc ≠ 0 then ⟨s, .value nullAsmHandle, calls ++ calls'⟩
      else ⟨⟨s.gPlugins.insertIfNew handle ⟨ctx⟩⟩, .value handle, calls ++ calls'⟩
  else ⟨s, .value handle, []⟩

/-- `clrDeInit`: `at` throws when the handle is not in the map, and the
`int32_t` of `hostfxr_close` becomes a `bool`. -/
def clrDeInit (s : State) (handle : AsmHandle) (closeResult : Int) :
    Result State Bool HostCall :=
  match s.gPlugins[handle]? with
  | none => ⟨s, .throws, []⟩
  | some plugin =>
    match plugin.clrDeInit closeResult with
    | (.value rc, calls) => ⟨s, .value (decide (rc ≠ 0)), calls⟩
    | (.throws, calls) => ⟨s, .throws, calls⟩
    | (.undefined, calls) => ⟨s, .undefined, calls⟩

def runMethod (abi : Abi) (s : State) (handle : AsmHandle) (typeName methodName : Str)
    (args : Argv) (env : RunEnv) : Result State Int HostCall :=
  match s.gPlugins[handle]? with
  | none => ⟨s, .throws, []⟩
  | some plugin =>
    let (ret, calls) := plugin.runMethod abi typeName methodName args env
    ⟨s, ret, calls⟩

abbrev Call := ApiCall InitEnv Int RunEnv

/-- The CoreCLR backend. -/
def backend (abi : Abi) : Backend State PluginInstance InitEnv Int RunEnv HostCall where
  start := start
  registry := State.gPlugins
  key := strHash abi
  clrInit := clrInit abi
  clrDeInit := clrDeInit
  runMethod := runMethod abi

end EzDotnet.CoreCLR
