/-
EzDotnet.CLRHost.Host — the .NET Framework backend (`CLRHost.cpp`), which is
built for Windows only, in a process that does not run inside Cygwin.

The code is C++/CLI: any call into the framework may end in a managed
exception, which leaves the exported function (`Managed`). What the
framework decides during one call is an `InitEnv`, a `DeInitEnv` or a
`RunEnv`. `RemotingServices::Disconnect` and `AppDomain::Unload` throw on a
null argument, and a domain whose unloading failed is still there.

The lexical functions of `std::filesystem::path` on Windows, with its root
names and code pages, are a parameter (`PathFns`); they only name the
application and the search path. The debugger loop under `enableDebug` is
left out.
-/
import Mathlib.Data.Finset.Basic
import EzDotnet.Common.Interface

namespace EzDotnet.CLRHost

open Std (ExtTreeMap)

abbrev Domain := Nat

abbrev Method := Addr

/-- The outcome of a call into the framework: an exception or a value. -/
abbrev Managed (α : Type) := Except Unit α

/-- What the backend uses of `std::filesystem::path`. -/
structure PathFns where
  filename : Str → Str
  /-- `replace_extension()` -/
  removeExtension : Str → Str
  parentPath : Str → Str
  stem : Str → Str

/-- Path syntax with backslashes. -/
def windowsSyntax : Lib.PathSyntax Byte := ⟨backslash, 0x2e#8⟩

/-- These functions on a native path at least two levels below its drive, and on
a bare file name. -/
def windowsNames : PathFns where
  filename := windowsSyntax.filename
  removeExtension := windowsSyntax.removeExtension
  parentPath := windowsSyntax.parentPath
  stem := windowsSyntax.stem

example : windowsNames.removeExtension (windowsNames.filename (lit "C:\\app\\P.dll")) = lit "P" ∧
    windowsNames.parentPath (lit "C:\\app\\P.dll") = lit "C:\\app" ∧
    windowsNames.parentPath (lit "P.dll") = [] := by decide

/-! ## Data -/

/-- The object that `CreateInstanceFromAndUnwrap` makes in a new domain;
`targetAsm` is the assembly its constructor loaded. -/
structure AssemblyInstance where
  targetAsm : Addr
  domain : Domain
  assemblyPath : Str
  asmSearchPaths : List Str
  deriving DecidableEq, Repr

/-- `struct AssemblyInstanceData`. Its default constructor leaves two null
references. -/
structure AssemblyInstanceData where
  appDomain : Option Domain := none
  instance? : Option AssemblyInstance := none
  deriving DecidableEq, Repr

/-- A handler of the `AssemblyResolve` event. -/
inductive ResolveHandler where
  | loadFromSameFolder
  deriving DecidableEq, Repr

structure State where
  gHandles : ExtTreeMap AsmHandle AssemblyInstanceData
  nextDomain : Nat
  liveDomains : Finset Domain
  /-- the handlers on the current domain -/
  resolveHandlers : List ResolveHandler

def start : State := ⟨∅, 0, ∅, []⟩

/-- What one `clrInit` meets in the framework. -/
structure InitEnv where
  /-- `AppDomain::CreateDomain` returns -/
  createDomain : Bool
  /-- `Assembly::GetExecutingAssembly()->Location` -/
  location : Managed Str
  /-- `Path::GetDirectoryName` -/
  directoryName : Str → Str
  /-- `CreateInstanceFromAndUnwrap`: the assembly the constructor loads -/
  createInstance : Managed Addr

structure DeInitEnv where
  /-- `Disconnect` of an object returns -/
  disconnect : Bool
  /-- `Unload` of a domain returns -/
  unload : Bool

structure RunEnv where
  getType : Addr → Str → Managed (Option Addr)
  getMethod : Addr → Str → Managed (Option Method)
  /-- `Invoke` returns -/
  invoke : Method → Bool

/-- The calls the backend makes into the framework. -/
inductive ClrCall where
  | createDomain (name base : Str)
  | addResolveHandler
  | createInstance (domain : Domain) (asmPath : Str) (searchPaths : List Str)
  | disconnect (instance? : Option AssemblyInstance)
  | unload (domain : Option Domain)
  | invoke (method : Method) (args : Addr) (sizeBytes : BitVec 32)
  deriving DecidableEq, Repr

/-! ## `AssemblyInstance` -/

/-- `AssemblyInstance::findMethod`. -/
def AssemblyInstance.findMethod (inst : AssemblyInstance) (typeName methodName : Str)
    (env : RunEnv) : Managed (Option Method) :=
  match env.getType inst.targetAsm typeName with
  | .error e => .error e
  | .ok none => .ok none
  | .ok (some type) => env.getMethod type methodName

/-- `AssemblyInstance::runMethod`. -/
def AssemblyInstance.runMethod (abi : Abi) (inst : AssemblyInstance)
    (className methodName : Str) (args : Argv) (env : RunEnv) : Managed Int × List ClrCall :=
  match inst.findMethod className methodName env with
  | .error e => (.error e, [])
  | .ok none => (.ok (-1), [])
  | .ok (some method) =>
    (if env.invoke method then .ok 0 else .error (),
      [.invoke method args.argv (args.sizeInBytes abi)])

/-! ## The exported functions -/

/-- `initialize`. Neither the domain nor the handler is taken back when an
exception leaves it. -/
def initializeAsm (fs : PathFns) (abi : Abi) (s : State) (assemblyPath assemblyDir : Str)
    (env : InitEnv) : Result State AsmHandle ClrCall :=
  let pluginName := fs.removeExtension (fs.filename assemblyPath)
  let handle := strHash abi assemblyPath
  if handle ∈ s.gHandles then ⟨s, .value handle, []⟩
  else
    let calls : List ClrCall := [.createDomain pluginName assemblyDir]
    if env.createDomain = false then ⟨s, .throws, calls⟩
    else
      let newDomain := s.nextDomain
      let s :=
        { s with
          nextDomain := newDomain + 1
          liveDomains := insert newDomain s.liveDomains
          resolveHandlers := s.resolveHandlers ++ [.loadFromSameFolder] }
      let calls := calls ++ [.addResolveHandler]
      match env.location with
      | .error _ => ⟨s, .throws, calls⟩
      | .ok thisAsmPath =>
        let asmParent := fs.parentPath assemblyPath
        let asmPaths := [env.directoryName thisAsmPath] ++
          (if asmParent.length > 0 then [asmParent] else [])
        let calls := calls ++ [.createInstance newDomain assemblyPath asmPaths]
        match env.createInstance with
        | .error _ => ⟨s, .throws, calls⟩
        | .ok targetAsm =>
          let pl : AssemblyInstance := ⟨targetAsm, newDomain, assemblyPath, asmPaths⟩
          ⟨{ s with gHandles := s.gHandles.insertIfNew handle ⟨some newDomain, some pl⟩ },
            .value handle, calls⟩

def clrInit (fs : PathFns) (abi : Abi) (s : State) (assemblyPath pluginFolder : Str)
    (env : InitEnv) : Result State AsmHandle ClrCall :=
  initializeAsm fs abi s (toNativePath .windows assemblyPath)
    (toNativePath .windows pluginFolder) env

/-- `clrDeInit`: `operator[]` inserts a default entry for a handle that is
not in the map, and an exception on the way leaves whatever entry there is. -/
def clrDeInit (s : State) (handle : AsmHandle) (env : DeInitEnv) :
    Result State Bool ClrCall :=
  let data := s.gHandles[handle]?.getD {}
  let s := { s with gHandles := s.gHandles.insertIfNew handle data }
  let calls : List ClrCall := [.disconnect data.instance?]
  if data.instance? = none ∨ env.disconnect = false then ⟨s, .throws, calls⟩
  else
    let calls := calls ++ [.unload data.appDomain]
    match data.appDomain with
    | none => ⟨s, .throws, calls⟩
    | some d =>
      if env.unload = false then ⟨s, .throws, calls⟩
      else
        ⟨{ s with gHandles := s.gHandles.erase handle, liveDomains := s.liveDomains.erase d },
          .value true, calls⟩

/-- `runMethod`: the status of `AssemblyInstance::runMethod` is dropped. -/
def runMethod (abi : Abi) (s : State) (handle : AsmHandle) (typeName methodName : Str)
    (args : Argv) (env : RunEnv) : Result State Int ClrCall :=
  match s.gHandles[handle]? with
  | none => ⟨s, .value (-1), []⟩
  | some data =>
    match data.instance? with
    -- a member call on a null reference
    | none => ⟨s, .throws, []⟩
    | some inst =>
      match inst.runMethod abi typeName methodName args env with
      | (.error _, calls) => ⟨s, .throws, calls⟩
      | (.ok _, calls) => ⟨s, .value 0, calls⟩

abbrev Call := ApiCall InitEnv DeInitEnv RunEnv

/-- The CLRHost backend. -/
def backend (fs : PathFns) (abi : Abi) :
    Backend State AssemblyInstanceData InitEnv DeInitEnv RunEnv ClrCall where
  start := start
  registry := State.gHandles
  key p := strHash abi (toNativePath .windows p)
  clrInit := clrInit fs abi
  clrDeInit := clrDeInit
  runMethod := runMethod abi

end EzDotnet.CLRHost
