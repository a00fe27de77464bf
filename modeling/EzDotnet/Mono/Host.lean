/-
EzDotnet.Mono.Host — the Mono backend (`Mono/host.cpp`), built for Unix,
over the part of the Mono runtime that it uses.

Mono is not part of the repository. `Runtime` is what the backend can tell
apart in it: which domains are live, which assemblies are loaded in the
process, in whatever domain, and which threads are attached. The domains
are numbered in the order of their creation: `mono_domain_create_appdomain`
returns a fresh one and `mono_domain_unload` ends exactly the one it gets,
with the assemblies in it.

What Mono decides during one call is an `InitEnv` or a `RunEnv`: whether the
JIT comes up, whether the assembly opens, its name and its image, what
loading each reference brings, in which order `mono_assembly_foreach` visits
the loaded assemblies, what an image holds and whether an invocation ends in
an exception.
-/
import Mathlib.Data.Finset.Basic
import EzDotnet.Common.Interface

namespace EzDotnet.Mono

open Std (ExtTreeMap)

abbrev Domain := Nat

abbrev Image := Addr

abbrev Method := Addr

abbrev ThreadId := Nat

/-! ## The runtime -/

structure MonoAssembly where
  name : Str
  image : Option Image
  domain : Domain
  deriving DecidableEq, Repr

structure Runtime where
  nextDomain : Nat
  liveDomains : Finset Domain
  assemblies : List MonoAssembly
  attached : Finset ThreadId

namespace Runtime

/-- A new domain, which gets the number `nextDomain`. -/
def createDomain (rt : Runtime) : Runtime :=
  { rt with
    nextDomain := rt.nextDomain + 1
    liveDomains := insert rt.nextDomain rt.liveDomains }

/-- `mono_domain_unload`. -/
def unload (rt : Runtime) (d : Domain) : Runtime :=
  { rt with
    liveDomains := rt.liveDomains.erase d
    assemblies := rt.assemblies.filter (·.domain ≠ d) }

def load (rt : Runtime) (as : List MonoAssembly) : Runtime :=
  { rt with assemblies := rt.assemblies ++ as }

/-- `mono_thread_attach`. -/
def attach (rt : Runtime) (t : ThreadId) : Runtime :=
  { rt with attached := insert t rt.attached }

/-- `mono_thread_detach`. -/
def detach (rt : Runtime) (t : ThreadId) : Runtime :=
  { rt with attached := rt.attached.erase t }

end Runtime

/-- What one `clrInit` meets in the runtime. -/
structure InitEnv where
  thread : ThreadId
  /-- `mono_jit_init_version` returns a domain -/
  jitInit : Bool
  /-- what `mono_domain_assembly_open` opens: the assembly's name and image -/
  assembly : Option (Str × Option Image)
  /-- the rows of its table `MONO_TABLE_ASSEMBLYREF`, each with the
  assembly that loading it brings into the process -/
  references : List (Option MonoAssembly)

/-- What one `runMethod` meets in the runtime. -/
structure RunEnv where
  thread : ThreadId
  /-- the order of `mono_assembly_foreach` -/
  visit : List MonoAssembly → List MonoAssembly
  visit_perm : ∀ as, (visit as).Perm as
  /-- `mono_method_desc_new` accepts the name -/
  validDesc : Str → Bool
  /-- `mono_method_desc_search_in_image` -/
  searchImage : Image → Str → Option Method
  /-- what `mono_runtime_invoke` leaves in `exception` -/
  exception : Method → Option Addr

/-- The calls the backend makes into Mono. -/
inductive MonoCall where
  | jitInit (root : Option Domain)
  | configParse
  | createAppdomain (name : Str) (domain : Domain)
  | setConfig (domain : Domain) (dir config : Str)
  | openAssembly (domain : Domain) (path : Str)
  | loadReference (image : Image) (row : Nat)
  | unload (domain : Slot Domain)
  | attach (domain : Domain)
  | invoke (method : Method) (args : Addr) (sizeBytes : BitVec 32)
  | detach
  deriving DecidableEq, Repr

/-! ## `PluginInstanceData` -/

/-- `struct PluginInstanceData`. Its default constructor sets neither
member. -/
structure PluginInstanceData where
  m_asmName : Slot Str := .unset
  appDomain : Slot Domain := .unset
  deriving DecidableEq, Repr

/-- `imageFindMethod`. -/
def imageFindMethod (env : RunEnv) (image : Image) (methodName : Str) : Option Method :=
  if env.validDesc methodName then env.searchImage image methodName else none

/-- The callback of `findMethod`; `found` is `*ppMethod`. -/
def visitAssembly (env : RunEnv) (methodDesc asmName : Str) (found : Option Method)
    (refAsm : MonoAssembly) : Option Method :=
  if found.isSome then found
  else if cstr refAsm.name ≠ cstr asmName then found
  else match refAsm.image with
    | none => found
    | some image => imageFindMethod env image methodDesc

/-- `PluginInstanceData::findMethod`. -/
def findMethod (env : RunEnv) (rt : Runtime) (methodDesc asmName : Str) : Option Method :=
  (env.visit rt.assemblies).foldl (visitAssembly env methodDesc asmName) none

/-- `PluginInstanceData::runMethod`. -/
def PluginInstanceData.runMethod (abi : Abi) (data : PluginInstanceData)
    (typeName methodName : Str) (args : Argv) (rt : Runtime) (env : RunEnv) :
    Result Runtime Int MonoCall :=
  match data with
  | ⟨.ptr asmName, .ptr appDomain⟩ =>
    let rt := rt.attach env.thread
    let methodDesc := typeName ++ lit "::" ++ methodName
    match findMethod env rt (cstr methodDesc) asmName with
    -- the early return, with the thread attached
    | none => ⟨rt, .value (-1), [.attach appDomain]⟩
    | some method =>
      let rc := if (env.exception method).isSome then -1 else 0
      ⟨rt.detach env.thread, .value rc,
        [.attach appDomain, .invoke method args.argv (args.sizeInBytes abi), .detach]⟩
  -- an entry that the default constructor made
  | _ => ⟨rt, .undefined, []⟩

/-! ## `initialize` -/

structure State where
  gPlugins : ExtTreeMap AsmHandle PluginInstanceData
  rootDomain : Option Domain
  gMonoInitialized : Bool
  runtime : Runtime

def start : State := ⟨∅, none, false, ⟨0, ∅, [], ∅⟩⟩

/-- The block under `!gMonoInitialized`; `false` for its early return. The
thread that brings the JIT up is attached. -/
def initMono (s : State) (env : InitEnv) : Bool × State × List MonoCall :=
  if s.gMonoInitialized then (true, s, [])
  else if env.jitInit then
    let root := s.runtime.nextDomain
    (true,
      { s with
        rootDomain := some root
        gMonoInitialized := true
        runtime := s.runtime.createDomain.attach env.thread },
      [.jitInit (some root), .configParse])
  else (false, { s with rootDomain := none }, [.jitInit none])

/-- The name of the plugin, of which the handle is the hash. -/
def pluginName (asmPath : Str) : Str := posix.removeExtension (posix.filename asmPath)

/-- `initialize`. The assembly stays loaded in its new domain when it has
no image. -/
def initializeAsm (abi : Abi) (s : State) (asmPathStr asmDirStr : Str) (env : InitEnv) :
    Result State AsmHandle MonoCall :=
  let handle := strHash abi (pluginName asmPathStr)
  if handle ∈ s.gPlugins then ⟨s, .value handle, []⟩
  else
    let (ready, s, calls) := initMono s env
    if ready = false then ⟨s, .value nullAsmHandle, calls⟩
    else
      let newDomain := s.runtime.nextDomain
      let rt := s.runtime.createDomain
      let configPath := posix.removeExtension asmPathStr ++ lit ".config"
      let calls := calls ++
        [.createAppdomain (pluginName asmPathStr) newDomain,
          .setConfig newDomain asmDirStr configPath, .openAssembly newDomain asmPathStr]
      match env.assembly with
      | none => ⟨{ s with runtime := rt }, .value nullAsmHandle, calls⟩
      | some (name, none) =>
        ⟨{ s with runtime := rt.load [⟨name, none, newDomain⟩] }, .value nullAsmHandle, calls⟩
      | some (name, some image) =>
        let rows := List.range env.references.length
        let rt := rt.load (⟨name, some image, newDomain⟩ :: env.references.filterMap id)
        ⟨{ s with
            gPlugins := s.gPlugins.insertIfNew handle ⟨.ptr name, .ptr newDomain⟩
            runtime := rt },
          .value handle, calls ++ rows.map (.loadReference image)⟩

/-! ## The exported functions -/

def clrInit (abi : Abi) (s : State) (assemblyPath pluginFolder : Str) (env : InitEnv) :
    Result State AsmHandle MonoCall :=
  let asmPath := toNativePath .unix assemblyPath
  let asmDir := toNativePath .unix pluginFolder
  initializeAsm abi s asmPath asmDir env

/-- `clrDeInit`: `operator[]` inserts a default entry for a handle that is
not in the map, and `mono_domain_unload` then gets a pointer that was never
stored. That is undefined and ends here with the entry in place; where the
call returns, the code goes on and erases it. -/
def clrDeInit (s : State) (handle : AsmHandle) (_ : Unit) : Result State Bool MonoCall :=
  let data := s.gPlugins[handle]?.getD {}
  let gPlugins := s.gPlugins.insertIfNew handle data
  match data.appDomain with
  | .ptr d =>
    ⟨{ s with gPlugins := gPlugins.erase handle, runtime := s.runtime.unload d },
      .value true, [.unload (.ptr d)]⟩
  -- a pointer that was never stored is unloaded
  | v => ⟨{ s with gPlugins := gPlugins }, .undefined, [.unload v]⟩

/-- `runMethod`: `at` throws when the handle is not in the map. -/
def runMethod (abi : Abi) (s : State) (handle : AsmHandle) (typeName methodName : Str)
    (args : Argv) (env : RunEnv) : Result State Int MonoCall :=
  match s.gPlugins[handle]? with
  | none => ⟨s, .throws, []⟩
  | some data =>
    let r := data.runMethod abi typeName methodName args s.runtime env
    ⟨{ s with runtime := r.state }, r.ret, r.calls⟩

abbrev Call := ApiCall InitEnv Unit RunEnv

/-- The Mono backend. -/
def backend (abi : Abi) : Backend State PluginInstanceData InitEnv Unit RunEnv MonoCall where
  start := start
  registry := State.gPlugins
  key p := strHash abi (pluginName (toNativePath .unix p))
  clrInit := clrInit abi
  clrDeInit := clrDeInit
  runMethod := runMethod abi

end EzDotnet.Mono
