/-
EzDotnet.CLRHost.AssemblyResolve — the two `AssemblyResolve` handlers of
`CLRHost.cpp`, and where a run of the backend makes references come from.

The event asks its handlers in the order in which they were added, until one
answers with an assembly. The current domain gets one
`LoadFromSameFolder` more with every domain that `initialize` creates; the
domain of an instance has the one `LoadFromPathList` of its loader. What the
framework decides during one event is a `ResolveEnv`.

  * `resolve_current`   however often the handler was added, the current
                        domain resolves as with one;
  * `resolve_instance`  every instance of a run still resolves along the path
                        of the `initialize` that made it: the folder of this
                        assembly first, and the folder of the plugin only for
                        what is not there.
-/
import EzDotnet.Lib.Outcome
import EzDotnet.CLRHost.Process

namespace EzDotnet.CLRHost

open Lib (bind_eq_ok tryEach)

/-- What a handler meets in the framework. -/
structure ResolveEnv where
  /-- `Assembly::GetExecutingAssembly()->Location` -/
  location : Managed Str
  /-- `Path::GetDirectoryName` -/
  directoryName : Str → Str
  /-- `AssemblyName(…)->Name` -/
  simpleName : Str → Managed Str
  /-- `Path::Combine` -/
  combine : Str → Str → Managed Str
  /-- `File::Exists` -/
  fileExists : Str → Bool
  /-- `Assembly::LoadFrom` -/
  loadFrom : Str → Managed Addr

/-! ## The handlers -/

/-- The file that a handler looks for in a folder. -/
def candidatePath (env : ResolveEnv) (name folderPath : Str) : Managed Str := do
  let assemblyName := (← env.simpleName name) ++ lit ".dll"
  env.combine folderPath assemblyName

/-- The DLL of this name in a folder, if it is there. -/
def loadFromFolder (env : ResolveEnv) (name folderPath : Str) : Managed (Option Addr) := do
  let assemblyPath ← candidatePath env name folderPath
  if env.fileExists assemblyPath then
    let assembly ← env.loadFrom assemblyPath
    return some assembly
  else return none

/-- `SameFolderAssemblyLoader::LoadFromSameFolder`. -/
def loadFromSameFolder (env : ResolveEnv) (name : Str) : Managed (Option Addr) := do
  let folderPath := env.directoryName (← env.location)
  loadFromFolder env name folderPath

/-- `PathListAssemblyLoader::LoadFromPathList`. -/
def loadFromPathList (env : ResolveEnv) (asmPathList : List Str) (name : Str) :
    Managed (Option Addr) :=
  tryEach (loadFromFolder env name) asmPathList

def ResolveHandler.handle (env : ResolveEnv) (name : Str) : ResolveHandler → Managed (Option Addr)
  | .loadFromSameFolder => CLRHost.loadFromSameFolder env name

/-- The event in the current domain. -/
def State.resolve (s : State) (env : ResolveEnv) (name : Str) : Managed (Option Addr) :=
  tryEach (ResolveHandler.handle env name) s.resolveHandlers

/-- The event in the domain of an instance. -/
def AssemblyInstance.resolve (inst : AssemblyInstance) (env : ResolveEnv) (name : Str) :
    Managed (Option Addr) :=
  loadFromPathList env inst.asmSearchPaths name

/-! ## One folder -/

/-- The folder has the file, and it loads. -/
def Finds (env : ResolveEnv) (name folderPath : Str) (assembly : Addr) : Prop :=
  ∃ assemblyPath, candidatePath env name folderPath = .ok assemblyPath ∧
    env.fileExists assemblyPath = true ∧ env.loadFrom assemblyPath = .ok assembly

/-- The folder does not have the file. -/
def Lacks (env : ResolveEnv) (name folderPath : Str) : Prop :=
  ∃ assemblyPath, candidatePath env name folderPath = .ok assemblyPath ∧
    env.fileExists assemblyPath = false

variable {env : ResolveEnv} {name folderPath : Str}

theorem loadFromFolder_eq_some {assembly : Addr} :
    loadFromFolder env name folderPath = .ok (some assembly) ↔
      Finds env name folderPath assembly := by
  unfold loadFromFolder Finds
  rw [bind_eq_ok]
  refine exists_congr fun assemblyPath => and_congr_right fun _ => ?_
  cases env.fileExists assemblyPath with
  | false => simp [pure, Except.pure]
  | true => cases env.loadFrom assemblyPath <;> simp [bind, Except.bind, pure, Except.pure]

theorem loadFromFolder_eq_none :
    loadFromFolder env name folderPath = .ok none ↔ Lacks env name folderPath := by
  unfold loadFromFolder Lacks
  rw [bind_eq_ok]
  refine exists_congr fun assemblyPath => and_congr_right fun _ => ?_
  cases env.fileExists assemblyPath with
  | false => simp [pure, Except.pure]
  | true => cases env.loadFrom assemblyPath <;> simp [bind, Except.bind, pure, Except.pure]

/-! ## The search path -/

/-- `asmPaths` of `initialize`. -/
def searchPaths (hostDir asmParent : Str) : List Str :=
  [hostDir] ++ if asmParent.length > 0 then [asmParent] else []

theorem loadFromPathList_searchPaths {hostDir asmParent : Str} {assembly : Addr} :
    loadFromPathList env (searchPaths hostDir asmParent) name = .ok (some assembly) ↔
      Finds env name hostDir assembly ∨
        (Lacks env name hostDir ∧ asmParent ≠ [] ∧ Finds env name asmParent assembly) := by
  unfold loadFromPathList searchPaths
  by_cases hlacks : Lacks env name hostDir
  · -- the folder of this assembly has no such file, so it is up to the plugin's
    have hhost := loadFromFolder_eq_none.mpr hlacks
    have hnot : ¬ Finds env name hostDir assembly := fun h => by
      cases hhost.symm.trans (loadFromFolder_eq_some.mpr h)
    rw [List.singleton_append, Lib.tryEach_cons_none hhost]
    cases asmParent with
    | nil => simp [hnot]
    | cons c cs =>
      rw [if_pos (by simp), Lib.tryEach_eq_some]
      constructor
      · intro hex
        obtain ⟨pre, dirPath, post, hsplit, -, hfound⟩ := hex
        obtain ⟨rfl, rfl, -⟩ : pre = [] ∧ dirPath = c :: cs ∧ post = [] := by
          cases pre <;> simp_all
        exact .inr ⟨hlacks, by simp, loadFromFolder_eq_some.mp hfound⟩
      · intro hfound
        rcases hfound with hfound | ⟨-, -, hfound⟩
        · exact absurd hfound hnot
        · exact ⟨[], _, [], rfl, by simp, loadFromFolder_eq_some.mpr hfound⟩
  · rw [List.singleton_append,
      Lib.tryEach_cons_of_ne fun h => hlacks (loadFromFolder_eq_none.mp h),
      loadFromFolder_eq_some]
    simp [hlacks]

/-! ## The current domain -/

variable {fs : PathFns} {abi : Abi} {s : State}

/-- The handler that a call into the framework adds. -/
def ClrCall.handler? : ClrCall → Option ResolveHandler
  | .addResolveHandler => some .loadFromSameFolder
  | _ => none

/-- The handlers are those that were added. -/
theorem resolveHandlers_next (c : NativeCall) :
    ((nativeMachine fs abi).next s c).resolveHandlers =
      s.resolveHandlers ++ (nativeCalls fs abi s c).filterMap ClrCall.handler? := by
  cases c with
  | initializeAsm p d env =>
    show (initializeAsm fs abi s p d env).state.resolveHandlers =
      s.resolveHandlers ++ (initializeAsm fs abi s p d env).calls.filterMap _
    unfold initializeAsm
    dsimp only
    split
    · simp
    split
    · simp [ClrCall.handler?]
    · cases env.location with
      | error e => rfl
      | ok thisAsmPath => cases env.createInstance <;> rfl
  | clrDeInit h env =>
    show (clrDeInit s h env).state.resolveHandlers =
      s.resolveHandlers ++ (clrDeInit s h env).calls.filterMap _
    unfold clrDeInit
    dsimp only
    split
    · simp [ClrCall.handler?]
    · split
      · simp [ClrCall.handler?]
      · split <;> simp [ClrCall.handler?]
  | runMethod h ty me a env =>
    show (runMethod abi s h ty me a env).state.resolveHandlers =
      s.resolveHandlers ++ (runMethod abi s h ty me a env).calls.filterMap _
    rw [runMethod_state]
    unfold runMethod
    split
    · simp
    · split
      · simp
      · next inst _ =>
        unfold AssemblyInstance.runMethod
        rcases inst.findMethod ty me env with e | (_ | method)
        · simp
        · simp
        · cases hinvoke : env.invoke method <;> simp [hinvoke, ClrCall.handler?]

theorem resolveHandlers_run (calls : List NativeCall) :
    ((nativeMachine fs abi).exec start calls).resolveHandlers =
      ((nativeMachine fs abi).events (nativeCalls fs abi) start calls).filterMap
        ClrCall.handler? := by
  have hrun : ((nativeMachine fs abi).exec start calls).resolveHandlers =
      start.resolveHandlers ++ (nativeMachine fs abi).events
        (fun s c => (nativeCalls fs abi s c).filterMap ClrCall.handler?) start calls :=
    (nativeMachine fs abi).exec_collects fun x _ => resolveHandlers_next x.2
  rw [hrun]
  unfold Lib.Machine.events
  rw [List.filterMap_flatMap]
  rfl

/-- In every run the current domain resolves nothing before `initialize` first
adds the handler, and from then on what a single handler does, however often it
is added again. -/
theorem resolve_current (fs : PathFns) (abi : Abi) (calls : List NativeCall) (env : ResolveEnv)
    (name : Str) :
    ((nativeMachine fs abi).exec start calls).resolve env name =
      if .addResolveHandler ∈ (nativeMachine fs abi).events (nativeCalls fs abi) start calls
      then loadFromSameFolder env name else .ok none := by
  unfold State.resolve
  rw [resolveHandlers_run]
  cases hadded : ((nativeMachine fs abi).events (nativeCalls fs abi) start calls).filterMap
      ClrCall.handler? with
  | nil =>
    have hnone : ClrCall.addResolveHandler ∉
        (nativeMachine fs abi).events (nativeCalls fs abi) start calls := fun hmem => by
      have hhandler := List.filterMap_eq_nil_iff.mp hadded _ hmem
      cases hhandler
    rw [if_neg hnone, Lib.tryEach_nil]
  | cons first more =>
    obtain ⟨call, hmem, hcall⟩ := List.mem_filterMap.mp (hadded ▸ List.mem_cons_self)
    have hsome : ClrCall.addResolveHandler ∈
        (nativeMachine fs abi).events (nativeCalls fs abi) start calls := by
      cases call with
      | addResolveHandler => exact hmem
      | _ => cases hcall
    -- there is only the one kind of handler
    have hall : first :: more = List.replicate (more.length + 1) .loadFromSameFolder :=
      List.eq_replicate_of_mem fun h _ => by cases h; rfl
    rw [if_pos hsome, hall, Lib.tryEach_replicate]
    rfl

/-! ## The domain of an instance -/

/-- The instance that an `initialize` makes. -/
structure MadeBy (fs : PathFns) (abi : Abi) (inst : AssemblyInstance) (h : AsmHandle) (p : Str)
    (env : InitEnv) (hostDir : Str) : Prop where
  handle : strHash abi p = h
  assemblyPath : inst.assemblyPath = p
  created : env.createInstance = .ok inst.targetAsm
  location : ∃ thisAsmPath, env.location = .ok thisAsmPath ∧
    hostDir = env.directoryName thisAsmPath
  asmSearchPaths : inst.asmSearchPaths = searchPaths hostDir (fs.parentPath p)

/-- The entry `h` holds this instance. -/
def Holds (h : AsmHandle) (inst : AssemblyInstance) (s : State) : Prop :=
  (s.gHandles[h]?).bind AssemblyInstanceData.instance? = some inst

/-- `clrDeInit` puts no instance into an entry: what it inserts for a handle it
does not know are two null references. -/
theorem holds_of_clrDeInit {h g : AsmHandle} {inst : AssemblyInstance} {env : DeInitEnv}
    (hnext : Holds h inst (clrDeInit s g env).state) : Holds h inst s := by
  unfold Holds at hnext ⊢
  by_cases hmem : g ∈ s.gHandles
  · obtain ⟨data, hdata⟩ := Lib.mem_iff_exists_getElem?.mp hmem
    rcases clrDeInit_registered hdata env with hstate | ⟨dom, -, hstate⟩
    · rw [hstate, insertIfNew_of_getElem? hdata] at hnext
      exact hnext
    · rw [hstate, insertIfNew_of_getElem? hdata, Std.ExtTreeMap.getElem?_erase] at hnext
      split at hnext
      · cases hnext
      · exact hnext
  · rw [clrDeInit_unregistered hmem, Std.ExtTreeMap.getElem?_insertIfNew] at hnext
    split at hnext
    · cases hnext
    · exact hnext

/-- Only `initialize` puts an instance into an entry. -/
theorem holds_next {h : AsmHandle} {inst : AssemblyInstance} {c : NativeCall}
    (hnot : ¬ Holds h inst s) (hnext : Holds h inst ((nativeMachine fs abi).next s c)) :
    ∃ p d env hostDir, c = .initializeAsm p d env ∧ MadeBy fs abi inst h p env hostDir := by
  cases c with
  | initializeAsm p d env =>
    refine ⟨p, d, env, ?_⟩
    change Holds h inst (initializeAsm fs abi s p d env).state at hnext
    unfold initializeAsm at hnext
    dsimp only at hnext
    split at hnext
    · exact absurd hnext hnot
    split at hnext
    · exact absurd hnext hnot
    · cases hloc : env.location with
      | error e =>
        rw [hloc] at hnext
        exact absurd hnext hnot
      | ok thisAsmPath =>
        rw [hloc] at hnext
        cases hnew : env.createInstance with
        | error e =>
          rw [hnew] at hnext
          exact absurd hnext hnot
        | ok targetAsm =>
          rw [hnew] at hnext
          unfold Holds at hnext hnot
          dsimp only at hnext
          rw [Std.ExtTreeMap.getElem?_insertIfNew] at hnext
          split at hnext
          · next hkey =>
            obtain rfl := Option.some.inj hnext
            exact ⟨_, rfl, Std.compare_eq_iff_eq.mp hkey.1, rfl, hnew, ⟨_, hloc, rfl⟩, rfl⟩
          · exact absurd hnext hnot
  | clrDeInit g env =>
    change Holds h inst (clrDeInit s g env).state at hnext
    exact absurd (holds_of_clrDeInit hnext) hnot
  | runMethod g ty me a env =>
    change Holds h inst (runMethod abi s g ty me a env).state at hnext
    rw [runMethod_state] at hnext
    exact absurd hnext hnot

/-- In every run, an instance that an entry holds was made by one `initialize`
of the run, has been in the entry ever since, and resolves a reference in the
folder of this assembly if it is there, and only otherwise in the folder of the
path that this `initialize` was given. -/
theorem resolve_instance (fs : PathFns) (abi : Abi) (calls : List NativeCall) (h : AsmHandle)
    (inst : AssemblyInstance) (hinst : Holds h inst ((nativeMachine fs abi).exec start calls)) :
    ∃ pre p d env hostDir,
      (nativeMachine fs abi).SwitchedOn (Holds h inst) start calls pre (.initializeAsm p d env) ∧
        MadeBy fs abi inst h p env hostDir ∧
        ∀ renv name assembly, inst.resolve renv name = .ok (some assembly) ↔
          Finds renv name hostDir assembly ∨
            (Lacks renv name hostDir ∧ fs.parentPath p ≠ [] ∧
              Finds renv name (fs.parentPath p) assembly) := by
  have hstart : ¬ Holds h inst start := by simp [Holds, start]
  obtain ⟨pre, c, hon⟩ := (nativeMachine fs abi).switchedOn hstart hinst
  obtain ⟨-, hoff, hnext⟩ := hon.flips
  obtain ⟨p, d, env, hostDir, rfl, hmade⟩ := holds_next hoff hnext
  refine ⟨pre, p, d, env, hostDir, hon, hmade, fun renv name assembly => ?_⟩
  unfold AssemblyInstance.resolve
  rw [hmade.asmSearchPaths, loadFromPathList_searchPaths]

section Sample

/-- A framework whose host assembly is in `C:\host`. -/
def pluginEnv : InitEnv :=
  ⟨true, .ok (lit "C:\\host\\CLRHost.dll"), windowsNames.parentPath, .ok 1⟩

def pluginPath : Str := lit "C:\\app\\P.dll"

/-- A plugin is loaded, and another one that cannot be. -/
def pluginRun : List NativeCall :=
  [.initializeAsm pluginPath (lit "C:\\app") pluginEnv,
    .initializeAsm (lit "C:\\app\\Q.dll") (lit "C:\\app")
      { pluginEnv with createInstance := .error () }]

def pluginInstance : AssemblyInstance :=
  ⟨1, 0, pluginPath, [lit "C:\\host", lit "C:\\app"]⟩

theorem resolve_instance_plugin :
    ∃ p d env hostDir, .initializeAsm p d env ∈ pluginRun ∧
      MadeBy windowsNames win64 pluginInstance (strHash win64 pluginPath) p env hostDir := by
  obtain ⟨pre, p, d, env, hostDir, ⟨post, hsplit, -⟩, hmade, -⟩ := resolve_instance windowsNames
    win64 pluginRun (strHash win64 pluginPath) pluginInstance (by unfold Holds; decide)
  exact ⟨p, d, env, hostDir, by simp [hsplit], hmade⟩

end Sample

end EzDotnet.CLRHost
