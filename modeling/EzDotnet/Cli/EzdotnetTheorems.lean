/-
EzDotnet.Cli.EzdotnetTheorems — what the exit status of the driver says
(`reportsFailure_iff`).

The tests under `test/` judge a run by this status alone. Up to the lookup
of the two functions the driver keeps its promise: a step that fails ends
the run with status 1 (`main_usage`, `main_notLoaded`). From there on
(`main_loaded`) it looks at no result: not that of `GET_PWD`, not the handle,
not what `runMethod` returns, and the status is 0 whenever both calls come
back.
-/
import EzDotnet.Cli.Ezdotnet
import EzDotnet.CoreCLR.LifecycleTheorems

namespace EzDotnet.Cli

variable {σ : Type} {env : Env σ} {args : Args} {cmd : Command}
  {clrInit : ClrInitFunc σ} {runMethod : RunMethodFunc σ}

/-- The library opens and exports the two functions. -/
def Loads (env : Env σ) (cmd : Command) (clrInit : ClrInitFunc σ)
    (runMethod : RunMethodFunc σ) : Prop :=
  env.libOpen (env.finalLoaderPath cmd.loaderPath) = some ⟨some clrInit, some runMethod⟩

/-- Every step of the run succeeds. -/
def AllSucceed (env : Env σ) (args : Args) : Prop :=
  ∃ cmd clrInit runMethod dir s handle,
    args.command env.abi = some cmd ∧ Loads env cmd clrInit runMethod ∧
    getPwd env.cwd bufSize = some dir ∧
    clrInit cmd.asmPath (some dir) env.debugMode = (s, .value handle) ∧
    handle ≠ nullAsmHandle ∧
    runMethod s handle cmd.className cmd.methodName cmd.modArgs = .value 0

/-- The driver reports failure, and stops at it: the status is 0 exactly
when every step succeeded, `runMethod` never gets a null handle, and
`clrInit` never gets a directory that was not stored. -/
structure ReportsFailure (env : Env σ) (args : Args) : Prop where
  zero : (main env args).status = .value 0 ↔ AllSucceed env args
  handle : ∀ handle className methodName modArgs,
    Call.runMethod handle className methodName modArgs ∈ (main env args).calls →
      handle ≠ nullAsmHandle
  directory : ∀ asmPath buf debugMode,
    Call.clrInit asmPath buf debugMode ∈ (main env args).calls → buf ≠ none

/-- In a run that gets as far as the two functions: the current directory
is known and fits into the buffer, the handle is not null, and `runMethod`
returns 0, each where it comes to that. -/
def LateStepsSucceed (env : Env σ) (args : Args) : Prop :=
  ∀ cmd clrInit runMethod, args.command env.abi = some cmd → Loads env cmd clrInit runMethod →
    ∃ dir, env.cwd = some dir ∧ dir.length < bufSize ∧
      ∀ s handle, clrInit cmd.asmPath (some dir) env.debugMode = (s, .value handle) →
        handle ≠ nullAsmHandle ∧
        ∀ rc, runMethod s handle cmd.className cmd.methodName cmd.modArgs = .value rc → rc = 0

/-! ## The directory -/

theorem getPwd_eq_some {cwd : Option Str} {size : Nat} {dir : Str} :
    getPwd cwd size = some dir ↔ cwd = some dir ∧ dir.length < size := by
  unfold getPwd
  cases cwd with
  | none => simp
  | some d =>
    dsimp only
    by_cases hfits : d.length + 1 ≤ size
    · rw [if_pos hfits]
      refine ⟨fun h => ?_, fun h => h.1⟩
      obtain rfl := Option.some.inj h
      exact ⟨rfl, hfits⟩
    · rw [if_neg hfits]
      refine ⟨fun h => (by cases h), fun ⟨h, hlt⟩ => ?_⟩
      obtain rfl := Option.some.inj h
      exact absurd hlt hfits

/-! ## One run -/

theorem Loads.unique {clrInit' : ClrInitFunc σ} {runMethod' : RunMethodFunc σ}
    (h : Loads env cmd clrInit runMethod) (h' : Loads env cmd clrInit' runMethod') :
    clrInit' = clrInit ∧ runMethod' = runMethod := by
  unfold Loads at h h'
  rw [h] at h'
  injection h' with hlib
  injection hlib with hinit hrun
  exact ⟨(Option.some.inj hinit).symm, (Option.some.inj hrun).symm⟩

/-- Too few arguments: the usage, and status 1. -/
theorem main_usage (h : args.argc < 5) : main env args = ⟨.value 1, []⟩ := by
  unfold main
  rw [Args.command_eq_none_iff.mpr h]

/-- No library, or not both functions in it: status 1, and no call. -/
theorem main_notLoaded (hcmd : args.command env.abi = some cmd)
    (hload : ¬ ∃ clrInit runMethod, Loads env cmd clrInit runMethod) :
    main env args = ⟨.value 1, []⟩ := by
  have hgo : go env cmd = ⟨.value (-1), []⟩ := by
    unfold go
    cases hopen : env.libOpen (env.finalLoaderPath cmd.loaderPath) with
    | none => rfl
    | some hmod =>
      obtain ⟨clrInit?, runMethod?⟩ := hmod
      cases clrInit? with
      | none => rfl
      | some clrInit =>
        cases runMethod? with
        | none => rfl
        | some runMethod => exact absurd ⟨clrInit, runMethod, hopen⟩ hload
  unfold main
  rw [hcmd]
  dsimp only
  rw [hgo]
  rfl

/-- With both functions at hand `clrInit` is called, whatever the buffer
holds, and `runMethod` with whatever it returns. -/
theorem main_loaded (hcmd : args.command env.abi = some cmd)
    (hload : Loads env cmd clrInit runMethod) :
    main env args =
      let buf := getPwd env.cwd bufSize
      let init := Call.clrInit cmd.asmPath buf env.debugMode
      match clrInit cmd.asmPath buf env.debugMode with
      | (s, .value handle) =>
        ⟨(runMethod s handle cmd.className cmd.methodName cmd.modArgs).map fun _ => 0,
          [init, .runMethod handle cmd.className cmd.methodName cmd.modArgs]⟩
      | (_, .throws) => ⟨.throws, [init]⟩
      | (_, .undefined) => ⟨.undefined, [init]⟩ := by
  unfold main go
  rw [hcmd]
  dsimp only
  rw [hload]
  dsimp only
  rcases clrInit cmd.asmPath (getPwd env.cwd bufSize) env.debugMode with ⟨s, handle | _ | _⟩
  · dsimp only
    rw [Ret.map_map]
    rfl
  · rfl
  · rfl

/-- The status is 0 as soon as both calls come back. -/
theorem status_loaded (hcmd : args.command env.abi = some cmd)
    (hload : Loads env cmd clrInit runMethod) :
    (main env args).status = .value 0 ↔
      ∃ s handle rc,
        clrInit cmd.asmPath (getPwd env.cwd bufSize) env.debugMode = (s, .value handle) ∧
        runMethod s handle cmd.className cmd.methodName cmd.modArgs = .value rc := by
  rw [main_loaded hcmd hload]
  dsimp only
  rcases clrInit cmd.asmPath (getPwd env.cwd bufSize) env.debugMode with ⟨s, handle | _ | _⟩
  · simp
  · simp
  · simp

/-- `clrInit` is called once, with the buffer as `GET_PWD` left it. -/
theorem clrInit_called_iff (hcmd : args.command env.abi = some cmd)
    (hload : Loads env cmd clrInit runMethod) {asmPath : Str} {buf : Option Str}
    {debugMode : BitVec 32} :
    Call.clrInit asmPath buf debugMode ∈ (main env args).calls ↔
      asmPath = cmd.asmPath ∧ buf = getPwd env.cwd bufSize ∧ debugMode = env.debugMode := by
  rw [main_loaded hcmd hload]
  dsimp only
  rcases clrInit cmd.asmPath (getPwd env.cwd bufSize) env.debugMode with ⟨s, handle | _ | _⟩
  · simp
  · simp
  · simp

/-- `runMethod` is called with every handle `clrInit` returns. -/
theorem runMethod_called_iff (hcmd : args.command env.abi = some cmd)
    (hload : Loads env cmd clrInit runMethod) {handle : AsmHandle}
    {className methodName : Str} {modArgs : Argv} :
    Call.runMethod handle className methodName modArgs ∈ (main env args).calls ↔
      (∃ s, clrInit cmd.asmPath (getPwd env.cwd bufSize) env.debugMode = (s, .value handle)) ∧
        className = cmd.className ∧ methodName = cmd.methodName ∧ modArgs = cmd.modArgs := by
  rw [main_loaded hcmd hload]
  dsimp only
  rcases clrInit cmd.asmPath (getPwd env.cwd bufSize) env.debugMode with ⟨s, handle' | _ | _⟩
  · simp [eq_comm]
  · simp
  · simp

/-- The rest of the array starts at its sixth pointer. -/
theorem Args.command_modArgs {abi : Abi} {args : Args} (hcmd : args.command abi = some cmd) :
    5 ≤ args.argc ∧
      cmd.modArgs = ⟨BitVec.ofNat 32 (args.argc - 5), args.addr + 5 * abi.ptrBytes⟩ := by
  have hargc : 5 ≤ args.argc := by
    by_contra hlt
    rw [Args.command_eq_none_iff.mpr (Nat.lt_of_not_le hlt)] at hcmd
    cases hcmd
  refine ⟨hargc, ?_⟩
  unfold Args.command at hcmd
  split at hcmd
  · rw [← Option.some.inj hcmd]
  · cases hcmd

/-- What `runMethod` is called with. -/
theorem modArgs_of_called {handle : AsmHandle} {className methodName : Str} {modArgs : Argv}
    (hcall : Call.runMethod handle className methodName modArgs ∈ (main env args).calls) :
    5 ≤ args.argc ∧
      modArgs = ⟨BitVec.ofNat 32 (args.argc - 5), args.addr + 5 * env.abi.ptrBytes⟩ := by
  cases hcmd : args.command env.abi with
  | none =>
    rw [main_usage (Args.command_eq_none_iff.mp hcmd)] at hcall
    simp at hcall
  | some cmd =>
    obtain ⟨hargc, hmod⟩ := Args.command_modArgs hcmd
    by_cases hload : ∃ clrInit runMethod, Loads env cmd clrInit runMethod
    · obtain ⟨clrInit, runMethod, hload⟩ := hload
      obtain ⟨_, _, _, rfl⟩ := (runMethod_called_iff hcmd hload).mp hcall
      exact ⟨hargc, hmod⟩
    · rw [main_notLoaded hcmd hload] at hcall
      simp at hcall

/-- The parts of `AllSucceed` that are left once the functions are known. -/
theorem allSucceed_loaded (hcmd : args.command env.abi = some cmd)
    (hload : Loads env cmd clrInit runMethod) :
    AllSucceed env args ↔
      ∃ dir s handle, getPwd env.cwd bufSize = some dir ∧
        clrInit cmd.asmPath (some dir) env.debugMode = (s, .value handle) ∧
        handle ≠ nullAsmHandle ∧
        runMethod s handle cmd.className cmd.methodName cmd.modArgs = .value 0 := by
  constructor
  · intro ⟨cmd', _, _, dir, s, handle, hcmd', hload', hrest⟩
    obtain rfl := Option.some.inj (hcmd.symm.trans hcmd')
    obtain ⟨rfl, rfl⟩ := hload.unique hload'
    exact ⟨dir, s, handle, hrest⟩
  · intro ⟨dir, s, handle, hrest⟩
    exact ⟨cmd, clrInit, runMethod, dir, s, handle, hcmd, hload, hrest⟩

/-! ## The law -/

/-- A run that ends before the calls meets the law, with status 1. -/
theorem reportsFailure_early (hmain : main env args = ⟨.value 1, []⟩)
    (hno : ¬ AllSucceed env args) : ReportsFailure env args where
  zero := by simp [hmain, hno]
  handle := by simp [hmain]
  directory := by simp [hmain]

/-- The law in a run that has the two functions. -/
theorem reportsFailure_loaded (hcmd : args.command env.abi = some cmd)
    (hload : Loads env cmd clrInit runMethod) :
    ReportsFailure env args ↔
      ∃ dir, getPwd env.cwd bufSize = some dir ∧
        ∀ s handle, clrInit cmd.asmPath (some dir) env.debugMode = (s, .value handle) →
          handle ≠ nullAsmHandle ∧
          ∀ rc, runMethod s handle cmd.className cmd.methodName cmd.modArgs = .value rc →
            rc = 0 := by
  have hstatus := status_loaded hcmd hload
  have hall := allSucceed_loaded hcmd hload
  constructor
  · intro h
    have hpwd : getPwd env.cwd bufSize ≠ none :=
      h.directory _ _ _ ((clrInit_called_iff hcmd hload).mpr ⟨rfl, rfl, rfl⟩)
    obtain ⟨dir, hdir⟩ := Option.ne_none_iff_exists'.mp hpwd
    refine ⟨dir, hdir, ?_⟩
    intro s handle hinit
    have hcalled := (runMethod_called_iff hcmd hload).mpr ⟨⟨s, hdir ▸ hinit⟩, rfl, rfl, rfl⟩
    refine ⟨h.handle _ _ _ _ hcalled, ?_⟩
    intro rc hrc
    have hzero := hstatus.mpr ⟨s, handle, rc, hdir ▸ hinit, hrc⟩
    obtain ⟨dir', s', handle', hdir', hinit', -, hok⟩ := hall.mp (h.zero.mp hzero)
    obtain rfl := Option.some.inj (hdir.symm.trans hdir')
    obtain ⟨rfl, hhandle⟩ := Prod.mk.inj (hinit.symm.trans hinit')
    obtain rfl := Ret.value.inj hhandle
    exact Ret.value.inj (hrc.symm.trans hok)
  · intro ⟨dir, hdir, hlate⟩
    rw [hdir] at hstatus
    refine ⟨?_, ?_, ?_⟩
    · rw [hstatus, hall]
      constructor
      · intro ⟨s, handle, rc, hinit, hrc⟩
        obtain ⟨hne, hok⟩ := hlate s handle hinit
        exact ⟨dir, s, handle, hdir, hinit, hne, hok rc hrc ▸ hrc⟩
      · intro ⟨dir', s, handle, hdir', hinit, _, hok⟩
        obtain rfl := Option.some.inj (hdir.symm.trans hdir')
        exact ⟨s, handle, 0, hinit, hok⟩
    · intro handle _ _ _ hcalled
      obtain ⟨⟨s, hinit⟩, -⟩ := (runMethod_called_iff hcmd hload).mp hcalled
      exact (hlate s handle (hdir ▸ hinit)).1
    · intro _ buf _ hcalled
      have hbuf := ((clrInit_called_iff hcmd hload).mp hcalled).2.1
      rw [hbuf, hdir]
      exact Option.some_ne_none dir

/-- The driver reports failure exactly in the runs whose late steps do not
fail: a run that gets as far as the two functions finds its directory short
enough for the buffer, a handle that is not null, and 0 from `runMethod`. -/
theorem reportsFailure_iff (env : Env σ) (args : Args) :
    ReportsFailure env args ↔ LateStepsSucceed env args := by
  unfold LateStepsSucceed
  cases hcmd : args.command env.abi with
  | none =>
    have hmain : main env args = ⟨.value 1, []⟩ := main_usage (Args.command_eq_none_iff.mp hcmd)
    have hno : ¬ AllSucceed env args := by
      intro ⟨_, _, _, _, _, _, hsome, _⟩
      rw [hcmd] at hsome
      cases hsome
    exact ⟨fun _ _ _ _ hsome => (by cases hsome), fun _ => reportsFailure_early hmain hno⟩
  | some cmd =>
    by_cases hex : ∃ clrInit runMethod, Loads env cmd clrInit runMethod
    · obtain ⟨clrInit, runMethod, hload⟩ := hex
      rw [reportsFailure_loaded hcmd hload]
      simp only [getPwd_eq_some, and_assoc]
      constructor
      · intro h cmd' clrInit' runMethod' hcmd' hload'
        obtain rfl := Option.some.inj hcmd'
        obtain ⟨rfl, rfl⟩ := hload.unique hload'
        exact h
      · intro h
        exact h cmd clrInit runMethod rfl hload
    · have hmain := main_notLoaded hcmd hex
      have hno : ¬ AllSucceed env args := by
        intro ⟨cmd', clrInit, runMethod, _, _, _, hcmd', hload, _⟩
        obtain rfl := Option.some.inj (hcmd.symm.trans hcmd')
        exact hex ⟨clrInit, runMethod, hload⟩
      refine ⟨fun _ cmd' clrInit runMethod hcmd' hload => ?_, fun _ =>
        reportsFailure_early hmain hno⟩
      obtain rfl := Option.some.inj hcmd'
      exact absurd ⟨clrInit, runMethod, hload⟩ hex

/-! ## The driver on the CoreCLR backend -/

/-- `ezdotnet libcoreclrhost.so /app/P.dll T M`. -/
def sampleArgs : Args where
  argv := [lit "ezdotnet", lit "libcoreclrhost.so", CoreCLR.samplePath, lit "T", lit "M"]
  addr := 0
  fits := by decide

/-- A run on the CoreCLR backend in the directory `cwd`. -/
def coreclrEnv (cwd : Str) (init : CoreCLR.InitEnv) (call : CoreCLR.RunEnv) :
    Env CoreCLR.State where
  abi := linux64
  debugMode := 0
  finalLoaderPath := id
  libOpen := fun _ => some (.ofBackend (CoreCLR.backend linux64) [] init call)
  cwd := some cwd

/-- The runtime does not find the method. -/
def noMethod : CoreCLR.RunEnv := ⟨fun _ _ _ => none, fun _ => true⟩

/-- hostfxr cannot be opened. -/
def noHostfxr : CoreCLR.InitEnv :=
  { CoreCLR.workingEnv with hostfxr := { CoreCLR.workingEnv.hostfxr with opens := fun _ => false } }

def sampleCommand : Command :=
  ⟨lit "libcoreclrhost.so", CoreCLR.samplePath, lit "T", lit "M", ⟨0, 40⟩⟩

theorem sampleArgs_command : sampleArgs.command linux64 = some sampleCommand := by decide

theorem loads_coreclr (cwd : Str) (init : CoreCLR.InitEnv) (call : CoreCLR.RunEnv) :
    Loads (coreclrEnv cwd init call) sampleCommand
      (clrInitOf (CoreCLR.backend linux64) [] init)
      (runMethodOf (CoreCLR.backend linux64) call) := rfl

/-- `runMethod` returns -1 and the status is 0; `clrInit` fails and
`runMethod` is called with its null handle; a directory of 255 bytes is one
too long, and `clrInit` is called with what the buffer held. -/
theorem main_drops_results :
    (main (coreclrEnv (lit "/app") CoreCLR.workingEnv noMethod) sampleArgs).status = .value 0 ∧
    ¬ ReportsFailure (coreclrEnv (lit "/app") CoreCLR.workingEnv noMethod) sampleArgs ∧
    Call.runMethod nullAsmHandle (lit "T") (lit "M") ⟨0, 40⟩ ∈
      (main (coreclrEnv (lit "/app") noHostfxr noMethod) sampleArgs).calls ∧
    Call.clrInit CoreCLR.samplePath none 0 ∈
      (main (coreclrEnv (List.replicate 255 slash) CoreCLR.workingEnv noMethod)
        sampleArgs).calls := by
  have hlong : getPwd (some (List.replicate 255 slash)) bufSize = none := by
    unfold getPwd
    dsimp only
    rw [if_neg]
    rw [List.length_replicate]
    decide
  refine ⟨by decide, fun hreports => ?_, by decide, ?_⟩
  · have hall := hreports.zero.mp (by decide)
    obtain ⟨dir, s, handle, hdir, hinit, -, hok⟩ :=
      (allSucceed_loaded sampleArgs_command (loads_coreclr _ _ _)).mp hall
    obtain rfl := Option.some.inj hdir
    obtain ⟨rfl, hhandle⟩ := Prod.mk.inj hinit
    obtain rfl := Ret.value.inj hhandle
    exact absurd hok (by decide)
  · exact (clrInit_called_iff sampleArgs_command (loads_coreclr _ _ _)).mpr
      ⟨rfl, hlong.symm, rfl⟩

end EzDotnet.Cli
