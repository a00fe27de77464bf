/-
EzDotnet.Backends.CygwinDriver — the driver as it is built for Cygwin, with
the CLRHost backend behind it.

Three paths cross over to Windows, in two modules with globals of their own:
the driver converts the path of the library before it opens it, and the
backend, inside `clrInit`, those of the assembly and of the directory, which
it is handed as they are. Each conversion may end in an exception, and
nothing on the way back catches it.

`cygwin_exit_status` is the whole of it: the exit status is 0 exactly when
Cygwin has Windows paths for all three, the framework made an instance of the
converted assembly, and the call of its method came back.
-/
import EzDotnet.Backends.Driver
import EzDotnet.CLRHost.Process

namespace EzDotnet

open Win32 (ModuleEnv ConvEnv converted)

/-! ## The two sides -/

namespace Cli

variable {σ : Type}

/-- `main` under `__CYGWIN__`, where `go` converts the path of the library;
the path that `env` would open plays no part. -/
def mainCygwin (env : Env σ) (module : ModuleEnv) (conv : ConvEnv) (args : Args) : Outcome :=
  match args.command env.abi with
  | none => ⟨.value 1, []⟩
  | some cmd =>
    let g := Win32.initCygwin {} module
    match Win32.dupPath (Win32.toWindowsPath g conv) cmd.loaderPath with
    | .value finalLoaderPath => main { env with finalLoaderPath := fun _ => finalLoaderPath } args
    | .throws => ⟨.throws, []⟩
    | .undefined => ⟨.undefined, []⟩

end Cli

namespace CLRHost

/-- The library of the backend, in a process that has not called it yet. -/
def processLibrary (fs : PathFns) (abi : Abi) (undefinedDir : Str) (init : ProcessEnv)
    (call : RunEnv) : Cli.Library ProcessState where
  clrInit := some fun asmPath buf _ =>
    let r := processClrInit fs abi ⟨{}, start⟩ asmPath (buf.getD undefinedDir) init
    (r.state, r.ret)
  runMethod := some fun s handle typeName methodName args =>
    (runMethod abi s.host handle typeName methodName args call).ret

variable {fs : PathFns} {abi : Abi}

/-- A first `initialize` returns the handle of the entry that it made, and
nothing else. -/
theorem initializeAsm_start (p d : Str) (env : InitEnv) (h : AsmHandle) :
    (initializeAsm fs abi start p d env).ret = .value h ↔
      h = strHash abi p ∧ strHash abi p ∈ (initializeAsm fs abi start p d env).state.gHandles := by
  have hnot : strHash abi p ∉ start.gHandles := Std.ExtTreeMap.not_mem_empty
  unfold initializeAsm
  dsimp only
  rw [if_neg hnot]
  cases env.createDomain with
  | false => simp [hnot]
  | true =>
    cases env.location with
    | error e => simp [hnot]
    | ok thisAsmPath =>
      cases env.createInstance with
      | error e => simp [hnot]
      | ok targetAsm => simp [eq_comm]

/-- Behind an `initCygwin` that finds the function, `clrInit` initialises the
converted paths or throws. -/
theorem processClrInit_converts (fs : PathFns) (abi : Abi) {win : Str → Option Str}
    {env : ProcessEnv}
    (hmodule : env.module.finds = true) (hasm : env.convAsm.Converts win)
    (hdir : env.convDir.Converts win) (s : ProcessState) (p d : Str) :
    (∃ asmPath asmDir, win (cstr p) = some asmPath ∧ win (cstr d) = some asmDir ∧
        (processClrInit fs abi s p d env).state.host =
          (initializeAsm fs abi s.host asmPath asmDir env.init).state ∧
        (processClrInit fs abi s p d env).ret =
          (initializeAsm fs abi s.host asmPath asmDir env.init).ret) ∨
      ((win (cstr p) = none ∨ win (cstr d) = none) ∧
        (processClrInit fs abi s p d env).ret = .throws) := by
  unfold processClrInit nativePaths
  simp only [toNativePath_init s.globals hasm, toNativePath_init s.globals hdir, hmodule, if_true]
  cases hp : win (cstr p) with
  | none =>
    refine .inr ⟨.inl rfl, ?_⟩
    cases win (cstr d) <;> cases env.dirFirst <;> rfl
  | some asmPath =>
    cases hd : win (cstr d) with
    | none =>
      refine .inr ⟨.inr rfl, ?_⟩
      cases env.dirFirst <;> rfl
    | some asmDir =>
      refine .inl ⟨asmPath, asmDir, rfl, rfl, ?_⟩
      cases env.dirFirst <;> exact ⟨rfl, rfl⟩

end CLRHost

/-! ## The exit status -/

namespace Backends

open Cli (Env Args Command EndsBy getPwd bufSize)
open CLRHost (ProcessEnv ProcessState PathFns RunEnv)

/-- Cygwin is there for both modules, and converts as `win` says. -/
structure InCygwin (win : Str → Option Str) (module : ModuleEnv) (conv : ConvEnv)
    (init : ProcessEnv) : Prop where
  driver : module.finds = true
  backend : init.module.finds = true
  conv : conv.Converts win
  convAsm : init.convAsm.Converts win
  convDir : init.convDir.Converts win

/-- The paths of the command have Windows paths, an instance is made of the
assembly, and the call of its method comes back. -/
def CygwinCameBack (fs : PathFns) (env : Env ProcessState) (win : Str → Option Str)
    (cmd : Command) (undefinedDir : Str) (init : ProcessEnv) (call : RunEnv) : Prop :=
  ∃ loaderPath asmPath asmDir, win (cstr cmd.loaderPath) = some loaderPath ∧
    win (cstr cmd.asmPath) = some asmPath ∧
    win (cstr ((getPwd env.cwd bufSize).getD undefinedDir)) = some asmDir ∧
    let s := (CLRHost.initializeAsm fs env.abi CLRHost.start asmPath asmDir init.init).state
    strHash env.abi asmPath ∈ s.gHandles ∧
      ∃ rc, (CLRHost.runMethod env.abi s (strHash env.abi asmPath) cmd.className cmd.methodName
        cmd.modArgs call).ret = .value rc

/-- The path of the library, as `go` gets it back. -/
theorem dupPath_toWindowsPath {win : Str → Option Str} {module : ModuleEnv} {conv : ConvEnv}
    (hmodule : module.finds = true) (hconv : conv.Converts win) (path : Str) :
    Win32.dupPath (Win32.toWindowsPath (Win32.initCygwin {} module) conv) path =
      converted (win (cstr path)) := by
  obtain ⟨hcygwin1, hfound⟩ : module.cygwin1 = true ∧ module.convPath.isSome = true := by
    simpa [ModuleEnv.finds] using hmodule
  obtain ⟨pfn, hpfn⟩ := Option.isSome_iff_exists.mp hfound
  have hpointer : (Win32.initCygwin {} module).pfnCygwinConvPath = some pfn := by
    simp [Win32.initCygwin, hcygwin1, hpfn]
  unfold Win32.dupPath
  rw [Win32.toWindowsPath_converts hconv hpointer, cstr_eq_self (notMem_cstr path)]
  cases hwin : win (cstr path) with
  | none => rfl
  | some w =>
    show Ret.value (cstr w) = .value w
    rw [cstr_eq_self (hconv.noNul _ _ hwin)]

/-- The two functions of the library, over what Cygwin makes of the paths. -/
theorem processLibrary_cameBack (fs : PathFns) {win : Str → Option Str} {module : ModuleEnv}
    {conv : ConvEnv} {init : ProcessEnv} (hwin : InCygwin win module conv init) (abi : Abi)
    (p d ty me : Str) (a : Argv) (call : RunEnv) :
    let r := CLRHost.processClrInit fs abi ⟨{}, CLRHost.start⟩ p d init
    (∃ handle rc, r.ret = .value handle ∧
        (CLRHost.runMethod abi r.state.host handle ty me a call).ret = .value rc) ↔
      ∃ asmPath asmDir, win (cstr p) = some asmPath ∧ win (cstr d) = some asmDir ∧
        let s := (CLRHost.initializeAsm fs abi CLRHost.start asmPath asmDir init.init).state
        strHash abi asmPath ∈ s.gHandles ∧
          ∃ rc, (CLRHost.runMethod abi s (strHash abi asmPath) ty me a call).ret = .value rc := by
  dsimp only
  rcases CLRHost.processClrInit_converts fs abi hwin.backend hwin.convAsm hwin.convDir
    ⟨{}, CLRHost.start⟩ p d with
    ⟨asmPath, asmDir, hp, hd, hstate, hret⟩ | ⟨hnone, hret⟩
  · simp only [hp, hd, hstate, hret, CLRHost.initializeAsm_start, Option.some.injEq]
    constructor
    · intro hex
      obtain ⟨handle, rc, ⟨rfl, hreg⟩, hrun⟩ := hex
      exact ⟨asmPath, asmDir, rfl, rfl, hreg, rc, hrun⟩
    · intro hex
      obtain ⟨_, _, rfl, rfl, hreg, rc, hrun⟩ := hex
      exact ⟨_, rc, ⟨rfl, hreg⟩, hrun⟩
  · rw [hret]
    constructor
    · intro hex
      obtain ⟨_, _, h, -⟩ := hex
      cases h
    · intro hex
      obtain ⟨_, _, hp, hd, -⟩ := hex
      rcases hnone with h | h
      · rw [hp] at h
        cases h
      · rw [hd] at h
        cases h

/-- In Cygwin, with the backend behind the Windows path of the library: the
status is 0 exactly when the three paths have Windows paths, the framework made
an instance of the converted assembly, and the call came back; else the
process dies, undefined behaviour counted as its death. -/
theorem cygwin_exit_status (fs : PathFns) {win : Str → Option Str} {module : ModuleEnv}
    {conv : ConvEnv} {init : ProcessEnv} (hwin : InCygwin win module conv init)
    (env : Env ProcessState) (args : Args) (cmd : Command) (undefinedDir : Str) (call : RunEnv)
    (hcmd : args.command env.abi = some cmd)
    (hopen : ∀ loaderPath, win (cstr cmd.loaderPath) = some loaderPath →
      env.libOpen loaderPath = some (CLRHost.processLibrary fs env.abi undefinedDir init call)) :
    EndsBy (CygwinCameBack fs env win cmd undefinedDir init call)
      (Cli.mainCygwin env module conv args).status := by
  unfold Cli.mainCygwin
  rw [hcmd]
  dsimp only
  rw [dupPath_toWindowsPath hwin.driver hwin.conv]
  cases hloader : win (cstr cmd.loaderPath) with
  | none =>
    refine ⟨⟨fun h => (by cases h), fun hcame => ?_⟩, fun _ => .inl rfl⟩
    obtain ⟨loaderPath, _, _, hsome, -⟩ := hcame
    rw [hloader] at hsome
    cases hsome
  | some loaderPath =>
    have hload := hopen loaderPath hloader
    show EndsBy _ (Cli.main { env with finalLoaderPath := fun _ => loaderPath } args).status
    set env' : Env ProcessState := { env with finalLoaderPath := fun _ => loaderPath }
    have hcmd' : args.command env'.abi = some cmd := hcmd
    have hload' : Cli.Loads env' cmd _ _ := hload
    have hzero : (Cli.main env' args).status = .value 0 ↔
        CygwinCameBack fs env win cmd undefinedDir init call := by
      rw [Cli.status_loaded hcmd' hload']
      have hback := processLibrary_cameBack fs hwin env.abi cmd.asmPath
        ((getPwd env.cwd bufSize).getD undefinedDir) cmd.className cmd.methodName cmd.modArgs call
      constructor
      · intro hex
        obtain ⟨s, handle, rc, hinit, hrun⟩ := hex
        obtain ⟨rfl, hret⟩ := Prod.mk.inj hinit
        obtain ⟨asmPath, asmDir, hrest⟩ := hback.mp ⟨handle, rc, hret, hrun⟩
        exact ⟨loaderPath, asmPath, asmDir, hloader, hrest⟩
      · intro hcame
        obtain ⟨_, asmPath, asmDir, -, hrest⟩ := hcame
        obtain ⟨handle, rc, hret, hrun⟩ := hback.mpr ⟨asmPath, asmDir, hrest⟩
        exact ⟨_, handle, rc, Prod.ext rfl hret, hrun⟩
    exact ⟨hzero, fun hno => (Cli.status_of_loads hcmd' hload').resolve_left
      fun hvalue => hno (hzero.mp hvalue)⟩

/-- `ezdotnet /clrhost.dll /app/P.dll T M`. -/
def cygwinArgs : Args where
  argv := [lit "ezdotnet", lit "/clrhost.dll", lit "/app/P.dll", lit "T", lit "M"]
  addr := 0
  fits := by decide

def cygwinCommand : Command := ⟨lit "/clrhost.dll", lit "/app/P.dll", lit "T", lit "M", ⟨0, 40⟩⟩

/-- The type and the method are found, and the method returns. -/
def returningMethod : RunEnv := ⟨fun _ _ => .ok (some 2), fun _ _ => .ok (some 3), fun _ => true⟩

def cygwinEnv : Env ProcessState where
  abi := win64
  debugMode := 0
  finalLoaderPath := id
  libOpen path :=
    if path = lit "C:\\cygwin64\\clrhost.dll" then
      some (CLRHost.processLibrary CLRHost.windowsNames win64 [] CLRHost.inCygwin
        returningMethod)
    else none
  -- `GetCurrentDirectory` knows Windows paths only
  cwd := some (lit "C:\\cygwin64\\app")

theorem inCygwin_cygdrive :
    InCygwin Win32.cygdrive ⟨true, some 1⟩ (.ofWin Win32.cygdrive) CLRHost.inCygwin where
  driver := rfl
  backend := rfl
  conv := Win32.ConvEnv.ofWin_converts Win32.cygdrive_noNul
  convAsm := Win32.ConvEnv.ofWin_converts Win32.cygdrive_noNul
  convDir := Win32.ConvEnv.ofWin_converts Win32.cygdrive_noNul

theorem cygwin_exit_status_clrhost :
    (Cli.mainCygwin cygwinEnv ⟨true, some 1⟩ (.ofWin Win32.cygdrive) cygwinArgs).status
      = .value 0 := by
  have hloader : Win32.cygdrive (cstr cygwinCommand.loaderPath) =
      some (lit "C:\\cygwin64\\clrhost.dll") := by decide
  have hasm : Win32.cygdrive (cstr cygwinCommand.asmPath) =
      some (lit "C:\\cygwin64\\app\\P.dll") := by decide
  have hdir : Win32.cygdrive (cstr ((getPwd cygwinEnv.cwd bufSize).getD [])) =
      some (lit "C:\\cygwin64\\app") := by decide
  have hends := cygwin_exit_status CLRHost.windowsNames inCygwin_cygdrive cygwinEnv cygwinArgs
    cygwinCommand [] returningMethod (by decide) (by
      intro loaderPath h
      rw [hloader] at h
      obtain rfl := Option.some.inj h
      rfl)
  refine hends.zero.mpr ⟨_, _, _, hloader, hasm, hdir, ?_⟩
  set_option maxRecDepth 2000 in exact ⟨by decide, 0, by decide⟩

end Backends

end EzDotnet
