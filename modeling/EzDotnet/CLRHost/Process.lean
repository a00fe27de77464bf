/-
EzDotnet.CLRHost.Process — the CLRHost backend in a Windows process that may
or may not run inside Cygwin, and may change its mind.

`clrInit` first lets `initCygwin` look for Cygwin and then converts both of
its paths; an exception in a conversion leaves it before `initialize`. The
two conversions are arguments of one call, so which comes first is up to the
compiler. `process_handed` says that this is all Cygwin can do to the
backend: in every run, the state behind the conversion, the calls into the
framework and what happens to the app domains are those of a run of the
backend over native paths. Outside Cygwin that run is the one of `backend`
itself (`process_outside`).
-/
import EzDotnet.Lib.Simulation
import EzDotnet.Common.Cygwin
import EzDotnet.CLRHost.LifetimeTheorems

namespace EzDotnet.CLRHost

open Lib (Deed Orderly Stock)
open Win32 (Globals ModuleEnv ConvEnv converted)

/-! ## The exported functions in their process -/

structure ProcessState where
  globals : Globals
  host : State

/-- What one `clrInit` meets. -/
structure ProcessEnv where
  module : ModuleEnv
  convAsm : ConvEnv
  convDir : ConvEnv
  /-- the conversion of the directory comes first -/
  dirFirst : Bool
  init : InitEnv

/-- Two results that are needed both; the first one that is none decides. -/
def bothPaths {α β : Type} : Ret α → Ret β → Ret (α × β)
  | .value a, .value b => .value (a, b)
  | .value _, .throws => .throws
  | .value _, .undefined => .undefined
  | .throws, _ => .throws
  | .undefined, _ => .undefined

/-- The two arguments of `initialize`. -/
def nativePaths (g : Globals) (env : ProcessEnv) (assemblyPath pluginFolder : Str) :
    Ret (Str × Str) :=
  let asmPath := Win32.toNativePath g env.convAsm assemblyPath
  let asmDir := Win32.toNativePath g env.convDir pluginFolder
  if env.dirFirst then (bothPaths asmDir asmPath).map Prod.swap else bothPaths asmPath asmDir

def processClrInit (fs : PathFns) (abi : Abi) (s : ProcessState) (assemblyPath pluginFolder : Str)
    (env : ProcessEnv) : Result ProcessState AsmHandle ClrCall :=
  let g := Win32.initCygwin s.globals env.module
  match nativePaths g env assemblyPath pluginFolder with
  | .value (asmPath, asmDir) =>
    let r := initializeAsm fs abi s.host asmPath asmDir env.init
    ⟨⟨g, r.state⟩, r.ret, r.calls⟩
  | .throws => ⟨⟨g, s.host⟩, .throws, []⟩
  | .undefined => ⟨⟨g, s.host⟩, .undefined, []⟩

abbrev ProcessCall := ApiCall ProcessEnv DeInitEnv RunEnv

def processStep (fs : PathFns) (abi : Abi) (s : ProcessState) :
    ProcessCall → ProcessState × Reply × List ClrCall
  | .clrInit p d env =>
    let r := processClrInit fs abi s p d env
    (r.state, .clrInit r.ret, r.calls)
  | .clrDeInit h env =>
    let r := clrDeInit s.host h env
    (⟨s.globals, r.state⟩, .clrDeInit r.ret, r.calls)
  | .runMethod h ty me a env =>
    let r := runMethod abi s.host h ty me a env
    (⟨s.globals, r.state⟩, .runMethod r.ret, r.calls)

def processMachine (fs : PathFns) (abi : Abi) :
    Lib.Machine ProcessState ProcessCall (Reply × List ClrCall) :=
  ⟨⟨{}, start⟩, processStep fs abi⟩

/-! ## What reaches the backend -/

variable {fs : PathFns} {abi : Abi}

/-- The call that gets through the conversion, if it does. -/
def nativeCall? (s : ProcessState) : ProcessCall → Option NativeCall
  | .clrInit p d env =>
    match nativePaths (Win32.initCygwin s.globals env.module) env p d with
    | .value (asmPath, asmDir) => some (.initializeAsm asmPath asmDir env.init)
    | _ => none
  | .clrDeInit h env => some (.clrDeInit h env)
  | .runMethod h ty me a env => some (.runMethod h ty me a env)

/-- A call moves the backend as the native call does that it becomes. -/
theorem drives (fs : PathFns) (abi : Abi) (s : ProcessState) (c : ProcessCall) :
    (processMachine fs abi).Drives (nativeMachine fs abi) ProcessState.host nativeCall? s c := by
  cases c with
  | clrInit p d env =>
    show (processClrInit fs abi s p d env).state.host = _
    unfold processClrInit nativeCall?
    dsimp only
    cases nativePaths (Win32.initCygwin s.globals env.module) env p d <;> rfl
  | clrDeInit h env => rfl
  | runMethod h ty me a env => rfl

/-- The calls into the framework of a step. -/
def processCalls (fs : PathFns) (abi : Abi) (s : ProcessState) (c : ProcessCall) : List ClrCall :=
  ((processMachine fs abi).out s c).2

def nativeCalls (fs : PathFns) (abi : Abi) (s : State) (c : NativeCall) : List ClrCall :=
  ((nativeMachine fs abi).out s c).2

theorem processCalls_eq (fs : PathFns) (abi : Abi) (s : ProcessState) (c : ProcessCall) :
    processCalls fs abi s c =
      (nativeCall? s c).toList.flatMap fun j => nativeCalls fs abi s.host j := by
  cases c with
  | clrInit p d env =>
    show (processClrInit fs abi s p d env).calls = _
    unfold processClrInit nativeCall?
    dsimp only
    cases nativePaths (Win32.initCygwin s.globals env.module) env p d with
    | value paths => exact (List.append_nil _).symm
    | throws => rfl
    | undefined => rfl
  | clrDeInit h env => exact (List.append_nil _).symm
  | runMethod h ty me a env => exact (List.append_nil _).symm

/-- What a step does to the domains. -/
def processDeeds (fs : PathFns) (abi : Abi) (s : ProcessState) (c : ProcessCall) : List Deed :=
  (nativeCall? s c).toList.flatMap fun j => domainDeeds fs abi s.host j

/-- A call that hands nothing on is a `clrInit` that ends in the conversion:
it returns no handle and leaves the backend alone. -/
theorem step_of_not_handed {s : ProcessState} {c : ProcessCall} (h : nativeCall? s c = none) :
    ∃ ret : Ret AsmHandle, (∀ handle, ret ≠ .value handle) ∧
      (processMachine fs abi).out s c = (.clrInit ret, []) ∧
      ((processMachine fs abi).next s c).host = s.host := by
  cases c with
  | clrInit p d env =>
    show ∃ ret : Ret AsmHandle, _ ∧
      (Reply.clrInit (processClrInit fs abi s p d env).ret,
        (processClrInit fs abi s p d env).calls) = (.clrInit ret, []) ∧
      (processClrInit fs abi s p d env).state.host = s.host
    unfold nativeCall? at h
    unfold processClrInit
    dsimp only at h ⊢
    cases hpaths : nativePaths (Win32.initCygwin s.globals env.module) env p d with
    | value paths => simp [hpaths] at h
    | throws => exact ⟨.throws, by simp, rfl, rfl⟩
    | undefined => exact ⟨.undefined, by simp, rfl, rfl⟩
  | clrDeInit g env => cases h
  | runMethod g ty me a env => cases h

/-! ## Runs -/

/-- Every run of the process, whatever Cygwin does in it, is a run of the
backend over native paths: the same entries and domains at its end, the same
calls into the framework in the same order, and no domain worked with before
it was created or after it was unloaded. A call that does not reach the
backend is a `clrInit` without an answer that leaves it alone. -/
theorem process_handed (fs : PathFns) (abi : Abi) (calls : List ProcessCall) :
    let m := processMachine fs abi
    let native := m.handed nativeCall? m.start calls
    (m.exec m.start calls).host = (nativeMachine fs abi).exec start native ∧
      m.events (processCalls fs abi) m.start calls =
        (nativeMachine fs abi).events (nativeCalls fs abi) start native ∧
      Orderly (m.events (processDeeds fs abi) m.start calls) ∧
      ∀ x ∈ m.trace m.start calls, nativeCall? x.1 x.2 = none →
        ∃ ret : Ret AsmHandle, (∀ handle, ret ≠ .value handle) ∧
          m.out x.1 x.2 = (.clrInit ret, []) ∧ (m.next x.1 x.2).host = x.1.host := by
  have hdrives : ∀ x ∈ (processMachine fs abi).trace (processMachine fs abi).start calls,
      (processMachine fs abi).Drives (nativeMachine fs abi) ProcessState.host nativeCall? x.1 x.2 :=
    fun x _ => drives fs abi x.1 x.2
  refine ⟨Lib.Machine.exec_handed _ _ hdrives, ?_, ?_, fun x _ h => step_of_not_handed h⟩
  · exact (Lib.Machine.events_handed _ _ hdrives fun x _ => processCalls_eq fs abi x.1 x.2).symm
  · have hdeeds : (nativeMachine fs abi).events (domainDeeds fs abi) start
          ((processMachine fs abi).handed nativeCall? (processMachine fs abi).start calls)
        = (processMachine fs abi).events (processDeeds fs abi) (processMachine fs abi).start
          calls := Lib.Machine.events_handed _ _ hdrives fun x _ => rfl
    rw [← hdeeds]
    obtain ⟨P, hcheck, _⟩ := check_run fs abi
      ((processMachine fs abi).handed nativeCall? (processMachine fs abi).start calls)
    exact (Stock.accounts_of_check hcheck).1

/-! ## What the paths become -/

/-- What a call becomes when Cygwin converts as `win` says. -/
def settledCall? (win : Str → Option Str) : ProcessCall → Option NativeCall
  | .clrInit p d env =>
    if env.module.finds then
      match win (cstr p), win (cstr d) with
      | some asmPath, some asmDir => some (.initializeAsm asmPath asmDir env.init)
      | _, _ => none
    else some (.initializeAsm (toNativePath .windows p) (toNativePath .windows d) env.init)
  | .clrDeInit h env => some (.clrDeInit h env)
  | .runMethod h ty me a env => some (.runMethod h ty me a env)

/-- Right after `initCygwin`, a conversion depends on what it met and on nothing
before it. -/
theorem toNativePath_init (g : Globals) {module : ModuleEnv} {env : ConvEnv}
    {win : Str → Option Str} (henv : env.Converts win) (path : Str) :
    Win32.toNativePath (Win32.initCygwin g module) env path =
      if module.finds then converted (win (cstr path))
      else .value (toNativePath .windows path) := by
  unfold Win32.toNativePath Win32.initCygwin ModuleEnv.finds
  cases hmod : module.cygwin1 with
  | false => simp
  | true =>
    cases hfound : module.convPath with
    | none => simp
    | some pfn =>
      have hwin := Win32.toWindowsPath_converts (g := ⟨true, some pfn⟩) henv rfl path
      simpa using hwin

/-- The environments of the conversions of a call convert as `win` says. -/
def ConvertsAs (win : Str → Option Str) (c : ProcessCall) : Prop :=
  ∀ p d env, c = .clrInit p d env → env.convAsm.Converts win ∧ env.convDir.Converts win

theorem nativeCall?_settled {win : Str → Option Str} {c : ProcessCall} (hc : ConvertsAs win c)
    (s : ProcessState) : nativeCall? s c = settledCall? win c := by
  cases c with
  | clrInit p d env =>
    obtain ⟨hasm, hdir⟩ := hc p d env rfl
    unfold nativeCall? settledCall? nativePaths
    simp only [toNativePath_init s.globals hasm, toNativePath_init s.globals hdir]
    cases env.module.finds with
    | false => cases env.dirFirst <;> rfl
    | true =>
      -- the answer is the same whichever conversion comes first
      cases hp : win (cstr p) <;> cases hd : win (cstr d) <;> cases env.dirFirst <;> rfl
  | clrDeInit h env => rfl
  | runMethod h ty me a env => rfl

/-- With a Cygwin that converts as documented, and each path the same way
throughout the run, what reaches the backend is settled by the calls alone: each
`clrInit` goes by what its own `initCygwin` met, whatever the globals held
before, and is dropped exactly when Cygwin is there and has no Windows path for
one of its two paths. -/
theorem process_converts (fs : PathFns) (abi : Abi) {win : Str → Option Str}
    {calls : List ProcessCall} (hcalls : ∀ c ∈ calls, ConvertsAs win c) :
    let m := processMachine fs abi
    let native := calls.filterMap (settledCall? win)
    (m.exec m.start calls).host = (nativeMachine fs abi).exec start native ∧
      m.events (processCalls fs abi) m.start calls =
        (nativeMachine fs abi).events (nativeCalls fs abi) start native := by
  have hhanded : (processMachine fs abi).handed nativeCall? (processMachine fs abi).start calls
      = calls.filterMap (settledCall? win) := by
    refine Lib.Machine.handed_eq_filterMap _ fun x hx => ?_
    obtain ⟨pre, post, rfl, _⟩ := (processMachine fs abi).mem_trace.mp hx
    exact nativeCall?_settled (hcalls x.2 (by simp)) x.1
  have hdrives : ∀ x ∈ (processMachine fs abi).trace (processMachine fs abi).start calls,
      (processMachine fs abi).Drives (nativeMachine fs abi) ProcessState.host nativeCall? x.1 x.2 :=
    fun x _ => drives fs abi x.1 x.2
  dsimp only
  rw [← hhanded]
  exact ⟨Lib.Machine.exec_handed _ _ hdrives,
    (Lib.Machine.events_handed _ _ hdrives fun x _ => processCalls_eq fs abi x.1 x.2).symm⟩

section Sample

/-- A process inside Cygwin, in which everything works. -/
def inCygwin : ProcessEnv :=
  ⟨⟨true, some 1⟩, .ofWin Win32.cygdrive, .ofWin Win32.cygdrive, false,
    ⟨true, .ok (lit "C:\\host\\CLRHost.dll"), windowsNames.parentPath, .ok 1⟩⟩

/-- A path that is too long to be converted, and an assembly by an absolute path
and by a relative one. -/
def cygwinCalls : List ProcessCall :=
  [.clrInit Win32.longName (lit "/app") inCygwin,
    .clrInit (lit "/app/P.dll") (lit "/app") inCygwin,
    .clrInit (lit "app/P.dll") (lit "app") inCygwin]

theorem cygwinCalls_convert : ∀ c ∈ cygwinCalls, ConvertsAs Win32.cygdrive c := by
  intro c hc p d env heq
  subst heq
  have henv : env = inCygwin := by
    simp only [cygwinCalls, List.mem_cons, List.not_mem_nil, or_false,
      ApiCall.clrInit.injEq] at hc
    rcases hc with h | h | h <;> exact h.2.2
  subst henv
  have hwin := Win32.ConvEnv.ofWin_converts Win32.cygdrive_noNul
  exact ⟨hwin, hwin⟩

/-- What both paths of the assembly become. -/
def cygwinLoad : NativeCall :=
  .initializeAsm (lit "C:\\cygwin64\\app\\P.dll") (lit "C:\\cygwin64\\app") inCygwin.init

theorem cygwinCalls_settled :
    cygwinCalls.filterMap (settledCall? Win32.cygdrive) = [cygwinLoad, cygwinLoad] := by
  have hdir : Win32.cygdrive (cstr (lit "/app")) = some (lit "C:\\cygwin64\\app") := by decide
  have hdir' : Win32.cygdrive (cstr (lit "app")) = some (lit "C:\\cygwin64\\app") := by decide
  have hasm : Win32.cygdrive (cstr (lit "/app/P.dll")) =
      some (lit "C:\\cygwin64\\app\\P.dll") := by decide
  have hasm' : Win32.cygdrive (cstr (lit "app/P.dll")) =
      some (lit "C:\\cygwin64\\app\\P.dll") := by decide
  have hfinds : inCygwin.module.finds = true := rfl
  simp only [cygwinCalls, cygwinLoad, List.filterMap_cons, List.filterMap_nil, settledCall?,
    hfinds, if_true, Win32.cygdrive_longName, hdir, hdir', hasm, hasm']

theorem process_converts_cygwinCalls :
    let m := processMachine windowsNames win64
    (m.exec m.start cygwinCalls).host =
        (nativeMachine windowsNames win64).exec start [cygwinLoad, cygwinLoad] ∧
      m.events (processCalls windowsNames win64) m.start cygwinCalls =
        (nativeMachine windowsNames win64).events (nativeCalls windowsNames win64) start
          [cygwinLoad, cygwinLoad] := by
  have hconverts := process_converts windowsNames win64 cygwinCalls_convert
  rw [cygwinCalls_settled] at hconverts
  exact hconverts

end Sample

/-! ## Outside Cygwin -/

/-- The call as `backend` reads it. -/
def plainCall : ProcessCall → Call
  | .clrInit p d env => .clrInit p d env.init
  | .clrDeInit h env => .clrDeInit h env
  | .runMethod h ty me a env => .runMethod h ty me a env

/-- The call does not find Cygwin. -/
def FindsNothing (c : ProcessCall) : Prop :=
  ∀ p d env, c = .clrInit p d env → env.module.finds = false

theorem initCygwin_finds (g : Globals) (module : ModuleEnv) :
    (Win32.initCygwin g module).runningInCygwin = module.finds := by
  unfold Win32.initCygwin ModuleEnv.finds
  cases module.cygwin1 <;> rfl

/-- Such a call is the one of `backend`. -/
theorem processStep_outside {c : ProcessCall} (hc : FindsNothing c) (s : ProcessState) :
    ((processMachine fs abi).next s c).host
        = (backend fs abi).machine.next s.host (plainCall c) ∧
      (processMachine fs abi).out s c = (backend fs abi).machine.out s.host (plainCall c) := by
  cases c with
  | clrInit p d env =>
    have hflag := initCygwin_finds s.globals env.module
    rw [hc p d env rfl] at hflag
    have hpaths : nativePaths (Win32.initCygwin s.globals env.module) env p d
        = .value (toNativePath .windows p, toNativePath .windows d) := by
      unfold nativePaths Win32.toNativePath
      rw [hflag]
      cases env.dirFirst <;> rfl
    show (processClrInit fs abi s p d env).state.host = (clrInit fs abi s.host p d env.init).state ∧
      (Reply.clrInit (processClrInit fs abi s p d env).ret,
          (processClrInit fs abi s p d env).calls)
        = (Reply.clrInit (clrInit fs abi s.host p d env.init).ret,
          (clrInit fs abi s.host p d env.init).calls)
    unfold processClrInit
    dsimp only
    rw [hpaths]
    exact ⟨rfl, rfl⟩
  | clrDeInit h env => exact ⟨rfl, rfl⟩
  | runMethod h ty me a env => exact ⟨rfl, rfl⟩

/-- A run that never finds Cygwin is the run of `backend`: the same state and
the same answers and calls, step by step. -/
theorem process_outside (fs : PathFns) (abi : Abi) {calls : List ProcessCall}
    (hcalls : ∀ c ∈ calls, FindsNothing c) :
    let m := processMachine fs abi
    (m.exec m.start calls).host = (backend fs abi).run (calls.map plainCall) ∧
      m.outs m.start calls = (backend fs abi).machine.outs start (calls.map plainCall) := by
  have hstep : ∀ x ∈ (processMachine fs abi).trace (processMachine fs abi).start calls,
      FindsNothing x.2 := by
    intro x hx
    obtain ⟨pre, post, rfl, _⟩ := (processMachine fs abi).mem_trace.mp hx
    exact hcalls x.2 (by simp)
  have hdrives : ∀ x ∈ (processMachine fs abi).trace (processMachine fs abi).start calls,
      (processMachine fs abi).Drives (backend fs abi).machine ProcessState.host
        (fun _ c => some (plainCall c)) x.1 x.2 :=
    fun x hx => (processStep_outside (hstep x hx) x.1).1
  have hhanded : (processMachine fs abi).handed (fun _ c => some (plainCall c))
      (processMachine fs abi).start calls = calls.map plainCall := by
    rw [← List.filterMap_eq_map]
    exact Lib.Machine.handed_eq_filterMap _ fun x _ => rfl
  constructor
  · rw [Backend.run, ← hhanded]
    exact Lib.Machine.exec_handed _ _ hdrives
  · have htrace := Lib.Machine.trace_handed _ _ hdrives
    rw [hhanded] at htrace
    unfold Lib.Machine.outs
    show _ = ((backend fs abi).machine.trace ((processMachine fs abi).start).host _).map _
    rw [htrace, List.map_filterMap]
    simp only [Option.map_some, List.filterMap_eq_map', List.map_inj_left]
    exact fun x hx => (processStep_outside (hstep x hx) x.1).2

end EzDotnet.CLRHost
