/-
EzDotnet.Common.Cygwin — the path conversion of `common_win32.cpp`, for a
process that may or may not run inside Cygwin.

Two variables outlive every call: the flag `running_in_cygwin`, and the
pointer to `cygwin_conv_path`, which `initCygwin` looks up in the module
`cygwin1`. The early return of `initCygwin` clears the flag and keeps the
pointer. `globals_run` says what the two hold after any run: the flag is
about the last `initCygwin`, the pointer about the last one that met the
module. So `to_native_path`, which asks the flag, never calls through a null
pointer, and `to_windows_path`, which does not ask, does so whenever that
last one did not find the function (`layer_converts`).

Cygwin is not part of the repository: what its function does is a `ConvEnv`,
its two-call protocol included. Exhausted memory is left out.
-/
import EzDotnet.Common.Interface

namespace EzDotnet.Win32

/-! ## The globals -/

/-- `running_in_cygwin` and `pfnCygwinConvPath`, with their initial
values. -/
structure Globals where
  runningInCygwin : Bool := false
  pfnCygwinConvPath : Option Addr := none
  deriving DecidableEq, Repr

/-- What one `initCygwin` meets in the process. -/
structure ModuleEnv where
  /-- `GetModuleHandle("cygwin1")` is not null -/
  cygwin1 : Bool
  /-- what `GetProcAddress` finds -/
  convPath : Option Addr
  deriving DecidableEq, Repr

def initCygwin (g : Globals) (env : ModuleEnv) : Globals :=
  if env.cygwin1 = false then { g with runningInCygwin := false }
  else
    { runningInCygwin := env.convPath.isSome
      pfnCygwinConvPath := env.convPath }

/-! ## Conversion -/

def ccpPosixToWinA : BitVec 32 := 0x0#32

def ccpAbsolute : BitVec 32 := 0x0#32

/-- What the function behind the pointer does during one conversion. -/
structure ConvEnv where
  /-- the call with a null buffer: its result -/
  size : Addr → BitVec 32 → Str → Int
  /-- the call with a buffer of so many zero bytes: its result, and the buffer
  after it -/
  fill : Addr → BitVec 32 → Str → Nat → Int × Str
  fill_length : ∀ pfn what path n, (fill pfn what path n).2.length = n

/-- `cygwin_conv_path`. A call through a null pointer and a buffer without a
NUL are undefined. -/
def cygwinConvPath (g : Globals) (env : ConvEnv) (path : Str) (flags : BitVec 32) : Ret Str :=
  match g.pfnCygwinConvPath with
  | none => .undefined
  | some pfn =>
    let size := env.size pfn flags (cstr path)
    if size < 0 then .throws
    else
      let filled := env.fill pfn flags (cstr path) size.toNat
      if filled.1 ≠ 0 then .throws
      else if 0#8 ∈ filled.2 then .value (cstr filled.2)
      else .undefined

/-- `to_windows_path`. -/
def toWindowsPath (g : Globals) (env : ConvEnv) (path : Str) : Ret Str :=
  cygwinConvPath g env path (ccpPosixToWinA ||| ccpAbsolute)

/-- `to_native_path`. -/
def toNativePath (g : Globals) (env : ConvEnv) (path : Str) : Ret Str :=
  if g.runningInCygwin = false then .value (EzDotnet.toNativePath .windows path)
  else toWindowsPath g env path

/-- `to_windows_path` and `to_native_path` of a `const char *`: a copy of the
result. -/
def dupPath (convert : Str → Ret Str) (path : Str) : Ret Str := (convert (cstr path)).map cstr

/-! ## Runs of the layer -/

/-- A call into the layer. -/
inductive LayerCall where
  | initCygwin (env : ModuleEnv)
  | toNativePath (path : Str) (env : ConvEnv)
  | toWindowsPath (path : Str) (env : ConvEnv)

def layerStep (g : Globals) : LayerCall → Globals × Option (Ret Str)
  | .initCygwin env => (initCygwin g env, none)
  | .toNativePath path env => (g, some (toNativePath g env path))
  | .toWindowsPath path env => (g, some (toWindowsPath g env path))

/-- The layer, in a process that has not called it yet. -/
def layer : Lib.Machine Globals LayerCall (Option (Ret Str)) := ⟨{}, layerStep⟩

/-- What the calls of `initCygwin` of a run met, in order. -/
def inits (calls : List LayerCall) : List ModuleEnv :=
  calls.filterMap fun
    | .initCygwin env => some env
    | _ => none

/-- `initCygwin` found the function. -/
def ModuleEnv.finds (env : ModuleEnv) : Bool := env.cygwin1 && env.convPath.isSome

/-- The globals after the calls of `initCygwin` that met `envs`. -/
theorem foldl_initCygwin (envs : List ModuleEnv) :
    envs.foldl initCygwin {} =
      { runningInCygwin := (envs.getLast?.map ModuleEnv.finds).getD false
        pfnCygwinConvPath := ((envs.filter (·.cygwin1)).getLast?).bind (·.convPath) } := by
  induction envs using List.reverseRecOn with
  | nil => rfl
  | append_singleton envs env ih =>
    rw [List.foldl_append, ih]
    cases hmod : env.cygwin1 with
    | false => simp [initCygwin, hmod, ModuleEnv.finds]
    | true => simp [initCygwin, hmod, ModuleEnv.finds]

/-- Nothing but `initCygwin` changes the globals. -/
theorem exec_layer (calls : List LayerCall) (g : Globals) :
    layer.exec g calls = (inits calls).foldl initCygwin g := by
  induction calls generalizing g with
  | nil => rfl
  | cons c calls ih =>
    rw [layer.exec_cons, ih]
    cases c <;> rfl

/-- The flag is about the last `initCygwin`, the pointer about the last one
that met the module. -/
theorem globals_run (calls : List LayerCall) :
    layer.exec {} calls =
      { runningInCygwin := ((inits calls).getLast?.map ModuleEnv.finds).getD false
        pfnCygwinConvPath :=
          (((inits calls).filter (·.cygwin1)).getLast?).bind (·.convPath) } := by
  rw [exec_layer, foldl_initCygwin]

/-! ## What a conversion gives -/

/-- What the function behind the pointer is documented to do: `win` is the
Windows path of a POSIX path, when it has one. -/
structure ConvEnv.Converts (env : ConvEnv) (win : Str → Option Str) : Prop where
  size : ∀ pfn path, env.size pfn (ccpPosixToWinA ||| ccpAbsolute) path =
    match win path with
    | some w => (w.length : Int) + 1
    | none => -1
  fill : ∀ pfn path w, win path = some w →
    env.fill pfn (ccpPosixToWinA ||| ccpAbsolute) path (w.length + 1) = (0, w ++ [0#8])
  noNul : ∀ path w, win path = some w → 0#8 ∉ w

/-- A path that Cygwin cannot convert is an exception. -/
def converted : Option Str → Ret Str
  | some w => .value w
  | none => .throws

/-- The two calls of the protocol and the copy out of the buffer give exactly
the converted path. -/
theorem toWindowsPath_converts {g : Globals} {env : ConvEnv} {win : Str → Option Str}
    (henv : env.Converts win) {pfn : Addr} (hpfn : g.pfnCygwinConvPath = some pfn)
    (path : Str) : toWindowsPath g env path = converted (win (cstr path)) := by
  unfold toWindowsPath cygwinConvPath
  rw [hpfn]
  dsimp only
  rw [henv.size]
  cases hwin : win (cstr path) with
  | none => simp [converted]
  | some w =>
    have hsize : ((w.length : Int) + 1).toNat = w.length + 1 := by omega
    have hneg : ¬ (w.length : Int) + 1 < 0 := by omega
    have hcopy : cstr (w ++ [0#8]) = w := by
      rw [cstr_append_of_notMem (henv.noNul _ _ hwin)]
      simp [cstr]
    dsimp only
    rw [if_neg hneg, hsize, henv.fill _ _ _ hwin]
    simp [converted, hcopy]

/-- Where the flag is set, the pointer is. -/
theorem pointer_of_running {g : Globals} (hg : layer.Reachable g)
    (hrun : g.runningInCygwin = true) : ∃ pfn, g.pfnCygwinConvPath = some pfn := by
  refine hg.invariant (P := fun g => g.runningInCygwin = true →
    ∃ pfn, g.pfnCygwinConvPath = some pfn) _ (fun h => by cases h) ?_ hrun
  intro t c ht
  cases c with
  | initCygwin env =>
    show (initCygwin t env).runningInCygwin = true →
      ∃ pfn, (initCygwin t env).pfnCygwinConvPath = some pfn
    unfold initCygwin
    split
    · simp
    · exact fun h => Option.isSome_iff_exists.mp h
  | toNativePath path env => exact ht
  | toWindowsPath path env => exact ht

/-- After any run of the layer, with any modules met, `to_native_path` gives
what Cygwin converts the path to when the last `initCygwin` found the function
and replaces the slashes otherwise; `to_windows_path` converts when the last
`initCygwin` that met the module found the function, and is a call through a
null pointer otherwise. -/
theorem layer_converts (calls : List LayerCall) {env : ConvEnv} {win : Str → Option Str}
    (henv : env.Converts win) (path : Str) :
    let g := layer.exec layer.start calls
    (toNativePath g env path =
        if ((inits calls).getLast?.map ModuleEnv.finds).getD false
        then converted (win (cstr path))
        else .value (EzDotnet.toNativePath .windows path)) ∧
      toWindowsPath g env path =
        if (((inits calls).filter (·.cygwin1)).getLast?.map ModuleEnv.finds).getD false
        then converted (win (cstr path))
        else .undefined := by
  have hreach : layer.Reachable (layer.exec {} calls) := layer.reachable_exec calls
  have hglobals := globals_run calls
  show toNativePath (layer.exec {} calls) env path = _ ∧
    toWindowsPath (layer.exec {} calls) env path = _
  constructor
  · have hflag : (layer.exec {} calls).runningInCygwin
        = ((inits calls).getLast?.map ModuleEnv.finds).getD false := by rw [hglobals]
    unfold toNativePath
    rw [← hflag]
    cases hrun : (layer.exec {} calls).runningInCygwin with
    | false => rfl
    | true =>
      obtain ⟨pfn, hpfn⟩ := pointer_of_running hreach hrun
      simp [toWindowsPath_converts henv hpfn]
  · have hpointer : (layer.exec {} calls).pfnCygwinConvPath
        = (((inits calls).filter (·.cygwin1)).getLast?).bind (·.convPath) := by rw [hglobals]
    cases hlast : ((inits calls).filter (·.cygwin1)).getLast? with
    | none =>
      rw [hlast] at hpointer
      simp [toWindowsPath, cygwinConvPath, hpointer]
    | some last =>
      have hmod : last.cygwin1 = true := by
        have hmem := List.mem_of_getLast? hlast
        exact (List.mem_filter.mp hmem).2
      rw [hlast, Option.bind_some] at hpointer
      cases hfound : last.convPath with
      | none => simp [toWindowsPath, cygwinConvPath, hpointer, hfound, ModuleEnv.finds]
      | some pfn =>
        rw [hfound] at hpointer
        simp [toWindowsPath_converts henv hpointer, ModuleEnv.finds, hmod, hfound]

/-- A Cygwin that converts as `win` says. -/
def ConvEnv.ofWin (win : Str → Option Str) : ConvEnv where
  size _ _ path :=
    match win path with
    | some w => (w.length : Int) + 1
    | none => -1
  fill _ _ path n :=
    match win path with
    | some w =>
      if w.length < n then (0, w ++ List.replicate (n - w.length) 0#8)
      else (-1, List.replicate n 0#8)
    | none => (-1, List.replicate n 0#8)
  fill_length _ _ path n := by
    split
    · split
      · simp
        omega
      · simp
    · simp

theorem ConvEnv.ofWin_converts {win : Str → Option Str}
    (hwin : ∀ path w, win path = some w → 0#8 ∉ w) : (ConvEnv.ofWin win).Converts win where
  size _ _ := rfl
  fill _ path w h := by simp [ConvEnv.ofWin, h]
  noNul := hwin

def driveColon : Byte := 0x3a#8

/-- `MAX_PATH`, which counts the terminator. -/
def maxPath : Nat := 260

/-- A path that begins with a drive is its own Windows path, any other one is
found below `C:\cygwin64`. -/
def windowsPath (path : Str) : Str :=
  if path[1]? = some driveColon then EzDotnet.toNativePath .windows (cstr path)
  else
    let relative := if path.head? = some slash then path.tail else path
    lit "C:\\cygwin64\\" ++ EzDotnet.toNativePath .windows (cstr relative)

/-- A Cygwin in `C:\cygwin64` whose current directory is its root, for paths that
are not empty and have no dots and no doubled or trailing separators. It refuses
what gets longer than `MAX_PATH`. -/
def cygdrive (path : Str) : Option Str :=
  if (windowsPath path).length < maxPath then some (windowsPath path) else none

example : cygdrive (lit "/app/P.dll") = some (lit "C:\\cygwin64\\app\\P.dll") ∧
    cygdrive (lit "app/P.dll") = some (lit "C:\\cygwin64\\app\\P.dll") ∧
    cygdrive (lit "C:\\app") = some (lit "C:\\app") := by decide

theorem notMem_native_cstr (path : Str) : 0#8 ∉ EzDotnet.toNativePath .windows (cstr path) := by
  intro hmem
  obtain ⟨c, hc, hzero⟩ := List.mem_map.mp hmem
  split at hzero
  · cases hzero
  · exact notMem_cstr path (hzero ▸ hc)

theorem notMem_windowsPath (path : Str) : 0#8 ∉ windowsPath path := by
  unfold windowsPath
  split
  · exact notMem_native_cstr path
  · simp only [List.mem_append, not_or]
    exact ⟨by decide, notMem_native_cstr _⟩

theorem cygdrive_noNul (path w : Str) (h : cygdrive path = some w) : 0#8 ∉ w := by
  unfold cygdrive at h
  split at h
  · obtain rfl := Option.some.inj h
    exact notMem_windowsPath path
  · cases h

/-- A path that does not begin with a separator gets longer. -/
theorem cygdrive_long {path : Str} (hlong : maxPath ≤ (cstr path).length)
    (hrelative : path.head? ≠ some slash) : cygdrive path = none := by
  have hlength : ∀ s, (EzDotnet.toNativePath .windows s).length = s.length := fun s =>
    List.length_map _
  unfold cygdrive windowsPath
  rw [if_neg hrelative]
  refine if_neg ?_
  split <;> simp only [List.length_append, hlength] <;> omega

/-- The name of a file that has no Windows path. -/
def longName : Str := List.replicate 300 0x61#8

theorem cygdrive_longName : cygdrive (cstr longName) = none := by
  have hnoNul : 0#8 ∉ longName := fun h => absurd (List.eq_of_mem_replicate h) (by decide)
  have hlength : longName.length = 300 := List.length_replicate
  rw [cstr_eq_self hnoNul]
  refine cygdrive_long ?_ (by decide)
  rw [cstr_eq_self hnoNul, hlength]
  decide

/-- A process that Cygwin is loaded into after the first `initCygwin`. -/
theorem layer_converts_cygdrive :
    let calls : List LayerCall := [.initCygwin ⟨false, none⟩, .initCygwin ⟨true, some 1⟩]
    let g := layer.exec layer.start calls
    toNativePath g (.ofWin cygdrive) (lit "/P.dll") = .value (lit "C:\\cygwin64\\P.dll") ∧
      toWindowsPath g (.ofWin cygdrive) (lit "/P.dll")
        = .value (lit "C:\\cygwin64\\P.dll") :=
  layer_converts [.initCygwin ⟨false, none⟩, .initCygwin ⟨true, some 1⟩]
    (ConvEnv.ofWin_converts cygdrive_noNul) (lit "/P.dll")

end EzDotnet.Win32
