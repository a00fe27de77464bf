/-
EzDotnet.Managed.ProgramTheorems — the way of the arguments from the command
line to the managed entry point.

The count goes through four hands: the driver subtracts 5, the backend
multiplies by the pointer size and narrows to `int`, and `ReadArgv` divides
again and walks the array. `toInt_sizeInBytes` is where the first three
agree, `readLoop_eq` is the walk, by induction on the turns to go, and
`HandsOver` says of a backend that it calls the entry point it finds, and
hands the pointer and the size over as they are.
-/
import EzDotnet.Backends.Registries
import EzDotnet.Cli.EzdotnetTheorems
import EzDotnet.CLRHost.DispatchTheorems
import EzDotnet.CoreCLR.DispatchTheorems
import EzDotnet.Managed.Program
import EzDotnet.Mono.DispatchTheorems
import EzDotnet.MonoCoreClr.DispatchTheorems

namespace EzDotnet.Managed

open Cli (Args)

/-! ## The array in memory -/

/-- The memory holds the arguments: the pointers in a row from `args.addr`
on, each to its C string. It may hold nothing else. -/
def Memory.HoldsArgv (mem : Memory) (abi : Abi) (args : Args) : Prop :=
  ∀ i (hi : i < args.argv.length), ∃ ptr, ptr ≠ 0 ∧
    mem.pointer (args.addr + i * abi.ptrBytes) = some ptr ∧
    mem.cString ptr = some args.argv[i]

variable {abi : Abi} {mem : Memory} {args : Args}

/-- `n` turns from the `k`-th pointer on read the `n` strings that are left. -/
theorem readLoop_eq (hmem : mem.HoldsArgv abi args) {n k : Nat} (h : k + n = args.argv.length) :
    readLoop abi mem n (args.addr + k * abi.ptrBytes) =
      .value ((args.argv.drop k).map some) := by
  induction n generalizing k with
  | zero =>
    rw [List.drop_of_length_le (by omega)]
    rfl
  | succ n ih =>
    have hk : k < args.argv.length := by omega
    obtain ⟨ptr, hne, hptr, hstr⟩ := hmem k hk
    have hnext : args.addr + k * abi.ptrBytes + abi.ptrBytes =
        args.addr + (k + 1) * abi.ptrBytes := by
      rw [Nat.succ_mul, Nat.add_assoc]
    have hread : ptrToStringAnsi mem ptr = some (some args.argv[k]) := by
      unfold ptrToStringAnsi
      rw [if_neg hne, hstr]
      rfl
    unfold readLoop
    simp only [hptr, hread]
    rw [hnext, ih (by omega), List.drop_eq_getElem_cons hk]
    rfl

/-! ## The size -/

/-- The size in bytes survives `size_t` and `int`. -/
theorem toInt_sizeInBytes (hptr : 4 ≤ abi.ptrBytes) {n : Nat}
    (hn : n * abi.ptrBytes < 2 ^ 31) (addr : Addr) :
    (Argv.sizeInBytes abi ⟨BitVec.ofNat 32 n, addr⟩).toInt = n * abi.ptrBytes := by
  have hsmall : n < 2 ^ 31 := by
    have hle : n * 1 ≤ n * abi.ptrBytes := Nat.mul_le_mul_left n (by omega)
    omega
  have hwidth : 2 ^ 32 ≤ 2 ^ (8 * abi.ptrBytes) := Nat.pow_le_pow_right (by omega) (by omega)
  have hcount : ((BitVec.ofNat 32 n).signExtend (8 * abi.ptrBytes)).toNat = n :=
    MonoCoreClr.toSizeT_ofNat hptr hsmall
  have hsize : (BitVec.ofNat (8 * abi.ptrBytes) abi.ptrBytes).toNat = abi.ptrBytes := by
    rw [BitVec.toNat_ofNat]
    exact Nat.mod_eq_of_lt (lt_of_le_of_lt (by omega) Nat.lt_two_pow_self)
  have hproduct : n * abi.ptrBytes % 2 ^ (8 * abi.ptrBytes) = n * abi.ptrBytes :=
    Nat.mod_eq_of_lt (by omega)
  have hbytes : (Argv.sizeInBytes abi ⟨BitVec.ofNat 32 n, addr⟩).toNat = n * abi.ptrBytes := by
    unfold Argv.sizeInBytes
    rw [BitVec.toNat_setWidth, BitVec.toNat_mul, hcount, hsize, hproduct]
    exact Nat.mod_eq_of_lt (by omega)
  rw [BitVec.toInt_eq_toNat_of_lt (by rw [hbytes]; omega), hbytes]
  exact Int.natCast_mul n abi.ptrBytes

/-- `ReadArgv` reads the rest of the arguments out of the pointer and the
size of the rest. -/
theorem readArgv_eq (hptr : 4 ≤ abi.ptrBytes) (hmem : mem.HoldsArgv abi args) {k : Nat}
    (hk : k ≤ args.argv.length) (hfits : (args.argv.length - k) * abi.ptrBytes < 2 ^ 31) :
    readArgv abi mem (args.addr + k * abi.ptrBytes)
        (Argv.sizeInBytes abi
          ⟨BitVec.ofNat 32 (args.argv.length - k), args.addr + k * abi.ptrBytes⟩) =
      .value ((args.argv.drop k).map some) := by
  have hdiv : ((((args.argv.length - k : Nat) : Int) * abi.ptrBytes).tdiv abi.ptrBytes) =
      ((args.argv.length - k : Nat) : Int) :=
    Int.mul_tdiv_cancel _ (by omega)
  unfold readArgv
  rw [toInt_sizeInBytes hptr hfits, hdiv]
  dsimp only
  rw [if_neg (by omega), Int.toNat_natCast]
  exact readLoop_eq hmem (by omega)

/-! ## The backends -/

/-- `ReadArgv` makes an array of `argc - 5` strings of this pointer and this
size, and the `i`-th of them is `argv[5 + i]`. -/
def Arrives (abi : Abi) (mem : Memory) (args : Args) (x : Addr × BitVec 32) : Prop :=
  ∃ argv, readArgv abi mem x.1 x.2 = .value argv ∧ argv.length = args.argc - 5 ∧
    ∀ i, i < args.argc - 5 → argv[i]? = some args.argv[5 + i]?

section HandsOver

variable {σ η ι δ ρ ε : Type}

/-- `runMethod` calls the entry point that it finds and no other, with the
array and its size as they are. Of a call of an entry point, `entryCall` is
which one it is and what it is given. -/
def HandsOver (B : Backend σ η ι δ ρ ε) (abi : Abi)
    (entryCall : ε → Option (Addr × Addr × BitVec 32))
    (finds : σ → AsmHandle → Str → Str → ρ → Addr → Prop) : Prop :=
  ∀ s h ty me a env m x,
    (∃ c ∈ (B.runMethod s h ty me a env).calls, entryCall c = some (m, x)) ↔
      finds s h ty me env m ∧ x = (a.argv, a.sizeInBytes abi)

/-- For the arguments `a`, whatever entry point `runMethod` finds is called,
and what any entry point is given arrives. -/
structure Delivers (B : Backend σ η ι δ ρ ε) (abi : Abi) (mem : Memory) (args : Args)
    (a : Argv) (entryCall : ε → Option (Addr × Addr × BitVec 32))
    (finds : σ → AsmHandle → Str → Str → ρ → Addr → Prop) : Prop where
  called : ∀ s h ty me env m, finds s h ty me env m →
    ∃ c ∈ (B.runMethod s h ty me a env).calls, ∃ x, entryCall c = some (m, x)
  arrives : ∀ s h ty me env, ∀ c ∈ (B.runMethod s h ty me a env).calls, ∀ m x,
    entryCall c = some (m, x) → finds s h ty me env m ∧ Arrives abi mem args x

variable {B : Backend σ η ι δ ρ ε} {abi : Abi} {entryCall : ε → Option (Addr × Addr × BitVec 32)}
  {finds : σ → AsmHandle → Str → Str → ρ → Addr → Prop}

/-- Where the calls of entry points are those of one form. -/
theorem HandsOver.of_mem (entry : Addr → Addr → BitVec 32 → ε)
    (hform : ∀ c m args size, entryCall c = some (m, args, size) ↔ c = entry m args size)
    (hmem : ∀ s h ty me a env m args size,
      entry m args size ∈ (B.runMethod s h ty me a env).calls ↔
        args = a.argv ∧ size = a.sizeInBytes abi ∧ finds s h ty me env m) :
    HandsOver B abi entryCall finds := by
  rintro s h ty me a env m ⟨args, size⟩
  simp only [hform, exists_eq_right, hmem, Prod.mk.injEq]
  exact and_rotate.symm

theorem HandsOver.delivers (hB : HandsOver B abi entryCall finds) {mem : Memory} {args : Args}
    {a : Argv} (ha : Arrives abi mem args (a.argv, a.sizeInBytes abi)) :
    Delivers B abi mem args a entryCall finds where
  called s h ty me env m hfinds := by
    obtain ⟨c, hc, hcall⟩ := (hB s h ty me a env m _).mpr ⟨hfinds, rfl⟩
    exact ⟨c, hc, _, hcall⟩
  arrives s h ty me env c hc m x hcall := by
    obtain ⟨hfinds, rfl⟩ := (hB s h ty me a env m x).mp ⟨c, hc, hcall⟩
    exact ⟨hfinds, ha⟩

end HandsOver

/-- By value, as the two parameters of `component_entry_point_fn`. -/
def coreClrEntryCall : CoreCLR.HostCall → Option (Addr × Addr × BitVec 32)
  | .entry pfnEntry args sizeBytes => some (pfnEntry, args, sizeBytes)
  | _ => none

/-- The delegate of the plugin finds it. -/
def coreClrFinds (s : CoreCLR.State) (h : AsmHandle) (ty me : Str) (env : CoreCLR.RunEnv)
    (pfnEntry : Addr) : Prop :=
  ∃ plugin, s.gPlugins[h]? = some plugin ∧ plugin.Finds ty me env pfnEntry

/-- Through the two pointers that `mono_runtime_invoke` is given. -/
def monoEntryCall : Mono.MonoCall → Option (Addr × Addr × BitVec 32)
  | .invoke method args sizeBytes => some (method, args, sizeBytes)
  | _ => none

/-- The walk over the loaded assemblies finds it. -/
def monoFinds (s : Mono.State) (h : AsmHandle) (ty me : Str) (env : Mono.RunEnv)
    (method : Addr) : Prop :=
  ∃ data, s.gPlugins[h]? = some data ∧ data.Finds ty me s.runtime env method

/-- As in the Mono backend. -/
def monoCoreClrEntryCall : MonoCoreClr.MonoCall → Option (Addr × Addr × BitVec 32)
  | .invoke method args sizeBytes => some (method, args, sizeBytes)
  | _ => none

/-- It is in the image of the entry. -/
def monoCoreClrFinds (abi : Abi) (s : MonoCoreClr.State) (h : AsmHandle) (ty me : Str)
    (env : MonoCoreClr.RunEnv) (method : Addr) : Prop :=
  ∃ data, s.gAssemblies[h]? = some data ∧ data.Finds abi ty me env method

/-- As two boxed objects. -/
def clrHostEntryCall : CLRHost.ClrCall → Option (Addr × Addr × BitVec 32)
  | .invoke method args sizeBytes => some (method, args, sizeBytes)
  | _ => none

/-- It is in the assembly of the instance. -/
def clrHostFinds (s : CLRHost.State) (h : AsmHandle) (ty me : Str) (env : CLRHost.RunEnv)
    (method : Addr) : Prop :=
  ∃ inst, CLRHost.Holds h inst s ∧ inst.findMethod ty me env = .ok (some method)

theorem coreClr_handsOver (abi : Abi) :
    HandsOver (CoreCLR.backend abi) abi coreClrEntryCall coreClrFinds := by
  refine .of_mem .entry (fun c m args size => ?_) fun s h ty me a env m args size => ?_
  · cases c <;> simp [coreClrEntryCall]
  · exact CoreCLR.entry_mem_runMethod

theorem mono_handsOver (abi : Abi) :
    HandsOver (Mono.backend abi) abi monoEntryCall monoFinds := by
  refine .of_mem .invoke (fun c m args size => ?_) fun s h ty me a env m args size => ?_
  · cases c <;> simp [monoEntryCall]
  · change _ ∈ (Mono.runMethod abi s h ty me a env).calls ↔ _
    unfold monoFinds
    cases hdata : s.gPlugins[h]? with
    | none => simp [Mono.runMethod, hdata]
    | some data =>
      rw [Mono.invoke_mem_data hdata]
      simp only [Option.some.injEq, exists_eq_left']

theorem monoCoreClr_handsOver (abi : Abi) :
    HandsOver (MonoCoreClr.backend abi) abi monoCoreClrEntryCall (monoCoreClrFinds abi) := by
  refine .of_mem .invoke (fun c m args size => ?_) fun s h ty me a env m args size => ?_
  · cases c <;> simp [monoCoreClrEntryCall]
  · exact MonoCoreClr.invoke_mem_runMethod

theorem clrHost_handsOver (fs : CLRHost.PathFns) (abi : Abi) :
    HandsOver (CLRHost.backend fs abi) abi clrHostEntryCall clrHostFinds := by
  refine .of_mem .invoke (fun c m args size => ?_) fun s h ty me a env m args size => ?_
  · cases c <;> simp [clrHostEntryCall]
  · exact CLRHost.invoke_mem_runMethod

/-! ## From the command line to the entry point -/

/-- In each backend, `runMethod` with the arguments `a` calls the entry point
that it finds, and what it gives an entry point arrives. -/
structure ArgumentsArrive (fs : CLRHost.PathFns) (abi : Abi) (mem : Memory) (args : Args)
    (a : Argv) : Prop where
  coreClr : Delivers (CoreCLR.backend abi) abi mem args a coreClrEntryCall coreClrFinds
  mono : Delivers (Mono.backend abi) abi mem args a monoEntryCall monoFinds
  monoCoreClr : Delivers (MonoCoreClr.backend abi) abi mem args a monoCoreClrEntryCall
    (monoCoreClrFinds abi)
  clrHost : Delivers (CLRHost.backend fs abi) abi mem args a clrHostEntryCall clrHostFinds

theorem arrives (hptr : 4 ≤ abi.ptrBytes) (hmem : mem.HoldsArgv abi args) (hargc : 5 ≤ args.argc)
    (hsize : (args.argc - 5) * abi.ptrBytes ≤ 2 ^ 31 - 1) :
    Arrives abi mem args (args.addr + 5 * abi.ptrBytes,
      Argv.sizeInBytes abi
        ⟨BitVec.ofNat 32 (args.argc - 5), args.addr + 5 * abi.ptrBytes⟩) := by
  refine ⟨_, readArgv_eq hptr hmem hargc (by unfold Args.argc at hsize; omega), ?_, ?_⟩
  · rw [List.length_map, List.length_drop]
    rfl
  · intro i hi
    have hbound : 5 + i < args.argv.length := by
      unfold Args.argc at hi
      omega
    rw [List.getElem?_map, List.getElem?_drop, List.getElem?_eq_getElem hbound]
    rfl

/-- What the driver hands to `runMethod` arrives, in every backend, and for
pointers of 4 and of 8 bytes: whatever entry point is found is called, and the
array that `ReadArgv` makes of what it is given are the arguments from the
fifth on. -/
theorem arguments_arrive {σ : Type} (fs : CLRHost.PathFns) (env : Cli.Env σ) (args : Args)
    (mem : Memory) (hptr : env.abi.ptrBytes = 4 ∨ env.abi.ptrBytes = 8)
    (hsize : (args.argc - 5) * env.abi.ptrBytes ≤ 2 ^ 31 - 1)
    (hmem : mem.HoldsArgv env.abi args) (h : AsmHandle) (ty me : Str) (a : Argv)
    (hcall : Cli.Call.runMethod h ty me a ∈ (Cli.main env args).calls) :
    ArgumentsArrive fs env.abi mem args a := by
  obtain ⟨hargc, rfl⟩ := Cli.modArgs_of_called hcall
  have harrives := arrives (by omega) hmem hargc hsize
  exact ⟨(coreClr_handsOver _).delivers harrives, (mono_handsOver _).delivers harrives,
    (monoCoreClr_handsOver _).delivers harrives, (clrHost_handsOver fs _).delivers harrives⟩

/-- `ezdotnet libcoreclrhost.so /app/P.dll T M a b`. -/
def twoArgs : Args where
  argv := Cli.sampleArgs.argv ++ [lit "a", lit "b"]
  addr := 1000
  fits := by decide

/-- A memory in which nothing but these arguments is mapped. -/
def twoArgsMemory : Memory where
  pointer addr :=
    if 1000 ≤ addr ∧ addr < 1056 ∧ (addr - 1000) % 8 = 0 then some (addr + 1) else none
  cString ptr := twoArgs.argv[(ptr - 1001) / 8]?

theorem twoArgsMemory_holds : twoArgsMemory.HoldsArgv linux64 twoArgs := by
  intro i hi
  have hseven : i < 7 := hi
  have hindex : (1000 + i * 8 + 1 - 1001) / 8 = i := by omega
  refine ⟨(1000 + i * 8 + 1 : Nat), Nat.succ_ne_zero _, ?_, ?_⟩
  · have hmapped : 1000 ≤ 1000 + i * 8 ∧ 1000 + i * 8 < 1056 ∧
        (1000 + i * 8 - 1000) % 8 = 0 := by omega
    exact if_pos hmapped
  · show twoArgs.argv[(1000 + i * 8 + 1 - 1001) / 8]? = some twoArgs.argv[i]
    rw [hindex]
    exact List.getElem?_eq_getElem hi

/-- The delegate finds the method, and it returns. -/
def entryFound : CoreCLR.RunEnv := ⟨fun _ _ _ => some 3, fun _ => true⟩

/-- The driver over CoreCLR, with a method that is found. -/
def entryFoundEnv : Cli.Env CoreCLR.State :=
  Cli.coreclrEnv (lit "/app") CoreCLR.workingEnv entryFound

/-- The backend as the driver calls `runMethod`. -/
def sampleLoaded : CoreCLR.State :=
  (CoreCLR.clrInit linux64 CoreCLR.start CoreCLR.samplePath (lit "/app") CoreCLR.workingEnv).state

theorem sampleLoaded_finds : coreClrFinds sampleLoaded (strHash linux64 CoreCLR.samplePath)
    (lit "T") (lit "M") entryFound 3 :=
  ⟨⟨(CoreCLR.initHostFxr CoreCLR.workingEnv.hostfxr
    (CoreCLR.readyCtx CoreCLR.workingEnv CoreCLR.samplePath)).2.1⟩, by decide, 2, rfl, rfl⟩

/-- The run calls the entry point 3, with an array that is read as `a` and
`b`. -/
theorem arguments_arrive_twoArgs :
    let h := strHash linux64 CoreCLR.samplePath
    Cli.Call.runMethod h (lit "T") (lit "M") ⟨2, 1040⟩ ∈ (Cli.main entryFoundEnv twoArgs).calls ∧
      ∃ c ∈ (CoreCLR.runMethod linux64 sampleLoaded h (lit "T") (lit "M") ⟨2, 1040⟩
          entryFound).calls,
        ∃ x, coreClrEntryCall c = some (3, x) ∧ Arrives linux64 twoArgsMemory twoArgs x := by
  have hcall : Cli.Call.runMethod (strHash linux64 CoreCLR.samplePath) (lit "T") (lit "M")
      ⟨2, 1040⟩ ∈ (Cli.main entryFoundEnv twoArgs).calls := by decide
  have harrive := (arguments_arrive CLRHost.windowsNames entryFoundEnv twoArgs twoArgsMemory
    (.inr rfl) (by decide) twoArgsMemory_holds _ _ _ _ hcall).coreClr
  obtain ⟨c, hc, x, hx⟩ := harrive.called _ _ _ _ _ _ sampleLoaded_finds
  exact ⟨hcall, c, hc, x, hx, (harrive.arrives _ _ _ _ _ c hc 3 x hx).2⟩

end EzDotnet.Managed
