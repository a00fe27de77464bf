/-
EzDotnet.MonoCoreClr.HostTheorems — how `clrInit` of the MonoCoreClr backend
ends.

A registered path is answered at once. Otherwise the deps file is read, and
the call leaves by an exception when it is missing or unreadable
(`clrInit_noDeps`), fails as `build_tpa_list` fails (`clrInit_fault`), or
binds what the runtime loads for the main assembly's name (`clrInit_built`).
`clrInit_cleanReturn_iff` puts these together: the deps files on which the
call returns at all.
-/
import EzDotnet.Common.Handles
import EzDotnet.MonoCoreClr.DepsJsonTheorems
import EzDotnet.MonoCoreClr.Host

namespace EzDotnet.MonoCoreClr

variable {abi : Abi} {s : State} {p d : Str} {env : InitEnv}

/-- What `clrInit` reads for the path: the document, if there is one. -/
def readDeps (env : InitEnv) (p : Str) : Option Json :=
  loadDepsJson (env.depsFile (cstr (getDepsJsonPath p)))

/-- `build_tpa_list` for the deps file of the path. -/
def tpaOf (p : Str) (deps : Json) : Except Fault Ctx :=
  buildTpaList unix (cstr (getDepsJsonPath p)) deps

/-- The image that the runtime finds under a display name. -/
def imageOf (env : InitEnv) (asmName : Str) : Option Image :=
  if env.jitInit ∧ env.nameParses asmName then (env.loadFull asmName).bind env.image else none

/-! ## `clrInit` by cases -/

theorem depsKey (abi : Abi) (p : Str) :
    strHash abi (getDepsJsonPath (toNativePath .unix p)) = (backend abi).key p := rfl

theorem clrInit_hit (h : (backend abi).key p ∈ s.gAssemblies) :
    clrInit abi s p d env = ⟨s, .value ((backend abi).key p), []⟩ := if_pos h

theorem clrInit_noDeps (h : (backend abi).key p ∉ s.gAssemblies)
    (hdeps : readDeps env p = none) :
    (clrInit abi s p d env).state = s ∧ (clrInit abi s p d env).ret = .throws := by
  have hdeps' : loadDepsJson (env.depsFile
      (cstr (getDepsJsonPath (toNativePath .unix p)))) = none := hdeps
  unfold clrInit initializeAsm
  dsimp only
  rw [depsKey, if_neg h, hdeps']
  exact ⟨rfl, rfl⟩

/-- How a fault of `build_tpa_list` ends the call. -/
def Fault.ret {α : Type} : Fault → Ret α
  | .typeError => .throws
  | .emptyOptional => .undefined

theorem clrInit_fault (h : (backend abi).key p ∉ s.gAssemblies) {deps : Json}
    (hdeps : readDeps env p = some deps) {f : Fault} (hfault : tpaOf p deps = .error f) :
    (clrInit abi s p d env).state = s ∧ (clrInit abi s p d env).ret = f.ret := by
  have hdeps' : loadDepsJson (env.depsFile
      (cstr (getDepsJsonPath (toNativePath .unix p)))) = some deps := hdeps
  have hfault' : buildTpaList unix (cstr (getDepsJsonPath (toNativePath .unix p))) deps
      = .error f := hfault
  unfold clrInit initializeAsm
  dsimp only
  rw [depsKey, if_neg h, hdeps']
  dsimp only
  rw [hfault']
  cases f <;> exact ⟨rfl, rfl⟩

/-- The main assembly's image is bound if the runtime finds it, and the only
assembly asked for is the one with the name that was built. -/
theorem clrInit_built (h : (backend abi).key p ∉ s.gAssemblies) {deps : Json}
    (hdeps : readDeps env p = some deps) {r : Ctx} (hbuilt : tpaOf p deps = .ok r) :
    (clrInit abi s p d env).state.gAssemblies
        = Lib.acquire s.gAssemblies ((backend abi).key p)
          ((imageOf env (cstr r.main_asm_fqdn)).map AsmInstanceData.mk) ∧
      (clrInit abi s p d env).ret = .value
        (if (imageOf env (cstr r.main_asm_fqdn)).isSome then (backend abi).key p
          else nullAsmHandle) ∧
      ∀ name loaded, MonoCall.loadFull name loaded ∈ (clrInit abi s p d env).calls →
        name = cstr r.main_asm_fqdn := by
  have hdeps' : loadDepsJson (env.depsFile
      (cstr (getDepsJsonPath (toNativePath .unix p)))) = some deps := hdeps
  have hbuilt' : buildTpaList unix (cstr (getDepsJsonPath (toNativePath .unix p))) deps
      = .ok r := hbuilt
  unfold clrInit initializeAsm
  dsimp only
  rw [depsKey, if_neg h, hdeps']
  dsimp only
  rw [hbuilt']
  dsimp only
  unfold imageOf
  cases hjit : env.jitInit with
  | false => simp
  | true =>
    unfold loadAsmByName
    cases hname : env.nameParses (cstr r.main_asm_fqdn) with
    | false => simp
    | true =>
      cases hload : env.loadFull (cstr r.main_asm_fqdn) with
      | none => simp
      | some assembly =>
        cases himage : env.image assembly with
        | none => simp [himage]
        | some img => simp [himage, Lib.acquire_some h]

/-! ## The split of a type name -/

/-- The namespace starts at 0, where `substr` never throws. -/
theorem splitType_eq (abi : Abi) (typeName : Str) :
    splitType abi typeName =
      if (findLastDot abi typeName).setWidth 32 = 0x7fffffff#32 then .undefined
      else if toSizeT abi ((findLastDot abi typeName).setWidth 32 + 1#32) ≤ typeName.length then
        .value (typeName.take (toSizeT abi ((findLastDot abi typeName).setWidth 32)),
          typeName.drop (toSizeT abi ((findLastDot abi typeName).setWidth 32 + 1#32)))
      else .throws := by
  have hall : ∀ n, (typeName.drop n).take typeName.length = typeName.drop n :=
    fun n => List.take_of_length_le (by simp)
  unfold splitType substr
  dsimp only
  rw [if_pos (Nat.zero_le _), List.drop_zero, hall]
  by_cases hend : toSizeT abi ((findLastDot abi typeName).setWidth 32 + 1#32) ≤ typeName.length
  · rw [if_pos hend, if_pos hend]
  · rw [if_neg hend, if_neg hend]

/-- Small positions survive the way from `size_t` to `int` and back. -/
theorem toSizeT_ofNat (hptr : 4 ≤ abi.ptrBytes) {n : Nat} (hn : n < 2 ^ 31) :
    toSizeT abi (BitVec.ofNat 32 n) = n := by
  have hval : (BitVec.ofNat 32 n).toNat = n := by
    rw [BitVec.toNat_ofNat]
    exact Nat.mod_eq_of_lt (by omega)
  have hmsb : (BitVec.ofNat 32 n).msb = false := by
    rw [BitVec.msb_eq_false_iff_two_mul_lt, hval]
    omega
  unfold toSizeT
  rw [BitVec.signExtend_eq_setWidth_of_msb_false hmsb,
    BitVec.toNat_setWidth_of_le (by omega), hval]

/-- `npos`, narrowed to `int`, is -1. -/
theorem npos_narrow (hptr : 4 ≤ abi.ptrBytes) :
    (BitVec.allOnes (8 * abi.ptrBytes)).setWidth 32 = BitVec.allOnes 32 := by
  ext i hi
  simp only [BitVec.getElem_setWidth, BitVec.getElem_allOnes, BitVec.getLsbD_allOnes,
    decide_eq_true_eq]
  omega

theorem npos_next (hptr : 4 ≤ abi.ptrBytes) :
    (BitVec.allOnes (8 * abi.ptrBytes)).setWidth 32 + 1#32 = BitVec.ofNat 32 0 := by
  rw [npos_narrow hptr]
  rfl

theorem position_next (hptr : 4 ≤ abi.ptrBytes) (n : Nat) :
    (BitVec.ofNat (8 * abi.ptrBytes) n).setWidth 32 + 1#32 = BitVec.ofNat 32 (n + 1) := by
  rw [BitVec.setWidth_ofNat_of_le (by omega), BitVec.ofNat_add]

theorem ofNat_ne_intMax {n : Nat} (hn : n < 2 ^ 31 - 1) : BitVec.ofNat 32 n ≠ 0x7fffffff#32 := by
  intro heq
  have hval : n % 2 ^ 32 = 0x7fffffff := congrArg BitVec.toNat heq
  omega

/-- For a type name of less than 2^31 bytes the class name starts inside. -/
theorem splitType_returns (hptr : 4 ≤ abi.ptrBytes) {typeName : Str}
    (hlen : typeName.length < 2 ^ 31) : ∃ parts, splitType abi typeName = .value parts := by
  have hstart : (findLastDot abi typeName).setWidth 32 ≠ 0x7fffffff#32 ∧
      toSizeT abi ((findLastDot abi typeName).setWidth 32 + 1#32) ≤ typeName.length := by
    unfold findLastDot
    cases hdot : typeName.reverse.findIdx? (· = dot) with
    | none =>
      dsimp only
      rw [npos_next hptr, toSizeT_ofNat hptr (by omega), npos_narrow hptr]
      exact ⟨by decide, Nat.zero_le _⟩
    | some i =>
      have hi : i < typeName.length := by
        have hlt := (List.findIdx?_eq_some_iff_getElem.mp hdot).1
        rwa [List.length_reverse] at hlt
      dsimp only
      rw [position_next hptr, toSizeT_ofNat hptr (by omega),
        BitVec.setWidth_ofNat_of_le (by omega)]
      exact ⟨ofNat_ne_intMax (by omega), by omega⟩
  rw [splitType_eq, if_neg hstart.1, if_pos hstart.2]
  exact ⟨_, rfl⟩

/-! ## The registry -/

@[simp] theorem runMethod_state (abi : Abi) (s : State) (h : AsmHandle) (ty me : Str)
    (a : Argv) (env : RunEnv) : (runMethod abi s h ty me a env).state = s := by
  unfold runMethod
  split <;> rfl

theorem keyed (abi : Abi) : (backend abi).Keyed where
  start := rfl
  clrInit s p d env := by
    show ∃ made, (clrInit abi s p d env).state.gAssemblies
        = Lib.acquire s.gAssemblies ((backend abi).key p) made ∧
      ((backend abi).key p ∈ s.gAssemblies ∨ made.isSome →
        (clrInit abi s p d env).ret = .value ((backend abi).key p)) ∧
      (¬ ((backend abi).key p ∈ s.gAssemblies ∨ made.isSome) →
        ∀ h, (clrInit abi s p d env).ret = .value h → h = nullAsmHandle)
    by_cases hmem : (backend abi).key p ∈ s.gAssemblies
    · rw [clrInit_hit hmem]
      exact ⟨none, by simp, fun _ => rfl, fun h => absurd (.inl hmem) h⟩
    cases hdeps : readDeps env p with
    | none =>
      obtain ⟨hstate, hret⟩ := clrInit_noDeps (d := d) hmem hdeps
      rw [hstate, hret]
      exact ⟨none, by simp, by simp [hmem], by simp⟩
    | some deps =>
      cases hbuilt : tpaOf p deps with
      | error f =>
        obtain ⟨hstate, hret⟩ := clrInit_fault (d := d) hmem hdeps hbuilt
        rw [hstate, hret]
        refine ⟨none, by simp, by simp [hmem], fun _ h hh => ?_⟩
        cases f <;> cases hh
      | ok r =>
        obtain ⟨hstate, hret, -⟩ := clrInit_built (d := d) hmem hdeps hbuilt
        refine ⟨_, hstate, fun hmade => ?_, fun hnone h hh => ?_⟩
        · rw [hret, if_pos (by simpa [hmem] using hmade)]
        · rw [hret, if_neg (by simpa [hmem] using hnone)] at hh
          exact (Ret.value.inj hh).symm
  runMethod s h ty me a env := by
    show (runMethod abi s h ty me a env).state.gAssemblies = s.gAssemblies
    rw [runMethod_state]

/-! ## Clean returns -/

/-- `clrInit` returns, with a registered handle or the null one: no exception
leaves it, and it never reads through an empty optional. -/
def CleanReturn (abi : Abi) (s : State) (p d : Str) (env : InitEnv) : Prop :=
  ∃ h, (clrInit abi s p d env).ret = .value h ∧
    (h = nullAsmHandle ∨ h ∈ (clrInit abi s p d env).state.gAssemblies)

/-- `clrInit` returns cleanly for a registered path, and else exactly on a
deps file that can be read as a safe document. -/
theorem clrInit_cleanReturn_iff (abi : Abi) (s : State) (p d : Str) (env : InitEnv) :
    CleanReturn abi s p d env ↔
      (backend abi).key p ∈ s.gAssemblies ∨
        ∃ deps, loadDepsJson (env.depsFile (cstr (getDepsJsonPath p))) = some deps ∧
          DepsSafe deps := by
  show _ ↔ _ ∨ ∃ deps, readDeps env p = some deps ∧ DepsSafe deps
  unfold CleanReturn
  by_cases hmem : (backend abi).key p ∈ s.gAssemblies
  · rw [clrInit_hit hmem]
    exact ⟨fun _ => .inl hmem, fun _ => ⟨_, rfl, .inr hmem⟩⟩
  cases hdeps : readDeps env p with
  | none =>
    rw [(clrInit_noDeps hmem hdeps).2]
    simp [hmem]
  | some deps =>
    have hsafe : Lib.Returns (tpaOf p deps) ↔ DepsSafe deps := returns_buildTpaList
    cases hbuilt : tpaOf p deps with
    | error f =>
      have hfault : ¬ DepsSafe deps := by
        rw [← hsafe, hbuilt]
        exact Lib.not_returns_error f
      rw [(clrInit_fault hmem hdeps hbuilt).2]
      cases f <;> simp [hmem, hfault, Fault.ret]
    | ok r =>
      obtain ⟨hstate, hret, -⟩ := clrInit_built (d := d) hmem hdeps hbuilt
      refine ⟨fun _ => .inr ⟨deps, rfl, hsafe.mp ⟨r, hbuilt⟩⟩, fun _ => ⟨_, hret, ?_⟩⟩
      rw [hstate, Lib.mem_acquire]
      cases himage : imageOf env (cstr r.main_asm_fqdn) with
      | none => exact .inl rfl
      | some img => exact .inr (.inr ⟨rfl, rfl⟩)

/-- A runtime in which everything works, with one deps file; the empty name is
no assembly's. -/
def runtimeWith (file : DepsFile) : InitEnv :=
  ⟨fun _ => file, true, fun name => decide (name ≠ []), fun _ => some 1, fun _ => some 2⟩

/-- A document whose only library is a package. -/
def packageDoc : Json :=
  .object [(lit "runtimeTarget", .object [(lit "name", .string (lit "net8.0"))]),
    (lit "targets", .object [(lit "net8.0", .object [(lit "Lib/1.0", .object [])])]),
    (lit "libraries", .object
      [(lit "Lib/1.0", .object [(lit "type", .string (lit "package"))])])]

/-- A document whose runtime target is named by a number. -/
def numberDoc : Json := .object [(lit "runtimeTarget", .object [(lit "name", .number)])]

def depsPath : Str := lit "app/N.dll"

theorem not_cleanReturn {abi : Abi} {s : State} {p d : Str} {env : InitEnv}
    (h : ∀ g, (clrInit abi s p d env).ret ≠ .value g) : ¬ CleanReturn abi s p d env :=
  fun ⟨g, hg, _⟩ => h g hg

/-- Without a project the empty optional is read; a missing file and a name
of another type throw. -/
theorem clrInit_unclean :
    (¬ CleanReturn linux64 start depsPath [] (runtimeWith (.json packageDoc)) ∧
      (clrInit linux64 start depsPath [] (runtimeWith (.json packageDoc))).ret
        = .undefined) ∧
    (¬ CleanReturn linux64 start depsPath [] (runtimeWith .missing) ∧
      (clrInit linux64 start depsPath [] (runtimeWith .missing)).ret = .throws) ∧
    ¬ CleanReturn linux64 start depsPath [] (runtimeWith (.json numberDoc)) ∧
      (clrInit linux64 start depsPath [] (runtimeWith (.json numberDoc))).ret = .throws := by
  have hpackage : (clrInit linux64 start depsPath [] (runtimeWith (.json packageDoc))).ret
      = .undefined := by decide
  have hmissing :
      (clrInit linux64 start depsPath [] (runtimeWith .missing)).ret = .throws := by decide
  have hnumber : (clrInit linux64 start depsPath [] (runtimeWith (.json numberDoc))).ret
      = .throws := by decide
  exact ⟨⟨not_cleanReturn (by simp [hpackage]), hpackage⟩,
    ⟨not_cleanReturn (by simp [hmissing]), hmissing⟩,
    not_cleanReturn (by simp [hnumber]), hnumber⟩

end EzDotnet.MonoCoreClr
