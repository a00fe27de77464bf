/-
EzDotnet.MonoCoreClr.TypeNames — how `runMethod` splits a type name into a
namespace and a class.

The position of the last dot is a `size_t` that goes through an `int` and
back. For a dot before position 2^31 - 1 nothing happens to it, and the
split is right. Without a dot, `npos` becomes -1: as the length of the
namespace it is `npos` again, which means the whole name, and -1 + 1 is
where the class starts. So a type in the global namespace is looked up in a
namespace of its own name. For a dot farther on, the class starts at another
place, behind the end, or at a sum that overflows.
-/
import EzDotnet.MonoCoreClr.HostTheorems

namespace EzDotnet.MonoCoreClr

/-! ## The arguments of `mono_class_from_name` -/

/-- The namespace and the class that `runMethod` passes on, if it comes to
the call. -/
def classNameArgs (abi : Abi) (typeName : Str) : Option (Str × Str) :=
  match splitType abi typeName with
  | .value (typeNs, typeCls) => some (cstr typeNs, cstr typeCls)
  | _ => none

/-- The name is the namespace, a dot and the class; without a dot it is the
class, in the empty namespace. -/
structure SplitsAt (typeName ns cls : Str) : Prop where
  noDot : dot ∉ cls
  joined : dot ∈ typeName → typeName = ns ++ dot :: cls
  unqualified : dot ∉ typeName → ns = [] ∧ typeName = cls

/-- `mono_class_from_name` is called, with the namespace and the class of
the name. -/
def SplitsCorrectly (abi : Abi) (typeName : Str) : Prop :=
  ∃ ns cls, classNameArgs abi typeName = some (ns, cls) ∧ SplitsAt typeName ns cls

variable {abi : Abi} {typeName : Str}

/-- No other class is asked for. -/
theorem runMethod_asks (data : AsmInstanceData) (me : Str) (a : Argv) (env : RunEnv)
    (f : Image → Str → Str → Option MonoClass)
    (hf : ∀ ns cls, classNameArgs abi typeName = some (ns, cls) →
      f data.m_image ns cls = env.classFromName data.m_image ns cls) :
    data.runMethod abi typeName me a { env with classFromName := f } =
      data.runMethod abi typeName me a env := by
  unfold classNameArgs at hf
  unfold AsmInstanceData.runMethod
  cases hsplit : splitType abi typeName with
  | throws => rfl
  | undefined => rfl
  | value parts =>
    rw [hsplit] at hf
    dsimp only
    rw [hf _ _ rfl]

/-! ## The last dot -/

theorem findIdx?_reverse_eq_none {s : Str} (h : dot ∉ s) :
    s.reverse.findIdx? (· = dot) = none :=
  List.findIdx?_eq_none_iff.mpr fun _ hc =>
    decide_eq_false fun heq => h (heq ▸ List.mem_reverse.mp hc)

theorem findLastDot_of_notMem (h : dot ∉ typeName) :
    findLastDot abi typeName = BitVec.allOnes (8 * abi.ptrBytes) := by
  unfold findLastDot
  rw [findIdx?_reverse_eq_none h]

/-- The dot before the class. -/
theorem findLastDot_append (ns : Str) {cls : Str} (hcls : dot ∉ cls) :
    findLastDot abi (ns ++ dot :: cls) = BitVec.ofNat (8 * abi.ptrBytes) ns.length := by
  have hindex : (ns ++ dot :: cls).reverse.findIdx? (· = dot) = some cls.length := by
    simp [List.findIdx?_append, findIdx?_reverse_eq_none hcls, List.findIdx?_cons]
  have hlen : (ns ++ dot :: cls).length - 1 - cls.length = ns.length := by simp
  unfold findLastDot
  rw [hindex]
  dsimp only
  rw [hlen]

/-- A negative `int` becomes a large `size_t`. -/
theorem toSizeT_eq (hptr : 4 ≤ abi.ptrBytes) (i : BitVec 32) :
    toSizeT abi i = i.toNat + if 2 ^ 31 ≤ i.toNat then 2 ^ (8 * abi.ptrBytes) - 2 ^ 32 else 0 := by
  unfold toSizeT
  rw [BitVec.toNat_signExtend, BitVec.toNat_setWidth_of_le (by omega), BitVec.msb_eq_decide]
  simp

/-! ## The split -/

theorem two_mul_half (hptr : 4 ≤ abi.ptrBytes) :
    2 ^ (8 * abi.ptrBytes) = 2 * 2 ^ (8 * abi.ptrBytes - 1) := by
  rw [← Nat.pow_succ']
  congr 1
  omega

/-- Without a dot, the name is both the namespace and the class. -/
theorem splitType_of_notMem (hptr : 4 ≤ abi.ptrBytes) (h : dot ∉ typeName)
    (hlen : typeName.length < 2 ^ (8 * abi.ptrBytes - 1)) :
    splitType abi typeName = .value (typeName, typeName) := by
  have hones : (BitVec.allOnes 32).toNat = 2 ^ 32 - 1 := rfl
  have hword : 2 ^ (8 * abi.ptrBytes) = 2 * 2 ^ (8 * abi.ptrBytes - 1) := two_mul_half hptr
  have hlong : typeName.length ≤ toSizeT abi (BitVec.allOnes 32) := by
    rw [toSizeT_eq hptr, hones, if_pos (by omega)]
    omega
  rw [splitType_eq, findLastDot_of_notMem h, npos_next hptr, npos_narrow hptr, if_neg (by decide),
    toSizeT_ofNat hptr (by omega), if_pos (Nat.zero_le _), List.take_of_length_le hlong,
    List.drop_zero]

/-- Small positions are kept. -/
theorem splitType_append (hptr : 4 ≤ abi.ptrBytes) {ns cls : Str} (hcls : dot ∉ cls)
    (hns : ns.length < 2 ^ 31 - 1) : splitType abi (ns ++ dot :: cls) = .value (ns, cls) := by
  rw [splitType_eq, findLastDot_append ns hcls, position_next hptr,
    BitVec.setWidth_ofNat_of_le (by omega), if_neg (ofNat_ne_intMax hns),
    toSizeT_ofNat hptr (by omega), toSizeT_ofNat hptr (by omega), if_pos (by simp)]
  simp

/-- A class without a dot starts behind the last dot, and only a small
position of that dot leads there. -/
theorem small_of_splitType (hptr : 4 ≤ abi.ptrBytes) {ns cls ns' cls' : Str}
    (hlen : (ns ++ dot :: cls).length < 2 ^ (8 * abi.ptrBytes - 1)) (hcls : dot ∉ cls)
    (hsplit : splitType abi (ns ++ dot :: cls) = .value (ns', cls')) (hcls' : dot ∉ cls') :
    ns.length < 2 ^ 31 - 1 := by
  have hword : 2 ^ (8 * abi.ptrBytes) = 2 * 2 ^ (8 * abi.ptrBytes - 1) := two_mul_half hptr
  have hhalf : 2 ^ 31 ≤ 2 ^ (8 * abi.ptrBytes - 1) := Nat.pow_le_pow_right (by omega) (by omega)
  rw [splitType_eq, findLastDot_append ns hcls, position_next hptr] at hsplit
  have hstart := toSizeT_eq hptr (BitVec.ofNat 32 (ns.length + 1))
  rw [BitVec.toNat_ofNat] at hstart
  split at hsplit
  · cases hsplit
  · split at hsplit
    · next hend =>
      cases hsplit
      have hbehind : ns.length < toSizeT abi (BitVec.ofNat 32 (ns.length + 1)) := by
        by_contra hle
        rw [List.drop_append_of_le_length (by omega)] at hcls'
        exact hcls' (by simp)
      split at hstart <;> omega
    · cases hsplit

theorem exists_last_dot (h : dot ∈ typeName) :
    ∃ ns cls, typeName = ns ++ dot :: cls ∧ dot ∉ cls := by
  obtain ⟨front, back, hrev, hfront⟩ := List.eq_append_cons_of_mem (List.mem_reverse.mpr h)
  refine ⟨back.reverse, front.reverse, ?_, by simpa using hfront⟩
  rw [← List.reverse_reverse typeName, hrev]
  simp

/-- The parts are C strings, as the name is one. -/
theorem classNameArgs_eq_some_iff (hnul : 0#8 ∉ typeName) {ns cls : Str} :
    classNameArgs abi typeName = some (ns, cls) ↔ splitType abi typeName = .value (ns, cls) := by
  unfold classNameArgs
  rw [splitType_eq]
  split_ifs with hmax hend
  · simp
  · have htake : ∀ n, cstr (typeName.take n) = typeName.take n :=
      fun n => cstr_eq_self fun hmem => hnul (List.mem_of_mem_take hmem)
    have hdrop : ∀ n, cstr (typeName.drop n) = typeName.drop n :=
      fun n => cstr_eq_self fun hmem => hnul (List.mem_of_mem_drop hmem)
    dsimp only
    rw [htake, hdrop]
    simp
  · simp

/-- For a type name that fits into memory, the split is right exactly when
the name is empty or has its last dot before position 2^31 - 1. Right or not,
no other class is asked for. -/
theorem splitsCorrectly_iff (abi : Abi) (hptr : 4 ≤ abi.ptrBytes) (typeName : Str)
    (hnul : 0#8 ∉ typeName) (hlen : typeName.length < 2 ^ (8 * abi.ptrBytes - 1)) :
    (SplitsCorrectly abi typeName ↔
      typeName = [] ∨
        ∃ ns cls, typeName = ns ++ dot :: cls ∧ dot ∉ cls ∧ ns.length < 2 ^ 31 - 1) ∧
    ∀ (data : AsmInstanceData) (me : Str) (a : Argv) (env : RunEnv)
      (f : Image → Str → Str → Option MonoClass),
      (∀ ns cls, classNameArgs abi typeName = some (ns, cls) →
        f data.m_image ns cls = env.classFromName data.m_image ns cls) →
      data.runMethod abi typeName me a { env with classFromName := f } =
        data.runMethod abi typeName me a env := by
  refine ⟨?_, fun data me a env f hf => runMethod_asks data me a env f hf⟩
  by_cases hdot : dot ∈ typeName
  · obtain ⟨ns, cls, rfl, hcls⟩ := exists_last_dot hdot
    refine ⟨fun ⟨ns', cls', hargs, hsplits⟩ => ?_, fun hsmall => ?_⟩
    · have hsplit := (classNameArgs_eq_some_iff hnul).mp hargs
      exact .inr ⟨ns, cls, rfl, hcls, small_of_splitType hptr hlen hcls hsplit hsplits.noDot⟩
    · obtain hempty | ⟨ns', cls', heq, hcls', hns'⟩ := hsmall
      · simp at hempty
      · refine ⟨ns', cls', ?_, hcls', fun _ => heq, fun h => absurd hdot h⟩
        rw [classNameArgs_eq_some_iff hnul, heq]
        exact splitType_append hptr hcls' hns'
  · have hargs : classNameArgs abi typeName = some (typeName, typeName) :=
      (classNameArgs_eq_some_iff hnul).mpr (splitType_of_notMem hptr hdot hlen)
    refine ⟨fun ⟨ns, cls, hargs', hsplits⟩ => ?_, fun hsmall => ?_⟩
    · rw [hargs] at hargs'
      cases hargs'
      exact .inl (hsplits.unqualified hdot).1
    · obtain rfl | ⟨ns, cls, heq, -, -⟩ := hsmall
      · exact ⟨_, _, hargs, hdot, fun h => absurd h hdot, fun _ => ⟨rfl, rfl⟩⟩
      · exact absurd (heq ▸ by simp) hdot

theorem splitsCorrectly_sample :
    SplitsCorrectly linux64 (lit "ManagedSample.EntryPoint") :=
  (splitsCorrectly_iff linux64 (by decide) (lit "ManagedSample.EntryPoint") (by decide)
    (by decide)).1.mpr
    (.inr ⟨lit "ManagedSample", lit "EntryPoint", by decide, by decide, by decide⟩)

/-- A runtime with one class, in the global namespace. -/
def globalEntry : RunEnv where
  classFromName _ ns cls := if ns = [] ∧ cls = lit "EntryPoint" then some 1 else none
  methodFromName _ me count := if me = lit "Entry" ∧ count = 2 then some 2 else none
  exception _ := none

/-- The class is there, but it is looked up in a namespace of its own name. -/
theorem splitsCorrectly_global :
    ¬ SplitsCorrectly linux64 (lit "EntryPoint") ∧
      classNameArgs linux64 (lit "EntryPoint") = some (lit "EntryPoint", lit "EntryPoint") ∧
      ((AsmInstanceData.mk 7).runMethod linux64 (lit "EntryPoint") (lit "Entry") ⟨0#32, 0⟩
        globalEntry).1 = .value (-1) ∧
      globalEntry.classFromName 7 [] (lit "EntryPoint") = some 1 := by
  have hargs : classNameArgs linux64 (lit "EntryPoint")
      = some (lit "EntryPoint", lit "EntryPoint") := by decide
  refine ⟨fun ⟨ns, cls, hsome, hsplits⟩ => ?_, hargs, by decide, by decide⟩
  rw [hargs] at hsome
  cases hsome
  exact absurd (hsplits.unqualified (by decide)).1 (by decide)

end EzDotnet.MonoCoreClr
