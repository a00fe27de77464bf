/-
EzDotnet.Common.HashTheorems — which strings `str_hash` maps to the null
handle, and which it keeps apart.

Without the wrap-around, the loop computes the integer `hashSum`: 5381 and
the characters are the coefficients of a polynomial in 33, the last
character the constant one. `unsigned long` keeps its residue, so the hash
is `NULL_ASMHANDLE` exactly when the integer is a multiple of the word size
(`strHash_eq_null_iff`); nothing in the loop or after it keeps that from
happening.

Two strings have one hash exactly when their integers differ by a multiple
of the word size (`strHash_eq_iff`). A change of one character, or a swap of
two neighbours, differs by a small number times a power of 33, which is odd:
such strings never have one hash (`strHash_ne_of_nearIdentical`).
-/
import Mathlib.Algebra.Order.Ring.Abs
import Mathlib.Algebra.Order.Ring.Int
import Mathlib.RingTheory.Coprime.Lemmas
import Mathlib.Tactic.NormNum
import EzDotnet.Common.Interface
import EzDotnet.Lib.Horner

namespace EzDotnet

/-- The value of a `char` as an integer. -/
def charInt (abi : Abi) (c : Byte) : Int := if abi.charSigned then c.toInt else c.toNat

/-- What `str_hash` adds up, before it wraps. -/
def hashSum (abi : Abi) (str : Str) : Int :=
  let chars := (cstr str).map (charInt abi)
  5381 * 33 ^ chars.length + ∑ i : Fin chars.length, chars[i] * 33 ^ (chars.length - 1 - i)

theorem charValue_eq (abi : Abi) (c : Byte) :
    charValue abi c = ((charInt abi c : Int) : BitVec abi.longBits) := by
  unfold charValue charInt
  cases abi.charSigned with
  | true => rfl
  | false =>
    show c.setWidth abi.longBits = BitVec.ofInt abi.longBits (c.toNat : Int)
    rw [BitVec.ofInt_natCast, BitVec.ofNat_toNat]

/-- `(hash << 5) + hash`. -/
theorem shift_add {w : Nat} (hash : BitVec w) : (hash <<< 5) + hash = hash * 33 := by
  apply BitVec.eq_of_toNat_eq
  rw [BitVec.toNat_add, BitVec.toNat_shiftLeft, BitVec.toNat_mul, Nat.shiftLeft_eq]
  show (hash.toNat * 2 ^ 5 % 2 ^ w + hash.toNat) % 2 ^ w = hash.toNat * (33 % 2 ^ w) % 2 ^ w
  rw [Nat.mod_add_mod, Nat.mul_mod_mod]
  congr 1

theorem cstr_cons_of_ne {c : Byte} (h : c ≠ 0#8) (str : Str) :
    cstr (c :: str) = c :: cstr str := by
  simp [cstr, h]

/-- The loop, over the characters before the NUL. -/
theorem strHashLoop_eq (abi : Abi) (hash : BitVec abi.longBits) (str : Str) :
    strHashLoop abi hash str = Lib.horner 33 hash ((cstr str).map (charValue abi)) := by
  induction str generalizing hash with
  | nil => rfl
  | cons c str ih =>
    unfold strHashLoop
    by_cases hc : c = 0#8
    · rw [if_pos hc, hc]
      rfl
    · rw [if_neg hc, ih, shift_add, cstr_cons_of_ne hc]
      rfl

theorem hashSum_eq (abi : Abi) (str : Str) :
    hashSum abi str = Lib.horner 33 5381 ((cstr str).map (charInt abi)) :=
  (Lib.horner_eq_sum 33 5381 ((cstr str).map (charInt abi))).symm

/-- The hash is the integer, modulo the word size. -/
theorem strHash_eq (abi : Abi) (str : Str) :
    strHash abi str = (((hashSum abi str : Int) : BitVec abi.longBits)).toNat := by
  have hcast := Lib.map_horner (Int.castRingHom (BitVec abi.longBits)) 33 5381
    ((cstr str).map (charInt abi))
  have hchars : ((cstr str).map (charInt abi)).map (Int.castRingHom (BitVec abi.longBits)) =
      (cstr str).map (charValue abi) := by
    rw [List.map_map]
    exact List.map_congr_left fun c _ => (charValue_eq abi c).symm
  unfold strHash
  rw [strHashLoop_eq, hashSum_eq]
  congr 1
  exact (hcast.trans (by rw [hchars]; rfl)).symm

theorem strHash_eq_null_iff (abi : Abi) (str : Str) :
    strHash abi str = nullAsmHandle ↔ (2 : Int) ^ abi.longBits ∣ hashSum abi str := by
  have hpos : (0 : Int) < 2 ^ abi.longBits := Int.pow_pos (by decide)
  have hnonneg := Int.emod_nonneg (hashSum abi str) (ne_of_gt hpos)
  rw [strHash_eq]
  show (BitVec.ofInt abi.longBits (hashSum abi str)).toNat = 0 ↔ _
  rw [BitVec.toNat_ofInt, Int.dvd_iff_emod_eq_zero]
  push_cast
  omega

theorem strHash_eq_iff (abi : Abi) (str str' : Str) :
    strHash abi str = strHash abi str' ↔
      (2 : Int) ^ abi.longBits ∣ hashSum abi str - hashSum abi str' := by
  rw [strHash_eq, strHash_eq, BitVec.toNat_inj]
  show BitVec.ofInt _ _ = BitVec.ofInt _ _ ↔ _
  rw [← BitVec.toInt_inj, BitVec.toInt_ofInt, BitVec.toInt_ofInt,
    Int.bmod_eq_bmod_iff_bmod_sub_eq_zero, ← Int.dvd_iff_bmod_eq_zero]
  push_cast
  rfl

/-! ## Near-identical strings -/

/-- One character is another one, or two different neighbours are swapped. -/
def DifferOnce (str str' : Str) : Prop :=
  (∃ pre c c' post, c ≠ c' ∧ str = pre ++ c :: post ∧ str' = pre ++ c' :: post) ∨
    ∃ pre a b post, a ≠ b ∧ str = pre ++ a :: b :: post ∧ str' = pre ++ b :: a :: post

/-- Two C strings that differ in this way. -/
structure NearIdentical (str str' : Str) : Prop where
  noNul : 0#8 ∉ str
  noNul' : 0#8 ∉ str'
  differ : DifferOnce str str'

variable {abi : Abi}

/-- Two strings that differ before a common rest. -/
theorem hashSum_sub_hashSum (abi : Abi) {pre post : Str} (mid mid' : Str)
    (h : 0#8 ∉ pre ++ (mid ++ post)) (h' : 0#8 ∉ pre ++ (mid' ++ post)) :
    ∃ acc : Int, hashSum abi (pre ++ (mid ++ post)) - hashSum abi (pre ++ (mid' ++ post)) =
      (Lib.horner 33 acc (mid.map (charInt abi)) - Lib.horner 33 acc (mid'.map (charInt abi))) *
        33 ^ post.length := by
  rw [hashSum_eq, hashSum_eq, cstr_eq_self h, cstr_eq_self h']
  simp only [List.map_append, Lib.horner_append, Lib.horner_sub_horner, List.length_map]
  exact ⟨_, rfl⟩

theorem charInt_inj (abi : Abi) {c c' : Byte} (h : charInt abi c = charInt abi c') : c = c' := by
  unfold charInt at h
  split at h
  · exact BitVec.toInt_inj.mp h
  · exact BitVec.eq_of_toNat_eq (by omega)

theorem charInt_sub_lt (abi : Abi) (c c' : Byte) : |charInt abi c - charInt abi c'| < 256 := by
  unfold charInt
  rw [abs_lt]
  split
  · have hc := BitVec.le_toInt c
    have hc' := BitVec.le_toInt c'
    have hlt := BitVec.toInt_lt (x := c)
    have hlt' := BitVec.toInt_lt (x := c')
    omega
  · have hc := c.isLt
    have hc' := c'.isLt
    omega

/-- A small difference stays: 33 is odd, and no power of it brings the
factors of the word size. -/
theorem not_dvd_mul_pow {w : Nat} (hw : 13 ≤ w) {d : Int} (hd : d ≠ 0) (hlt : |d| < 2 ^ 13)
    (k : Nat) : ¬ (2 : Int) ^ w ∣ d * 33 ^ k := by
  have hcop : IsCoprime ((2 : Int) ^ w) (33 ^ k) :=
    IsCoprime.pow (Int.isCoprime_iff_gcd_eq_one.mpr (by decide))
  have hword : (2 : Int) ^ 13 ≤ 2 ^ w := pow_le_pow_right₀ (by decide) hw
  intro hdvd
  have hdvd' : (2 : Int) ^ w ∣ d := hcop.dvd_of_dvd_mul_right hdvd
  exact hd (Int.eq_zero_of_abs_lt_dvd hdvd' (lt_of_lt_of_le hlt hword))

theorem strHash_ne_of_nearIdentical (hw : 13 ≤ abi.longBits) {str str' : Str}
    (hnear : NearIdentical str str') : strHash abi str ≠ strHash abi str' := by
  obtain ⟨hnul, hnul', hdiffer⟩ := hnear
  rw [Ne, strHash_eq_iff]
  rcases hdiffer with ⟨pre, c, c', post, hne, rfl, rfl⟩ | ⟨pre, a, b, post, hne, rfl, rfl⟩
  · obtain ⟨acc, hdiff⟩ := hashSum_sub_hashSum abi [c] [c'] hnul hnul'
    have hone : Lib.horner 33 acc ([c].map (charInt abi)) -
        Lib.horner 33 acc ([c'].map (charInt abi)) = charInt abi c - charInt abi c' := by
      simp [Lib.horner]
    have hlt := charInt_sub_lt abi c c'
    rw [show pre ++ c :: post = pre ++ ([c] ++ post) from rfl,
      show pre ++ c' :: post = pre ++ ([c'] ++ post) from rfl, hdiff, hone]
    exact not_dvd_mul_pow hw (fun hzero => hne (charInt_inj abi (by omega))) (by omega) _
  · obtain ⟨acc, hdiff⟩ := hashSum_sub_hashSum abi [a, b] [b, a] hnul hnul'
    have htwo : Lib.horner 33 acc ([a, b].map (charInt abi)) -
        Lib.horner 33 acc ([b, a].map (charInt abi)) =
          32 * (charInt abi a - charInt abi b) := by
      simp only [List.map_cons, List.map_nil, Lib.horner]
      ring
    have hlt := charInt_sub_lt abi a b
    rw [show pre ++ a :: b :: post = pre ++ ([a, b] ++ post) from rfl,
      show pre ++ b :: a :: post = pre ++ ([b, a] ++ post) from rfl, hdiff, htwo]
    refine not_dvd_mul_pow hw (fun hzero => hne (charInt_inj abi (by omega))) ?_ _
    rw [abs_mul]
    norm_num
    omega

end EzDotnet
