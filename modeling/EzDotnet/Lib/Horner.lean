/-
EzDotnet.Lib.Horner — hashes of the form `hash * b + d`, one step for each
element, over any commutative ring.

The loop computes a polynomial in `b` with the elements as coefficients
(`horner_eq_sum`), and it commutes with ring homomorphisms (`map_horner`):
a loop over machine words is the loop over the integers, read modulo the
word size. What two loops differ by is multiplied by `b` once for each
element that follows (`horner_sub_horner`).
-/
import Mathlib.Algebra.BigOperators.Fin
import Mathlib.Tactic.Ring

namespace EzDotnet.Lib

variable {R S : Type*} [CommRing R] [CommRing S]

/-- `acc = acc * b + d`, for each element in turn. -/
def horner (b : R) : R → List R → R
  | acc, [] => acc
  | acc, d :: ds => horner b (acc * b + d) ds

theorem map_horner (f : R →+* S) (b acc : R) (ds : List R) :
    f (horner b acc ds) = horner (f b) (f acc) (ds.map f) := by
  induction ds generalizing acc with
  | nil => rfl
  | cons d ds ih =>
    rw [horner, ih, List.map_cons, horner, map_add, map_mul]

theorem horner_append (b acc : R) (ds es : List R) :
    horner b acc (ds ++ es) = horner b (horner b acc ds) es := by
  induction ds generalizing acc with
  | nil => rfl
  | cons d ds ih => exact ih (acc * b + d)

theorem horner_sub_horner (b x y : R) (ds : List R) :
    horner b x ds - horner b y ds = (x - y) * b ^ ds.length := by
  induction ds generalizing x y with
  | nil => simp [horner]
  | cons d ds ih =>
    rw [horner, horner, ih, List.length_cons]
    ring

/-- The first element has the highest power. -/
theorem horner_eq_sum (b acc : R) (ds : List R) :
    horner b acc ds =
      acc * b ^ ds.length + ∑ i : Fin ds.length, ds[i] * b ^ (ds.length - 1 - i) := by
  induction ds generalizing acc with
  | nil => simp [horner]
  | cons d ds ih =>
    have hpow : ∀ i : Fin ds.length,
        (d :: ds)[i.succ] * b ^ ((d :: ds).length - 1 - i.succ) =
          ds[i] * b ^ (ds.length - 1 - i) := by
      intro i
      have hexp : (d :: ds).length - 1 - (i.succ : Nat) = ds.length - 1 - i := by
        rw [List.length_cons, Fin.val_succ]
        omega
      rw [hexp]
      rfl
    rw [horner, ih]
    show _ = acc * b ^ (ds.length + 1) +
      ∑ i : Fin (ds.length + 1), (d :: ds)[i] * b ^ ((d :: ds).length - 1 - i)
    rw [Fin.sum_univ_succ, Finset.sum_congr rfl fun i _ => hpow i]
    show _ = acc * b ^ (ds.length + 1) + (d * b ^ ds.length + _)
    ring

end EzDotnet.Lib
