/-
EzDotnet.Lib.Ownership — keys that own resources of a runtime.

A runtime hands out resources under fresh numbers and ends them one by
one; a registry files each under a key. `Pool` is that situation with its
discipline as fields: what a key owns is live, no two keys own the same
resource, and a number that was never handed out is not live. Three
operations keep it:

  * `acquire`   a fresh resource for a key that owns none;
  * `leak`      a fresh resource that no key owns;
  * `release`   the resource of a key ends, and the key owns none.

An implementation is connected to a pool by a relation of its own; here it
only matters which of the steps it takes (`Step`).
-/
import Mathlib.Data.Finset.Basic

namespace EzDotnet.Lib

/-- Keys, the resources they own, and the live resources of the runtime. -/
structure Pool (κ : Type*) where
  owner : κ → Option Nat
  live : Finset Nat
  /-- the number the next resource gets -/
  next : Nat
  owner_live : ∀ {k d}, owner k = some d → d ∈ live
  owner_inj : ∀ {k j d}, owner k = some d → owner j = some d → k = j
  live_lt : ∀ {d}, d ∈ live → d < next

namespace Pool

variable {κ : Type*}

def empty : Pool κ where
  owner _ := none
  live := ∅
  next := 0
  owner_live := by simp
  owner_inj := by simp
  live_lt := by simp

theorem next_notMem_live (P : Pool κ) : P.next ∉ P.live :=
  fun h => Nat.lt_irrefl _ (P.live_lt h)

/-- The next resource belongs to nobody yet. -/
theorem owner_ne_next (P : Pool κ) (k : κ) : P.owner k ≠ some P.next :=
  fun h => P.next_notMem_live (P.owner_live h)

/-- A new resource that no key owns. -/
def leak (P : Pool κ) : Pool κ where
  owner := P.owner
  live := insert P.next P.live
  next := P.next + 1
  owner_live h := Finset.mem_insert_of_mem (P.owner_live h)
  owner_inj := P.owner_inj
  live_lt h := by
    rcases Finset.mem_insert.mp h with rfl | h
    · exact Nat.lt_succ_self _
    · exact Nat.lt_succ_of_lt (P.live_lt h)

variable [DecidableEq κ]

/-- A new resource for a key. What the key owned before stays live, without
an owner. -/
def acquire (P : Pool κ) (k : κ) : Pool κ where
  owner := Function.update P.owner k (some P.next)
  live := insert P.next P.live
  next := P.next + 1
  owner_live {j d} h := by
    by_cases hj : j = k
    · subst hj
      rw [Function.update_self] at h
      rw [← Option.some.inj h]
      exact Finset.mem_insert_self _ _
    · rw [Function.update_of_ne hj] at h
      exact Finset.mem_insert_of_mem (P.owner_live h)
  owner_inj {i j d} hi hj := by
    by_cases hik : i = k <;> by_cases hjk : j = k
    · rw [hik, hjk]
    · rw [hik, Function.update_self] at hi
      rw [Function.update_of_ne hjk, ← hi] at hj
      exact absurd hj (P.owner_ne_next j)
    · rw [hjk, Function.update_self] at hj
      rw [Function.update_of_ne hik, ← hj] at hi
      exact absurd hi (P.owner_ne_next i)
    · rw [Function.update_of_ne hik] at hi
      rw [Function.update_of_ne hjk] at hj
      exact P.owner_inj hi hj
  live_lt h := P.leak.live_lt h

/-- The resource `d` of the key `k` ends. -/
def release (P : Pool κ) (k : κ) (d : Nat) (hk : P.owner k = some d) : Pool κ where
  owner := Function.update P.owner k none
  live := P.live.erase d
  next := P.next
  owner_live {j e} h := by
    by_cases hj : j = k
    · rw [hj, Function.update_self] at h
      cases h
    · rw [Function.update_of_ne hj] at h
      refine Finset.mem_erase.mpr ⟨?_, P.owner_live h⟩
      rintro rfl
      exact hj (P.owner_inj h hk)
  owner_inj {i j e} hi hj := by
    by_cases hik : i = k
    · rw [hik, Function.update_self] at hi
      cases hi
    by_cases hjk : j = k
    · rw [hjk, Function.update_self] at hj
      cases hj
    rw [Function.update_of_ne hik] at hi
    rw [Function.update_of_ne hjk] at hj
    exact P.owner_inj hi hj
  live_lt h := P.live_lt (Finset.mem_of_mem_erase h)

/-- What may happen between two states of a pool. -/
inductive Step (P : Pool κ) : Pool κ → Prop where
  | stay : Step P P
  | leak : Step P P.leak
  | acquire {k : κ} (hk : P.owner k = none) : Step P (P.acquire k)
  | release {k : κ} {d : Nat} (hk : P.owner k = some d) : Step P (P.release k d hk)

end Pool

end EzDotnet.Lib
