/-
EzDotnet.Lib.Registry — registries that create an entry on the first
request for a key and hand the same key out again afterwards.

`acquire` is the whole pattern on an ordered map: a hit leaves the map
alone, a miss emplaces what was made for it, or nothing when making it
failed. `FilledBy` says what a machine needs for its registry to be filled
this way only, and `FilledBy.registered_by` is what follows over any run: a
key that is in the registry was put there by a request for that very key,
and has been there since. Two requests share an entry exactly as far as
they share a key, so everything the registry promises about IDENTITY is a
property of the key function and of nothing else.
-/
import Mathlib.Data.BitVec
import EzDotnet.Lib.Machine

namespace EzDotnet.Lib

open Std (ExtTreeMap TransOrd LawfulEqOrd)

/-! ## One request -/

section Acquire

variable {κ ε : Type} [Ord κ] [TransOrd κ]

/-- `find`, and on a miss `emplace` of what was made, if it was. -/
def acquire (t : ExtTreeMap κ ε) (k : κ) (made : Option ε) : ExtTreeMap κ ε :=
  if k ∈ t then t
  else match made with
    | some e => t.insertIfNew k e
    | none => t

theorem acquire_of_mem {t : ExtTreeMap κ ε} {k : κ} (h : k ∈ t) (made : Option ε) :
    acquire t k made = t := if_pos h

@[simp] theorem acquire_none (t : ExtTreeMap κ ε) (k : κ) : acquire t k none = t := by
  simp [acquire]

theorem acquire_some {t : ExtTreeMap κ ε} {k : κ} (h : k ∉ t) (e : ε) :
    acquire t k (some e) = t.insertIfNew k e := by
  simp [acquire, h]

theorem mem_iff_exists_getElem? {t : ExtTreeMap κ ε} {k : κ} : k ∈ t ↔ ∃ e, t[k]? = some e := by
  rw [ExtTreeMap.mem_iff_isSome_getElem?, Option.isSome_iff_exists]

/-- Taking an entry away. -/
theorem size_erase_add_one {t : ExtTreeMap κ ε} {k : κ} (h : k ∈ t) :
    (t.erase k).size + 1 = t.size := by
  have hne : t.size ≠ 0 := fun hsize => by
    rw [ExtTreeMap.eq_empty_iff_size_eq_zero.mpr hsize] at h
    exact ExtTreeMap.not_mem_empty h
  rw [ExtTreeMap.size_erase, if_pos (ExtTreeMap.contains_iff_mem.mpr h)]
  omega

variable [LawfulEqOrd κ]

theorem getElem?_acquire_of_notMem [DecidableEq κ] {t : ExtTreeMap κ ε} {k : κ} (h : k ∉ t)
    (made : Option ε) (j : κ) :
    (acquire t k made)[j]? = if k = j then made else t[j]? := by
  unfold acquire
  cases made with
  | some e => simp [h, ExtTreeMap.getElem?_insertIfNew]
  | none =>
    rw [if_neg h]
    by_cases hkj : k = j
    · rw [if_pos hkj, ← hkj, ExtTreeMap.getElem?_eq_none h]
    · rw [if_neg hkj]

theorem mem_acquire {t : ExtTreeMap κ ε} {k j : κ} {made : Option ε} :
    j ∈ acquire t k made ↔ j ∈ t ∨ (j = k ∧ made.isSome) := by
  by_cases hk : k ∈ t
  · rw [acquire_of_mem hk]
    exact ⟨.inl, fun h => h.elim id fun h => h.1 ▸ hk⟩
  · cases made with
    | none => simp
    | some e =>
      simp only [acquire, if_neg hk, ExtTreeMap.mem_insertIfNew, Std.compare_eq_iff_eq,
        Option.isSome_some, and_true]
      rw [or_comm, eq_comm]

theorem insertIfNew_of_mem {t : ExtTreeMap κ ε} {k : κ} (h : k ∈ t) (e : ε) :
    t.insertIfNew k e = t := by
  refine ExtTreeMap.ext_getElem? fun j => ?_
  rw [ExtTreeMap.getElem?_insertIfNew, if_neg]
  intro hnew
  exact hnew.2 h

/-- Taking a new entry back. -/
theorem erase_insertIfNew [DecidableEq κ] {t : ExtTreeMap κ ε} {k : κ} (h : k ∉ t) (e : ε) :
    (t.insertIfNew k e).erase k = t := by
  refine ExtTreeMap.ext_getElem? fun j => ?_
  rw [ExtTreeMap.getElem?_erase, ExtTreeMap.getElem?_insertIfNew]
  by_cases hj : k = j
  · rw [← hj, if_pos Std.compare_self, ExtTreeMap.getElem?_eq_none h]
  · simp [hj]

/-- A map of at most one entry has at most one key. -/
theorem eq_of_mem_of_size_le_one {t : ExtTreeMap κ ε} (hsize : t.size ≤ 1) {j k : κ} (hj : j ∈ t)
    (hk : k ∈ t) : j = k := by
  rw [← ExtTreeMap.length_keys] at hsize
  rw [← ExtTreeMap.mem_keys] at hj hk
  match hkeys : t.keys with
  | [] => simp [hkeys] at hj
  | [a] =>
    rw [hkeys, List.mem_singleton] at hj hk
    rw [hj, hk]
  | _ :: _ :: _ => simp [hkeys] at hsize

end Acquire

/-! ## A machine whose registry is filled through requests only -/

variable {σ ι ω κ : Type*}

/-- `registered` is the key set of the machine's registry and `asks` says
which inputs ask for an entry under a key. The steps are restricted to the
`allowed` ones. -/
structure FilledBy (m : Machine σ ι ω) (allowed : σ → ι → Prop) (registered : σ → κ → Prop)
    (asks : ι → κ → Prop) : Prop where
  start : ∀ k, ¬ registered m.start k
  /-- a new entry answers an input that asks for it -/
  new : ∀ {s i k}, allowed s i → ¬ registered s k → registered (m.next s i) k → asks i k

theorem FilledBy.registered_by {m : Machine σ ι ω} {allowed : σ → ι → Prop}
    {registered : σ → κ → Prop} {asks : ι → κ → Prop}
    (hm : FilledBy m allowed registered asks) {is : List ι}
    (his : ∀ x ∈ m.trace m.start is, allowed x.1 x.2) {k : κ}
    (hk : registered (m.exec m.start is) k) :
    ∃ pre j, m.SwitchedOn (registered · k) m.start is pre j ∧ asks j k := by
  obtain ⟨pre, j, hon⟩ := m.switchedOn (P := fun s => registered s k) (hm.start k) hk
  obtain ⟨hmem, hoff, hafter⟩ := hon.flips
  exact ⟨pre, j, hon, hm.new (his _ hmem) hoff hafter⟩

end EzDotnet.Lib
