/-
EzDotnet.Common.Emitted — the external calls of a whole run of a backend.

"At most once in the life of the process" is a property of this list, for
which the ledger of the backend's machine is kept.
-/
import EzDotnet.Common.Interface
import EzDotnet.Lib.Ledger

namespace EzDotnet.Backend

variable {σ η ι δ ρ ε : Type} (B : Backend σ η ι δ ρ ε)

/-- The external calls that the steps of a run make, in order. -/
def emitted (calls : List (ApiCall ι δ ρ)) : List ε :=
  (B.machine.outs B.start calls).flatMap fun o => o.2

/-- The external calls of one step. -/
def stepCalls (s : σ) (c : ApiCall ι δ ρ) : List ε := (B.machine.out s c).2

@[simp] theorem emitted_nil : B.emitted [] = [] := rfl

theorem emitted_concat (calls : List (ApiCall ι δ ρ)) (c : ApiCall ι δ ρ) :
    B.emitted (calls ++ [c]) = B.emitted calls ++ B.stepCalls (B.run calls) c := by
  unfold emitted
  rw [B.machine.outs_concat, List.flatMap_append, List.flatMap_singleton]
  rfl

theorem emitted_eq_events (calls : List (ApiCall ι δ ρ)) :
    B.emitted calls = B.machine.events B.stepCalls B.start calls := by
  unfold emitted Lib.Machine.outs
  rw [List.flatMap_map]
  rfl

/-- The calls of a run, read one by one, are those of its steps. -/
theorem emitted_flatMap {β : Type} (f : ε → List β) (calls : List (ApiCall ι δ ρ)) :
    (B.emitted calls).flatMap f =
      B.machine.events (fun s c => (B.stepCalls s c).flatMap f) B.start calls := by
  rw [emitted_eq_events, Lib.Machine.events, List.flatMap_assoc]
  rfl

variable {B}

theorem countP_emitted (p : ε → Bool) (calls : List (ApiCall ι δ ρ)) :
    (B.emitted calls).countP p = B.machine.total (fun o => o.2.countP p) B.start calls := by
  unfold emitted Lib.Machine.total
  rw [List.countP_flatMap]
  rfl

/-- How often a run makes a call of the kind `p`, if a potential says so. -/
theorem countP_emitted_eq {p : ε → Bool} {f : σ → Nat} {calls : List (ApiCall ι δ ρ)}
    (hstep : ∀ x ∈ B.machine.trace B.start calls,
      f (B.machine.next x.1 x.2) = f x.1 + (B.stepCalls x.1 x.2).countP p) :
    f (B.run calls) = f B.start + (B.emitted calls).countP p := by
  rw [countP_emitted]
  exact B.machine.total_eq hstep

theorem countP_emitted_mono {p q : ε → Bool} {calls : List (ApiCall ι δ ρ)}
    (hstep : ∀ x ∈ B.machine.trace B.start calls,
      (B.stepCalls x.1 x.2).countP p ≤ (B.stepCalls x.1 x.2).countP q) :
    (B.emitted calls).countP p ≤ (B.emitted calls).countP q := by
  rw [countP_emitted, countP_emitted]
  exact B.machine.total_mono hstep

/-- A step makes one call of the kind `p` or none, and `q` says which. -/
theorem countP_emitted_eq_countP {p : ε → Bool} {q : σ × ApiCall ι δ ρ → Prop} [DecidablePred q]
    {calls : List (ApiCall ι δ ρ)}
    (hstep : ∀ x ∈ B.machine.trace B.start calls,
      (B.stepCalls x.1 x.2).countP p = if q x then 1 else 0) :
    (B.emitted calls).countP p = (B.machine.trace B.start calls).countP fun x => q x := by
  rw [countP_emitted]
  exact B.machine.total_eq_countP hstep

end EzDotnet.Backend
