/-
EzDotnet.Lib.Ledger — what the outputs of a run add up to.

Each output of a machine gets a weight, and `total` is the sum of the
weights along a run. Two ways to know it:

  * `total_eq`          a potential on the states that every step raises by
                        what it weighs: the run cannot cost more than the
                        potential has room for;
  * `total_eq_countP`   the weight of a step is 1 or 0, and which of the two
                        is a property of the step: the total counts the
                        steps with the property, and it is at most 1 exactly
                        when no two steps have it.

`NoneBefore` is the order of two kinds of outputs: none of one kind comes
before the first of the other.
-/
import Mathlib.Algebra.GroupWithZero.Nat
import EzDotnet.Lib.Machine

namespace EzDotnet.Lib

/-- At most one element has the property when no two have it. -/
theorem countP_le_one_iff {α : Type*} {p : α → Prop} [DecidablePred p] {l : List α} :
    l.countP (fun x => p x) ≤ 1 ↔ l.Pairwise fun x y => ¬ (p x ∧ p y) := by
  induction l with
  | nil => simp
  | cons x l ih =>
    rw [List.countP_cons, List.pairwise_cons, ← ih]
    by_cases hx : p x
    · -- then none of the others has it
      simp only [hx, decide_true, if_true, true_and]
      constructor
      · intro h
        have hzero : l.countP (fun x => p x) = 0 := by omega
        refine ⟨fun y hy hpy => ?_, by omega⟩
        exact List.countP_eq_zero.mp hzero y hy (by simpa using hpy)
      · intro hex
        obtain ⟨hnone, _⟩ := hex
        have hzero : l.countP (fun x => p x) = 0 :=
          List.countP_eq_zero.mpr fun y hy => by simpa using hnone y hy
        omega
    · simp [hx]

/-- No element has the property. -/
theorem countP_eq_zero_of {α : Type*} {p : α → Bool} {l : List α} (h : ∀ x ∈ l, p x = false) :
    l.countP p = 0 :=
  List.countP_eq_zero.mpr fun x hx => by simp [h x hx]

/-! ## What comes first -/

section Order

variable {α : Type*} {p q : α → Bool}

/-- No element with `q` comes before the first one with `p`. -/
def NoneBefore (p q : α → Bool) (l : List α) : Prop :=
  ∀ x ∈ l.takeWhile fun x => !p x, q x = false

theorem noneBefore_cons {x : α} {l : List α} :
    NoneBefore p q (x :: l) ↔ p x = true ∨ (q x = false ∧ NoneBefore p q l) := by
  unfold NoneBefore
  cases hp : p x <;> simp [hp]

/-- Once there was a first one, anything may follow. -/
theorem NoneBefore.append_of_mem {a : List α} (ha : NoneBefore p q a)
    (hfirst : ∃ x ∈ a, p x = true) (b : List α) : NoneBefore p q (a ++ b) := by
  induction a with
  | nil => simp at hfirst
  | cons x a ih =>
    rw [List.cons_append, noneBefore_cons]
    rcases noneBefore_cons.mp ha with hx | ⟨hx, ha⟩
    · exact .inl hx
    · by_cases hp : p x = true
      · exact .inl hp
      · refine .inr ⟨hx, ih ha ?_⟩
        obtain ⟨y, hy, hpy⟩ := hfirst
        rcases List.mem_cons.mp hy with rfl | hy
        · exact absurd hpy hp
        · exact ⟨y, hy, hpy⟩

theorem NoneBefore.append {a b : List α} (ha : NoneBefore p q a) (hb : NoneBefore p q b) :
    NoneBefore p q (a ++ b) := by
  induction a with
  | nil => exact hb
  | cons x a ih =>
    rw [List.cons_append, noneBefore_cons]
    rcases noneBefore_cons.mp ha with hx | ⟨hx, ha⟩
    · exact .inl hx
    · exact .inr ⟨hx, ih ha⟩

end Order

namespace Machine

variable {σ ι ω : Type*} (m : Machine σ ι ω)

/-- The outputs of a run, in order. -/
def outs (s : σ) (is : List ι) : List ω := (m.trace s is).map fun x => m.out x.1 x.2

theorem outs_concat (s : σ) (is : List ι) (i : ι) :
    m.outs s (is ++ [i]) = m.outs s is ++ [m.out (m.exec s is) i] := by
  simp [outs, trace_append]

/-- What the steps of a run show, in order. -/
def events {ε : Type*} (see : σ → ι → List ε) (s : σ) (is : List ι) : List ε :=
  (m.trace s is).flatMap fun x => see x.1 x.2

@[simp] theorem events_nil {ε : Type*} (see : σ → ι → List ε) (s : σ) :
    m.events see s [] = [] := rfl

@[simp] theorem events_cons {ε : Type*} (see : σ → ι → List ε) (s : σ) (i : ι) (is : List ι) :
    m.events see s (i :: is) = see s i ++ m.events see (m.next s i) is := by
  simp [events]

/-- A list to which every step adds what it shows holds what the run shows. -/
theorem exec_collects {ε : Type*} {see : σ → ι → List ε} {f : σ → List ε} {s : σ} {is : List ι}
    (hstep : ∀ x ∈ m.trace s is, f (m.next x.1 x.2) = f x.1 ++ see x.1 x.2) :
    f (m.exec s is) = f s ++ m.events see s is := by
  induction is generalizing s with
  | nil => simp
  | cons i is ih =>
    have hfirst : f (m.next s i) = f s ++ see s i := hstep (s, i) (by simp)
    rw [exec_cons, ih fun x hx => hstep x (List.mem_cons_of_mem _ hx), hfirst, events_cons,
      List.append_assoc]

/-- The weights of the outputs of a run, added up. -/
def total (w : ω → Nat) (s : σ) (is : List ι) : Nat := ((m.outs s is).map w).sum

@[simp] theorem total_nil (w : ω → Nat) (s : σ) : m.total w s [] = 0 := rfl

@[simp] theorem total_cons (w : ω → Nat) (s : σ) (i : ι) (is : List ι) :
    m.total w s (i :: is) = w (m.out s i) + m.total w (m.next s i) is := by
  simp [total, outs]

theorem total_mono {v w : ω → Nat} {s : σ} {is : List ι}
    (hstep : ∀ x ∈ m.trace s is, v (m.out x.1 x.2) ≤ w (m.out x.1 x.2)) :
    m.total v s is ≤ m.total w s is := by
  induction is generalizing s with
  | nil => simp
  | cons i is ih =>
    have hfirst : v (m.out s i) ≤ w (m.out s i) := hstep (s, i) (by simp)
    have hrest := ih (s := m.next s i) fun x hx => hstep x (List.mem_cons_of_mem _ hx)
    rw [total_cons, total_cons]
    omega

/-- Every step of the run raises the potential `f` by what it weighs. -/
theorem total_eq {w : ω → Nat} {f : σ → Nat} {s : σ} {is : List ι}
    (hstep : ∀ x ∈ m.trace s is, f (m.next x.1 x.2) = f x.1 + w (m.out x.1 x.2)) :
    f (m.exec s is) = f s + m.total w s is := by
  induction is generalizing s with
  | nil => simp
  | cons i is ih =>
    have hfirst : f (m.next s i) = f s + w (m.out s i) := hstep (s, i) (by simp)
    have hrest := ih (s := m.next s i) fun x hx => hstep x (List.mem_cons_of_mem _ hx)
    rw [total_cons, exec_cons]
    omega

/-- Two quantities that grow and shrink together, but for one of the first in
each step with the property `p`: over a run they come apart by the number of
such steps. -/
theorem balance {I : σ → Prop} {f g : σ → Nat} {p : σ × ι → Prop} [DecidablePred p] {s : σ}
    {is : List ι} (h0 : I s)
    (hstep : ∀ x ∈ m.trace s is, I x.1 → I (m.next x.1 x.2) ∧
      f (m.next x.1 x.2) + g x.1 = f x.1 + g (m.next x.1 x.2) + if p x then 1 else 0) :
    f (m.exec s is) + g s = f s + g (m.exec s is) + (m.trace s is).countP fun x => p x := by
  induction is generalizing s with
  | nil => rfl
  | cons i is ih =>
    obtain ⟨hnext, hfirst⟩ := hstep (s, i) (by simp) h0
    have hrest := ih hnext fun x hx => hstep x (List.mem_cons_of_mem _ hx)
    rw [trace_cons, List.countP_cons, exec_cons]
    simp only [decide_eq_true_eq] at hfirst hrest ⊢
    omega

/-- The steps that weigh 1 are those with the property `p`, and the others
weigh nothing. -/
theorem total_eq_countP {w : ω → Nat} {p : σ × ι → Prop} [DecidablePred p] {s : σ}
    {is : List ι}
    (hstep : ∀ x ∈ m.trace s is, w (m.out x.1 x.2) = if p x then 1 else 0) :
    m.total w s is = (m.trace s is).countP fun x => p x := by
  induction is generalizing s with
  | nil => rfl
  | cons i is ih =>
    have hfirst := hstep (s, i) (by simp)
    have hrest := ih (s := m.next s i) fun x hx => hstep x (List.mem_cons_of_mem _ hx)
    rw [total_cons, trace_cons, List.countP_cons, hrest, hfirst]
    simp only [decide_eq_true_eq]
    omega

end Machine

end EzDotnet.Lib
