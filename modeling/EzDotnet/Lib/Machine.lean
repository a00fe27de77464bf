/-
EzDotnet.Lib.Machine — deterministic machines that read one input at a
time, their runs, and the induction rules for what a run preserves.

A `Machine σ ι ω` has a start state and a total step `σ → ι → σ × ω`.
Whatever the outside world decides during a step is part of the input,
so "every run" and "every combination of outcomes" are both a quantifier
over the input list.

  * `exec` / `trace`   the state a run ends in, and the list of its steps
                       with the state each one is taken from;
  * `exec_invariant`   a predicate that every step OF THIS RUN preserves
                       holds at its end; the steps may be restricted by
                       a guard, because the hypothesis only speaks of the
                       members of `trace`;
  * `exec_counts`      a measure that every step raises by one counts the
                       steps;
  * `constant_iff`     a value that no step changes, and only such a value,
                       is the same in every state of the run;
  * `switchedOn`       a predicate that is false at the start and true at
                       the end was made true by one step and has held
                       ever since;
  * `exists_exec_iff`  so what holds at the end is what some step made true
                       and none has undone.
-/
import Mathlib.Data.List.Basic
import Mathlib.Data.List.Induction
import Mathlib.Data.List.Infix

namespace EzDotnet.Lib

/-- A deterministic machine: a start state, and a step that reads one
input, moves to the next state and answers with one output. -/
structure Machine (σ ι ω : Type*) where
  start : σ
  step : σ → ι → σ × ω

namespace Machine

variable {σ ι ω : Type*} (m : Machine σ ι ω)

/-! ## Runs -/

def next (s : σ) (i : ι) : σ := (m.step s i).1

def out (s : σ) (i : ι) : ω := (m.step s i).2

/-- The state a list of inputs leads to. -/
def exec (s : σ) (is : List ι) : σ := is.foldl m.next s

/-- The steps of a run, each with the state it is taken from. -/
def trace : σ → List ι → List (σ × ι)
  | _, [] => []
  | s, i :: is => (s, i) :: trace (m.next s i) is

/-- Some run from the start state ends in `s`. -/
def Reachable (s : σ) : Prop := ∃ is, m.exec m.start is = s

@[simp] theorem exec_nil (s : σ) : m.exec s [] = s := rfl

@[simp] theorem exec_cons (s : σ) (i : ι) (is : List ι) :
    m.exec s (i :: is) = m.exec (m.next s i) is := rfl

theorem exec_append (s : σ) (is js : List ι) :
    m.exec s (is ++ js) = m.exec (m.exec s is) js :=
  List.foldl_append

theorem exec_concat (s : σ) (is : List ι) (i : ι) :
    m.exec s (is ++ [i]) = m.next (m.exec s is) i := by
  rw [exec_append, exec_cons, exec_nil]

@[simp] theorem trace_nil (s : σ) : m.trace s [] = [] := rfl

@[simp] theorem trace_cons (s : σ) (i : ι) (is : List ι) :
    m.trace s (i :: is) = (s, i) :: m.trace (m.next s i) is := rfl

theorem trace_append (s : σ) (is js : List ι) :
    m.trace s (is ++ js) = m.trace s is ++ m.trace (m.exec s is) js := by
  induction is generalizing s with
  | nil => rfl
  | cons i is ih => simp [ih]

theorem reachable_exec (is : List ι) : m.Reachable (m.exec m.start is) := ⟨is, rfl⟩

/-- A step of a run splits the inputs at the state it is taken from. -/
theorem mem_trace {s t : σ} {i : ι} {is : List ι} :
    (t, i) ∈ m.trace s is ↔ ∃ pre post, is = pre ++ i :: post ∧ t = m.exec s pre := by
  induction is generalizing s with
  | nil => simp
  | cons j is ih =>
    rw [trace_cons, List.mem_cons, ih]
    constructor
    · rintro (h | ⟨pre, post, rfl, rfl⟩)
      · obtain ⟨rfl, rfl⟩ := Prod.mk.inj h
        exact ⟨[], is, rfl, rfl⟩
      · exact ⟨j :: pre, post, rfl, rfl⟩
    · intro hex
      obtain ⟨pre, post, hsplit, rfl⟩ := hex
      cases pre with
      | nil =>
        obtain ⟨rfl, rfl⟩ := List.cons.inj hsplit
        exact .inl rfl
      | cons k pre =>
        obtain ⟨rfl, rfl⟩ := List.cons.inj hsplit
        exact .inr ⟨pre, post, rfl, rfl⟩

theorem mem_trace_split (s : σ) (pre : List ι) (i : ι) (post : List ι) :
    (m.exec s pre, i) ∈ m.trace s (pre ++ i :: post) :=
  m.mem_trace.mpr ⟨pre, post, rfl, rfl⟩

/-! ## Invariants -/

/-- A predicate that every step of a run preserves holds in the state the
run ends in. -/
theorem exec_invariant {P : σ → Prop} {s : σ} {is : List ι} (h0 : P s)
    (hstep : ∀ x ∈ m.trace s is, P x.1 → P (m.next x.1 x.2)) : P (m.exec s is) := by
  induction is generalizing s with
  | nil => exact h0
  | cons i is ih =>
    have hnext : P (m.next s i) := hstep (s, i) (by simp) h0
    exact ih hnext fun x hx => hstep x (by simp [hx])

/-- A predicate that holds at the start and that every step preserves
holds in every reachable state. -/
theorem Reachable.invariant {P : σ → Prop} {s : σ} (h : m.Reachable s) (h0 : P m.start)
    (hstep : ∀ t i, P t → P (m.next t i)) : P s := by
  obtain ⟨is, rfl⟩ := h
  exact m.exec_invariant h0 fun x _ => hstep x.1 x.2

/-- Where an invariant holds, a measure that every step of the run raises by
one counts the steps. -/
theorem exec_counts {I : σ → Prop} {f : σ → Nat} {s : σ} {is : List ι} (h0 : I s)
    (hinv : ∀ t i, I t → I (m.next t i))
    (hstep : ∀ x ∈ m.trace s is, I x.1 → f (m.next x.1 x.2) = f x.1 + 1) :
    f (m.exec s is) = f s + is.length := by
  induction is generalizing s with
  | nil => rfl
  | cons i is ih =>
    have hfirst : f (m.next s i) = f s + 1 := hstep (s, i) (by simp) h0
    have hrest := ih (hinv s i h0) fun x hx => hstep x (List.mem_cons_of_mem _ hx)
    rw [exec_cons, hrest, hfirst, List.length_cons]
    omega

/-- A value is the same in every state of a run exactly when every step of
the run keeps it. -/
theorem constant_iff {α : Type*} {f : σ → α} {s : σ} {is : List ι} :
    (∀ q, q <+: is → f (m.exec s q) = f s) ↔
      ∀ x ∈ m.trace s is, f (m.next x.1 x.2) = f x.1 := by
  constructor
  · intro hconst x hx
    obtain ⟨pre, post, rfl, hat⟩ := m.mem_trace.mp hx
    have hbefore : f (m.exec s pre) = f s := hconst pre (List.prefix_append _ _)
    have hafter : f (m.exec s (pre ++ [x.2])) = f s := hconst _ ⟨post, by simp⟩
    rw [hat, ← m.exec_concat, hafter, hbefore]
  · intro hstep q hq
    obtain ⟨rest, rfl⟩ := hq
    refine m.exec_invariant (P := fun t => f t = f s) rfl fun x hx hP => ?_
    have hmem : x ∈ m.trace s (q ++ rest) := by
      rw [trace_append]
      exact List.mem_append_left _ hx
    exact (hstep x hmem).trans hP

/-! ## The step that made a predicate true -/

/-- Along the run `is` from `s`, the input `i`, read after `pre`, made `P`
true, and `P` has held in every state since. -/
def SwitchedOn (P : σ → Prop) (s : σ) (is pre : List ι) (i : ι) : Prop :=
  ∃ post, is = pre ++ i :: post ∧ ¬ P (m.exec s pre) ∧
    ∀ q, q <+: post → P (m.exec s (pre ++ i :: q))

theorem switchedOn {P : σ → Prop} {s : σ} {is : List ι} (h0 : ¬ P s)
    (h : P (m.exec s is)) : ∃ pre i, m.SwitchedOn P s is pre i := by
  induction is using List.reverseRecOn with
  | nil => exact absurd h h0
  | append_singleton is j ih =>
    by_cases hbefore : P (m.exec s is)
    · obtain ⟨pre, i, post, rfl, hoff, hon⟩ := ih hbefore
      refine ⟨pre, i, post ++ [j], by simp, hoff, fun q hq => ?_⟩
      -- a part of `post ++ [j]` is a part of `post` or all of it
      rcases List.prefix_concat_iff.mp hq with rfl | hq
      · simpa using h
      · exact hon q hq
    · refine ⟨is, j, [], rfl, hbefore, fun q hq => ?_⟩
      rw [List.prefix_nil.mp hq]
      exact h

/-- The step that switched `P` on is a step of the run that turns `P`
from false to true. -/
theorem SwitchedOn.flips {P : σ → Prop} {s : σ} {is pre : List ι} {i : ι}
    (h : m.SwitchedOn P s is pre i) :
    (m.exec s pre, i) ∈ m.trace s is ∧ ¬ P (m.exec s pre) ∧
      P (m.next (m.exec s pre) i) := by
  obtain ⟨post, rfl, hoff, hon⟩ := h
  refine ⟨m.mem_trace_split s pre i post, hoff, ?_⟩
  have hafter := hon [] List.nil_prefix
  rwa [m.exec_concat] at hafter

/-- What was switched on holds at the end. -/
theorem SwitchedOn.lasts {P : σ → Prop} {s : σ} {is pre : List ι} {i : ι}
    (h : m.SwitchedOn P s is pre i) : P (m.exec s is) := by
  obtain ⟨post, rfl, -, hon⟩ := h
  exact hon post (List.prefix_refl post)

/-- Of what is false at the start, something holds at the end exactly when it
was switched on, by a step that can do so. -/
theorem exists_exec_iff {α : Type*} {P : α → σ → Prop} {Q : α → ι → Prop} {F : α → Prop}
    {s : σ} {is : List ι} (h0 : ∀ x, ¬ P x s)
    (hstep : ∀ x t i, ¬ P x t → P x (m.next t i) → Q x i) :
    (∃ x, P x (m.exec s is) ∧ F x) ↔
      ∃ x pre i, m.SwitchedOn (P x) s is pre i ∧ Q x i ∧ F x := by
  constructor
  · intro hex
    obtain ⟨x, hx, hF⟩ := hex
    obtain ⟨pre, i, hon⟩ := m.switchedOn (h0 x) hx
    obtain ⟨-, hoff, hnext⟩ := hon.flips
    exact ⟨x, pre, i, hon, hstep x _ i hoff hnext, hF⟩
  · intro hex
    obtain ⟨x, pre, i, hon, -, hF⟩ := hex
    exact ⟨x, hon.lasts, hF⟩

/-- No other step, before or after, can be the one. -/
theorem SwitchedOn.le {P : σ → Prop} {s : σ} {is pre pre' : List ι} {i i' : ι}
    (h : m.SwitchedOn P s is pre i) (h' : m.SwitchedOn P s is pre' i') :
    pre'.length ≤ pre.length := by
  obtain ⟨post, hsplit, _, hon⟩ := h
  obtain ⟨post', hsplit', hoff, _⟩ := h'
  by_contra hlt
  have hpre : pre ++ [i] <+: is := ⟨post, by rw [hsplit]; simp⟩
  have hpre' : pre' <+: is := ⟨i' :: post', hsplit'.symm⟩
  obtain ⟨q, hq⟩ := List.prefix_of_prefix_length_le hpre hpre' (by simp; omega)
  have hq' : pre' = pre ++ i :: q := by rw [← hq]; simp
  refine hoff (hq' ▸ hon q ⟨i' :: post', ?_⟩)
  rw [hsplit', hq', List.append_assoc] at hsplit
  exact (List.cons.inj (List.append_cancel_left hsplit)).2

theorem SwitchedOn.unique {P : σ → Prop} {s : σ} {is pre pre' : List ι} {i i' : ι}
    (h : m.SwitchedOn P s is pre i) (h' : m.SwitchedOn P s is pre' i') :
    pre = pre' ∧ i = i' := by
  have hlen : pre.length = pre'.length :=
    Nat.le_antisymm (SwitchedOn.le m h' h) (SwitchedOn.le m h h')
  obtain ⟨post, hsplit, _⟩ := h
  obtain ⟨post', hsplit', _⟩ := h'
  obtain ⟨hpre, hrest⟩ := List.append_inj (hsplit.symm.trans hsplit') hlen
  exact ⟨hpre, (List.cons.inj hrest).1⟩

/-- What holds right after `P` was switched on, and is kept by every step
from and to states with `P`, holds at the end of the run. -/
theorem SwitchedOn.invariant {P Q : σ → Prop} {s : σ} {is pre : List ι} {i : ι}
    (h : m.SwitchedOn P s is pre i) (h0 : Q (m.next (m.exec s pre) i))
    (hstep : ∀ t j, P t → P (m.next t j) → Q t → Q (m.next t j)) : Q (m.exec s is) := by
  obtain ⟨post, rfl, _, hon⟩ := h
  have hall : ∀ q, q <+: post → Q (m.exec s (pre ++ i :: q)) := by
    intro q
    induction q using List.reverseRecOn with
    | nil =>
      intro _
      rw [exec_concat]
      exact h0
    | append_singleton q j ih =>
      intro hq
      have hq' : q <+: post := (List.prefix_append q [j]).trans hq
      have hsplit : pre ++ i :: (q ++ [j]) = (pre ++ i :: q) ++ [j] := by simp
      have hafter := hon (q ++ [j]) hq
      rw [hsplit, exec_concat] at hafter ⊢
      exact hstep _ j (hon q hq') hafter (ih hq')
  exact hall post (List.prefix_refl post)

end Machine

end EzDotnet.Lib
