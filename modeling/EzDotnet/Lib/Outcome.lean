/-
EzDotnet.Lib.Outcome — computations that return a value or fail, as
`Except`: when a sequence of them and a loop of them return, and what a
search finds that tries one after the other (`tryEach`).
-/
import Mathlib.Data.List.Basic

namespace EzDotnet.Lib

variable {ε α β : Type}

@[simp] theorem ok_bind (a : α) (f : α → Except ε β) :
    ((.ok a : Except ε α) >>= f) = f a := rfl

theorem bind_eq_ok {x : Except ε α} {f : α → Except ε β} {b : β} :
    (x >>= f) = .ok b ↔ ∃ a, x = .ok a ∧ f a = .ok b := by
  cases x with
  | error e => simp [bind, Except.bind]
  | ok a => simp [bind, Except.bind]

theorem toOption_eq_some {x : Except ε α} {a : α} : x.toOption = some a ↔ x = .ok a := by
  cases x <;> simp [Except.toOption]

/-- The computation returns. -/
def Returns (x : Except ε α) : Prop := ∃ a, x = .ok a

@[simp] theorem returns_ok (a : α) : Returns (.ok a : Except ε α) := ⟨a, rfl⟩

@[simp] theorem returns_pure (a : α) : Returns (pure a : Except ε α) := ⟨a, rfl⟩

@[simp] theorem not_returns_error (e : ε) : ¬ Returns (.error e : Except ε α) :=
  fun ⟨_, h⟩ => by cases h

@[simp] theorem not_returns_throw (e : ε) : ¬ Returns (throw e : Except ε α) :=
  fun ⟨_, h⟩ => by cases h

theorem returns_bind_iff {x : Except ε α} {f : α → Except ε β} :
    Returns (x >>= f) ↔ ∃ a, x = .ok a ∧ Returns (f a) := by
  constructor
  · intro hex
    obtain ⟨b, h⟩ := hex
    obtain ⟨a, hx, hf⟩ := bind_eq_ok.mp h
    exact ⟨a, hx, b, hf⟩
  · intro hex
    obtain ⟨a, hx, b, hf⟩ := hex
    exact ⟨b, bind_eq_ok.mpr ⟨a, hx, hf⟩⟩

/-- Nothing that follows can fail. -/
theorem returns_bind_of {x : Except ε α} {f : α → Except ε β} (hf : ∀ a, Returns (f a)) :
    Returns (x >>= f) ↔ Returns x := by
  rw [returns_bind_iff]
  exact ⟨fun ⟨a, hx, _⟩ => ⟨a, hx⟩, fun ⟨a, hx⟩ => ⟨a, hx, hf a⟩⟩

/-- A loop returns when every turn does, if whether a turn returns depends
on its element alone. -/
theorem returns_foldlM_iff {f : β → α → Except ε β} {P : α → Prop}
    (hf : ∀ b a, Returns (f b a) ↔ P a) (l : List α) (b : β) :
    Returns (l.foldlM f b) ↔ ∀ a ∈ l, P a := by
  induction l generalizing b with
  | nil => simp
  | cons a l ih =>
    rw [List.foldlM_cons, returns_bind_iff, List.forall_mem_cons]
    constructor
    · intro hex
      obtain ⟨c, hc, hl⟩ := hex
      exact ⟨(hf b a).mp ⟨c, hc⟩, (ih c).mp hl⟩
    · intro hex
      obtain ⟨ha, hl⟩ := hex
      obtain ⟨c, hc⟩ := (hf b a).mpr ha
      exact ⟨c, hc, (ih c).mpr hl⟩

/-- A loop that returns is the fold of what its turns return. -/
theorem foldlM_eq_ok {f : β → α → Except ε β} {g : β → α → β}
    (hf : ∀ {b a c}, f b a = .ok c → c = g b a) {l : List α} {b c : β}
    (h : l.foldlM f b = .ok c) : c = l.foldl g b := by
  induction l generalizing b with
  | nil => exact (Except.ok.inj h).symm
  | cons a l ih =>
    rw [List.foldlM_cons] at h
    obtain ⟨d, hd, hl⟩ := bind_eq_ok.mp h
    rw [List.foldl_cons, ← hf hd]
    exact ih hl

/-! ## One attempt after the other -/

/-- The first of the attempts that gives something; one that fails ends the
search. -/
def tryEach (f : α → Except ε (Option β)) : List α → Except ε (Option β)
  | [] => .ok none
  | a :: l => do
    match ← f a with
    | some b => return some b
    | none => tryEach f l

variable {f : α → Except ε (Option β)} {a : α} {l : List α} {b : β}

@[simp] theorem tryEach_nil : tryEach f [] = .ok none := rfl

theorem tryEach_cons_none (h : f a = .ok none) : tryEach f (a :: l) = tryEach f l := by
  rw [tryEach, h]
  rfl

/-- What comes after an attempt that settles the search does not matter. -/
theorem tryEach_cons_of_ne (h : f a ≠ .ok none) : tryEach f (a :: l) = f a := by
  rw [tryEach]
  cases hfa : f a with
  | error e => rfl
  | ok found =>
    cases found with
    | none => exact absurd hfa h
    | some b => rfl

theorem tryEach_eq_some :
    tryEach f l = .ok (some b) ↔
      ∃ pre a post, l = pre ++ a :: post ∧ (∀ x ∈ pre, f x = .ok none) ∧
        f a = .ok (some b) := by
  induction l with
  | nil => simp
  | cons a l ih =>
    by_cases hfa : f a = .ok none
    · rw [tryEach_cons_none hfa, ih]
      constructor
      · intro hex
        obtain ⟨pre, c, post, rfl, hpre, hc⟩ := hex
        exact ⟨a :: pre, c, post, rfl, List.forall_mem_cons.mpr ⟨hfa, hpre⟩, hc⟩
      · intro hex
        obtain ⟨pre, c, post, hl, hpre, hc⟩ := hex
        cases pre with
        | nil =>
          obtain ⟨rfl, -⟩ := List.cons.inj hl
          rw [hfa] at hc
          cases hc
        | cons x pre =>
          obtain ⟨rfl, rfl⟩ := List.cons.inj hl
          exact ⟨pre, c, post, rfl, (List.forall_mem_cons.mp hpre).2, hc⟩
    · rw [tryEach_cons_of_ne hfa]
      constructor
      · exact fun h => ⟨[], a, l, rfl, by simp, h⟩
      · intro hex
        obtain ⟨pre, c, post, hl, hpre, hc⟩ := hex
        cases pre with
        | nil =>
          obtain ⟨rfl, -⟩ := List.cons.inj hl
          exact hc
        | cons x pre =>
          obtain ⟨rfl, -⟩ := List.cons.inj hl
          exact absurd (List.forall_mem_cons.mp hpre).1 hfa

/-- Trying the same again changes nothing. -/
theorem tryEach_replicate (f : α → Except ε (Option β)) (a : α) (n : Nat) :
    tryEach f (List.replicate (n + 1) a) = f a := by
  induction n with
  | zero =>
    by_cases hfa : f a = .ok none
    · exact (tryEach_cons_none hfa).trans hfa.symm
    · exact tryEach_cons_of_ne hfa
  | succ n ih =>
    by_cases hfa : f a = .ok none
    · exact (tryEach_cons_none hfa).trans ih
    · exact tryEach_cons_of_ne hfa

end EzDotnet.Lib
