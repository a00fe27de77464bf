/-
EzDotnet.Lib.Simulation — a machine that drives another one.

An outer machine reads its inputs in its own state and hands some of them
on, one or none per step, to an inner machine (`pick`); `view` is the inner
state inside the outer one. When every step of a run moves the view as the
inner machine moves on what was handed on, the whole run does
(`exec_handed`), and its steps are, one for one, those of the inner run
(`trace_handed`). So what holds of every run of the inner machine — of the
states it reaches, of the events it shows — holds of every run of the outer
one.
-/
import EzDotnet.Lib.Ledger

namespace EzDotnet.Lib.Machine

variable {σ ι ω σ' ι' ω' : Type*} (m : Machine σ ι ω) (m' : Machine σ' ι' ω')
  {view : σ → σ'} {pick : σ → ι → Option ι'}

/-- What a run hands on. -/
def handed (pick : σ → ι → Option ι') (s : σ) (is : List ι) : List ι' :=
  (m.trace s is).filterMap fun x => pick x.1 x.2

/-- A step moves the view as the inner machine moves on what is handed on,
and not at all when nothing is. -/
def Drives (view : σ → σ') (pick : σ → ι → Option ι') (s : σ) (i : ι) : Prop :=
  view (m.next s i) = m'.exec (view s) (pick s i).toList

theorem exec_handed {s : σ} {is : List ι}
    (hstep : ∀ x ∈ m.trace s is, m.Drives m' view pick x.1 x.2) :
    view (m.exec s is) = m'.exec (view s) (m.handed pick s is) := by
  induction is generalizing s with
  | nil => rfl
  | cons i is ih =>
    have hfirst : m.Drives m' view pick s i := hstep (s, i) (by simp)
    have hrest := ih (s := m.next s i) fun x hx => hstep x (List.mem_cons_of_mem _ hx)
    rw [exec_cons, hrest, hfirst]
    cases hpick : pick s i <;> simp [handed, hpick]

theorem trace_handed {s : σ} {is : List ι}
    (hstep : ∀ x ∈ m.trace s is, m.Drives m' view pick x.1 x.2) :
    m'.trace (view s) (m.handed pick s is) =
      (m.trace s is).filterMap fun x => (pick x.1 x.2).map fun j => (view x.1, j) := by
  induction is generalizing s with
  | nil => rfl
  | cons i is ih =>
    have hfirst : m.Drives m' view pick s i := hstep (s, i) (by simp)
    have hrest := ih (s := m.next s i) fun x hx => hstep x (List.mem_cons_of_mem _ hx)
    unfold Drives at hfirst
    rw [hfirst] at hrest
    cases hpick : pick s i with
    | none => simpa [handed, hpick] using hrest
    | some j => simpa [handed, hpick] using hrest

/-- Where the state has no say in what is handed on. -/
theorem handed_eq_filterMap {f : ι → Option ι'} {s : σ} {is : List ι}
    (hpick : ∀ x ∈ m.trace s is, pick x.1 x.2 = f x.2) : m.handed pick s is = is.filterMap f := by
  induction is generalizing s with
  | nil => rfl
  | cons i is ih =>
    have hfirst : pick s i = f i := hpick (s, i) (by simp)
    have hrest := ih (s := m.next s i) fun x hx => hpick x (List.mem_cons_of_mem _ hx)
    unfold handed at hrest ⊢
    rw [trace_cons, List.filterMap_cons, List.filterMap_cons, hrest, hfirst]

/-- A step that hands nothing on shows nothing, and another one shows what
the inner machine shows: then the runs show the same. -/
theorem events_handed {ε : Type*} {see : σ → ι → List ε} {see' : σ' → ι' → List ε} {s : σ}
    {is : List ι} (hstep : ∀ x ∈ m.trace s is, m.Drives m' view pick x.1 x.2)
    (hsee : ∀ x ∈ m.trace s is,
      see x.1 x.2 = (pick x.1 x.2).toList.flatMap fun j => see' (view x.1) j) :
    m'.events see' (view s) (m.handed pick s is) = m.events see s is := by
  induction is generalizing s with
  | nil => rfl
  | cons i is ih =>
    have hfirst : m.Drives m' view pick s i := hstep (s, i) (by simp)
    have hshow := hsee (s, i) (by simp)
    have hrest := ih (fun x hx => hstep x (List.mem_cons_of_mem _ hx))
      fun x hx => hsee x (List.mem_cons_of_mem _ hx)
    unfold Drives at hfirst
    rw [hfirst] at hrest
    rw [events_cons, hshow, ← hrest]
    cases hpick : pick s i <;> simp [handed, hpick]

end EzDotnet.Lib.Machine
