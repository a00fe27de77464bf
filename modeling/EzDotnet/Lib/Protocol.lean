/-
EzDotnet.Lib.Protocol — which events may follow which.

A protocol reads events one by one: in each phase it lets some of them pass,
and says which phase comes next. `run` reads a list and fails at the first
event that is out of place, so the lists it lets pass are closed under
prefixes: what a protocol promises, it promises at every moment of a run.

A machine keeps a protocol when each of its states stands for a phase, and
each step of it shows events that lead from the phase of one state to the
phase of the next (`run_events`).
-/
import EzDotnet.Lib.Ledger

namespace EzDotnet.Lib

/-- The phase after an event, if the phase before lets it pass. -/
abbrev Protocol (φ ε : Type*) := φ → ε → Option φ

namespace Protocol

variable {φ ε : Type*} (P : Protocol φ ε)

def run (ph : φ) (es : List ε) : Option φ := es.foldlM P ph

@[simp] theorem run_nil (ph : φ) : P.run ph [] = some ph := rfl

theorem run_cons (ph : φ) (e : ε) (es : List ε) :
    P.run ph (e :: es) = (P ph e).bind fun ph' => P.run ph' es := rfl

theorem run_append (ph : φ) (as bs : List ε) :
    P.run ph (as ++ bs) = (P.run ph as).bind fun ph' => P.run ph' bs :=
  List.foldlM_append

/-- An event that passes. -/
theorem run_cons_of {ph ph' : φ} {e : ε} (h : P ph e = some ph') (es : List ε) :
    P.run ph (e :: es) = P.run ph' es := by
  rw [run_cons, h, Option.bind_some]

variable {P}

/-- What passed as a whole passed in two parts. -/
theorem run_append_eq_some {ph end_ : φ} {as bs : List ε} :
    P.run ph (as ++ bs) = some end_ ↔
      ∃ mid, P.run ph as = some mid ∧ P.run mid bs = some end_ := by
  rw [run_append, Option.bind_eq_some_iff]

end Protocol

namespace Machine

variable {σ ι ω φ ε : Type*} (m : Machine σ ι ω) {P : Protocol φ ε}

/-- If every step of a run shows what the phase of its state lets pass, and
leaves the phase of the next state, the run does. -/
theorem run_events {see : σ → ι → List ε} {R : σ → φ → Prop} {s : σ} {ph : φ} {is : List ι}
    (hs : R s ph)
    (hstep : ∀ x ∈ m.trace s is, ∀ ph, R x.1 ph →
      ∃ ph', P.run ph (see x.1 x.2) = some ph' ∧ R (m.next x.1 x.2) ph') :
    ∃ ph', P.run ph (m.events see s is) = some ph' ∧ R (m.exec s is) ph' := by
  induction is generalizing s ph with
  | nil => exact ⟨ph, rfl, hs⟩
  | cons i is ih =>
    obtain ⟨mid, hmid, hnext⟩ := hstep (s, i) (by simp) ph hs
    obtain ⟨last, hlast, hend⟩ := ih hnext fun x hx => hstep x (List.mem_cons_of_mem _ hx)
    refine ⟨last, ?_, hend⟩
    rw [events_cons, Protocol.run_append, hmid, Option.bind_some, hlast]

end Machine

end EzDotnet.Lib
