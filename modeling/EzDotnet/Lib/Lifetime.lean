/-
EzDotnet.Lib.Lifetime — numbered resources in a sequence of events.

A program asks a runtime for resources, works with them and gives them
back. Seen from outside this is a list of deeds, and `Orderly` is what such
a list must be: a number is handed out once, and between that and its end,
and only then, the resource may be worked with or ended.

`Stock` is the ledger that decides it in one pass: the live resources and
the number of the next one. It is a protocol (`step?`), so a machine whose
states carry a stock proves step by step that its deeds are the ones this
stock allows; `accounts_of_check` turns what the ledger lets pass into the
law about the whole list, and says what is left over at its end.
-/
import Mathlib.Data.Finset.Basic
import Mathlib.Data.List.Induction
import EzDotnet.Lib.Protocol
import EzDotnet.Lib.Ownership

namespace EzDotnet.Lib

/-- What an event does to the resources. -/
inductive Deed where
  | create (d : Nat)
  | use (d : Nat)
  | finish (d : Nat)
  /-- an operation on something that is no resource at all -/
  | stray
  deriving DecidableEq, Repr

/-- The deed may follow the deeds `past`: a resource is created once, and
worked with and ended only after that and before its end. -/
def InPlace (past : List Deed) : Deed → Prop
  | .create d => .create d ∉ past
  | .use d => .create d ∈ past ∧ .finish d ∉ past
  | .finish d => .create d ∈ past ∧ .finish d ∉ past
  | .stray => False

/-- Every deed may follow the ones before it. -/
def Orderly (deeds : List Deed) : Prop :=
  ∀ pre a post, deeds = pre ++ a :: post → InPlace pre a

theorem orderly_nil : Orderly [] := by
  intro pre a post h
  simp at h

theorem Orderly.concat {deeds : List Deed} (h : Orderly deeds) {a : Deed}
    (ha : InPlace deeds a) : Orderly (deeds ++ [a]) := by
  intro pre b post heq
  rcases List.eq_nil_or_concat post with rfl | ⟨post, c, rfl⟩
  · obtain ⟨rfl, hab⟩ := List.append_inj' heq rfl
    rwa [← List.singleton_inj.mp hab]
  · rw [List.concat_eq_append, ← List.cons_append, ← List.append_assoc] at heq
    exact h pre b post (List.append_inj' heq rfl).1

/-- A stray deed is never in place. -/
theorem Orderly.stray_notMem {deeds : List Deed} (h : Orderly deeds) : Deed.stray ∉ deeds := by
  intro hmem
  obtain ⟨pre, post, heq⟩ := List.append_of_mem hmem
  exact h pre .stray post heq

/-! ## The ledger -/

/-- The live resources and the number of the next one. -/
@[ext] structure Stock where
  live : Finset Nat
  next : Nat
  live_lt : ∀ {d}, d ∈ live → d < next

namespace Stock

theorem empty_live_lt {d : Nat} (h : d ∈ (∅ : Finset Nat)) : d < 0 :=
  absurd h (Finset.notMem_empty d)

def empty : Stock := ⟨∅, 0, empty_live_lt⟩

def create (S : Stock) : Stock where
  live := insert S.next S.live
  next := S.next + 1
  live_lt h := by
    rcases Finset.mem_insert.mp h with rfl | h
    · exact Nat.lt_succ_self _
    · exact Nat.lt_succ_of_lt (S.live_lt h)

def finish (S : Stock) (d : Nat) : Stock where
  live := S.live.erase d
  next := S.next
  live_lt h := S.live_lt (Finset.mem_of_mem_erase h)

/-- The stock after a deed, if the deed is in place. -/
def step? : Protocol Stock Deed
  | S, .create d => if d = S.next then some S.create else none
  | S, .use d => if d ∈ S.live then some S else none
  | S, .finish d => if d ∈ S.live then some (S.finish d) else none
  | _, .stray => none

/-- The stock after a list of deeds, if each of them is in place. -/
def check (S : Stock) (deeds : List Deed) : Option Stock := step?.run S deeds

@[simp] theorem check_nil (S : Stock) : S.check [] = some S := rfl

theorem check_append (S : Stock) (as bs : List Deed) :
    S.check (as ++ bs) = (S.check as).bind (·.check bs) :=
  step?.run_append S as bs

/-! ### Deeds that are in place -/

@[simp] theorem check_create (S : Stock) (as : List Deed) :
    S.check (.create S.next :: as) = S.create.check as :=
  step?.run_cons_of (by simp [step?]) as

theorem check_use {S : Stock} {d : Nat} (h : d ∈ S.live) (as : List Deed) :
    S.check (.use d :: as) = S.check as :=
  step?.run_cons_of (by simp [step?, h]) as

theorem check_finish {S : Stock} {d : Nat} (h : d ∈ S.live) (as : List Deed) :
    S.check (.finish d :: as) = (S.finish d).check as :=
  step?.run_cons_of (by simp [step?, h]) as

@[simp] theorem next_mem_create (S : Stock) : S.next ∈ S.create.live :=
  Finset.mem_insert_self _ _

/-! ## What the ledger knows about the deeds it has read -/

/-- The stock after `deeds`, from an empty one. -/
structure Accounts (deeds : List Deed) (S : Stock) : Prop where
  created : ∀ d, .create d ∈ deeds ↔ d < S.next
  ended : ∀ d, .finish d ∈ deeds → d < S.next
  live : ∀ d, d ∈ S.live ↔ .create d ∈ deeds ∧ .finish d ∉ deeds

theorem accounts_empty : Accounts [] empty :=
  ⟨by simp [empty], by simp [empty], by simp [empty]⟩

theorem Accounts.step {deeds : List Deed} {S T : Stock} (hS : Accounts deeds S) {a : Deed}
    (h : step? S a = some T) : InPlace deeds a ∧ Accounts (deeds ++ [a]) T := by
  cases a with
  | create d =>
    obtain ⟨rfl, rfl⟩ : d = S.next ∧ S.create = T := by simpa [step?] using h
    have hnew : Deed.create S.next ∉ deeds := fun hmem => by simpa using (hS.created _).mp hmem
    have hfresh : Deed.finish S.next ∉ deeds := fun hmem => by simpa using hS.ended _ hmem
    refine ⟨hnew, fun d => ?_, fun d hd => ?_, fun d => ?_⟩
    · simp [hS.created, create]
      omega
    · have hd' : d < S.next := hS.ended d (by simpa using hd)
      exact Nat.lt_succ_of_lt hd'
    · by_cases hd : d = S.next
      · simp [hd, create, hfresh]
      · simp [hd, create, hS.live]
  | use d =>
    obtain ⟨hd, rfl⟩ : d ∈ S.live ∧ S = T := by simpa [step?] using h
    refine ⟨(hS.live d).mp hd, fun e => ?_, fun e he => ?_, fun e => ?_⟩
    · simp [hS.created]
    · exact hS.ended e (by simpa using he)
    · simp [hS.live]
  | finish d =>
    obtain ⟨hd, rfl⟩ : d ∈ S.live ∧ S.finish d = T := by simpa [step?] using h
    refine ⟨(hS.live d).mp hd, fun e => ?_, fun e he => ?_, fun e => ?_⟩
    · simp [hS.created, finish]
    · rcases List.mem_append.mp he with he | he
      · exact hS.ended e he
      · obtain rfl : e = d := by simpa using he
        exact S.live_lt hd
    · by_cases he : e = d
      · simp [he, finish]
      · simp [he, finish, hS.live]
  | stray => simp [step?] at h

/-- What the ledger lets pass is orderly, and the ledger accounts for it. -/
theorem accounts_of_check {deeds : List Deed} {S : Stock} (h : empty.check deeds = some S) :
    Orderly deeds ∧ Accounts deeds S := by
  induction deeds using List.reverseRecOn generalizing S with
  | nil =>
    obtain rfl : empty = S := by simpa using h
    exact ⟨orderly_nil, accounts_empty⟩
  | append_singleton deeds a ih =>
    obtain ⟨R, hR, hlast⟩ := Protocol.run_append_eq_some.mp h
    obtain ⟨hdeeds, haccounts⟩ := ih hR
    have hstep : step? R a = some S := by simpa [Protocol.run_cons] using hlast
    obtain ⟨hplace, hS⟩ := haccounts.step hstep
    exact ⟨hdeeds.concat hplace, hS⟩

/-! ## Pools -/

/-- The stock of a pool, whoever owns what. -/
def ofPool {κ : Type*} (P : Pool κ) : Stock := ⟨P.live, P.next, P.live_lt⟩

section Pool

variable {κ : Type*} (P : Pool κ)

@[simp] theorem check_ofPool_create (as : List Deed) :
    (ofPool P).check (.create P.next :: as) = (ofPool P.leak).check as :=
  check_create (ofPool P) as

@[simp] theorem check_ofPool_use_new (as : List Deed) :
    (ofPool P.leak).check (.use P.next :: as) = (ofPool P.leak).check as :=
  check_use (Finset.mem_insert_self _ _) as

variable {P} in
theorem check_ofPool_use {k : κ} {d : Nat} (h : P.owner k = some d) (as : List Deed) :
    (ofPool P).check (.use d :: as) = (ofPool P).check as :=
  check_use (P.owner_live h) as

variable [DecidableEq κ]

/-- Who owns the new resource makes no difference to the stock. -/
@[simp] theorem ofPool_acquire (k : κ) : ofPool (P.acquire k) = ofPool P.leak := rfl

variable {P} in
theorem check_ofPool_finish {k : κ} {d : Nat} (h : P.owner k = some d) (as : List Deed) :
    (ofPool P).check (.finish d :: as) = (ofPool (P.release k d h)).check as :=
  check_finish (P.owner_live h) as

end Pool

end Stock

end EzDotnet.Lib
