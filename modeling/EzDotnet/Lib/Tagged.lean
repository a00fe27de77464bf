/-
EzDotnet.Lib.Tagged — lists that are put together block by block, where
every element carries the tag of the block it comes from.

With distinct tags the blocks can be read back from the list. So two such
lists agree exactly when they agree block by block
(`flatMap_eq_iff_of_tagged`), and a list repeats nothing when no block does
(`nodup_flatMap_of_tagged`). Without tags it is enough that no block of the one
is longer than that of the other (`flatMap_eq_iff_of_length_le`).
-/
import Mathlib.Data.List.Nodup

namespace EzDotnet.Lib

variable {α β γ : Type*} {tag : β → γ} {name : α → γ} {f g : α → List β} {xs : List α}

/-- The block of each `x` is tagged with its name. -/
def TaggedBy (tag : β → γ) (name : α → γ) (f : α → List β) (xs : List α) : Prop :=
  ∀ x ∈ xs, ∀ b ∈ f x, tag b = name x

/-- The block of a name is what carries that tag. -/
theorem filter_tag_append [DecidableEq γ] {c : γ} {block rest : List β}
    (hblock : ∀ b ∈ block, tag b = c) (hrest : ∀ b ∈ rest, tag b ≠ c) :
    (block ++ rest).filter (tag · = c) = block := by
  have hkeep : block.filter (tag · = c) = block :=
    List.filter_eq_self.mpr fun b hb => by simpa using hblock b hb
  have hdrop : rest.filter (tag · = c) = [] :=
    List.filter_eq_nil_iff.mpr fun b hb => by simpa using hrest b hb
  rw [List.filter_append, hkeep, hdrop, List.append_nil]

theorem TaggedBy.of_cons {x : α} (h : TaggedBy tag name f (x :: xs)) :
    TaggedBy tag name f xs := fun y hy => h y (List.mem_cons_of_mem _ hy)

/-- No later block carries the tag of the first one. -/
theorem TaggedBy.tag_ne {x : α} (h : TaggedBy tag name f xs) (hx : ∀ y ∈ xs, name x ≠ name y) :
    ∀ b ∈ xs.flatMap f, tag b ≠ name x := by
  intro b hb heq
  obtain ⟨y, hy, hby⟩ := List.mem_flatMap.mp hb
  exact hx y hy (heq.symm.trans (h y hy b hby))

theorem flatMap_eq_iff_of_tagged (hdistinct : xs.Pairwise fun x y => name x ≠ name y)
    (hf : TaggedBy tag name f xs) (hg : TaggedBy tag name g xs) :
    xs.flatMap f = xs.flatMap g ↔ ∀ x ∈ xs, f x = g x := by
  classical
  constructor
  · intro heq
    induction xs with
    | nil => simp
    | cons x xs ih =>
      obtain ⟨hx, hdistinct⟩ := List.pairwise_cons.mp hdistinct
      rw [List.flatMap_cons, List.flatMap_cons] at heq
      have hblock : f x = g x := by
        rw [← filter_tag_append (hf x List.mem_cons_self) (hf.of_cons.tag_ne hx), heq,
          filter_tag_append (hg x List.mem_cons_self) (hg.of_cons.tag_ne hx)]
      rw [hblock] at heq
      exact List.forall_mem_cons.mpr
        ⟨hblock, ih hdistinct hf.of_cons hg.of_cons (List.append_cancel_left heq)⟩
  · intro heq
    exact List.flatMap_congr heq

theorem nodup_flatMap_of_tagged (hdistinct : xs.Pairwise fun x y => name x ≠ name y)
    (hf : TaggedBy tag name f xs) (hblocks : ∀ x ∈ xs, (f x).Nodup) : (xs.flatMap f).Nodup := by
  refine List.nodup_flatMap.mpr ⟨hblocks, ?_⟩
  refine hdistinct.imp_of_mem fun {x y} hx hy hne b hbx hby => hne ?_
  rw [← hf x hx b hbx, ← hf y hy b hby]

theorem length_flatMap_le (hle : ∀ x ∈ xs, (f x).length ≤ (g x).length) :
    (xs.flatMap f).length ≤ (xs.flatMap g).length := by
  induction xs with
  | nil => simp
  | cons x xs ih =>
    obtain ⟨hx, hrest⟩ := List.forall_mem_cons.mp hle
    rw [List.flatMap_cons, List.flatMap_cons, List.length_append, List.length_append]
    exact Nat.add_le_add hx (ih hrest)

/-- Nothing that is missing from one block can be made up for by another. -/
theorem flatMap_eq_iff_of_length_le (hle : ∀ x ∈ xs, (f x).length ≤ (g x).length) :
    xs.flatMap f = xs.flatMap g ↔ ∀ x ∈ xs, f x = g x := by
  constructor
  · intro heq
    induction xs with
    | nil => simp
    | cons x xs ih =>
      obtain ⟨hx, hrest⟩ := List.forall_mem_cons.mp hle
      rw [List.flatMap_cons, List.flatMap_cons] at heq
      have hlen := congrArg List.length heq
      rw [List.length_append, List.length_append] at hlen
      have htotal := length_flatMap_le hrest
      obtain ⟨hblock, hlater⟩ := List.append_inj heq (by omega)
      exact List.forall_mem_cons.mpr ⟨hblock, ih hrest hlater⟩
  · intro heq
    exact List.flatMap_congr heq

end EzDotnet.Lib
