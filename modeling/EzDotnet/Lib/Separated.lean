/-
EzDotnet.Lib.Separated — texts that list their items with a separator
between neighbours and none at the ends, which is `List.intercalate`.

  * `foldl_separated`       appending the items one by one, each after a
                            separator, builds such a text;
  * `listedIn_intercalate`  every item stands in it between separators;
  * `pieces_intercalate_iff`  splitting gives the items back exactly when
                            none of them is empty or has the separator.
-/
import Mathlib.Data.List.Basic

namespace EzDotnet.Lib

variable {α : Type*}

/-- `item` stands in `text` between separators or ends of the text. -/
def ListedIn (sep : α) (text item : List α) : Prop :=
  ∃ pre post, text = pre ++ item ++ post ∧ (pre = [] ∨ [sep] <:+ pre) ∧
    (post = [] ∨ [sep] <+: post)

/-- Two neighbours and one item that holds both. -/
theorem intercalate_merge (sep s x : List α) (items : List (List α)) :
    sep.intercalate ((s ++ sep ++ x) :: items) = sep.intercalate (s :: x :: items) := by
  cases items with
  | nil => simp [List.intercalate_cons_cons]
  | cons y items => simp [List.intercalate_cons_cons]

theorem foldl_separated (sep s : List α) (items : List (List α)) :
    items.foldl (fun text x => text ++ sep ++ x) s = sep.intercalate (s :: items) := by
  induction items generalizing s with
  | nil => simp
  | cons x items ih => rw [List.foldl_cons, ih, intercalate_merge]

theorem ListedIn.cons {sep : α} {text item : List α} (h : ListedIn sep text item)
    (x : List α) : ListedIn sep (x ++ [sep] ++ text) item := by
  obtain ⟨pre, post, rfl, hpre, hpost⟩ := h
  refine ⟨x ++ [sep] ++ pre, post, by simp, .inr ?_, hpost⟩
  rcases hpre with rfl | hpre
  · exact ⟨x, by simp⟩
  · exact hpre.trans (List.suffix_append _ _)

theorem ListedIn.isInfix {sep : α} {text item : List α} (h : ListedIn sep text item) :
    item <:+: text := by
  obtain ⟨pre, post, rfl, -, -⟩ := h
  exact ⟨pre, post, rfl⟩

theorem listedIn_intercalate {sep : α} {items : List (List α)} {item : List α}
    (h : item ∈ items) : ListedIn sep ([sep].intercalate items) item := by
  induction items with
  | nil => cases h
  | cons x items ih =>
    cases items with
    | nil =>
      obtain rfl : item = x := by simpa using h
      exact ⟨[], [], by simp, .inl rfl, .inl rfl⟩
    | cons y items =>
      rw [List.intercalate_cons_cons]
      rcases List.mem_cons.mp h with rfl | h
      · refine ⟨[], [sep] ++ [sep].intercalate (y :: items), by simp, .inl rfl, .inr ?_⟩
        exact List.prefix_append _ _
      · exact (ih h).cons x

/-! ## Splitting -/

variable [DecidableEq α]

/-- What stands between separators, empty pieces dropped. -/
def pieces (sep : α) (text : List α) : List (List α) :=
  (text.splitOn sep).filter (· ≠ [])

theorem notMem_of_mem_splitOn {sep : α} {text piece : List α} (h : piece ∈ text.splitOn sep) :
    sep ∉ piece := by
  induction text generalizing piece with
  | nil =>
    have hpiece : piece = [] := by simpa using h
    simp [hpiece]
  | cons c text ih =>
    rw [List.splitOn_cons_eq_if_modifyHead] at h
    by_cases hc : c = sep
    · -- a new piece begins, and it is empty so far
      rw [if_pos (beq_iff_eq.mpr hc)] at h
      rcases List.mem_cons.mp h with rfl | h
      · exact List.not_mem_nil
      · exact ih h
    · rw [if_neg (by simpa using hc)] at h
      cases hsplit : text.splitOn sep with
      | nil => exact absurd hsplit (List.splitOn_ne_nil sep text)
      | cons first rest =>
        rw [hsplit] at h ih
        rcases List.mem_cons.mp h with rfl | h
        · intro hmem
          rcases List.mem_cons.mp hmem with heq | hmem
          · exact hc heq.symm
          · exact ih List.mem_cons_self hmem
        · exact ih (List.mem_cons_of_mem _ h)

theorem of_mem_pieces {sep : α} {text piece : List α} (h : piece ∈ pieces sep text) :
    piece ≠ [] ∧ sep ∉ piece := by
  obtain ⟨hsplit, hne⟩ := List.mem_filter.mp h
  exact ⟨by simpa using hne, notMem_of_mem_splitOn hsplit⟩

theorem subset_of_mem_pieces {sep : α} {text piece : List α} (h : piece ∈ pieces sep text) :
    piece ⊆ text := by
  have hlisted : ListedIn sep ([sep].intercalate (text.splitOn sep)) piece :=
    listedIn_intercalate (List.mem_filter.mp h).1
  rw [List.intercalate_splitOn] at hlisted
  exact hlisted.isInfix.subset

theorem pieces_intercalate {sep : α} {items : List (List α)}
    (h : ∀ item ∈ items, item ≠ [] ∧ sep ∉ item) :
    pieces sep ([sep].intercalate items) = items := by
  unfold pieces
  cases items with
  | nil => simp
  | cons x items =>
    rw [List.splitOn_intercalate sep (fun item hitem => (h item hitem).2) (by simp),
      List.filter_eq_self]
    intro item hitem
    simpa using (h item hitem).1

theorem pieces_intercalate_iff {sep : α} {items : List (List α)} :
    pieces sep ([sep].intercalate items) = items ↔ ∀ item ∈ items, item ≠ [] ∧ sep ∉ item := by
  refine ⟨fun heq item hitem => ?_, pieces_intercalate⟩
  rw [← heq] at hitem
  exact of_mem_pieces hitem

end EzDotnet.Lib
