/-
EzDotnet.Lib.FsPath — the lexical part of `std::filesystem::path` on a
POSIX system, over any alphabet with a separator and a dot.

A path is the list of its code units. Nothing here looks at a file
system: `parent_path`, `filename`, `stem`, `extension` and `operator/`
are functions of the spelling alone.

  * The filename is what follows the last separator; a path that ends in
    a separator has the empty filename.
  * The extension starts at the last dot of the filename. A filename
    whose only dot is its first unit has none, and neither has `..`.
  * `parent_path` is the longest prefix with one element less: it drops the
    filename and the separators before it, unless these are the root, which
    it keeps as it is spelled. A path without relative part (only
    separators, or empty) is its own parent.
  * `operator/` replaces an absolute right operand for the left one, and
    adds a separator when the left one ends in a filename.
-/
import Mathlib.Data.List.DropRight

namespace EzDotnet.Lib

/-! ## The end of a list -/

/-- Elements with a property, after one that has not. -/
theorem rtakeWhile_append {α : Type*} {q : α → Bool} {a b : List α} (ha : a.rtakeWhile q = [])
    (hb : ∀ x ∈ b, q x = true) : (a ++ b).rtakeWhile q = b := by
  induction b using List.reverseRecOn with
  | nil => simpa using ha
  | append_singleton b c ih =>
    rw [← List.append_assoc, List.rtakeWhile_concat_pos _ _ _ (hb c (by simp)),
      ih fun x hx => hb x (by simp [hx])]

theorem rdropWhile_append {α : Type*} {q : α → Bool} {a b : List α} (ha : a.rtakeWhile q = [])
    (hb : ∀ x ∈ b, q x = true) : (a ++ b).rdropWhile q = a := by
  have hparts := List.rdropWhile_append_rtakeWhile (p := q) (l := a ++ b)
  rw [rtakeWhile_append ha hb] at hparts
  exact List.append_cancel_right hparts

/-! ## Paths -/

/-- The two code units that path syntax gives a meaning to. -/
structure PathSyntax (α : Type*) where
  sep : α
  dot : α

namespace PathSyntax

variable {α : Type*} [DecidableEq α] (S : PathSyntax α)

/-- `path::filename`. -/
def filename (p : List α) : List α := p.rtakeWhile (· ≠ S.sep)

/-- What stands before the filename, the last separator included. -/
def directoryPart (p : List α) : List α := p.rdropWhile (· ≠ S.sep)

/-- `path::parent_path`. -/
def parentPath (p : List α) : List α :=
  let stripped := (S.directoryPart p).rdropWhile (· = S.sep)
  if stripped ≠ [] then stripped else S.directoryPart p

/-- A filename has an extension when it has a dot that is not its first
unit; the name `..` has none. -/
def HasExtension (name : List α) : Prop :=
  name ≠ [S.dot, S.dot] ∧ 1 < (name.rdropWhile (· ≠ S.dot)).length

instance (name : List α) : Decidable (S.HasExtension name) :=
  inferInstanceAs (Decidable (_ ∧ _))

/-- `path::stem`. -/
def stem (p : List α) : List α :=
  if S.HasExtension (S.filename p) then ((S.filename p).rdropWhile (· ≠ S.dot)).dropLast
  else S.filename p

/-- `path::extension`, the dot included. -/
def extension (p : List α) : List α :=
  if S.HasExtension (S.filename p) then S.dot :: (S.filename p).rtakeWhile (· ≠ S.dot)
  else []

/-- `path::replace_extension()` with no argument: the extension goes. -/
def removeExtension (p : List α) : List α :=
  p.take (p.length - (S.extension p).length)

def IsAbsolute (p : List α) : Prop := p.head? = some S.sep

instance (p : List α) : Decidable (S.IsAbsolute p) :=
  inferInstanceAs (Decidable (_ = _))

/-- `path::operator/`. -/
def join (p q : List α) : List α :=
  if S.IsAbsolute q ∨ p = [] then q
  else if S.filename p = [] then p ++ q
  else p ++ S.sep :: q

/-! ## Filename, stem and extension -/

variable {S}

@[simp] theorem filename_filename (p : List α) : S.filename (S.filename p) = S.filename p :=
  List.rtakeWhile_idempotent _ p

/-- What stands before the last dot of a name with an extension ends in
that dot. -/
theorem dropLast_concat_dot {name : List α} (h : S.HasExtension name) :
    (name.rdropWhile (· ≠ S.dot)).dropLast ++ [S.dot] = name.rdropWhile (· ≠ S.dot) := by
  have hne : name.rdropWhile (· ≠ S.dot) ≠ [] := by
    intro hnil
    have hlen := h.2
    rw [hnil] at hlen
    exact absurd hlen (by simp)
  have hdot : (name.rdropWhile (· ≠ S.dot)).getLast hne = S.dot := by
    simpa using List.rdropWhile_last_not (· ≠ S.dot) name hne
  conv_rhs => rw [← List.dropLast_append_getLast hne, hdot]

theorem stem_append_extension (p : List α) : S.stem p ++ S.extension p = S.filename p := by
  unfold stem extension
  split
  · next h =>
    rw [List.append_cons, dropLast_concat_dot h]
    exact List.rdropWhile_append_rtakeWhile
  · exact List.append_nil _

theorem extension_filename (p : List α) : S.extension (S.filename p) = S.extension p := by
  simp [extension]

/-- `filename().replace_extension()` is the stem. -/
theorem removeExtension_filename (p : List α) :
    S.removeExtension (S.filename p) = S.stem p := by
  unfold removeExtension
  rw [extension_filename, ← stem_append_extension p]
  simp

/-! ## Directory and name -/

theorem sep_notMem_filename (p : List α) : S.sep ∉ S.filename p := by
  intro hsep
  have hne : S.sep ≠ S.sep := by simpa using List.mem_rtakeWhile_imp hsep
  exact hne rfl

theorem sep_notMem_stem (p : List α) : S.sep ∉ S.stem p := by
  intro hsep
  have hname : S.sep ∈ S.stem p ++ S.extension p := List.mem_append_left _ hsep
  rw [stem_append_extension] at hname
  exact sep_notMem_filename p hname

/-- A path has no filename when it is empty or ends in a separator. -/
theorem filename_eq_nil_iff {p : List α} :
    S.filename p = [] ↔ ∀ hp : p ≠ [], p.getLast hp = S.sep := by
  simp [filename]

theorem filename_directoryPart (p : List α) : S.filename (S.directoryPart p) = [] := by
  rw [filename_eq_nil_iff]
  intro hne
  have hlast := List.rdropWhile_last_not (· ≠ S.sep) p hne
  simpa [directoryPart] using hlast

/-- A directory followed by a name has these two as its parts. -/
theorem filename_append {d name : List α} (hdir : S.filename d = []) (hname : S.sep ∉ name) :
    S.filename (d ++ name) = name :=
  rtakeWhile_append hdir fun c hc => by simpa using ne_of_mem_of_not_mem hc hname

theorem directoryPart_append {d name : List α} (hdir : S.filename d = [])
    (hname : S.sep ∉ name) : S.directoryPart (d ++ name) = d :=
  rdropWhile_append hdir fun c hc => by simpa using ne_of_mem_of_not_mem hc hname

/-- The extension of a name in which something stands before the last dot. -/
theorem extension_append {pre ext : List α} (hpre : pre ≠ []) (hext : ext ≠ [])
    (hdot : S.dot ∉ ext) (hsep : S.sep ∉ pre ++ S.dot :: ext) :
    S.extension (pre ++ S.dot :: ext) = S.dot :: ext := by
  have hname : S.filename (pre ++ S.dot :: ext) = pre ++ S.dot :: ext :=
    filename_append (d := []) rfl hsep
  have hlast : (pre ++ [S.dot]).rtakeWhile (· ≠ S.dot) = [] :=
    List.rtakeWhile_concat_neg _ _ _ (by simp)
  have hrest : ∀ c ∈ ext, decide (c ≠ S.dot) = true := fun c hc => by
    simpa using ne_of_mem_of_not_mem hc hdot
  have hsplit : pre ++ S.dot :: ext = (pre ++ [S.dot]) ++ ext := by simp
  have hlen : 0 < pre.length ∧ 0 < ext.length :=
    ⟨List.length_pos_of_ne_nil hpre, List.length_pos_of_ne_nil hext⟩
  have hhas : S.HasExtension ((pre ++ [S.dot]) ++ ext) := by
    refine ⟨fun heq => ?_, ?_⟩
    · -- `..` has nothing after its last dot
      have htwo := congrArg List.length heq
      simp at htwo
      omega
    · rw [rdropWhile_append hlast hrest]
      simp
      omega
  unfold extension
  rw [hname, hsplit, if_pos hhas, rtakeWhile_append hlast hrest]

/-! ## Joining -/

/-- What `operator/` puts before a name: the path, ending in a separator. -/
def asDirectory (S : PathSyntax α) (p : List α) : List α :=
  if S.filename p = [] then p else p ++ [S.sep]

theorem filename_asDirectory (p : List α) : S.filename (S.asDirectory p) = [] := by
  unfold asDirectory
  split
  · next h => exact h
  · simp [filename_eq_nil_iff]

theorem join_eq {p q : List α} (hq : S.sep ∉ q) : S.join p q = S.asDirectory p ++ q := by
  have habs : ¬ S.IsAbsolute q := fun h => hq (List.mem_of_mem_head? h)
  unfold join asDirectory
  by_cases hp : p = []
  · simp [hp, filename]
  · rw [if_neg (by simp [habs, hp])]
    split <;> simp

/-- A name stays the filename. -/
theorem filename_join (p : List α) {q : List α} (hq : S.sep ∉ q) : S.filename (S.join p q) = q := by
  rw [join_eq hq]
  exact filename_append (filename_asDirectory p) hq

/-- A file in the parent directory of a path has that parent directory. -/
theorem parentPath_join_parentPath (p : List α) {name : List α} (hname : S.sep ∉ name) :
    S.parentPath (S.join (S.parentPath p) name) = S.parentPath p := by
  rw [join_eq hname]
  unfold parentPath
  rw [directoryPart_append (filename_asDirectory _) hname]
  dsimp only
  by_cases hroot : (S.directoryPart p).rdropWhile (· = S.sep) = []
  · have hdir : S.asDirectory (S.directoryPart p) = S.directoryPart p :=
      if_pos (filename_directoryPart p)
    simp [hroot, hdir]
  · have hlast := List.rdropWhile_last_not _ _ hroot
    have hdir : S.asDirectory ((S.directoryPart p).rdropWhile (· = S.sep)) =
        (S.directoryPart p).rdropWhile (· = S.sep) ++ [S.sep] := by
      refine if_neg fun hnil => ?_
      rw [filename_eq_nil_iff] at hnil
      simp [hnil hroot] at hlast
    rw [if_pos hroot, hdir, List.rdropWhile_concat_pos _ _ _ (by simp),
      List.rdropWhile_idempotent, if_pos hroot]

theorem join_ne_nil (p : List α) {q : List α} (hq : q ≠ []) : S.join p q ≠ [] := by
  unfold join
  split
  · exact hq
  · split <;> simp [hq]

/-- An ordinary unit of a joined path comes from one of its parts, and from
the left one only where the right one is relative. -/
theorem mem_join_iff {c : α} (hc : c ≠ S.sep) (p q : List α) :
    c ∈ S.join p q ↔ c ∈ q ∨ (¬ S.IsAbsolute q ∧ c ∈ p) := by
  unfold join
  by_cases habs : S.IsAbsolute q
  · simp [habs]
  · by_cases hp : p = []
    · simp [hp]
    · rw [if_neg (by simp [habs, hp])]
      split <;> simp [habs, hc, or_comm]

end PathSyntax

end EzDotnet.Lib
