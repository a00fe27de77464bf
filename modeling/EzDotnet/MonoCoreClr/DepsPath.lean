/-
EzDotnet.MonoCoreClr.DepsPath — the path of the deps file, which is the
registry key of an assembly and the base of its trusted assemblies.

`getDepsJsonPath` takes a `.json` path as it is and gives every other path
the name `<stem>.deps.json` in its parent directory. Its results are fixed
points (`depsPath_idem`), because the name that it builds has an extension
whatever the stem looks like: no stem, a leading dot, `..`, a dot at the
end. So the deps path of a loaded assembly, and every sibling of it with the
same stem, come upon the entry of the assembly (`depsPath_canonical`).
-/
import EzDotnet.MonoCoreClr.HostTheorems
import EzDotnet.MonoCoreClr.TpaEncoding

namespace EzDotnet.MonoCoreClr

open Lib (PathSyntax)

/-- The extension is `.json`, in some letter case. -/
def HasJsonExtension (p : Str) : Prop := (posix.extension p).map tolower = lit ".json"

instance (p : Str) : Decidable (HasJsonExtension p) := inferInstanceAs (Decidable (_ = _))

/-- `<stem>.deps.json`. -/
def depsName (p : Str) : Str := posix.stem p ++ lit ".deps.json"

variable {p : Str}

/-! ## `getDepsJsonPath` -/

theorem depsPath_of_json (h : HasJsonExtension p) : getDepsJsonPath p = p := if_pos h

theorem sep_notMem_depsName (p : Str) : posix.sep ∉ depsName p := by
  intro hsep
  rcases List.mem_append.mp hsep with hsep | hsep
  · exact PathSyntax.sep_notMem_stem p hsep
  · exact absurd hsep (by decide)

/-- Every other path gets a new name in its parent directory. -/
theorem depsPath_of_other (h : ¬ HasJsonExtension p) :
    getDepsJsonPath p = posix.join (posix.parentPath p) (depsName p) := by
  have hstem : posix.sep ∉ posix.stem p := PathSyntax.sep_notMem_stem p
  refine (if_neg h).trans ?_
  rw [PathSyntax.join_eq hstem, PathSyntax.join_eq (sep_notMem_depsName p), depsName,
    List.append_assoc]

/-- What precedes `.json` in the name is never empty. -/
theorem extension_depsName (p : Str) : posix.extension (depsName p) = lit ".json" := by
  have hsplit : depsName p = (posix.stem p ++ lit ".deps") ++ posix.dot :: lit "json" := by
    simp [depsName, lit, posix]
  have hsep := sep_notMem_depsName p
  rw [hsplit] at hsep ⊢
  exact PathSyntax.extension_append (by simp [lit]) (by decide) (by decide) hsep

theorem hasJson_depsPath (p : Str) : HasJsonExtension (getDepsJsonPath p) := by
  by_cases h : HasJsonExtension p
  · rw [depsPath_of_json h]
    exact h
  · have hname : posix.filename (getDepsJsonPath p) = depsName p := by
      rw [depsPath_of_other h, PathSyntax.join_eq (sep_notMem_depsName p)]
      exact PathSyntax.filename_append (PathSyntax.filename_asDirectory _) (sep_notMem_depsName p)
    unfold HasJsonExtension
    rw [← PathSyntax.extension_filename, hname, extension_depsName]
    decide

theorem depsPath_idem (p : Str) : getDepsJsonPath (getDepsJsonPath p) = getDepsJsonPath p :=
  depsPath_of_json (hasJson_depsPath p)

theorem parentPath_depsPath (p : Str) :
    posix.parentPath (getDepsJsonPath p) = posix.parentPath p := by
  by_cases h : HasJsonExtension p
  · rw [depsPath_of_json h]
  · rw [depsPath_of_other h]
    exact PathSyntax.parentPath_join_parentPath p (sep_notMem_depsName p)

/-- Siblings with one stem have one deps file. -/
theorem depsPath_sibling {r : Str} (hp : ¬ HasJsonExtension p) (hr : ¬ HasJsonExtension r)
    (hparent : posix.parentPath r = posix.parentPath p) (hstem : posix.stem r = posix.stem p) :
    getDepsJsonPath r = getDepsJsonPath p := by
  rw [depsPath_of_other hp, depsPath_of_other hr, hparent, depsName, depsName, hstem]

/-! ## Runs -/

variable {abi : Abi} {s : State}

/-- No call of this backend removes an entry. -/
theorem registered_exec {h : AsmHandle} (hs : h ∈ s.gAssemblies) (calls : List Call) :
    h ∈ ((backend abi).machine.exec s calls).gAssemblies := by
  refine (backend abi).machine.exec_invariant (P := fun t => h ∈ t.gAssemblies) hs ?_
  intro x _ hx
  obtain ⟨t, c⟩ := x
  cases c with
  | clrInit p d env => exact (keyed abi).registered_clrInit hx
  | clrDeInit g env => exact hx
  | runMethod g ty me a env =>
    show h ∈ (runMethod abi t g ty me a env).state.gAssemblies
    rw [runMethod_state]
    exact hx

/-- The call answers with the handle of the path, and the handle is
registered then. -/
def Succeeds (abi : Abi) (s : State) (p d : Str) (env : InitEnv) : Prop :=
  (clrInit abi s p d env).ret = .value ((backend abi).key p) ∧
    (backend abi).key p ∈ (clrInit abi s p d env).state.gAssemblies

/-- Whatever has the deps path of a loaded assembly is answered at once. -/
theorem clrInit_again {before after : List Call} {d : Str} {env : InitEnv}
    (hload : Succeeds abi ((backend abi).run before) p d env) {q : Str}
    (hq : getDepsJsonPath q = getDepsJsonPath p) (d' : Str) (env' : InitEnv) :
    clrInit abi ((backend abi).run (before ++ .clrInit p d env :: after)) q d' env' =
      ⟨(backend abi).run (before ++ .clrInit p d env :: after), .value ((backend abi).key p),
        []⟩ := by
  have hkey : (backend abi).key q = (backend abi).key p := congrArg (strHash abi) hq
  have hrun : (backend abi).key p ∈
      ((backend abi).run (before ++ .clrInit p d env :: after)).gAssemblies := by
    unfold Backend.run
    rw [Lib.Machine.exec_append, Lib.Machine.exec_cons]
    exact registered_exec hload.2 after
  rw [clrInit_hit (hkey ▸ hrun), hkey]

/-! ## The deps path is canonical -/

/-- What the path of the deps file of `p` is good for. -/
structure DepsPathCanonical (abi : Abi) (p : Str) : Prop where
  fixed : getDepsJsonPath (getDepsJsonPath p) = getDepsJsonPath p
  extension : HasJsonExtension (getDepsJsonPath p)
  parent : posix.parentPath (getDepsJsonPath p) = posix.parentPath p
  /-- the trusted assemblies lie relative to the directory of `p` -/
  entries : ∀ deps item, item ∈ appendedItems unix (getDepsJsonPath p) deps ↔
    ∃ key, ListedKey deps key ∧ posix.join (posix.parentPath p) key = item
  /-- after a successful load the deps path gets the same handle, and nothing
  is loaded -/
  again : ∀ before d env after, Succeeds abi ((backend abi).run before) p d env → ∀ s,
    s = (backend abi).run (before ++ .clrInit p d env :: after) → ∀ d' env',
      clrInit abi s (getDepsJsonPath p) d' env' = ⟨s, .value ((backend abi).key p), []⟩
  /-- and so does every sibling with the same stem -/
  sibling : ¬ HasJsonExtension p → ∀ before d env after,
    Succeeds abi ((backend abi).run before) p d env → ∀ s,
    s = (backend abi).run (before ++ .clrInit p d env :: after) → ∀ r,
      posix.parentPath r = posix.parentPath p → posix.stem r = posix.stem p →
      ¬ HasJsonExtension r → ∀ d' env',
        clrInit abi s r d' env' = ⟨s, .value ((backend abi).key p), []⟩

theorem depsPath_canonical (abi : Abi) (p : Str) : DepsPathCanonical abi p where
  fixed := depsPath_idem p
  extension := hasJson_depsPath p
  parent := parentPath_depsPath p
  entries deps item := by
    rw [mem_appendedItems, unix_parentPath, parentPath_depsPath]
    simp only [unix_join]
  again before d env after hload s hs d' env' := by
    subst hs
    exact clrInit_again hload (depsPath_idem p) d' env'
  sibling hp before d env after hload s hs r hparent hstem hr d' env' := by
    subst hs
    exact clrInit_again hload (depsPath_sibling hp hr hparent hstem) d' env'

/-- `App.dll` is loaded, and its deps file and `App.exe` get the same
handle. -/
theorem depsPath_canonical_appDoc :
    let s := (backend linux64).run [.clrInit (lit "/app/App.dll") [] (runtimeWith (.json appDoc))]
    let h := (backend linux64).key (lit "/app/App.dll")
    clrInit linux64 s (getDepsJsonPath (lit "/app/App.dll")) [] (runtimeWith .missing) =
        ⟨s, .value h, []⟩ ∧
      clrInit linux64 s (lit "/app/App.exe") [] (runtimeWith .missing) = ⟨s, .value h, []⟩ := by
  intro s h
  have hcanonical := depsPath_canonical linux64 (lit "/app/App.dll")
  have hload : Succeeds linux64 ((backend linux64).run []) (lit "/app/App.dll") []
      (runtimeWith (.json appDoc)) := by
    set_option maxRecDepth 2000 in exact ⟨by decide, by decide⟩
  exact ⟨hcanonical.again [] [] _ [] hload s rfl [] _,
    hcanonical.sibling (by decide) [] [] _ [] hload s rfl _ (by decide) (by decide) (by decide)
      [] _⟩

example : getDepsJsonPath (lit "//") = lit "//.deps.json" := by decide

example : getDepsJsonPath (lit "dir/..") = lit "dir/...deps.json" := by decide

end EzDotnet.MonoCoreClr
