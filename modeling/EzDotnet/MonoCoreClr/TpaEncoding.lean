/-
EzDotnet.MonoCoreClr.TpaEncoding — whether the list of trusted assemblies
can be read back.

The list is handed to the runtime as one string, and the runtime splits it
at the separator again. `tpa_append` escapes nothing, so the paths that were
appended come back exactly when none of them has the separator in it
(`encoding_survives_iff`): on Unix, when neither the directory of the deps
file nor the key of a listed assembly has a colon. A colon in the directory
cuts every item that is relative to it.
-/
import EzDotnet.MonoCoreClr.AssetsTheorems

namespace EzDotnet.MonoCoreClr

/-! ## What is appended -/

/-- The runtime target, the project and the project's entry, when the
function comes to its loops. -/
def loopEntry? (deps : Json) : Option (Json × Str × Json) := do
  let runtimeTarget ← deps.get? (lit "runtimeTarget")
  let nameItem ← runtimeTarget.get? (lit "name")
  let name ← (asString nameItem).toOption
  let allTargets ← deps.get? (lit "targets")
  let frameworkTarget ← allTargets.get? name
  let libraries ← deps.get? (lit "libraries")
  let found ← (findProject libraries.items).toOption
  let project ← found
  let projectTarget ← frameworkTarget.get? project.1
  if project.1.contains slash then some (frameworkTarget, project.1, projectTarget) else none

/-- The arguments of `tpa_append`, in the order of the calls. -/
def appendedItems (pl : Platform) (depsFile : Str) (deps : Json) : List Str :=
  match loopEntry? deps with
  | some (frameworkTarget, project, projectTarget) =>
    (listedAssets frameworkTarget project projectTarget).map
      (Asset.path pl (pl.parentPath depsFile))
  | none => []

/-- An assembly of this key is listed. -/
def ListedKey (deps : Json) (key : Str) : Prop :=
  ∃ frameworkTarget project projectTarget,
    MainProject deps frameworkTarget project projectTarget ∧ slash ∈ project ∧
      ∃ a ∈ listedAssets frameworkTarget project projectTarget, a.key = key

variable {pl : Platform} {depsFile : Str} {deps frameworkTarget projectTarget : Json}
  {project : Str} {r : Ctx}

/-- Those are the documents with a versioned project that has an entry. -/
theorem loopEntry?_eq_some :
    loopEntry? deps = some (frameworkTarget, project, projectTarget) ↔
      MainProject deps frameworkTarget project projectTarget ∧ slash ∈ project := by
  unfold loopEntry?
  constructor
  · intro h
    simp only [Option.bind_eq_bind, Option.bind_eq_some_iff, Lib.toOption_eq_some,
      asString_eq_ok] at h
    obtain ⟨runtimeTarget, hrt, n, hn, name, rfl, allTargets, htargets, target, htarget, libraries,
      hlibs, found, hfound, ⟨project, libItem⟩, rfl, entry, hentry, h⟩ := h
    split at h
    · next hslash =>
      obtain ⟨rfl, rfl, rfl⟩ := by simpa using h
      exact ⟨⟨⟨runtimeTarget, name, allTargets, hrt, hn, htargets, htarget⟩,
        ⟨libraries, hlibs, findProject_eq_some.mp ⟨libItem, hfound⟩⟩, hentry⟩,
        List.contains_iff_mem.mp hslash⟩
    · cases h
  · intro hex
    obtain ⟨⟨⟨runtimeTarget, name, allTargets, hrt, hname, htargets, hfw⟩,
      ⟨libraries, hlibs, hfirst⟩, hentry⟩, hslash⟩ := hex
    obtain ⟨libItem, hfound⟩ := findProject_eq_some.mpr hfirst
    have hread : asString (.string name) = .ok name := rfl
    simp [hrt, hname, hread, htargets, hfw, hlibs, hfound, hentry, hslash, Except.toOption]

/-- Without such a project nothing is appended. -/
theorem tpa_list_eq_nil (h : buildTpaList pl depsFile deps = .ok r)
    (hnone : ∀ frameworkTarget project projectTarget,
      MainProject deps frameworkTarget project projectTarget → slash ∉ project) :
    r.tpa_list = [] := by
  by_cases hreached : ∃ fw libs, FrameworkTarget deps fw ∧ deps.get? (lit "libraries") = some libs
  · obtain ⟨fw, libs, htarget, hlibs⟩ := hreached
    rw [buildTpaList_libraries htarget hlibs] at h
    obtain ⟨found, hfound, h⟩ := Lib.bind_eq_ok.mp h
    cases found with
    | none => cases h
    | some entry =>
      obtain ⟨project, libItem⟩ := entry
      dsimp only at h
      unfold listProject at h
      simp only [jsonGetOpt_asJson, Lib.ok_bind] at h
      cases hentry : fw.get? project with
      | none =>
        rw [hentry] at h
        rw [← Except.ok.inj h]
      | some projectTarget =>
        have hslash := hnone fw project projectTarget
          ⟨htarget, ⟨libs, hlibs, findProject_eq_some.mp ⟨libItem, hfound⟩⟩, hentry⟩
        rw [hentry] at h
        dsimp only at h
        rw [if_neg hslash] at h
        rw [← Except.ok.inj h]
  · have hsafe : DepsSafe deps := returns_buildTpaList.mp ⟨r, h⟩
    rw [buildTpaList_eq_empty hsafe.name
      fun fw libs htarget hlibs => hreached ⟨fw, libs, htarget, hlibs⟩] at h
    rw [← Except.ok.inj h]

/-- The list has one separator between neighbours and none at the ends. -/
theorem tpa_list_eq (h : buildTpaList pl depsFile deps = .ok r) :
    r.tpa_list = [pl.tpaSeparator].intercalate (appendedItems pl depsFile deps) := by
  unfold appendedItems
  cases hloop : loopEntry? deps with
  | some found =>
    obtain ⟨frameworkTarget, project, projectTarget⟩ := found
    obtain ⟨hmain, hslash⟩ := loopEntry?_eq_some.mp hloop
    rw [buildTpaList_eq_ok hmain hslash h]
    dsimp only
    rw [map_path_listedAssets]
  | none =>
    refine tpa_list_eq_nil h fun fw project projectTarget hmain hslash => ?_
    rw [loopEntry?_eq_some.mpr ⟨hmain, hslash⟩] at hloop
    cases hloop

theorem mem_appendedItems {item : Str} :
    item ∈ appendedItems pl depsFile deps ↔
      ∃ key, ListedKey deps key ∧ pl.join (pl.parentPath depsFile) key = item := by
  unfold appendedItems
  constructor
  · intro hitem
    split at hitem
    · next fw project projectTarget hloop =>
      obtain ⟨hmain, hslash⟩ := loopEntry?_eq_some.mp hloop
      obtain ⟨a, ha, hpath⟩ := List.mem_map.mp hitem
      exact ⟨a.key, ⟨fw, project, projectTarget, hmain, hslash, a, ha, rfl⟩, hpath⟩
    · cases hitem
  · intro hex
    obtain ⟨key, ⟨fw, project, projectTarget, hmain, hslash, a, ha, rfl⟩, hpath⟩ := hex
    rw [loopEntry?_eq_some.mpr ⟨hmain, hslash⟩]
    exact List.mem_map.mpr ⟨a, ha, hpath⟩

theorem ListedKey.ne_nil {key : Str} (h : ListedKey deps key) : key ≠ [] := by
  obtain ⟨_, _, _, _, _, a, ha, rfl⟩ := h
  intro hnil
  have hdll : IsDll a.key := isDll_of_mem ha
  rw [hnil] at hdll
  exact absurd hdll (by decide)

/-! ## What is read back -/

/-- Splitting at the separator and dropping empty pieces gives the appended
paths back. -/
def SurvivesEncoding (pl : Platform) (depsFile : Str) (deps : Json) (tpaList : Str) : Prop :=
  Lib.pieces pl.tpaSeparator tpaList = appendedItems pl depsFile deps

instance (pl : Platform) (depsFile : Str) (deps : Json) (tpaList : Str) :
    Decidable (SurvivesEncoding pl depsFile deps tpaList) :=
  inferInstanceAs (Decidable (_ = _))

theorem survives_iff (hjoin : ∀ dir key, key ≠ [] → pl.join dir key ≠ [])
    (h : buildTpaList pl depsFile deps = .ok r) :
    SurvivesEncoding pl depsFile deps r.tpa_list ↔ ∀ key, ListedKey deps key →
      pl.tpaSeparator ∉ pl.join (pl.parentPath depsFile) key := by
  unfold SurvivesEncoding
  rw [tpa_list_eq h, Lib.pieces_intercalate_iff]
  constructor
  · intro hitems key hkey
    exact (hitems _ (mem_appendedItems.mpr ⟨key, hkey, rfl⟩)).2
  · intro hkeys item hitem
    obtain ⟨key, hkey, rfl⟩ := mem_appendedItems.mp hitem
    exact ⟨hjoin _ key hkey.ne_nil, hkeys key hkey⟩

theorem notMem_intercalate {c sep : Byte} (hc : c ≠ sep) {items : List Str}
    (h : ∀ item ∈ items, c ∉ item) : c ∉ [sep].intercalate items := by
  induction items with
  | nil => simp
  | cons x items ih =>
    obtain ⟨hx, hitems⟩ := List.forall_mem_cons.mp h
    cases items with
    | nil => simpa using hx
    | cons y items =>
      rw [List.intercalate_cons_cons]
      simp [hx, hc, ih hitems]

/-- The runtime is given the C string of the list, which a NUL in an item
would end. -/
theorem cstr_survives_iff (hjoin : ∀ dir key, key ≠ [] → pl.join dir key ≠ [])
    (hsep : pl.tpaSeparator ≠ 0#8) (h : buildTpaList pl depsFile deps = .ok r) :
    SurvivesEncoding pl depsFile deps (cstr r.tpa_list) ↔ ∀ key, ListedKey deps key →
      pl.tpaSeparator ∉ pl.join (pl.parentPath depsFile) key ∧
        0#8 ∉ pl.join (pl.parentPath depsFile) key := by
  constructor
  · intro hsurvives key hkey
    have hitem : pl.join (pl.parentPath depsFile) key ∈ appendedItems pl depsFile deps :=
      mem_appendedItems.mpr ⟨key, hkey, rfl⟩
    rw [← hsurvives] at hitem
    refine ⟨(Lib.of_mem_pieces hitem).2, fun hnul => ?_⟩
    exact notMem_cstr r.tpa_list (Lib.subset_of_mem_pieces hitem hnul)
  · intro hkeys
    have hclean : 0#8 ∉ r.tpa_list := by
      rw [tpa_list_eq h]
      refine notMem_intercalate hsep.symm fun item hitem => ?_
      obtain ⟨key, hkey, rfl⟩ := mem_appendedItems.mp hitem
      exact (hkeys key hkey).2
    rw [cstr_eq_self hclean, survives_iff hjoin h]
    exact fun key hkey => (hkeys key hkey).1

/-- For every platform, deps file and document that is accepted, the list is
what `tpa_append` makes of the appended paths, one call after the other, and
these come back exactly when no listed assembly has the separator in its
path; and on Unix, exactly when no listed key has a colon in it, and the
directory of the deps file has none either unless all listed keys are
absolute. -/
theorem encoding_survives_iff (depsFile : Str) (deps : Json) :
    (∀ pl : Platform, (∀ dir key, key ≠ [] → pl.join dir key ≠ []) →
      ∀ r, buildTpaList pl depsFile deps = .ok r →
        r.tpa_list = ((appendedItems pl depsFile deps).foldl (Tpa.append pl) {}).tpa ∧
        (SurvivesEncoding pl depsFile deps r.tpa_list ↔ ∀ key, ListedKey deps key →
          pl.tpaSeparator ∉ pl.join (pl.parentPath depsFile) key)) ∧
    ∀ r, buildTpaList unix depsFile deps = .ok r →
      (SurvivesEncoding unix depsFile deps r.tpa_list ↔ ∀ key, ListedKey deps key →
        unix.tpaSeparator ∉ key ∧
          (posix.IsAbsolute key ∨ unix.tpaSeparator ∉ posix.parentPath depsFile)) := by
  refine ⟨fun pl hjoin r h => ⟨?_, survives_iff hjoin h⟩, fun r h => ?_⟩
  · rw [foldl_append_tpa]
    exact tpa_list_eq h
  rw [survives_iff (fun dir key hkey => Lib.PathSyntax.join_ne_nil dir hkey) h]
  refine forall_congr' fun key => forall_congr' fun _ => ?_
  have hmem : unix.tpaSeparator ∈ posix.join (posix.parentPath depsFile) key ↔ _ :=
    Lib.PathSyntax.mem_join_iff (by decide) _ key
  rw [unix_join, unix_parentPath, hmem]
  tauto

/-- `appDoc` without a colon. -/
theorem encoding_survives_appDoc :
    SurvivesEncoding unix appDeps appDoc (lit "/app/App.dll:/app/Lib.dll") := by
  have hr : buildTpaList unix appDeps appDoc =
      .ok ⟨lit "App/1.0", lit "App, Version=1.0", lit "/app/App.dll:/app/Lib.dll"⟩ := rfl
  refine ((encoding_survives_iff appDeps appDoc).2 _ hr).mpr fun key hkey => ?_
  have hclean : ∀ item ∈ appendedItems unix appDeps appDoc, unix.tpaSeparator ∉ item := by decide
  have hitem : unix.join (unix.parentPath appDeps) key ∈ appendedItems unix appDeps appDoc :=
    mem_appendedItems.mpr ⟨key, hkey, rfl⟩
  refine ⟨fun hcolon => ?_, .inr (by decide)⟩
  exact hclean _ hitem ((Lib.PathSyntax.mem_join_iff (by decide) _ key).mpr (.inl hcolon))

/-- In a directory with a colon, every item is cut in two. -/
theorem colon_directory_corrupts :
    buildTpaList unix (lit "/opt/a:b/App.deps.json") appDoc =
        .ok ⟨lit "App/1.0", lit "App, Version=1.0",
          lit "/opt/a:b/App.dll:/opt/a:b/Lib.dll"⟩ ∧
      appendedItems unix (lit "/opt/a:b/App.deps.json") appDoc =
        [lit "/opt/a:b/App.dll", lit "/opt/a:b/Lib.dll"] ∧
      Lib.pieces unix.tpaSeparator (lit "/opt/a:b/App.dll:/opt/a:b/Lib.dll") =
        [lit "/opt/a", lit "b/App.dll", lit "/opt/a", lit "b/Lib.dll"] ∧
      ¬ SurvivesEncoding unix (lit "/opt/a:b/App.deps.json") appDoc
        (lit "/opt/a:b/App.dll:/opt/a:b/Lib.dll") := by
  refine ⟨rfl, rfl, by decide, fun hsurvives => ?_⟩
  exact absurd hsurvives (by decide)

end EzDotnet.MonoCoreClr
