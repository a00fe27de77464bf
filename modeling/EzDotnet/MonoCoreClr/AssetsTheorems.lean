/-
EzDotnet.MonoCoreClr.AssetsTheorems — that `build_tpa_list` selects the
direct assets of the project, each once and in their order.

An item of the list stands for an `Asset`: an assembly in a section of the
target entry of a library, the project or one of its dependencies. The code
and the format agree on everything but the name of the library that a
dependency leads to: the format has `name/version`, and the code prints the
two as C strings, which end at their first NUL (`itemKey`). So the code's
assets are the direct ones exactly when no dependency with a NUL has any,
under either name (`selectsDirectAssets_iff`).
-/
import EzDotnet.Lib.Tagged
import EzDotnet.MonoCoreClr.TrustedAssembliesTheorems

namespace EzDotnet.MonoCoreClr

/-! ## Assets -/

/-- What an item of the list stands for. -/
structure Asset where
  /-- the dependency that brings it in; none for the project -/
  dependency : Option Str
  library : Str
  sectionName : Str
  key : Str
  deriving DecidableEq, Repr

def Asset.path (pl : Platform) (depsDir : Str) (a : Asset) : Str := pl.join depsDir a.key

/-- The assemblies in one section of a target entry. -/
def sectionAssets (dependency : Option Str) (library : Str) (entry : Json) (name : Str) :
    List Asset :=
  match entry.get? name with
  | some libs =>
    (libs.items.filter fun lib => IsDll lib.1).map fun lib => ⟨dependency, library, name, lib.1⟩
  | none => []

/-- The assets of a dependency that is looked up under `key`. -/
def dependencyAssets (key : Str → Str → Str) (frameworkTarget : Json) :
    Str × Json → List Asset
  | (name, .string version) =>
    match frameworkTarget.get? (key name version) with
    | some entry =>
      sectionAssets (some name) (key name version) entry (lit "runtime") ++
        sectionAssets (some name) (key name version) entry (lit "native")
    | none => []
  | _ => []

/-- The assets of the project, then those of its dependencies. -/
def projectAssets (key : Str → Str → Str) (frameworkTarget : Json) (project : Str)
    (projectTarget : Json) : List Asset :=
  match projectTarget.get? (lit "runtime") with
  | none => []
  | some _ =>
    sectionAssets none project projectTarget (lit "runtime") ++
      match projectTarget.get? (lit "dependencies") with
      | none => []
      | some projectDeps => projectDeps.items.flatMap (dependencyAssets key frameworkTarget)

/-- The library of a version, as the format names it. -/
def libraryKey (name version : Str) : Str := name ++ slash :: version

/-- What the code goes through. -/
def listedAssets : Json → Str → Json → List Asset := projectAssets itemKey

/-- What it is meant to go through. -/
def directAssets : Json → Str → Json → List Asset := projectAssets libraryKey

variable {pl : Platform} {depsDir : Str} {frameworkTarget projectTarget entry : Json}
  {project library name version : Str} {dependency : Option Str} {a : Asset}

theorem map_path_sectionAssets :
    (sectionAssets dependency library entry name).map (Asset.path pl depsDir) =
      sectionItems pl depsDir entry name := by
  unfold sectionAssets sectionItems dllItems
  cases entry.get? name with
  | none => rfl
  | some libs =>
    rw [List.map_map]
    rfl

theorem map_path_dependencyAssets (itm : Str × Json) :
    (dependencyAssets itemKey frameworkTarget itm).map (Asset.path pl depsDir) =
      dependencyItems pl depsDir frameworkTarget itm := by
  obtain ⟨name, value⟩ := itm
  unfold dependencyAssets dependencyItems
  cases value with
  | string version =>
    dsimp only
    cases frameworkTarget.get? (itemKey name version) with
    | none => rfl
    | some entry =>
      dsimp only
      rw [List.map_append, map_path_sectionAssets, map_path_sectionAssets]
  | _ => rfl

/-- The items that the code appends are the paths of its assets. -/
theorem map_path_listedAssets :
    (listedAssets frameworkTarget project projectTarget).map (Asset.path pl depsDir) =
      projectItems pl depsDir frameworkTarget projectTarget := by
  unfold listedAssets projectAssets projectItems
  cases hrt : projectTarget.get? (lit "runtime") with
  | none => rfl
  | some projectRt =>
    have hruntime : sectionItems pl depsDir projectTarget (lit "runtime") =
        dllItems pl depsDir projectRt := by
      unfold sectionItems
      rw [hrt]
    dsimp only
    rw [List.map_append, map_path_sectionAssets, hruntime]
    cases projectTarget.get? (lit "dependencies") with
    | none => rfl
    | some projectDeps =>
      dsimp only
      rw [List.map_flatMap]
      simp only [map_path_dependencyAssets]

/-! ## Which assets there are -/

/-- The section of the target entry has the assembly `key`. -/
def HasAssembly (entry : Json) (sectionName key : Str) : Prop :=
  ∃ libs v, entry.get? sectionName = some libs ∧ libs.get? key = some v ∧ IsDll key

/-- The sections of a target entry that are there are objects. -/
def SectionsTyped (entry : Json) : Prop :=
  ∀ name ∈ [lit "runtime", lit "native", lit "dependencies"], ∀ v,
    entry.get? name = some v → v.IsObject

def EntriesTyped (frameworkTarget : Json) : Prop :=
  ∀ library entry, frameworkTarget.get? library = some entry → SectionsTyped entry

/-- An asset of the project itself, or of a dependency whose library is in
the runtime target. -/
def Qualifies (frameworkTarget : Json) (project : Str) (projectTarget : Json) (a : Asset) :
    Prop :=
  (a.dependency = none ∧ a.library = project ∧ a.sectionName = lit "runtime" ∧
      HasAssembly projectTarget a.sectionName a.key) ∨
    ∃ projectDeps name version entry,
      projectTarget.get? (lit "dependencies") = some projectDeps ∧
      projectDeps.get? name = some (.string version) ∧ a.dependency = some name ∧
      a.library = libraryKey name version ∧ frameworkTarget.get? a.library = some entry ∧
      (a.sectionName = lit "runtime" ∨ a.sectionName = lit "native") ∧
      HasAssembly entry a.sectionName a.key

theorem mem_sectionAssets (hobj : ∀ v, entry.get? name = some v → v.IsObject) :
    a ∈ sectionAssets dependency library entry name ↔ a.dependency = dependency ∧
      a.library = library ∧ a.sectionName = name ∧ HasAssembly entry a.sectionName a.key := by
  obtain ⟨dep, lib, sec, key⟩ := a
  unfold sectionAssets HasAssembly
  dsimp only
  cases hlibs : entry.get? name with
  | none =>
    constructor
    · intro hmem
      cases hmem
    · intro hhas
      obtain ⟨_, _, rfl, libs, v, hget, _⟩ := hhas
      rw [hlibs] at hget
      cases hget
  | some libs =>
    simp only [List.mem_map, List.mem_filter, Asset.mk.injEq, decide_eq_true_eq]
    constructor
    · intro hmem
      obtain ⟨⟨k, v⟩, ⟨hitem, hdll⟩, rfl, rfl, rfl, rfl⟩ := hmem
      exact ⟨rfl, rfl, rfl, libs, v, hlibs, (Json.mem_items_iff (hobj libs hlibs)).mp hitem, hdll⟩
    · intro hhas
      obtain ⟨rfl, rfl, rfl, libs', v, hget, hkey, hdll⟩ := hhas
      obtain rfl := Option.some.inj (hlibs.symm.trans hget)
      exact ⟨(key, v), ⟨Json.mem_items_of_get? hkey, hdll⟩, rfl, rfl, rfl, rfl⟩

theorem mem_dependencyAssets {key : Str → Str → Str} (htyped : EntriesTyped frameworkTarget) :
    a ∈ dependencyAssets key frameworkTarget (name, .string version) ↔
      a.dependency = some name ∧ a.library = key name version ∧
        ∃ entry, frameworkTarget.get? a.library = some entry ∧
          (a.sectionName = lit "runtime" ∨ a.sectionName = lit "native") ∧
          HasAssembly entry a.sectionName a.key := by
  unfold dependencyAssets
  dsimp only
  cases hentry : frameworkTarget.get? (key name version) with
  | none =>
    constructor
    · intro hmem
      cases hmem
    · intro hhas
      obtain ⟨_, hlib, entry, hget, _⟩ := hhas
      rw [hlib, hentry] at hget
      cases hget
  | some entry =>
    have hsections := htyped _ entry hentry
    rw [List.mem_append, mem_sectionAssets (hsections _ (by simp)),
      mem_sectionAssets (hsections _ (by simp))]
    constructor
    · intro hmem
      rcases hmem with ⟨hdep, hlib, hsec, hhas⟩ | ⟨hdep, hlib, hsec, hhas⟩
      · exact ⟨hdep, hlib, entry, hlib ▸ hentry, .inl hsec, hhas⟩
      · exact ⟨hdep, hlib, entry, hlib ▸ hentry, .inr hsec, hhas⟩
    · intro hhas
      obtain ⟨hdep, hlib, entry', hget, hsec, hhas⟩ := hhas
      rw [hlib, hentry] at hget
      obtain rfl := Option.some.inj hget
      rcases hsec with hsec | hsec
      · exact .inl ⟨hdep, hlib, hsec, hhas⟩
      · exact .inr ⟨hdep, hlib, hsec, hhas⟩

/-- The direct assets are those that qualify. -/
theorem mem_directAssets (htyped : EntriesTyped frameworkTarget)
    (hproject : SectionsTyped projectTarget)
    (hversions : ∀ projectDeps, projectTarget.get? (lit "dependencies") = some projectDeps →
      ∀ x ∈ projectDeps.items, x.2.IsString)
    (hruntime : ∃ projectRt, projectTarget.get? (lit "runtime") = some projectRt) :
    a ∈ directAssets frameworkTarget project projectTarget ↔
      Qualifies frameworkTarget project projectTarget a := by
  obtain ⟨projectRt, hrt⟩ := hruntime
  unfold directAssets projectAssets Qualifies
  rw [hrt]
  dsimp only
  rw [List.mem_append, mem_sectionAssets (hproject _ (by simp))]
  refine or_congr ?_ ?_
  · exact and_congr_right fun _ => and_congr_right fun _ => and_congr_right fun _ => Iff.rfl
  · cases hdeps : projectTarget.get? (lit "dependencies") with
    | none => simp
    | some projectDeps =>
      have hobj := hproject _ (by simp) projectDeps hdeps
      rw [List.mem_flatMap]
      constructor
      · intro hmem
        obtain ⟨⟨name, value⟩, hitem, ha⟩ := hmem
        obtain ⟨version, rfl⟩ := hversions projectDeps hdeps _ hitem
        obtain ⟨hdep, hlib, entry, hentry, hhas⟩ := (mem_dependencyAssets htyped).mp ha
        exact ⟨projectDeps, name, version, entry, rfl, (Json.mem_items_iff hobj).mp hitem, hdep,
          hlib, hentry, hhas⟩
      · intro hqual
        obtain ⟨projectDeps', name, version, entry, heq, hget, hdep, hlib, hentry, hhas⟩ := hqual
        obtain rfl := Option.some.inj heq
        exact ⟨(name, .string version), Json.mem_items_of_get? hget,
          (mem_dependencyAssets htyped).mpr ⟨hdep, hlib, entry, hentry, hhas⟩⟩

/-! ## Each asset once -/

theorem of_mem_sectionAssets (h : a ∈ sectionAssets dependency library entry name) :
    a.dependency = dependency ∧ a.library = library ∧ a.sectionName = name ∧ IsDll a.key := by
  unfold sectionAssets at h
  split at h
  · obtain ⟨lib, hlib, rfl⟩ := List.mem_map.mp h
    exact ⟨rfl, rfl, rfl, by simpa using (List.mem_filter.mp hlib).2⟩
  · cases h

/-- An asset tells the dependency and the library it was found in. -/
theorem of_mem_dependencyAssets {key : Str → Str → Str} {itm : Str × Json}
    (h : a ∈ dependencyAssets key frameworkTarget itm) :
    a.dependency = some itm.1 ∧ IsDll a.key ∧ ∃ version, itm.2 = .string version ∧
      a.library = key itm.1 version := by
  obtain ⟨name, value⟩ := itm
  unfold dependencyAssets at h
  cases value with
  | string version =>
    dsimp only at h
    split at h
    · rcases List.mem_append.mp h with h | h
      · obtain ⟨hdep, hlib, _, hdll⟩ := of_mem_sectionAssets h
        exact ⟨hdep, hdll, version, rfl, hlib⟩
      · obtain ⟨hdep, hlib, _, hdll⟩ := of_mem_sectionAssets h
        exact ⟨hdep, hdll, version, rfl, hlib⟩
    · cases h
  | _ => cases h

/-- Only assemblies are listed. -/
theorem isDll_of_mem {key : Str → Str → Str}
    (h : a ∈ projectAssets key frameworkTarget project projectTarget) : IsDll a.key := by
  unfold projectAssets at h
  split at h
  · cases h
  · rcases List.mem_append.mp h with h | h
    · exact (of_mem_sectionAssets h).2.2.2
    · split at h
      · cases h
      · obtain ⟨itm, _, h⟩ := List.mem_flatMap.mp h
        exact (of_mem_dependencyAssets h).2.1

theorem items_names {j : Json} (h : j.IsObject) :
    j.items.Pairwise fun x y => some x.1 ≠ some y.1 := by
  refine (Json.items_ordered h).imp fun {x y} hlt heq => ?_
  rw [Option.some.inj heq, Std.compare_self] at hlt
  cases hlt

theorem taggedBy_dependency (key : Str → Str → Str) (itms : List (Str × Json)) :
    Lib.TaggedBy Asset.dependency (fun x => some x.1) (dependencyAssets key frameworkTarget)
      itms := fun _ _ _ hb => (of_mem_dependencyAssets hb).1

theorem nodup_sectionAssets (hobj : ∀ v, entry.get? name = some v → v.IsObject) :
    (sectionAssets dependency library entry name).Nodup := by
  unfold sectionAssets
  cases hlibs : entry.get? name with
  | none => exact List.nodup_nil
  | some libs =>
    refine List.pairwise_map.mpr (((items_names (hobj libs hlibs)).filter _).imp ?_)
    intro x y hne heq
    rw [Asset.mk.injEq] at heq
    exact hne (congrArg some heq.2.2.2)

theorem nodup_dependencyAssets {key : Str → Str → Str} (htyped : EntriesTyped frameworkTarget)
    (itm : Str × Json) : (dependencyAssets key frameworkTarget itm).Nodup := by
  obtain ⟨name, value⟩ := itm
  unfold dependencyAssets
  cases value with
  | string version =>
    dsimp only
    cases hentry : frameworkTarget.get? (key name version) with
    | none => exact List.nodup_nil
    | some entry =>
      have hsections := htyped _ entry hentry
      refine List.nodup_append.mpr ⟨nodup_sectionAssets (hsections _ (by simp)),
        nodup_sectionAssets (hsections _ (by simp)), ?_⟩
      intro x hx y hy heq
      have hnames : lit "runtime" = lit "native" := by
        rw [← (of_mem_sectionAssets hx).2.2.1, heq, (of_mem_sectionAssets hy).2.2.1]
      exact absurd hnames (by decide)
  | _ => exact List.nodup_nil

theorem nodup_projectAssets (key : Str → Str → Str) (htyped : EntriesTyped frameworkTarget)
    (hproject : SectionsTyped projectTarget) :
    (projectAssets key frameworkTarget project projectTarget).Nodup := by
  unfold projectAssets
  split
  · exact List.nodup_nil
  · cases hdeps : projectTarget.get? (lit "dependencies") with
    | none =>
      dsimp only
      rw [List.append_nil]
      exact nodup_sectionAssets (hproject _ (by simp))
    | some projectDeps =>
      have hobj := hproject _ (by simp) projectDeps hdeps
      refine List.nodup_append.mpr ⟨nodup_sectionAssets (hproject _ (by simp)),
        Lib.nodup_flatMap_of_tagged (items_names hobj) (taggedBy_dependency key _)
          fun itm _ => nodup_dependencyAssets htyped itm, ?_⟩
      -- the project's own assets belong to no dependency
      intro x hx y hy heq
      obtain ⟨itm, _, hy⟩ := List.mem_flatMap.mp hy
      have hnone := (of_mem_sectionAssets hx).1
      rw [heq, (of_mem_dependencyAssets hy).1] at hnone
      cases hnone

/-! ## The names of the libraries -/

/-- The library, if it is in the runtime target, has no assembly in its
sections. -/
def NoAssets (frameworkTarget : Json) (library : Str) : Prop :=
  ∀ entry, frameworkTarget.get? library = some entry → ∀ sectionName key,
    sectionName = lit "runtime" ∨ sectionName = lit "native" →
      ¬ HasAssembly entry sectionName key

/-- What the code prints has no NUL in it. -/
theorem itemKey_ne_libraryKey (hnul : 0#8 ∈ name ∨ 0#8 ∈ version) :
    itemKey name version ≠ libraryKey name version := by
  intro heq
  have hmem : 0#8 ∈ libraryKey name version := by
    unfold libraryKey
    rcases hnul with hnul | hnul
    · exact List.mem_append_left _ hnul
    · exact List.mem_append_right _ (List.mem_cons_of_mem _ hnul)
  rw [← heq] at hmem
  unfold itemKey at hmem
  rcases List.mem_append.mp hmem with hmem | hmem
  · rcases List.mem_append.mp hmem with hmem | hmem
    · exact notMem_cstr name hmem
    · exact absurd hmem (by decide)
  · exact notMem_cstr version hmem

theorem dependencyAssets_eq_nil_iff {key : Str → Str → Str}
    (htyped : EntriesTyped frameworkTarget) :
    dependencyAssets key frameworkTarget (name, .string version) = [] ↔
      NoAssets frameworkTarget (key name version) := by
  rw [List.eq_nil_iff_forall_not_mem]
  constructor
  · intro hnone entry hentry sectionName k hsec hhas
    exact hnone ⟨some name, key name version, sectionName, k⟩
      ((mem_dependencyAssets htyped).mpr ⟨rfl, rfl, entry, hentry, hsec, hhas⟩)
  · intro hnone a ha
    obtain ⟨_, hlib, entry, hentry, hsec, hhas⟩ := (mem_dependencyAssets htyped).mp ha
    exact hnone entry (hlib ▸ hentry) a.sectionName a.key hsec hhas

/-- A dependency without NUL is looked up under its name. One with a NUL
must have no assets at all: those under one name are none under the other. -/
theorem dependencyAssets_eq_iff (htyped : EntriesTyped frameworkTarget) :
    dependencyAssets itemKey frameworkTarget (name, .string version) =
        dependencyAssets libraryKey frameworkTarget (name, .string version) ↔
      (0#8 ∈ name ∨ 0#8 ∈ version →
        NoAssets frameworkTarget (libraryKey name version) ∧
          NoAssets frameworkTarget (itemKey name version)) := by
  by_cases hnul : 0#8 ∈ name ∨ 0#8 ∈ version
  · rw [← dependencyAssets_eq_nil_iff htyped, ← dependencyAssets_eq_nil_iff htyped]
    constructor
    · intro heq _
      have hempty : dependencyAssets libraryKey frameworkTarget (name, .string version) = [] := by
        refine List.eq_nil_iff_forall_not_mem.mpr fun a ha => ?_
        obtain ⟨_, _, v, hv, hlib⟩ := of_mem_dependencyAssets ha
        rw [← heq] at ha
        obtain ⟨_, _, v', hv', hlib'⟩ := of_mem_dependencyAssets ha
        cases hv
        cases hv'
        exact itemKey_ne_libraryKey hnul (hlib'.symm.trans hlib)
      exact ⟨hempty, heq.trans hempty⟩
    · intro hboth
      obtain ⟨hdirect, hlisted⟩ := hboth hnul
      rw [hdirect, hlisted]
  · have hkey : itemKey name version = libraryKey name version :=
      itemKey_eq (fun h => hnul (.inl h)) fun h => hnul (.inr h)
    refine ⟨fun _ h => absurd h hnul, fun _ => ?_⟩
    unfold dependencyAssets
    dsimp only
    rw [hkey]

theorem listedAssets_eq_iff (htyped : EntriesTyped frameworkTarget)
    (hproject : SectionsTyped projectTarget)
    (hversions : ∀ projectDeps, projectTarget.get? (lit "dependencies") = some projectDeps →
      ∀ x ∈ projectDeps.items, x.2.IsString)
    (hruntime : ∃ projectRt, projectTarget.get? (lit "runtime") = some projectRt) :
    listedAssets frameworkTarget project projectTarget =
        directAssets frameworkTarget project projectTarget ↔
      ∀ projectDeps name version, projectTarget.get? (lit "dependencies") = some projectDeps →
        projectDeps.get? name = some (.string version) → 0#8 ∈ name ∨ 0#8 ∈ version →
          NoAssets frameworkTarget (libraryKey name version) ∧
            NoAssets frameworkTarget (itemKey name version) := by
  obtain ⟨projectRt, hrt⟩ := hruntime
  unfold listedAssets directAssets projectAssets
  rw [hrt]
  dsimp only
  rw [List.append_cancel_left_eq]
  cases hdeps : projectTarget.get? (lit "dependencies") with
  | none => simp
  | some projectDeps =>
    have hobj := hproject _ (by simp) projectDeps hdeps
    dsimp only
    rw [Lib.flatMap_eq_iff_of_tagged (items_names hobj) (taggedBy_dependency itemKey _)
      (taggedBy_dependency libraryKey _)]
    constructor
    · intro heq projectDeps' name version hsame hget
      obtain rfl := Option.some.inj hsame
      exact (dependencyAssets_eq_iff htyped).mp
        (heq (name, .string version) (Json.mem_items_of_get? hget))
    · intro hnul itm hitem
      obtain ⟨name, value⟩ := itm
      obtain ⟨version, rfl⟩ := hversions projectDeps hdeps _ hitem
      exact (dependencyAssets_eq_iff htyped).mpr
        (hnul projectDeps name version rfl ((Json.mem_items_iff hobj).mp hitem))

/-! ## The selection -/

/-- The list is that of the direct assets. -/
structure SelectsDirectAssets (pl : Platform) (depsFile : Str) (deps frameworkTarget : Json)
    (project : Str) (projectTarget : Json) : Prop where
  sequence : listedAssets frameworkTarget project projectTarget =
    directAssets frameworkTarget project projectTarget
  /-- whatever qualifies contributes one item, and nothing else contributes -/
  once : (listedAssets frameworkTarget project projectTarget).Nodup
  qualifying : ∀ a, a ∈ listedAssets frameworkTarget project projectTarget ↔
    Qualifies frameworkTarget project projectTarget a
  /-- a dependency that is not in the runtime target changes nothing for the
  others -/
  missing : ∀ projectDeps pre itm post,
    projectTarget.get? (lit "dependencies") = some projectDeps →
    projectDeps.items = pre ++ itm :: post →
    (∀ version, itm.2 = .string version →
      frameworkTarget.get? (libraryKey itm.1 version) = none) →
    listedAssets frameworkTarget project projectTarget =
      sectionAssets none project projectTarget (lit "runtime") ++
        (pre ++ post).flatMap (dependencyAssets libraryKey frameworkTarget)
  joined : ∃ r, buildTpaList pl depsFile deps = .ok r ∧ r.tpa_list = [pl.tpaSeparator].intercalate
    ((listedAssets frameworkTarget project projectTarget).map
      (Asset.path pl (pl.parentPath depsFile)))

theorem directAssets_missing {projectDeps : Json} {pre post : List (Str × Json)}
    {itm : Str × Json} (hruntime : ∃ projectRt, projectTarget.get? (lit "runtime") = some projectRt)
    (hdeps : projectTarget.get? (lit "dependencies") = some projectDeps)
    (hitems : projectDeps.items = pre ++ itm :: post)
    (hmissing : ∀ version, itm.2 = .string version →
      frameworkTarget.get? (libraryKey itm.1 version) = none) :
    directAssets frameworkTarget project projectTarget =
      sectionAssets none project projectTarget (lit "runtime") ++
        (pre ++ post).flatMap (dependencyAssets libraryKey frameworkTarget) := by
  obtain ⟨projectRt, hrt⟩ := hruntime
  have hempty : dependencyAssets libraryKey frameworkTarget itm = [] := by
    obtain ⟨name, value⟩ := itm
    unfold dependencyAssets
    cases value with
    | string version =>
      dsimp only
      rw [hmissing version rfl]
    | _ => rfl
  unfold directAssets projectAssets
  rw [hrt, hdeps]
  dsimp only
  rw [hitems, List.flatMap_append, List.flatMap_append, List.flatMap_cons, hempty,
    List.nil_append]

variable {depsFile : Str} {deps libraries : Json}

/-- For every well-typed document whose versioned project has a `runtime`
section, the direct assets are selected, each once and in their order,
exactly when no dependency with a NUL in its name or version leads to any
assets, neither under its name nor under the C strings of it. -/
theorem selectsDirectAssets_iff (pl : Platform) (depsFile : Str)
    (htyped : WellTyped deps frameworkTarget libraries)
    (hmain : MainProject deps frameworkTarget project projectTarget) (hslash : slash ∈ project)
    (hruntime : ∃ projectRt, projectTarget.get? (lit "runtime") = some projectRt) :
    SelectsDirectAssets pl depsFile deps frameworkTarget project projectTarget ↔
      ∀ projectDeps name version, projectTarget.get? (lit "dependencies") = some projectDeps →
        projectDeps.get? name = some (.string version) → 0#8 ∈ name ∨ 0#8 ∈ version →
          NoAssets frameworkTarget (libraryKey name version) ∧
            NoAssets frameworkTarget (itemKey name version) := by
  have hsections : EntriesTyped frameworkTarget := fun library entry hentry =>
    htyped.sections (library, entry) (Json.mem_items_of_get? hentry)
  have hproject : SectionsTyped projectTarget := hsections project projectTarget hmain.entry
  have hversions := htyped.versions (project, projectTarget) (Json.mem_items_of_get? hmain.entry)
  rw [← listedAssets_eq_iff hsections hproject hversions hruntime]
  constructor
  · intro hselects
    exact hselects.sequence
  · intro heq
    refine ⟨heq, nodup_projectAssets itemKey hsections hproject, fun a => ?_, ?_, ?_⟩
    · rw [heq]
      exact mem_directAssets hsections hproject hversions hruntime
    · intro projectDeps pre itm post hdeps hitems hmissing
      rw [heq]
      exact directAssets_missing hruntime hdeps hitems hmissing
    · obtain ⟨r, hr⟩ : Lib.Returns (buildTpaList pl depsFile deps) := htyped.returns hmain
      refine ⟨r, hr, ?_⟩
      rw [map_path_listedAssets, buildTpaList_eq_ok hmain hslash hr]

/-- The application and its library. -/
theorem selectsDirectAssets_appDoc :
    SelectsDirectAssets unix appDeps appDoc
      (targetOf [(lit "App/1.0", [(lit "Lib", lit "1.0")], [lit "App.dll"]),
        (lit "Lib/1.0", [], [lit "Lib.dll"])])
      (lit "App/1.0") (targetEntry [(lit "Lib", lit "1.0")] [lit "App.dll"]) := by
  have hmain : MainProject appDoc _ (lit "App/1.0")
      (targetEntry [(lit "Lib", lit "1.0")] [lit "App.dll"]) := mainProject_depsDoc ⟨_, rfl⟩ rfl
  refine (selectsDirectAssets_iff unix appDeps (wellTyped_depsDoc _ _) hmain (by decide)
    ⟨_, rfl⟩).mpr ?_
  intro projectDeps name version hdeps hget hnul
  obtain rfl : projectDeps = .object [(lit "Lib", .string (lit "1.0"))] :=
    (Option.some.inj hdeps).symm
  have hmem := Json.mem_of_get? hget
  simp only [List.mem_singleton, Prod.mk.injEq, Json.string.injEq] at hmem
  obtain ⟨rfl, rfl⟩ := hmem
  exact absurd hnul (by decide)

/-- The library whose name holds a NUL is in the runtime target, and its
assembly is not listed. -/
theorem nul_dependency_dropped :
    WellTyped (depsDoc [lit "App/1.0"] nulEntries) (targetOf nulEntries)
        (projectsOf [lit "App/1.0"]) ∧
      buildTpaList unix appDeps (depsDoc [lit "App/1.0"] nulEntries)
        = .ok ⟨lit "App/1.0", lit "App, Version=1.0", lit "/app/App.dll"⟩ ∧
      ∃ entry rt, MainProject (depsDoc [lit "App/1.0"] nulEntries) (targetOf nulEntries)
          (lit "App/1.0") entry ∧ entry.get? (lit "runtime") = some rt ∧
        ¬ SelectsDirectAssets unix appDeps (depsDoc [lit "App/1.0"] nulEntries)
          (targetOf nulEntries) (lit "App/1.0") entry := by
  refine ⟨wellTyped_depsDoc _ _, rfl,
    targetEntry [(lit "A" ++ [0#8], lit "1.0")] [lit "App.dll"], _,
    mainProject_depsDoc ⟨_, rfl⟩ rfl, rfl, fun hselects => ?_⟩
  exact absurd hselects.sequence (by decide)

end EzDotnet.MonoCoreClr
