/-
EzDotnet.MonoCoreClr.DepsJsonTheorems — what `build_tpa_list` finds in a
document, and which documents it survives.

  * `findProject_eq_some`     the project is the FIRST library of type
                              `project` in the order of the items;
  * `buildTpaList_returns`    the documents that the function returns on
                              (`DepsSafe`), whatever they look like;
  * `listAssets_eq_ok`        the list is the joined sequence of the direct
                              assets of the project (`projectItems`).
-/
import EzDotnet.Lib.Outcome
import EzDotnet.Lib.Separated
import EzDotnet.MonoCoreClr.DepsJson

namespace EzDotnet.MonoCoreClr

open Lib (Returns bind_eq_ok returns_bind_iff)

/-! ## `json_get_opt` -/

@[simp] theorem jsonGetOpt_asJson (j : Json) (key : Str) :
    jsonGetOpt asJson j key = .ok (j.get? key) := by
  unfold jsonGetOpt
  cases j.get? key <;> rfl

theorem asString_eq_ok {j : Json} {s : Str} : asString j = .ok s ↔ j = .string s := by
  cases j <;> simp [asString]

theorem returns_asString {j : Json} : Returns (asString j) ↔ j.IsString := by
  unfold Returns Json.IsString
  simp only [asString_eq_ok]

theorem jsonGetOpt_asString_none {j : Json} {key : Str} :
    jsonGetOpt asString j key = .ok none ↔ j.get? key = none := by
  unfold jsonGetOpt
  cases j.get? key with
  | none => simp
  | some v => cases v <;> simp [asString, Except.map]

theorem jsonGetOpt_asString_some {j : Json} {key s : Str} :
    jsonGetOpt asString j key = .ok (some s) ↔ j.get? key = some (.string s) := by
  unfold jsonGetOpt
  cases j.get? key with
  | none => simp
  | some v => cases v <;> simp [asString, Except.map]

/-! ## The project -/

/-- The search passes this library over. -/
def NotProject (libItem : Json) : Prop :=
  ∀ t, libItem.get? (lit "type") = some t → ∃ s, t = .string s ∧ s ≠ lit "project"

/-- The first library of type `project`; no library before it has a type
that is no string. -/
def FirstProject (libs : List (Str × Json)) (project : Str) : Prop :=
  ∃ pre libItem post, libs = pre ++ (project, libItem) :: post ∧
    (∀ x ∈ pre, NotProject x.2) ∧ libItem.get? (lit "type") = some (.string (lit "project"))

theorem findProject_cons (libName : Str) (libItem : Json) (rest : List (Str × Json)) :
    findProject ((libName, libItem) :: rest) =
      (jsonGetOpt asString libItem (lit "type") >>= fun
        | none => findProject rest
        | some libType =>
          if libType = lit "project" then pure (some (libName, libItem))
          else findProject rest) := rfl

theorem findProject_cons_project {libName : Str} {libItem : Json} {rest : List (Str × Json)}
    (h : libItem.get? (lit "type") = some (.string (lit "project"))) :
    findProject ((libName, libItem) :: rest) = .ok (some (libName, libItem)) := by
  rw [findProject_cons, jsonGetOpt_asString_some.mpr h]
  rfl

theorem findProject_cons_notProject {libName : Str} {libItem : Json}
    {rest : List (Str × Json)} (h : NotProject libItem) :
    findProject ((libName, libItem) :: rest) = findProject rest := by
  rw [findProject_cons]
  cases htype : libItem.get? (lit "type") with
  | none =>
    rw [jsonGetOpt_asString_none.mpr htype]
    rfl
  | some t =>
    obtain ⟨s, rfl, hs⟩ := h t htype
    rw [jsonGetOpt_asString_some.mpr htype]
    exact if_neg hs

/-- The search returns something only through libraries it passes over. -/
theorem findProject_cons_eq_ok {libName : Str} {libItem : Json} {rest : List (Str × Json)}
    {r : Option (Str × Json)} (h : findProject ((libName, libItem) :: rest) = .ok r) :
    (libItem.get? (lit "type") = some (.string (lit "project")) ∧
        r = some (libName, libItem)) ∨
      (NotProject libItem ∧ findProject rest = .ok r) := by
  rw [findProject_cons] at h
  obtain ⟨t, ht, hr⟩ := bind_eq_ok.mp h
  cases t with
  | none =>
    refine .inr ⟨fun t htype => ?_, hr⟩
    rw [jsonGetOpt_asString_none.mp ht] at htype
    cases htype
  | some libType =>
    have htype := jsonGetOpt_asString_some.mp ht
    dsimp only at hr
    split at hr
    · next hproject => exact .inl ⟨hproject ▸ htype, (Except.ok.inj hr).symm⟩
    · next hother =>
      refine .inr ⟨fun t ht' => ?_, hr⟩
      rw [htype] at ht'
      exact ⟨libType, (Option.some.inj ht').symm, hother⟩

theorem findProject_append {pre rest : List (Str × Json)} (hpre : ∀ x ∈ pre, NotProject x.2) :
    findProject (pre ++ rest) = findProject rest := by
  induction pre with
  | nil => rfl
  | cons x pre ih =>
    obtain ⟨hx, hpre⟩ := List.forall_mem_cons.mp hpre
    rw [List.cons_append, findProject_cons_notProject hx, ih hpre]

theorem findProject_eq_some {libs : List (Str × Json)} {project : Str} :
    (∃ libItem, findProject libs = .ok (some (project, libItem))) ↔
      FirstProject libs project := by
  constructor
  · intro hex
    obtain ⟨libItem, h⟩ := hex
    induction libs with
    | nil => cases h
    | cons x libs ih =>
      obtain ⟨hproject, heq⟩ | ⟨hskip, hrest⟩ := findProject_cons_eq_ok h
      · obtain ⟨rfl, rfl⟩ := Prod.mk.inj (Option.some.inj heq)
        exact ⟨[], x.2, libs, rfl, by simp, hproject⟩
      · obtain ⟨pre, item, post, rfl, hpre, hitem⟩ := ih hrest
        exact ⟨x :: pre, item, post, rfl, List.forall_mem_cons.mpr ⟨hskip, hpre⟩, hitem⟩
  · intro hex
    obtain ⟨pre, libItem, post, rfl, hpre, hitem⟩ := hex
    exact ⟨libItem, by rw [findProject_append hpre, findProject_cons_project hitem]⟩

/-- There is at most one first project. -/
theorem FirstProject.unique {libs : List (Str × Json)} {a b : Str} (ha : FirstProject libs a)
    (hb : FirstProject libs b) : a = b := by
  obtain ⟨i, hi⟩ := findProject_eq_some.mpr ha
  obtain ⟨j, hj⟩ := findProject_eq_some.mpr hb
  rw [hi] at hj
  exact (Prod.mk.inj (Option.some.inj (Except.ok.inj hj))).1

/-! ## The list -/

variable {pl : Platform} {depsDir : Str}

/-- The items that a `runtime` or `native` section contributes. -/
def dllItems (pl : Platform) (depsDir : Str) (libs : Json) : List Str :=
  (libs.items.filter fun lib => IsDll lib.1).map fun lib => pl.join depsDir lib.1

/-- The items of the section `name` of a target entry, if it has one. -/
def sectionItems (pl : Platform) (depsDir : Str) (targetItem : Json) (name : Str) : List Str :=
  match targetItem.get? name with
  | some libs => dllItems pl depsDir libs
  | none => []

/-- Without a NUL, a dependency is looked up under the name of its library. -/
theorem itemKey_eq {name version : Str} (hname : 0#8 ∉ name) (hversion : 0#8 ∉ version) :
    itemKey name version = name ++ slash :: version := by
  unfold itemKey
  rw [cstr_eq_self hname, cstr_eq_self hversion]
  simp

/-- The items that one dependency of the project contributes. -/
def dependencyItems (pl : Platform) (depsDir : Str) (frameworkTarget : Json) :
    Str × Json → List Str
  | (name, .string version) =>
    match frameworkTarget.get? (itemKey name version) with
    | some targetItem =>
      sectionItems pl depsDir targetItem (lit "runtime") ++
        sectionItems pl depsDir targetItem (lit "native")
    | none => []
  | _ => []

/-- The items of a project: none without a `runtime` section. -/
def projectItems (pl : Platform) (depsDir : Str) (frameworkTarget projectTarget : Json) :
    List Str :=
  match projectTarget.get? (lit "runtime") with
  | none => []
  | some projectRt =>
    dllItems pl depsDir projectRt ++
      match projectTarget.get? (lit "dependencies") with
      | none => []
      | some projectDeps =>
        projectDeps.items.flatMap (dependencyItems pl depsDir frameworkTarget)

theorem appendDlls_eq (t : Tpa) (libs : Json) :
    appendDlls pl depsDir t libs = (dllItems pl depsDir libs).foldl (Tpa.append pl) t := by
  unfold appendDlls dllItems
  rw [List.foldl_map, List.foldl_filter]
  simp only [decide_eq_true_eq]

theorem append_section (t : Tpa) (targetItem : Json) (name : Str) :
    (match targetItem.get? name with
      | some libs => appendDlls pl depsDir t libs
      | none => t) = (sectionItems pl depsDir targetItem name).foldl (Tpa.append pl) t := by
  unfold sectionItems
  cases targetItem.get? name with
  | none => rfl
  | some libs => exact appendDlls_eq t libs

theorem addDependency_eq_ok {frameworkTarget : Json} {t t' : Tpa} {itm : Str × Json}
    (h : addDependency pl depsDir frameworkTarget t itm = .ok t') :
    t' = (dependencyItems pl depsDir frameworkTarget itm).foldl (Tpa.append pl) t := by
  obtain ⟨name, value⟩ := itm
  obtain ⟨version, hversion, h⟩ := bind_eq_ok.mp h
  obtain rfl := asString_eq_ok.mp hversion
  obtain ⟨found, hfound, h⟩ := bind_eq_ok.mp h
  rw [jsonGetOpt_asJson] at hfound
  obtain rfl := Except.ok.inj hfound
  unfold dependencyItems
  dsimp only at h ⊢
  cases htarget : frameworkTarget.get? (itemKey name version) with
  | none =>
    rw [htarget] at h
    exact (Except.ok.inj h).symm
  | some targetItem =>
    rw [htarget] at h
    dsimp only at h ⊢
    rw [List.foldl_append, ← append_section, ← append_section]
    simp only [jsonGetOpt_asJson] at h
    exact (Except.ok.inj h).symm

theorem returns_addDependency (frameworkTarget : Json) (t : Tpa) (itm : Str × Json) :
    Returns (addDependency pl depsDir frameworkTarget t itm) ↔ itm.2.IsString := by
  rw [← returns_asString]
  refine Lib.returns_bind_of fun version => ?_
  rw [jsonGetOpt_asJson]
  cases frameworkTarget.get? (itemKey itm.1 version) with
  | none => exact Lib.returns_pure _
  | some targetItem =>
    simp only [jsonGetOpt_asJson]
    exact Lib.returns_ok _

/-- `tpa_append` separates the items. -/
theorem foldl_append_tpa (items : List Str) :
    (items.foldl (Tpa.append pl) {}).tpa = [pl.tpaSeparator].intercalate items := by
  have hlater : ∀ (items : List Str) (s : Str), items.foldl (Tpa.append pl) ⟨false, s⟩
      = ⟨false, items.foldl (fun text x => text ++ [pl.tpaSeparator] ++ x) s⟩ := by
    intro items
    induction items with
    | nil => intro s; rfl
    | cons x items ih => intro s; exact ih _
  cases items with
  | nil => rfl
  | cons x items =>
    rw [List.foldl_cons, show Tpa.append pl {} x = ⟨false, x⟩ from rfl, hlater,
      Lib.foldl_separated]

/-- When the assets can be listed, the list is that of the project's items,
in order. -/
theorem listAssets_eq_ok {frameworkTarget projectTarget : Json} {tpa : Str}
    (h : listAssets pl depsDir frameworkTarget projectTarget = .ok tpa) :
    tpa = [pl.tpaSeparator].intercalate
      (projectItems pl depsDir frameworkTarget projectTarget) := by
  unfold listAssets at h
  unfold projectItems
  simp only [jsonGetOpt_asJson, Lib.ok_bind] at h
  cases hrt : projectTarget.get? (lit "runtime") with
  | none =>
    rw [hrt] at h
    exact (Except.ok.inj h).symm
  | some projectRt =>
    rw [hrt] at h
    cases hdeps : projectTarget.get? (lit "dependencies") with
    | none =>
      rw [hdeps] at h
      rw [← Except.ok.inj h, appendDlls_eq, foldl_append_tpa]
      dsimp only
      rw [List.append_nil]
    | some projectDeps =>
      rw [hdeps] at h
      obtain ⟨t, ht, h⟩ := bind_eq_ok.mp h
      have hloop := Lib.foldlM_eq_ok
        (g := fun t itm =>
          (dependencyItems pl depsDir frameworkTarget itm).foldl (Tpa.append pl) t)
        addDependency_eq_ok ht
      rw [← Except.ok.inj h, hloop, appendDlls_eq, ← List.foldl_flatMap, ← List.foldl_append,
        foldl_append_tpa]

/-! ## Documents that the function returns on -/

/-- If the assets of the project come to the dependencies, their versions
are strings. -/
def AssetsSafe (projectTarget : Json) : Prop :=
  ∀ projectRt projectDeps, projectTarget.get? (lit "runtime") = some projectRt →
    projectTarget.get? (lit "dependencies") = some projectDeps →
      ∀ x ∈ projectDeps.items, x.2.IsString

theorem returns_listAssets (frameworkTarget projectTarget : Json) :
    Returns (listAssets pl depsDir frameworkTarget projectTarget) ↔
      AssetsSafe projectTarget := by
  unfold listAssets AssetsSafe
  simp only [jsonGetOpt_asJson, Lib.ok_bind]
  cases projectTarget.get? (lit "runtime") with
  | none => simp
  | some projectRt =>
    cases projectTarget.get? (lit "dependencies") with
    | none => simp
    | some projectDeps =>
      simp only [Option.some.injEq, forall_apply_eq_imp_iff, forall_eq']
      rw [Lib.returns_bind_of fun t => Lib.returns_pure _]
      exact Lib.returns_foldlM_iff
        (fun t itm => returns_addDependency frameworkTarget t itm) _ _

/-- The project's own target entry, if the function comes to it, is safe. -/
def ProjectSafe (frameworkTarget : Json) (project : Str) : Prop :=
  ∀ projectTarget, frameworkTarget.get? project = some projectTarget → slash ∈ project →
    AssetsSafe projectTarget

theorem returns_listProject (frameworkTarget : Json) (project : Str) :
    Returns (listProject pl depsDir frameworkTarget project) ↔
      ProjectSafe frameworkTarget project := by
  unfold listProject ProjectSafe
  simp only [jsonGetOpt_asJson, Lib.ok_bind]
  cases frameworkTarget.get? project with
  | none => simp
  | some projectTarget =>
    simp only [Option.some.injEq, forall_eq']
    by_cases hslash : slash ∈ project
    · rw [if_pos hslash, Lib.returns_bind_of fun tpa => Lib.returns_pure _,
        returns_listAssets]
      simp [hslash]
    · rw [if_neg hslash]
      simp [hslash]

/-- The runtime target of the document is `frameworkTarget`. -/
def FrameworkTarget (deps frameworkTarget : Json) : Prop :=
  ∃ runtimeTarget name allTargets, deps.get? (lit "runtimeTarget") = some runtimeTarget ∧
    runtimeTarget.get? (lit "name") = some (.string name) ∧
    deps.get? (lit "targets") = some allTargets ∧ allTargets.get? name = some frameworkTarget

/-- The documents that `build_tpa_list` returns on. -/
structure DepsSafe (deps : Json) : Prop where
  /-- the name of the runtime target, if the document has one, is a string -/
  name : ∀ runtimeTarget n, deps.get? (lit "runtimeTarget") = some runtimeTarget →
    runtimeTarget.get? (lit "name") = some n → n.IsString
  /-- the libraries, if the function comes to them, have a first project, and
  it is safe -/
  project : ∀ frameworkTarget libraries, FrameworkTarget deps frameworkTarget →
    deps.get? (lit "libraries") = some libraries →
      ∃ project, FirstProject libraries.items project ∧ ProjectSafe frameworkTarget project

theorem FrameworkTarget.unique {deps a b : Json} (ha : FrameworkTarget deps a)
    (hb : FrameworkTarget deps b) : a = b := by
  obtain ⟨rt, name, targets, hrt, hname, htargets, ha⟩ := ha
  obtain ⟨rt', name', targets', hrt', hname', htargets', hb⟩ := hb
  obtain rfl := Option.some.inj (hrt.symm.trans hrt')
  obtain rfl := Json.string.inj (Option.some.inj (hname.symm.trans hname'))
  obtain rfl := Option.some.inj (htargets.symm.trans htargets')
  exact Option.some.inj (ha.symm.trans hb)

variable {depsFile : Str} {deps : Json}

/-- Where the runtime target and the libraries are found, the rest is the
search for the project and its listing. -/
theorem buildTpaList_libraries {frameworkTarget libraries : Json}
    (htarget : FrameworkTarget deps frameworkTarget)
    (hlibs : deps.get? (lit "libraries") = some libraries) :
    buildTpaList pl depsFile deps =
      (findProject libraries.items >>= fun
        | none => throw .emptyOptional
        | some (project, _) =>
          listProject pl (pl.parentPath depsFile) frameworkTarget project) := by
  obtain ⟨runtimeTarget, name, allTargets, hrt, hname, htargets, hfw⟩ := htarget
  have hreached : buildTpaList pl depsFile deps = buildTpaList pl depsFile deps := rfl
  conv_rhs at hreached => unfold buildTpaList
  simp only [jsonGetOpt_asJson, hrt, htargets, hlibs, jsonGetOpt_asString_some.mpr hname, hfw,
    Lib.ok_bind] at hreached
  exact hreached

/-- Where one of them is not found, the result is the empty one. -/
theorem buildTpaList_eq_empty (hname : ∀ runtimeTarget n,
      deps.get? (lit "runtimeTarget") = some runtimeTarget →
        runtimeTarget.get? (lit "name") = some n → n.IsString)
    (h : ∀ frameworkTarget libraries, FrameworkTarget deps frameworkTarget →
      deps.get? (lit "libraries") ≠ some libraries) :
    buildTpaList pl depsFile deps = .ok {} := by
  unfold buildTpaList
  simp only [jsonGetOpt_asJson, Lib.ok_bind]
  cases hrt : deps.get? (lit "runtimeTarget") with
  | none => rfl
  | some runtimeTarget =>
    cases hn : runtimeTarget.get? (lit "name") with
    | none =>
      simp only [jsonGetOpt_asString_none.mpr hn, Lib.ok_bind]
      rfl
    | some n =>
      obtain ⟨name, rfl⟩ := hname runtimeTarget n hrt hn
      simp only [jsonGetOpt_asString_some.mpr hn, Lib.ok_bind]
      cases htargets : deps.get? (lit "targets") with
      | none => rfl
      | some allTargets =>
        cases hfw : allTargets.get? name with
        | none =>
          simp only [hfw]
          rfl
        | some frameworkTarget =>
          cases hlibs : deps.get? (lit "libraries") with
          | none =>
            simp only [hfw]
            rfl
          | some libraries =>
            exact absurd hlibs
              (h frameworkTarget libraries ⟨_, _, _, hrt, hn, htargets, hfw⟩)

/-- The function fails on a name that is no string. -/
theorem buildTpaList_name {runtimeTarget n : Json}
    (hrt : deps.get? (lit "runtimeTarget") = some runtimeTarget)
    (hn : runtimeTarget.get? (lit "name") = some n)
    (h : Returns (buildTpaList pl depsFile deps)) : n.IsString := by
  unfold buildTpaList at h
  simp only [jsonGetOpt_asJson, hrt, Lib.ok_bind] at h
  obtain ⟨name, hname, -⟩ := returns_bind_iff.mp h
  cases name with
  | none =>
    rw [jsonGetOpt_asString_none.mp hname] at hn
    cases hn
  | some s =>
    rw [jsonGetOpt_asString_some.mp hname] at hn
    exact ⟨s, (Option.some.inj hn).symm⟩

/-- `build_tpa_list` returns on the safe documents and on no other. -/
theorem returns_buildTpaList : Returns (buildTpaList pl depsFile deps) ↔ DepsSafe deps := by
  constructor
  · intro h
    refine ⟨fun rt n hrt hn => buildTpaList_name hrt hn h, fun fw libs htarget hlibs => ?_⟩
    rw [buildTpaList_libraries htarget hlibs] at h
    obtain ⟨found, hfound, hrest⟩ := returns_bind_iff.mp h
    cases found with
    | none => exact absurd hrest (Lib.not_returns_throw _)
    | some entry =>
      exact ⟨entry.1, findProject_eq_some.mp ⟨entry.2, hfound⟩,
        (returns_listProject _ _).mp hrest⟩
  · intro hsafe
    by_cases hreached : ∃ fw libs, FrameworkTarget deps fw ∧
        deps.get? (lit "libraries") = some libs
    · obtain ⟨fw, libs, htarget, hlibs⟩ := hreached
      obtain ⟨project, hfirst, hproject⟩ := hsafe.project fw libs htarget hlibs
      obtain ⟨libItem, hfound⟩ := findProject_eq_some.mpr hfirst
      rw [buildTpaList_libraries htarget hlibs, hfound, Lib.ok_bind]
      exact (returns_listProject _ _).mpr hproject
    · rw [buildTpaList_eq_empty hsafe.name
        fun fw libs htarget hlibs => hreached ⟨fw, libs, htarget, hlibs⟩]
      exact Lib.returns_ok _

/-! ## The result -/

/-- What the document says of the project that the search finds: its entry
in the runtime target. -/
structure MainProject (deps frameworkTarget : Json) (project : Str) (projectTarget : Json) :
    Prop where
  target : FrameworkTarget deps frameworkTarget
  first : ∃ libraries, deps.get? (lit "libraries") = some libraries ∧
    FirstProject libraries.items project
  entry : frameworkTarget.get? project = some projectTarget

/-- The display name of a library `name/version`. -/
def displayName (library : Str) : Str :=
  fqdn (library.takeWhile (· ≠ slash)) (library.dropWhile (· ≠ slash)).tail

/-- With a versioned project, the result names it and lists its items. -/
theorem buildTpaList_eq_ok {frameworkTarget projectTarget : Json} {project : Str} {r : Ctx}
    (hmain : MainProject deps frameworkTarget project projectTarget) (hslash : slash ∈ project)
    (h : buildTpaList pl depsFile deps = .ok r) :
    r = ⟨project, displayName project, [pl.tpaSeparator].intercalate
      (projectItems pl (pl.parentPath depsFile) frameworkTarget projectTarget)⟩ := by
  obtain ⟨libraries, hlibs, hfirst⟩ := hmain.first
  obtain ⟨libItem, hfound⟩ := findProject_eq_some.mpr hfirst
  rw [buildTpaList_libraries hmain.target hlibs, hfound, Lib.ok_bind] at h
  unfold listProject at h
  simp only [jsonGetOpt_asJson, Lib.ok_bind, hmain.entry] at h
  rw [if_pos hslash] at h
  obtain ⟨tpa, htpa, h⟩ := bind_eq_ok.mp h
  rw [← listAssets_eq_ok htpa]
  exact (Except.ok.inj h).symm

end EzDotnet.MonoCoreClr
