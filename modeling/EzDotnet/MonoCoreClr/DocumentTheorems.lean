/-
EzDotnet.MonoCoreClr.DocumentTheorems — the well-typed deps documents: each
that has a project has a first one, and `build_tpa_list` returns on it
(`WellTyped.depsSafe`).

`depsDoc` builds such documents out of the names of the projects and the
entries of the runtime target.
-/
import EzDotnet.MonoCoreClr.HostTheorems

namespace EzDotnet.MonoCoreClr

/-- A deps document whose members have the types that the format gives them;
`frameworkTarget` is its runtime target and `libraries` its libraries. -/
structure WellTyped (deps frameworkTarget libraries : Json) : Prop where
  target : FrameworkTarget deps frameworkTarget
  targetObject : frameworkTarget.IsObject
  found : deps.get? (lit "libraries") = some libraries
  librariesObject : libraries.IsObject
  types : ∀ x ∈ libraries.items, ∀ t, x.2.get? (lit "type") = some t → t.IsString
  sections : ∀ x ∈ frameworkTarget.items,
    ∀ name ∈ [lit "runtime", lit "native", lit "dependencies"], ∀ v,
      x.2.get? name = some v → v.IsObject
  versions : ∀ x ∈ frameworkTarget.items, ∀ projectDeps,
    x.2.get? (lit "dependencies") = some projectDeps →
      ∀ y ∈ projectDeps.items, y.2.IsString

variable {pl : Platform} {depsFile : Str} {deps frameworkTarget libraries : Json}

/-! ## The first project of a well-typed document -/

/-- Where all types are strings, a project has a first one. -/
theorem exists_firstProject {libs : List (Str × Json)}
    (htypes : ∀ x ∈ libs, ∀ t, x.2.get? (lit "type") = some t → t.IsString)
    (h : ∃ x ∈ libs, x.2.get? (lit "type") = some (.string (lit "project"))) :
    ∃ project, FirstProject libs project := by
  induction libs with
  | nil =>
    obtain ⟨x, hx, -⟩ := h
    cases hx
  | cons x libs ih =>
    obtain ⟨hx, hlibs⟩ := List.forall_mem_cons.mp htypes
    by_cases hproject : x.2.get? (lit "type") = some (.string (lit "project"))
    · exact ⟨x.1, [], x.2, libs, rfl, by simp, hproject⟩
    · have hskip : NotProject x.2 := by
        intro t ht
        obtain ⟨s, rfl⟩ := hx t ht
        refine ⟨s, rfl, ?_⟩
        rintro rfl
        exact hproject ht
      have hrest : ∃ y ∈ libs, y.2.get? (lit "type") = some (.string (lit "project")) := by
        obtain ⟨y, hy, htype⟩ := h
        rcases List.mem_cons.mp hy with rfl | hy
        · exact absurd htype hproject
        · exact ⟨y, hy, htype⟩
      obtain ⟨project, pre, item, post, heq, hpre, hitem⟩ := ih hlibs hrest
      exact ⟨project, x :: pre, item, post, by rw [heq]; rfl,
        List.forall_mem_cons.mpr ⟨hskip, hpre⟩, hitem⟩

/-- A well-typed document with a first project is safe. -/
theorem WellTyped.depsSafe (htyped : WellTyped deps frameworkTarget libraries) {project : Str}
    (hfirst : FirstProject libraries.items project) : DepsSafe deps := by
  constructor
  · intro rt n hrt hn
    obtain ⟨rt', name, targets, hrt', hname, -, -⟩ := htyped.target
    obtain rfl := Option.some.inj (hrt.symm.trans hrt')
    exact ⟨name, Option.some.inj (hn.symm.trans hname)⟩
  · intro fw libs htarget hlibs
    obtain rfl := FrameworkTarget.unique htyped.target htarget
    obtain rfl := Option.some.inj (htyped.found.symm.trans hlibs)
    refine ⟨project, hfirst, fun entry hentry _ rt projectDeps _ hdeps => ?_⟩
    exact htyped.versions (project, entry) (Json.mem_items_of_get? hentry) projectDeps hdeps

/-- So `build_tpa_list` returns on one with a main project. -/
theorem WellTyped.returns (htyped : WellTyped deps frameworkTarget libraries) {project : Str}
    {projectTarget : Json} (hmain : MainProject deps frameworkTarget project projectTarget) :
    Lib.Returns (buildTpaList pl depsFile deps) := by
  obtain ⟨libraries', hfound, hfirst⟩ := hmain.first
  obtain rfl := Option.some.inj (htyped.found.symm.trans hfound)
  exact returns_buildTpaList.mpr (htyped.depsSafe hfirst)

/-! ## Sample documents -/

/-- An entry of a target: dependencies with their versions, and the keys of
the `runtime` section. -/
def targetEntry (dependencies : List (Str × Str)) (runtime : List Str) : Json :=
  .object
    [(lit "dependencies", .object (dependencies.map fun x => (x.1, .string x.2))),
      (lit "runtime", .object (runtime.map fun k => (k, .object [])))]

def targetOf (entries : List (Str × List (Str × Str) × List Str)) : Json :=
  .object (entries.map fun x => (x.1, targetEntry x.2.1 x.2.2))

def projectsOf (projects : List Str) : Json :=
  .object (projects.map fun p => (p, .object [(lit "type", .string (lit "project"))]))

/-- A document with these libraries of type `project` and these entries of
the runtime target. -/
def depsDoc (projects : List Str) (entries : List (Str × List (Str × Str) × List Str)) : Json :=
  .object [(lit "runtimeTarget", .object [(lit "name", .string (lit "net8.0"))]),
    (lit "targets", .object [(lit "net8.0", targetOf entries)]),
    (lit "libraries", projectsOf projects)]

theorem mainProject_depsDoc {projects : List Str}
    {entries : List (Str × List (Str × Str) × List Str)} {project : Str} {entry : Json}
    (hfound : ∃ item, findProject (projectsOf projects).items = .ok (some (project, item)))
    (hentry : (targetOf entries).get? project = some entry) :
    MainProject (depsDoc projects entries) (targetOf entries) project entry where
  target := ⟨_, lit "net8.0", _, rfl, rfl, rfl, rfl⟩
  first := ⟨_, rfl, findProject_eq_some.mp hfound⟩
  entry := hentry

theorem wellTyped_depsDoc (projects : List Str)
    (entries : List (Str × List (Str × Str) × List Str)) :
    WellTyped (depsDoc projects entries) (targetOf entries) (projectsOf projects) where
  target := ⟨_, lit "net8.0", _, rfl, rfl, rfl, rfl⟩
  targetObject := ⟨_, rfl⟩
  found := rfl
  librariesObject := ⟨_, rfl⟩
  types x hx t ht := by
    obtain ⟨p, -, rfl⟩ := List.mem_map.mp (Json.mem_of_mem_items hx)
    have hmem := Json.mem_of_get? ht
    simp only [List.mem_singleton, Prod.mk.injEq, true_and] at hmem
    exact ⟨_, hmem⟩
  sections x hx name _ v hv := by
    obtain ⟨entry, -, rfl⟩ := List.mem_map.mp (Json.mem_of_mem_items hx)
    have hmem := Json.mem_of_get? hv
    simp only [List.mem_cons, Prod.mk.injEq, List.not_mem_nil, or_false] at hmem
    rcases hmem with ⟨-, rfl⟩ | ⟨-, rfl⟩
    · exact ⟨_, rfl⟩
    · exact ⟨_, rfl⟩
  versions x hx projectDeps hdeps y hy := by
    obtain ⟨entry, -, rfl⟩ := List.mem_map.mp (Json.mem_of_mem_items hx)
    obtain rfl : projectDeps = .object (entry.2.1.map fun x => (x.1, .string x.2)) :=
      (Option.some.inj hdeps).symm
    obtain ⟨z, -, rfl⟩ := List.mem_map.mp (Json.mem_of_mem_items hy)
    exact ⟨_, rfl⟩

/-- An application and a library, both projects. -/
def appDoc : Json :=
  depsDoc [lit "App/1.0", lit "Lib/1.0"]
    [(lit "App/1.0", [(lit "Lib", lit "1.0")], [lit "App.dll"]),
      (lit "Lib/1.0", [], [lit "Lib.dll"])]

/-- A runtime in which everything works, with the deps file of `appDoc`. -/
def appEnv : InitEnv := runtimeWith (.json appDoc)

end EzDotnet.MonoCoreClr
