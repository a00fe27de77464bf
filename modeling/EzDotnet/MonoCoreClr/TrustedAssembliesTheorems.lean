/-
EzDotnet.MonoCoreClr.TrustedAssembliesTheorems — which files the list of
trusted assemblies has.

It has the assemblies of the libraries that the main project names itself
(`directDependency_listed`) and stops there: what only a dependency of a
dependency needs is left out (`dependencies_left_out`).
-/
import Mathlib.Logic.Relation
import EzDotnet.MonoCoreClr.DocumentTheorems

namespace EzDotnet.MonoCoreClr

open Relation (TransGen)

variable {pl : Platform} {depsFile : Str} {deps frameworkTarget libraries : Json}

/-! ## The trusted assemblies -/

/-- An edge of the dependency graph: the target entry of `a` has a dependency
`name` with a version, and `b` is the entry it leads to. -/
def DependsOn (frameworkTarget : Json) (a b : Str) : Prop :=
  ∃ entry dependencies name version, frameworkTarget.get? a = some entry ∧
    entry.get? (lit "dependencies") = some dependencies ∧
    (name, Json.string version) ∈ dependencies.items ∧
    b = name ++ slash :: version ∧ (frameworkTarget.get? b).isSome

/-- Every assembly of the `runtime` and `native` sections of the library's
target entry is listed. -/
def AssetsListed (pl : Platform) (depsFile : Str) (frameworkTarget : Json) (tpaList : Str)
    (library : Str) : Prop :=
  ∀ entry libs, frameworkTarget.get? library = some entry →
    entry.get? (lit "runtime") = some libs ∨ entry.get? (lit "native") = some libs →
      ∀ x ∈ libs.items, IsDll x.1 →
        Lib.ListedIn pl.tpaSeparator tpaList (pl.join (pl.parentPath depsFile) x.1)

/-- The list is built, and it has the assemblies of every library that can
be reached from the project. -/
def TpaComplete (pl : Platform) (depsFile : Str) (deps frameworkTarget : Json)
    (project : Str) : Prop :=
  ∃ r, buildTpaList pl depsFile deps = .ok r ∧
    ∀ library, TransGen (DependsOn frameworkTarget) project library →
      AssetsListed pl depsFile frameworkTarget r.tpa_list library

/-- What a dependency's entry lists is among the dependency's items. -/
theorem mem_dependencyItems {depsDir name version : Str} {entry libs : Json}
    (hname : 0#8 ∉ name) (hversion : 0#8 ∉ version)
    (hentry : frameworkTarget.get? (name ++ slash :: version) = some entry)
    (hlibs : entry.get? (lit "runtime") = some libs ∨ entry.get? (lit "native") = some libs)
    {x : Str × Json} (hx : x ∈ libs.items) (hdll : IsDll x.1) :
    pl.join depsDir x.1 ∈
      dependencyItems pl depsDir frameworkTarget (name, .string version) := by
  have hmem : pl.join depsDir x.1 ∈ dllItems pl depsDir libs :=
    List.mem_map.mpr ⟨x, List.mem_filter.mpr ⟨hx, by simpa using hdll⟩, rfl⟩
  unfold dependencyItems
  dsimp only
  rw [itemKey_eq hname hversion, hentry]
  dsimp only
  unfold sectionItems
  rcases hlibs with hlibs | hlibs
  · rw [hlibs]
    exact List.mem_append_left _ hmem
  · rw [hlibs]
    exact List.mem_append_right _ hmem

/-- The assemblies of every dependency that the main project names itself,
under a name and a version without NULs, are listed. -/
theorem directDependency_listed (pl : Platform) (depsFile : Str)
    (htyped : WellTyped deps frameworkTarget libraries) {project : Str} {projectTarget : Json}
    (hmain : MainProject deps frameworkTarget project projectTarget)
    (hslash : slash ∈ project)
    (hruntime : ∃ projectRt, projectTarget.get? (lit "runtime") = some projectRt) :
    ∃ r, buildTpaList pl depsFile deps = .ok r ∧
      ∀ dependencies name version,
        projectTarget.get? (lit "dependencies") = some dependencies →
        (name, Json.string version) ∈ dependencies.items → 0#8 ∉ name → 0#8 ∉ version →
          AssetsListed pl depsFile frameworkTarget r.tpa_list (name ++ slash :: version) := by
  obtain ⟨r, hr⟩ : Lib.Returns (buildTpaList pl depsFile deps) := htyped.returns hmain
  refine ⟨r, hr, ?_⟩
  intro dependencies name version hdeps hedge hname hversion entry libs hentry hlibs x hx hdll
  obtain ⟨projectRt, hrt⟩ := hruntime
  rw [buildTpaList_eq_ok hmain hslash hr]
  refine Lib.listedIn_intercalate ?_
  unfold projectItems
  rw [hrt, hdeps]
  refine List.mem_append_right _ (List.mem_flatMap.mpr ⟨_, hedge, ?_⟩)
  exact mem_dependencyItems hname hversion hentry hlibs hx hdll

/-- The library's assembly is listed, because the application names it. -/
theorem directDependency_listed_appDoc :
    ∃ r, buildTpaList unix (lit "/app/App.deps.json") appDoc = .ok r ∧
      Lib.ListedIn unix.tpaSeparator r.tpa_list (lit "/app/Lib.dll") := by
  have hmain : MainProject appDoc _ (lit "App/1.0")
      (targetEntry [(lit "Lib", lit "1.0")] [lit "App.dll"]) := mainProject_depsDoc ⟨_, rfl⟩ rfl
  obtain ⟨r, hr, hlisted⟩ := directDependency_listed unix (lit "/app/App.deps.json")
    (wellTyped_depsDoc _ _) hmain (by decide) ⟨_, rfl⟩
  refine ⟨r, hr, hlisted _ (lit "Lib") (lit "1.0") rfl ?_ (by decide) (by decide)
    (targetEntry [] [lit "Lib.dll"]) _ rfl (.inl rfl) (lit "Lib.dll", .object []) ?_
    (by decide)⟩
  · exact Json.mem_items_of_get? (j := .object [(lit "Lib", .string (lit "1.0"))]) rfl
  · exact Json.mem_items_of_get? (j := .object [(lit "Lib.dll", .object [])]) rfl

theorem not_tpaComplete {r : Ctx} (hr : buildTpaList pl depsFile deps = .ok r)
    {project library : Str} (hreach : TransGen (DependsOn frameworkTarget) project library)
    {entry libs : Json} (hentry : frameworkTarget.get? library = some entry)
    (hlibs : entry.get? (lit "runtime") = some libs) (key : Str) {v : Json}
    (hkey : libs.get? key = some v) (hdll : IsDll key)
    (hmissing : ¬ pl.join (pl.parentPath depsFile) key <:+: r.tpa_list) :
    ¬ TpaComplete pl depsFile deps frameworkTarget project := by
  intro hex
  obtain ⟨r', hr', hlisted⟩ := hex
  obtain rfl := Except.ok.inj (hr.symm.trans hr')
  have hin := hlisted library hreach entry libs hentry (.inl hlibs) (key, v)
    (Json.mem_items_of_get? hkey) hdll
  exact hmissing hin.isInfix

theorem dependsOn_of (name version : Str) {a : Str} {entry dependencies target : Json}
    (hentry : frameworkTarget.get? a = some entry)
    (hdeps : entry.get? (lit "dependencies") = some dependencies)
    (hedge : dependencies.get? name = some (.string version))
    (htarget : frameworkTarget.get? (name ++ slash :: version) = some target) :
    DependsOn frameworkTarget a (name ++ slash :: version) :=
  ⟨entry, dependencies, name, version, hentry, hdeps, Json.mem_items_of_get? hedge, rfl,
    by rw [htarget]; rfl⟩

/-- `App` needs `A`, and `A` needs `B`. -/
def deepEntries : List (Str × List (Str × Str) × List Str) :=
  [(lit "App/1.0", [(lit "A", lit "1.0")], [lit "App.dll"]),
    (lit "A/1.0", [(lit "B", lit "1.0")], [lit "A.dll"]),
    (lit "B/1.0", [], [lit "B.dll"])]

/-- `App` needs a library whose name holds a NUL. -/
def nulEntries : List (Str × List (Str × Str) × List Str) :=
  [(lit "App/1.0", [(lit "A" ++ [0#8], lit "1.0")], [lit "App.dll"]),
    (lit "A" ++ [0#8] ++ lit "/1.0", [], [lit "A.dll"])]

/-- The project has no version. -/
def unversionedEntries : List (Str × List (Str × Str) × List Str) :=
  [(lit "App", [(lit "A", lit "1.0")], [lit "App.dll"]), (lit "A/1.0", [], [lit "A.dll"])]

def appDeps : Str := lit "/app/App.deps.json"

/-- The dependency of a dependency is left out; so is a direct dependency
whose name is cut at a NUL, and every dependency of a project without a
version. Each document is well-typed, and the target entry of its main
project has a `runtime` section. -/
theorem dependencies_left_out :
    (WellTyped (depsDoc [lit "App/1.0"] deepEntries) (targetOf deepEntries)
        (projectsOf [lit "App/1.0"]) ∧
      (∃ entry rt, MainProject (depsDoc [lit "App/1.0"] deepEntries) (targetOf deepEntries)
        (lit "App/1.0") entry ∧ entry.get? (lit "runtime") = some rt) ∧
      ¬ TpaComplete unix appDeps (depsDoc [lit "App/1.0"] deepEntries)
        (targetOf deepEntries) (lit "App/1.0")) ∧
    (WellTyped (depsDoc [lit "App/1.0"] nulEntries) (targetOf nulEntries)
        (projectsOf [lit "App/1.0"]) ∧
      (∃ entry rt, MainProject (depsDoc [lit "App/1.0"] nulEntries) (targetOf nulEntries)
        (lit "App/1.0") entry ∧ entry.get? (lit "runtime") = some rt) ∧
      ¬ TpaComplete unix appDeps (depsDoc [lit "App/1.0"] nulEntries)
        (targetOf nulEntries) (lit "App/1.0")) ∧
    (WellTyped (depsDoc [lit "App"] unversionedEntries) (targetOf unversionedEntries)
        (projectsOf [lit "App"]) ∧
      (∃ entry rt, MainProject (depsDoc [lit "App"] unversionedEntries)
        (targetOf unversionedEntries) (lit "App") entry ∧
          entry.get? (lit "runtime") = some rt) ∧
      ¬ TpaComplete unix appDeps (depsDoc [lit "App"] unversionedEntries)
        (targetOf unversionedEntries) (lit "App")) := by
  refine ⟨⟨wellTyped_depsDoc _ _, ⟨_, _, mainProject_depsDoc ⟨_, rfl⟩ rfl, rfl⟩, ?_⟩,
    ⟨wellTyped_depsDoc _ _, ⟨_, _, mainProject_depsDoc ⟨_, rfl⟩ rfl, rfl⟩, ?_⟩,
    ⟨wellTyped_depsDoc _ _, ⟨_, _, mainProject_depsDoc ⟨_, rfl⟩ rfl, rfl⟩, ?_⟩⟩
  · have hA : DependsOn (targetOf deepEntries) (lit "App/1.0") (lit "A/1.0") :=
      dependsOn_of (lit "A") (lit "1.0") rfl rfl rfl rfl
    have hB : DependsOn (targetOf deepEntries) (lit "A/1.0") (lit "B/1.0") :=
      dependsOn_of (lit "B") (lit "1.0") rfl rfl rfl rfl
    exact not_tpaComplete
      (r := ⟨lit "App/1.0", lit "App, Version=1.0", lit "/app/App.dll:/app/A.dll"⟩)
      rfl ((TransGen.single hA).tail hB) rfl rfl (lit "B.dll") rfl (by decide) (by decide)
  · have hA : DependsOn (targetOf nulEntries) (lit "App/1.0")
        (lit "A" ++ [0#8] ++ lit "/1.0") :=
      dependsOn_of (lit "A" ++ [0#8]) (lit "1.0") rfl rfl rfl rfl
    exact not_tpaComplete
      (r := ⟨lit "App/1.0", lit "App, Version=1.0", lit "/app/App.dll"⟩)
      rfl (.single hA) rfl rfl (lit "A.dll") rfl (by decide) (by decide)
  · have hA : DependsOn (targetOf unversionedEntries) (lit "App") (lit "A/1.0") :=
      dependsOn_of (lit "A") (lit "1.0") rfl rfl rfl rfl
    exact not_tpaComplete (r := ⟨lit "App", [], []⟩)
      rfl (.single hA) rfl rfl (lit "A.dll") rfl (by decide) (by decide)

end EzDotnet.MonoCoreClr
