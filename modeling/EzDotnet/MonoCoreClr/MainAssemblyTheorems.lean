/-
EzDotnet.MonoCoreClr.MainAssemblyTheorems — which assembly the MonoCoreClr
backend takes for the main one (`rightMainAssembly_iff`).

The document decides, and the path of the caller does not: the main assembly
is the first library of type `project` in key order, whatever its name.
-/
import EzDotnet.MonoCoreClr.DocumentTheorems

namespace EzDotnet.MonoCoreClr

variable {pl : Platform} {depsFile : Str} {deps frameworkTarget libraries : Json}

/-! ## The main assembly -/

/-- `N, Version=V`. -/
def asmDisplayName (name version : Str) : Str := name ++ lit ", Version=" ++ version

/-- The document has the library `name/version`, a project with an entry in
the runtime target. -/
structure HasProject (frameworkTarget libraries : Json) (name version : Str) : Prop where
  library : ∃ item, libraries.get? (name ++ slash :: version) = some item ∧
    item.get? (lit "type") = some (.string (lit "project"))
  entry : ∃ e, frameworkTarget.get? (name ++ slash :: version) = some e

/-- `clrInit` asks for no assembly but `wanted`, and what it binds to the
handle it returns is the image of that assembly. -/
def LoadsNamed (abi : Abi) (s : State) (p d : Str) (env : InitEnv) (wanted : Str) : Prop :=
  (∀ name loaded, MonoCall.loadFull name loaded ∈ (clrInit abi s p d env).calls →
      name = wanted) ∧
    ∀ h, (clrInit abi s p d env).ret = .value h → h ≠ nullAsmHandle →
      ∃ data a, (clrInit abi s p d env).state.gAssemblies[h]? = some data ∧
        env.loadFull wanted = some a ∧ env.image a = some data.m_image

/-- The name that `build_tpa_list` computes, and so the assembly that
`initialize` loads and binds, is `name, Version=version`. -/
def RightMainAssembly (abi : Abi) (s : State) (p d : Str) (env : InitEnv) (deps : Json)
    (name version : Str) : Prop :=
  (∃ r, tpaOf p deps = .ok r ∧ r.main_asm_fqdn = asmDisplayName name version) ∧
    LoadsNamed abi s p d env (asmDisplayName name version)

theorem cstr_fqdn (name version : Str) : cstr (fqdn name version) = fqdn name version := by
  refine cstr_eq_self fun h => ?_
  rcases List.mem_append.mp h with h | h
  · rcases List.mem_append.mp h with h | h
    · exact notMem_cstr name h
    · exact absurd h (by decide)
  · exact notMem_cstr version h

/-- What the result says of the first project: its display name, if it has
an entry in the target and a version, else nothing. -/
theorem main_asm_fqdn_eq (htyped : WellTyped deps frameworkTarget libraries) {project : Str}
    (hfirst : FirstProject libraries.items project) {r : Ctx}
    (h : buildTpaList pl depsFile deps = .ok r) :
    r.main_asm_fqdn =
      if (frameworkTarget.get? project).isSome ∧ slash ∈ project then displayName project
      else [] := by
  cases hentry : frameworkTarget.get? project with
  | some entry =>
    by_cases hslash : slash ∈ project
    · have hmain : MainProject deps frameworkTarget project entry :=
        ⟨htyped.target, ⟨libraries, htyped.found, hfirst⟩, hentry⟩
      rw [buildTpaList_eq_ok hmain hslash h, if_pos ⟨rfl, hslash⟩]
    · obtain ⟨libItem, hfound⟩ := findProject_eq_some.mpr hfirst
      rw [buildTpaList_libraries htyped.target htyped.found, hfound, Lib.ok_bind] at h
      unfold listProject at h
      simp only [jsonGetOpt_asJson, Lib.ok_bind, hentry] at h
      rw [if_neg hslash] at h
      rw [← Except.ok.inj h, if_neg fun hboth => hslash hboth.2]
  | none =>
    obtain ⟨libItem, hfound⟩ := findProject_eq_some.mpr hfirst
    rw [buildTpaList_libraries htyped.target htyped.found, hfound, Lib.ok_bind] at h
    unfold listProject at h
    simp only [jsonGetOpt_asJson, Lib.ok_bind, hentry] at h
    rw [← Except.ok.inj h]
    simp

/-- `initialize` loads and binds the assembly whose name was computed. -/
theorem loadsNamed_of_built {abi : Abi} {s : State} {p d : Str} {env : InitEnv}
    (hnew : (backend abi).key p ∉ s.gAssemblies) (hdeps : readDeps env p = some deps)
    {r : Ctx} (hbuilt : tpaOf p deps = .ok r) :
    LoadsNamed abi s p d env (cstr r.main_asm_fqdn) := by
  obtain ⟨hstate, hret, hcalls⟩ := clrInit_built (d := d) hnew hdeps hbuilt
  refine ⟨hcalls, fun h hh hne => ?_⟩
  rw [hret] at hh
  have hh' := Ret.value.inj hh
  cases himage : imageOf env (cstr r.main_asm_fqdn) with
  | none =>
    rw [himage] at hh'
    exact absurd hh'.symm hne
  | some img =>
    rw [himage] at hh' hstate
    obtain rfl : (backend abi).key p = h := hh'
    unfold imageOf at himage
    split at himage
    · obtain ⟨a, hload, himg⟩ := Option.bind_eq_some_iff.mp himage
      refine ⟨⟨img⟩, a, ?_, hload, himg⟩
      rw [hstate, Lib.getElem?_acquire_of_notMem hnew, if_pos rfl]
      rfl
    · cases himage

/-- Two names of one form are the same when the second is split by its only
comma. -/
theorem asmDisplayName_inj {name version name' version' : Str} (hname : 0x2c#8 ∉ name)
    (hversion : 0x2c#8 ∉ version)
    (h : asmDisplayName name' version' = asmDisplayName name version) :
    name' = name ∧ version' = version := by
  have hlit : lit ", Version=" = 0x2c#8 :: lit " Version=" := rfl
  unfold asmDisplayName at h
  rw [hlit, List.append_assoc, List.append_assoc, List.cons_append] at h
  have hrest : 0x2c#8 ∉ lit " Version=" ++ version := by
    intro hmem
    rcases List.mem_append.mp hmem with hmem | hmem
    · exact absurd hmem (by decide)
    · exact hversion hmem
  obtain ⟨hn, -, hv⟩ := (List.append_cons_inj_of_notMem hname hrest).mp h.symm
  exact ⟨hn.symm, (List.append_cancel_left hv).symm⟩

theorem displayName_of_slash {name version : Str} (hslash : slash ∉ name) :
    displayName (name ++ slash :: version) = fqdn name version := by
  have hall : ∀ c ∈ name, decide (c ≠ slash) = true := by
    intro c hc
    simp only [ne_eq, decide_eq_true_eq]
    rintro rfl
    exact hslash hc
  unfold displayName
  rw [List.takeWhile_append_of_pos hall, List.dropWhile_append_of_pos hall]
  simp

/-- A library is its name and its version around the first slash. -/
theorem split_of_slash_mem {library : Str} (h : slash ∈ library) :
    library.takeWhile (· ≠ slash) ++ slash :: (library.dropWhile (· ≠ slash)).tail
      = library := by
  have hne : library.dropWhile (· ≠ slash) ≠ [] := by
    intro hnil
    have hall := List.dropWhile_eq_nil_iff.mp hnil slash h
    simp at hall
  have hhead : (library.dropWhile (· ≠ slash)).head hne = slash := by
    simpa using List.head_dropWhile_not (· ≠ slash) hne
  conv_rhs => rw [← List.takeWhile_append_dropWhile (p := (· ≠ slash)) (l := library),
    ← List.cons_head_tail hne, hhead]

/-- Without NULs and commas a display name belongs to one library. -/
theorem displayName_eq_iff {library name version : Str} (hlibrary : slash ∈ library)
    (hslash : slash ∉ name) (hnul : 0#8 ∉ library) (hnul' : 0#8 ∉ name ++ slash :: version)
    (hcomma : 0x2c#8 ∉ name) (hcomma' : 0x2c#8 ∉ version) :
    displayName library = asmDisplayName name version ↔ library = name ++ slash :: version := by
  have hfqdn : ∀ n v : Str, 0#8 ∉ n ++ slash :: v → fqdn n v = asmDisplayName n v := by
    intro n v hnone
    unfold fqdn asmDisplayName
    rw [cstr_eq_self fun h => hnone (List.mem_append_left _ h),
      cstr_eq_self fun h => hnone (List.mem_append_right _ (List.mem_cons_of_mem _ h))]
  constructor
  · intro h
    have hsplit := split_of_slash_mem hlibrary
    unfold displayName at h
    rw [hfqdn _ _ (by rwa [hsplit])] at h
    obtain ⟨hn, hv⟩ := asmDisplayName_inj hcomma hcomma' h
    rw [← hsplit, hn, hv]
  · rintro rfl
    rw [displayName_of_slash hslash, hfqdn name version hnul']

/-- The path `dir/name.dll`. -/
def asmPath (dir name : Str) : Str := dir ++ slash :: name ++ lit ".dll"

/-- The main assembly is the one the caller named exactly when the first
project has an entry in the target and the display name of that assembly. -/
theorem rightMainAssembly_iff_displayName {abi : Abi} {s : State} {p d name version : Str}
    {env : InitEnv} (hread : readDeps env p = some deps)
    (hnew : (backend abi).key p ∉ s.gAssemblies)
    (htyped : WellTyped deps frameworkTarget libraries) {project : Str}
    (hfirst : FirstProject libraries.items project) :
    RightMainAssembly abi s p d env deps name version ↔
      ∃ project, FirstProject libraries.items project ∧
        (frameworkTarget.get? project).isSome ∧ slash ∈ project ∧
        displayName project = asmDisplayName name version := by
  obtain ⟨r, hr⟩ : Lib.Returns (tpaOf p deps) :=
    returns_buildTpaList.mpr (htyped.depsSafe hfirst)
  have hfqdn := main_asm_fqdn_eq htyped hfirst hr
  constructor
  · intro hright
    obtain ⟨⟨r', hr', hname⟩, -⟩ := hright
    obtain rfl := Except.ok.inj (hr.symm.trans hr')
    rw [hfqdn] at hname
    split at hname
    · next hboth => exact ⟨project, hfirst, hboth.1, hboth.2, hname⟩
    · exact absurd hname (by simp [asmDisplayName, lit])
  · intro hex
    obtain ⟨project', hfirst', hentry, hslash', hname⟩ := hex
    obtain rfl := hfirst.unique hfirst'
    rw [if_pos ⟨hentry, hslash'⟩] at hfqdn
    have hload := loadsNamed_of_built (d := d) hnew hread hr
    rw [hfqdn, show cstr (displayName project) = displayName project from cstr_fqdn _ _,
      hname] at hload
    exact ⟨⟨r, hr, hfqdn.trans hname⟩, hload⟩

/-- In a document without NULs, and for a name and a version without commas,
only `name/version` itself has its display name. -/
theorem firstProject_displayName_iff {name version : Str}
    (hproject : HasProject frameworkTarget libraries name version) (hslash : slash ∉ name)
    (hnul : ∀ x ∈ libraries.items, 0#8 ∉ x.1) (hcomma : 0x2c#8 ∉ name)
    (hcomma' : 0x2c#8 ∉ version) :
    (∃ project, FirstProject libraries.items project ∧
        (frameworkTarget.get? project).isSome ∧ slash ∈ project ∧
        displayName project = asmDisplayName name version) ↔
      FirstProject libraries.items (name ++ slash :: version) := by
  obtain ⟨item, hitem, -⟩ := hproject.library
  have hnulKey : 0#8 ∉ name ++ slash :: version := hnul _ (Json.mem_items_of_get? hitem)
  constructor
  · intro hex
    obtain ⟨project, hfirst, -, hslash', hname⟩ := hex
    have hnulProject : 0#8 ∉ project := by
      obtain ⟨pre, libItem, post, heq, -, -⟩ := hfirst
      exact hnul (project, libItem) (by rw [heq]; simp)
    rw [displayName_eq_iff hslash' hslash hnulProject hnulKey hcomma hcomma'] at hname
    exact hname ▸ hfirst
  · intro hnamed
    obtain ⟨e, he⟩ := hproject.entry
    exact ⟨_, hnamed, by rw [he]; rfl, by simp,
      (displayName_eq_iff (by simp) hslash hnulKey hnulKey hcomma hcomma').mpr rfl⟩

/-- The main assembly is the one the caller named exactly when the first
project in key order has an entry in the target and has its display name. In
a document without NULs, and for a name and a version without commas, that is
when `name/version` itself is the first project. -/
theorem rightMainAssembly_iff (abi : Abi) {s : State} {dir name d version : Str}
    {env : InitEnv}
    (hdeps : env.depsFile (cstr (getDepsJsonPath (asmPath dir name))) = .json deps)
    (hnew : (backend abi).key (asmPath dir name) ∉ s.gAssemblies)
    (htyped : WellTyped deps frameworkTarget libraries)
    (hproject : HasProject frameworkTarget libraries name version)
    (hslash : slash ∉ name) :
    (RightMainAssembly abi s (asmPath dir name) d env deps name version ↔
      ∃ project, FirstProject libraries.items project ∧
        (frameworkTarget.get? project).isSome ∧ slash ∈ project ∧
        displayName project = asmDisplayName name version) ∧
    ((∀ x ∈ libraries.items, 0#8 ∉ x.1) → 0x2c#8 ∉ name → 0x2c#8 ∉ version →
      (RightMainAssembly abi s (asmPath dir name) d env deps name version ↔
        FirstProject libraries.items (name ++ slash :: version))) := by
  have hread : readDeps env (asmPath dir name) = some deps := by
    unfold readDeps
    rw [hdeps]
    rfl
  obtain ⟨item, hitem, htype⟩ := hproject.library
  obtain ⟨project, hfirst⟩ := exists_firstProject htyped.types
    ⟨_, Json.mem_items_of_get? hitem, htype⟩
  refine ⟨rightMainAssembly_iff_displayName hread hnew htyped hfirst, ?_⟩
  intro hnul hcomma hcomma'
  rw [rightMainAssembly_iff_displayName hread hnew htyped hfirst]
  exact firstProject_displayName_iff hproject hslash hnul hcomma hcomma'

/-- The same with a library that sorts before the application. -/
def shadowedDoc : Json :=
  depsDoc [lit "App/1.0", lit "Aaa/1.0"]
    [(lit "App/1.0", [(lit "Aaa", lit "1.0")], [lit "App.dll"]),
      (lit "Aaa/1.0", [], [lit "Aaa.dll"])]

/-- The application is the first project of its document, so it is loaded. -/
theorem rightMainAssembly_appDoc :
    RightMainAssembly linux64 start (asmPath (lit "/app") (lit "App")) []
        (runtimeWith (.json appDoc)) appDoc (lit "App") (lit "1.0") ∧
      FirstProject (projectsOf [lit "App/1.0", lit "Lib/1.0"]).items (lit "App/1.0") := by
  have hdeps : (runtimeWith (.json appDoc)).depsFile
      (cstr (getDepsJsonPath (asmPath (lit "/app") (lit "App")))) = .json appDoc := rfl
  have hproject : HasProject
      (targetOf [(lit "App/1.0", [(lit "Lib", lit "1.0")], [lit "App.dll"]),
        (lit "Lib/1.0", [], [lit "Lib.dll"])])
      (projectsOf [lit "App/1.0", lit "Lib/1.0"]) (lit "App") (lit "1.0") :=
    ⟨⟨_, rfl, rfl⟩, ⟨_, rfl⟩⟩
  have hiff := rightMainAssembly_iff linux64 (s := start) (d := []) hdeps
    Std.ExtTreeMap.not_mem_empty (wellTyped_depsDoc _ _) hproject (by decide)
  have hright := hiff.1.mpr
    ⟨lit "App/1.0", findProject_eq_some.mp ⟨_, rfl⟩, rfl, by decide, by decide⟩
  have hnul : ∀ x ∈ (projectsOf [lit "App/1.0", lit "Lib/1.0"]).items, 0#8 ∉ x.1 := by
    intro x hx
    obtain ⟨p, hp, rfl⟩ := List.mem_map.mp (Json.mem_of_mem_items hx)
    simp only [List.mem_cons, List.not_mem_nil, or_false] at hp
    rcases hp with rfl | rfl <;> decide
  exact ⟨hright, (hiff.2 hnul (by decide) (by decide)).mp hright⟩

/-- The caller names `App`, and `Aaa` is loaded. -/
theorem loads_shadowing_project :
    WellTyped shadowedDoc
        (targetOf [(lit "App/1.0", [(lit "Aaa", lit "1.0")], [lit "App.dll"]),
          (lit "Aaa/1.0", [], [lit "Aaa.dll"])])
        (projectsOf [lit "App/1.0", lit "Aaa/1.0"]) ∧
      HasProject
        (targetOf [(lit "App/1.0", [(lit "Aaa", lit "1.0")], [lit "App.dll"]),
          (lit "Aaa/1.0", [], [lit "Aaa.dll"])])
        (projectsOf [lit "App/1.0", lit "Aaa/1.0"]) (lit "App") (lit "1.0") ∧
      ¬ RightMainAssembly linux64 start (asmPath (lit "/app") (lit "App")) []
        (runtimeWith (.json shadowedDoc)) shadowedDoc (lit "App") (lit "1.0") ∧
      MonoCall.loadFull (lit "Aaa, Version=1.0") (some 1) ∈
        (clrInit linux64 start (asmPath (lit "/app") (lit "App")) []
          (runtimeWith (.json shadowedDoc))).calls := by
  have hload : MonoCall.loadFull (lit "Aaa, Version=1.0") (some 1) ∈
      (clrInit linux64 start (asmPath (lit "/app") (lit "App")) []
        (runtimeWith (.json shadowedDoc))).calls := by decide
  refine ⟨wellTyped_depsDoc _ _, ⟨⟨_, rfl, rfl⟩, ⟨_, rfl⟩⟩, fun hright => ?_, hload⟩
  exact absurd (hright.2.1 _ _ hload) (by decide)

end EzDotnet.MonoCoreClr
