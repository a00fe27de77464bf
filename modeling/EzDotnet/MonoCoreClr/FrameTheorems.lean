/-
EzDotnet.MonoCoreClr.FrameTheorems — what of a document `build_tpa_list`
reads, and that nothing else in it matters.

A deps document says much more than the function needs: signatures and
hashes, whether a library is serviceable, which files to compile against,
the targets of other frameworks, the file versions of every asset. Read are

  * the name of the runtime target (`targetName`);
  * the keys and types of the libraries (`libraryTypes`), for the project;
  * of the project's entry in the runtime target, the names of the DLLs of
    its `runtime` section and its declared dependencies;
  * of the entry of each declared dependency, the names of the DLLs of its
    `runtime` and `native` sections, and whether they stand in the one or
    the other only so far as it settles their order.

**Main theorem** (`buildTpaList_frame`): two documents that agree on these
(`Agree`) have one outcome, the failures included, whatever else differs.
-/
import EzDotnet.MonoCoreClr.DocumentTheorems

namespace EzDotnet.MonoCoreClr

/-- The string that a value is, if it is one. -/
def Json.str? : Json → Option Str
  | .string s => some s
  | _ => none

theorem asString_eq (j : Json) :
    asString j = match j.str? with
      | some s => .ok s
      | none => .error .typeError := by
  cases j <;> rfl

theorem jsonGetOpt_asString (j : Json) (key : Str) :
    jsonGetOpt asString j key = match (j.get? key).map Json.str? with
      | none => .ok none
      | some none => .error .typeError
      | some (some s) => .ok (some s) := by
  unfold jsonGetOpt
  cases j.get? key with
  | none => rfl
  | some v => cases v <;> rfl

/-! ## What is read -/

def targetName (deps : Json) : Option (Option Str) :=
  ((deps.get? (lit "runtimeTarget")).bind (·.get? (lit "name"))).map Json.str?

def frameworkTarget? (deps : Json) (name : Str) : Option Json :=
  (deps.get? (lit "targets")).bind (·.get? name)

/-- The key of a library, and its type if it has one. -/
def typed (x : Str × Json) : Str × Option (Option Str) :=
  (x.1, (x.2.get? (lit "type")).map Json.str?)

def libraryTypes (deps : Json) : Option (List (Str × Option (Option Str))) :=
  (deps.get? (lit "libraries")).map fun libraries => libraries.items.map typed

def dllNames (libs : Json) : List Str := (libs.items.map Prod.fst).filter fun k => IsDll k

/-- The DLLs of the section `name` of a target entry, if it has one. -/
def sectionNames (targetItem : Json) (name : Str) : Option (List Str) :=
  (targetItem.get? name).map dllNames

/-- The dependencies that a target entry declares, with their versions where
these are strings. -/
def declared (targetItem : Json) : Option (List (Str × Option Str)) :=
  (targetItem.get? (lit "dependencies")).map fun deps => deps.items.map fun x => (x.1, x.2.str?)

/-- The DLLs that a dependency brings in. -/
def dependencyNames (frameworkTarget : Json) (name version : Str) : List Str :=
  match frameworkTarget.get? (itemKey name version) with
  | some targetItem => (sectionNames targetItem (lit "runtime")).getD [] ++
      (sectionNames targetItem (lit "native")).getD []
  | none => []

/-- Two runtime targets agree on a project whose entries in them are
`targetItem` and `targetItem'`. -/
structure SameProject (T T' targetItem targetItem' : Json) : Prop where
  runtime : sectionNames targetItem (lit "runtime") = sectionNames targetItem' (lit "runtime")
  dependencies : declared targetItem = declared targetItem'
  dependency : ∀ deps, declared targetItem = some deps → ∀ name version,
    (name, some version) ∈ deps → dependencyNames T name version = dependencyNames T' name version

/-- Two documents agree on what is read of them. -/
structure Agree (deps deps' : Json) : Prop where
  name : targetName deps = targetName deps'
  libraries : libraryTypes deps = libraryTypes deps'
  target : ∀ name, targetName deps = some (some name) →
    (frameworkTarget? deps name).isSome = (frameworkTarget? deps' name).isSome
  entry : ∀ name T T' project, targetName deps = some (some name) →
    frameworkTarget? deps name = some T → frameworkTarget? deps' name = some T' →
      (∃ libs, deps.get? (lit "libraries") = some libs ∧ FirstProject libs.items project) →
        (T.get? project).isSome = (T'.get? project).isSome ∧
          ∀ targetItem targetItem', T.get? project = some targetItem →
            T'.get? project = some targetItem' → SameProject T T' targetItem targetItem'

/-! ## The search for the project -/

/-- The key of the library that was found. -/
def foundKey (r : Except Fault (Option (Str × Json))) : Except Fault (Option Str) :=
  r.map (Option.map Prod.fst)

/-- The search reads the types alone. -/
theorem foundKey_findProject {libs libs' : List (Str × Json)}
    (h : libs.map typed = libs'.map typed) :
    foundKey (findProject libs) = foundKey (findProject libs') := by
  induction libs generalizing libs' with
  | nil =>
    obtain rfl : libs' = [] := by simpa using h.symm
    rfl
  | cons x libs ih =>
    cases libs' with
    | nil => simp at h
    | cons y libs' =>
      obtain ⟨hxy, hrest⟩ := List.cons.inj h
      obtain ⟨hkey, htype⟩ := Prod.mk.inj hxy
      rw [findProject_cons, findProject_cons, jsonGetOpt_asString, jsonGetOpt_asString, htype]
      cases (y.2.get? (lit "type")).map Json.str? with
      | none => exact ih hrest
      | some found =>
        cases found with
        | none => rfl
        | some libType =>
          simp only [Lib.ok_bind]
          by_cases hproject : libType = lit "project"
          · rw [if_pos hproject, if_pos hproject]
            exact congrArg (fun k => (.ok (some k) : Except Fault (Option Str))) hkey
          · rw [if_neg hproject, if_neg hproject]
            exact ih hrest

/-! ## The assets -/

variable {pl : Platform} {depsDir : Str}

theorem dllItems_eq (libs : Json) :
    dllItems pl depsDir libs = (dllNames libs).map (pl.join depsDir) := by
  unfold dllItems dllNames
  simp [List.filter_map, Function.comp_def]

theorem sectionItems_eq (targetItem : Json) (name : Str) :
    sectionItems pl depsDir targetItem name =
      ((sectionNames targetItem name).getD []).map (pl.join depsDir) := by
  unfold sectionItems sectionNames
  cases targetItem.get? name with
  | none => rfl
  | some libs => exact dllItems_eq libs

/-- One turn of the loop, over a declared dependency. -/
def addDeclared (pl : Platform) (depsDir : Str) (frameworkTarget : Json) (t : Tpa)
    (x : Str × Option Str) : Except Fault Tpa :=
  match x.2 with
  | some version => .ok
      (((dependencyNames frameworkTarget x.1 version).map (pl.join depsDir)).foldl
        (Tpa.append pl) t)
  | none => .error .typeError

theorem addDependency_eq (frameworkTarget : Json) (t : Tpa) (itm : Str × Json) :
    addDependency pl depsDir frameworkTarget t itm =
      addDeclared pl depsDir frameworkTarget t (itm.1, itm.2.str?) := by
  unfold addDependency addDeclared
  rw [asString_eq]
  cases itm.2.str? with
  | none => rfl
  | some version =>
    simp only [Lib.ok_bind, jsonGetOpt_asJson]
    unfold dependencyNames
    cases frameworkTarget.get? (itemKey itm.1 version) with
    | none => rfl
    | some targetItem =>
      dsimp only
      rw [List.map_append, List.foldl_append, ← sectionItems_eq, ← sectionItems_eq,
        ← append_section, ← append_section]
      rfl

theorem foldlM_addDependency (frameworkTarget projectDeps : Json) (t : Tpa) :
    projectDeps.items.foldlM (addDependency pl depsDir frameworkTarget) t =
      (projectDeps.items.map fun x => (x.1, x.2.str?)).foldlM
        (addDeclared pl depsDir frameworkTarget) t := by
  rw [List.foldlM_map]
  congr 1
  funext t itm
  exact addDependency_eq frameworkTarget t itm

theorem foldlM_addDeclared {T T' : Json} {deps : List (Str × Option Str)}
    (h : ∀ name version, (name, some version) ∈ deps →
      dependencyNames T name version = dependencyNames T' name version) (t : Tpa) :
    deps.foldlM (addDeclared pl depsDir T) t = deps.foldlM (addDeclared pl depsDir T') t := by
  induction deps generalizing t with
  | nil => rfl
  | cons x deps ih =>
    obtain ⟨name, found⟩ := x
    have hturn : addDeclared pl depsDir T t (name, found) =
        addDeclared pl depsDir T' t (name, found) := by
      cases found with
      | none => rfl
      | some version =>
        have hnames := h name version List.mem_cons_self
        simp only [addDeclared, hnames]
    rw [List.foldlM_cons, List.foldlM_cons, hturn]
    congr 1
    funext t
    exact ih (fun name version hmem => h name version (List.mem_cons_of_mem _ hmem)) t

/-- The list of assets, over what is read. -/
theorem listAssets_eq (T targetItem : Json) :
    listAssets pl depsDir T targetItem =
      match sectionNames targetItem (lit "runtime") with
      | none => .ok []
      | some names =>
        let t := (names.map (pl.join depsDir)).foldl (Tpa.append pl) {}
        match declared targetItem with
        | none => .ok t.tpa
        | some deps => Tpa.tpa <$> deps.foldlM (addDeclared pl depsDir T) t := by
  unfold listAssets sectionNames declared
  simp only [jsonGetOpt_asJson, Lib.ok_bind]
  cases targetItem.get? (lit "runtime") with
  | none => rfl
  | some projectRt =>
    cases targetItem.get? (lit "dependencies") with
    | none => simp [appendDlls_eq, dllItems_eq, pure, Except.pure]
    | some projectDeps =>
      simp only [Option.map_some, foldlM_addDependency, appendDlls_eq, dllItems_eq]
      rfl

theorem listAssets_frame {T T' targetItem targetItem' : Json}
    (h : SameProject T T' targetItem targetItem') :
    listAssets pl depsDir T targetItem = listAssets pl depsDir T' targetItem' := by
  rw [listAssets_eq, listAssets_eq, ← h.runtime, ← h.dependencies]
  cases sectionNames targetItem (lit "runtime") with
  | none => rfl
  | some names =>
    cases hdeps : declared targetItem with
    | none => rfl
    | some deps =>
      dsimp only
      rw [foldlM_addDeclared (h.dependency deps hdeps)]

theorem listProject_frame {T T' : Json} {project : Str}
    (hentry : (T.get? project).isSome = (T'.get? project).isSome)
    (h : ∀ targetItem targetItem', T.get? project = some targetItem →
      T'.get? project = some targetItem' → SameProject T T' targetItem targetItem') :
    listProject pl depsDir T project = listProject pl depsDir T' project := by
  unfold listProject
  simp only [jsonGetOpt_asJson, Lib.ok_bind]
  cases hfound : T.get? project with
  | none =>
    rw [hfound] at hentry
    have hfound' : T'.get? project = none := by simpa using hentry.symm
    rw [hfound']
  | some targetItem =>
    rw [hfound] at hentry
    obtain ⟨targetItem', hfound'⟩ := Option.isSome_iff_exists.mp hentry.symm
    rw [hfound']
    simp only [listAssets_frame (h targetItem targetItem' hfound hfound')]

/-! ## The document -/

variable {depsFile : Str} {deps deps' : Json}

/-- `build_tpa_list`, over what is read. -/
theorem buildTpaList_eq :
    buildTpaList pl depsFile deps =
      match targetName deps with
      | none => .ok {}
      | some none => .error .typeError
      | some (some name) =>
        match frameworkTarget? deps name, deps.get? (lit "libraries") with
        | some T, some libraries =>
          foundKey (findProject libraries.items) >>= fun
            | none => throw .emptyOptional
            | some project => listProject pl (pl.parentPath depsFile) T project
        | _, _ => .ok {} := by
  unfold buildTpaList targetName frameworkTarget?
  simp only [jsonGetOpt_asJson, jsonGetOpt_asString, Lib.ok_bind]
  cases deps.get? (lit "runtimeTarget") with
  | none => rfl
  | some runtimeTarget =>
    simp only [Option.bind_some]
    cases (runtimeTarget.get? (lit "name")).map Json.str? with
    | none => rfl
    | some found =>
      cases found with
      | none => rfl
      | some name =>
        simp only [Lib.ok_bind]
        cases deps.get? (lit "targets") with
        | none => rfl
        | some allTargets =>
          simp only [Option.bind_some]
          cases allTargets.get? name with
          | none => rfl
          | some T =>
            cases deps.get? (lit "libraries") with
            | none => rfl
            | some libraries =>
              dsimp only [foundKey]
              cases findProject libraries.items with
              | error e => rfl
              | ok entry => cases entry <;> rfl

/-- **Main theorem**: documents that agree on what is read have one
outcome. -/
theorem buildTpaList_frame (h : Agree deps deps') :
    buildTpaList pl depsFile deps = buildTpaList pl depsFile deps' := by
  rw [buildTpaList_eq, buildTpaList_eq, ← h.name]
  cases hname : targetName deps with
  | none => rfl
  | some found =>
    cases found with
    | none => rfl
    | some name =>
      dsimp only
      have htarget := h.target name hname
      cases hT : frameworkTarget? deps name with
      | none =>
        rw [hT] at htarget
        have hT' : frameworkTarget? deps' name = none := by simpa using htarget.symm
        rw [hT']
      | some T =>
        rw [hT] at htarget
        obtain ⟨T', hT'⟩ := Option.isSome_iff_exists.mp htarget.symm
        rw [hT']
        have hlibs := h.libraries
        unfold libraryTypes at hlibs
        cases hl : deps.get? (lit "libraries") with
        | none =>
          rw [hl] at hlibs
          rw [Option.map_eq_none_iff.mp hlibs.symm]
        | some libs =>
          rw [hl] at hlibs
          obtain ⟨libs', hl', htypes⟩ := Option.map_eq_some_iff.mp hlibs.symm
          rw [hl']
          dsimp only
          rw [foundKey_findProject htypes]
          cases hfound : findProject libs.items with
          | error e => rfl
          | ok entry =>
            cases entry with
            | none => rfl
            | some x =>
              obtain ⟨hentry, hsame⟩ := h.entry name T T' x.1 hname hT hT'
                ⟨libs, hl, findProject_eq_some.mp ⟨x.2, hfound⟩⟩
              exact listProject_frame hentry hsame

/-- The entry of the application in `appDoc`. -/
def appEntry : Json := targetEntry [(lit "Lib", lit "1.0")] [lit "App.dll"]

/-- The target of `appDoc`. -/
def appTarget : Json :=
  .object [(lit "App/1.0", appEntry), (lit "Lib/1.0", targetEntry [] [lit "Lib.dll"])]

/-- `appEntry` with a hash and the version of the file. -/
def publishedEntry : Json :=
  .object [(lit "runtime", .object [(lit "App.dll", .object [(lit "fileVersion", .number)])]),
    (lit "dependencies", .object [(lit "Lib", .string (lit "1.0"))]),
    (lit "sha512", .null)]

/-- `appTarget` with a file to compile against, and with the library's DLL
listed as native. -/
def publishedTarget : Json :=
  .object [(lit "Lib/1.0", .object
      [(lit "compile", .object [(lit "Ref.dll", .null)]),
        (lit "native", .object [(lit "Lib.dll", .number), (lit "Lib.xml", .null)])]),
    (lit "App/1.0", publishedEntry)]

/-- `appDoc` as a build tool writes it, with a second framework. -/
def publishedDoc : Json :=
  .object [(lit "libraries", .object
      [(lit "Lib/1.0", .object [(lit "type", .string (lit "project"))]),
        (lit "App/1.0", .object [(lit "type", .string (lit "project")), (lit "sha512", .null)])]),
    (lit "runtimeTarget", .object [(lit "signature", .null), (lit "name", .string (lit "net8.0"))]),
    (lit "targets", .object [(lit "net6.0", .null), (lit "net8.0", publishedTarget)])]

/-- Both documents name the same framework. -/
theorem targetName_published :
    targetName appDoc = some (some (lit "net8.0")) ∧
      targetName publishedDoc = some (some (lit "net8.0")) := ⟨rfl, rfl⟩

theorem frameworkTarget?_published :
    frameworkTarget? appDoc (lit "net8.0") = some appTarget ∧
      frameworkTarget? publishedDoc (lit "net8.0") = some publishedTarget := ⟨rfl, rfl⟩

/-- Both libraries are projects in both documents. -/
theorem libraryTypes_published :
    let types := some [(lit "App/1.0", some (some (lit "project"))),
      (lit "Lib/1.0", some (some (lit "project")))]
    libraryTypes appDoc = types ∧ libraryTypes publishedDoc = types := ⟨rfl, rfl⟩

theorem entries_published :
    appTarget.get? (lit "App/1.0") = some appEntry ∧
      publishedTarget.get? (lit "App/1.0") = some publishedEntry := ⟨rfl, rfl⟩

theorem dependencyNames_published :
    dependencyNames appTarget (lit "Lib") (lit "1.0") = [lit "Lib.dll"] ∧
      dependencyNames publishedTarget (lit "Lib") (lit "1.0") = [lit "Lib.dll"] := ⟨rfl, rfl⟩

/-- The application comes first. -/
theorem firstProject_appDoc {libs : Json} {project : Str}
    (hlibs : appDoc.get? (lit "libraries") = some libs)
    (hfirst : FirstProject libs.items project) : project = lit "App/1.0" := by
  have hitems : ∃ v, findProject libs.items = .ok (some (lit "App/1.0", v)) := by
    rw [← Option.some.inj hlibs]
    exact ⟨_, rfl⟩
  exact hfirst.unique (findProject_eq_some.mp hitems)

theorem sameProject_published :
    SameProject appTarget publishedTarget appEntry publishedEntry where
  runtime := by
    have happ : sectionNames appEntry (lit "runtime") = some [lit "App.dll"] := rfl
    have hpub : sectionNames publishedEntry (lit "runtime") = some [lit "App.dll"] := rfl
    rw [happ, hpub]
  dependencies := by
    have happ : declared appEntry = some [(lit "Lib", some (lit "1.0"))] := rfl
    have hpub : declared publishedEntry = some [(lit "Lib", some (lit "1.0"))] := rfl
    rw [happ, hpub]
  dependency deps hdeps name version hmem := by
    have happ : declared appEntry = some [(lit "Lib", some (lit "1.0"))] := rfl
    rw [happ] at hdeps
    obtain rfl := Option.some.inj hdeps
    obtain ⟨rfl, hversion⟩ := Prod.mk.inj (List.mem_singleton.mp hmem)
    obtain rfl := Option.some.inj hversion
    rw [dependencyNames_published.1, dependencyNames_published.2]

theorem agree_publishedDoc : Agree appDoc publishedDoc where
  name := by rw [targetName_published.1, targetName_published.2]
  libraries := by rw [libraryTypes_published.1, libraryTypes_published.2]
  target name hname := by
    rw [targetName_published.1] at hname
    obtain rfl := Option.some.inj (Option.some.inj hname)
    simp only [frameworkTarget?_published, Option.isSome_some]
  entry name T T' project hname hT hT' hproject := by
    rw [targetName_published.1] at hname
    obtain rfl := Option.some.inj (Option.some.inj hname)
    rw [frameworkTarget?_published.1] at hT
    rw [frameworkTarget?_published.2] at hT'
    obtain rfl := Option.some.inj hT
    obtain rfl := Option.some.inj hT'
    obtain ⟨libs, hlibs, hfirst⟩ := hproject
    obtain rfl := firstProject_appDoc hlibs hfirst
    refine ⟨by simp only [entries_published, Option.isSome_some],
      fun targetItem targetItem' hitem hitem' => ?_⟩
    rw [entries_published.1] at hitem
    rw [entries_published.2] at hitem'
    obtain rfl := Option.some.inj hitem
    obtain rfl := Option.some.inj hitem'
    exact sameProject_published

theorem buildTpaList_frame_publishedDoc :
    buildTpaList unix (lit "/app/App.deps.json") appDoc =
      buildTpaList unix (lit "/app/App.deps.json") publishedDoc :=
  buildTpaList_frame agree_publishedDoc

end EzDotnet.MonoCoreClr
