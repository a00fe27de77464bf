/-
EzDotnet.Mono.DispatchTheorems — whose method `runMethod` invokes.

A plugin's entry keeps its domain and the simple name of its assembly.
`findMethod` walks over every assembly loaded in the process, in whatever
domain and in an order that Mono does not promise, and takes the first one
of this name that declares the method; the domain is not looked at. So the
method belongs to the image that the plugin's `clrInit` opened in every
order exactly when nothing else of the same name declares one that does not
(`dispatchesToOwn_iff`).

`opened_of_entry` is what ties an entry to that `clrInit`: an entry with a
name was inserted by the `clrInit` that opened an assembly of this name, and
no step changes an entry as long as it is there.
-/
import EzDotnet.Mono.DisciplineTheorems

namespace EzDotnet.Mono

/-! ## The walk over the assemblies -/

/-- The assembly has the name, an image, and the method in it. -/
def Offers (env : RunEnv) (methodDesc asmName : Str) (asm : MonoAssembly) (m : Method) : Prop :=
  cstr asm.name = cstr asmName ∧
    ∃ image, asm.image = some image ∧ imageFindMethod env image methodDesc = some m

variable {env : RunEnv} {methodDesc asmName : Str}

/-- What was found stays. -/
theorem foldl_visit_some (m : Method) (asms : List MonoAssembly) :
    asms.foldl (visitAssembly env methodDesc asmName) (some m) = some m := by
  induction asms with
  | nil => rfl
  | cons asm asms ih =>
    rw [List.foldl_cons]
    exact ih

theorem visit_eq_some {asm : MonoAssembly} {m : Method} :
    visitAssembly env methodDesc asmName none asm = some m ↔
      Offers env methodDesc asmName asm m := by
  unfold visitAssembly Offers
  by_cases hname : cstr asm.name = cstr asmName
  · cases himage : asm.image with
    | none => simp [hname]
    | some image => simp [hname]
  · simp [hname]

/-- What is found is offered by one of the assemblies. -/
theorem foldl_visit_eq_some {asms : List MonoAssembly} {m : Method}
    (h : asms.foldl (visitAssembly env methodDesc asmName) none = some m) :
    ∃ asm ∈ asms, Offers env methodDesc asmName asm m := by
  induction asms with
  | nil => cases h
  | cons asm asms ih =>
    rw [List.foldl_cons] at h
    cases hvisit : visitAssembly env methodDesc asmName none asm with
    | none =>
      rw [hvisit] at h
      obtain ⟨other, hmem, hoffers⟩ := ih h
      exact ⟨other, List.mem_cons_of_mem _ hmem, hoffers⟩
    | some found =>
      rw [hvisit, foldl_visit_some] at h
      obtain rfl := Option.some.inj h
      exact ⟨asm, List.mem_cons_self, visit_eq_some.mp hvisit⟩

theorem offers_of_findMethod {rt : Runtime} {m : Method}
    (h : findMethod env rt methodDesc asmName = some m) :
    ∃ asm ∈ rt.assemblies, Offers env methodDesc asmName asm m := by
  obtain ⟨asm, hmem, hoffers⟩ := foldl_visit_eq_some h
  exact ⟨asm, (env.visit_perm rt.assemblies).mem_iff.mp hmem, hoffers⟩

/-! ## The order of the walk -/

/-- The walk that begins with `asm`. -/
def visitFirst (asm : MonoAssembly) (asms : List MonoAssembly) : List MonoAssembly :=
  if asm ∈ asms then asm :: asms.erase asm else asms

theorem visitFirst_perm (asm : MonoAssembly) (asms : List MonoAssembly) :
    (visitFirst asm asms).Perm asms := by
  unfold visitFirst
  split
  · next hmem => exact (List.perm_cons_erase hmem).symm
  · exact .refl asms

theorem visitFirst_of_mem {asm : MonoAssembly} {asms : List MonoAssembly} (h : asm ∈ asms) :
    visitFirst asm asms = asm :: asms.erase asm := if_pos h

/-- The same runtime, walking in another order. -/
def RunEnv.reorder (env : RunEnv) (visit : List MonoAssembly → List MonoAssembly)
    (hvisit : ∀ asms, (visit asms).Perm asms) : RunEnv :=
  { env with
    visit := visit
    visit_perm := hvisit }

@[simp] theorem offers_reorder {visit : List MonoAssembly → List MonoAssembly}
    {hvisit : ∀ asms, (visit asms).Perm asms} {asm : MonoAssembly} {m : Method} :
    Offers (env.reorder visit hvisit) methodDesc asmName asm m ↔
      Offers env methodDesc asmName asm m := Iff.rfl

/-- Any method that is offered is found in some order. -/
theorem findMethod_visitFirst {rt : Runtime} {asm : MonoAssembly} {m : Method}
    (hmem : asm ∈ rt.assemblies) (hoffers : Offers env methodDesc asmName asm m) :
    findMethod (env.reorder (visitFirst asm) (visitFirst_perm asm)) rt methodDesc asmName
      = some m := by
  unfold findMethod
  show (visitFirst asm rt.assemblies).foldl _ none = some m
  have hfirst : visitAssembly (env.reorder (visitFirst asm) (visitFirst_perm asm)) methodDesc
      asmName none asm = some m := visit_eq_some.mpr (offers_reorder.mpr hoffers)
  rw [visitFirst_of_mem hmem, List.foldl_cons, hfirst, foldl_visit_some]

/-! ## `runMethod` -/

/-- The `methodDesc` of `runMethod`, as a C string. -/
def descOf (typeName methodName : Str) : Str := cstr (typeName ++ lit "::" ++ methodName)

theorem invoke_mem_runMethod {abi : Abi} {s : State} {h : AsmHandle} {name : Str} {dom : Domain}
    (hentry : s.gPlugins[h]? = some ⟨.ptr name, .ptr dom⟩) (ty me : Str) (a : Argv)
    (env : RunEnv) (m : Method) (args : Addr) (size : BitVec 32) :
    MonoCall.invoke m args size ∈ (runMethod abi s h ty me a env).calls ↔
      findMethod env (s.runtime.attach env.thread) (descOf ty me) name = some m ∧
        args = a.argv ∧ size = a.sizeInBytes abi := by
  unfold runMethod
  rw [hentry]
  unfold PluginInstanceData.runMethod
  dsimp only
  rw [← descOf]
  cases hfind : findMethod env (s.runtime.attach env.thread) (descOf ty me) name with
  | none => simp
  | some found =>
    simp only [List.mem_cons, List.not_mem_nil, or_false, reduceCtorEq, false_or,
      MonoCall.invoke.injEq, Option.some.injEq]
    exact and_congr_left' eq_comm

/-- The entry names an assembly, and `findMethod` finds this method for it. -/
def PluginInstanceData.Finds (data : PluginInstanceData) (typeName methodName : Str)
    (rt : Runtime) (env : RunEnv) (m : Method) : Prop :=
  ∃ name dom, data = ⟨.ptr name, .ptr dom⟩ ∧
    findMethod env (rt.attach env.thread) (descOf typeName methodName) name = some m

/-- An entry that names no assembly has its `runMethod` call nothing. -/
theorem invoke_mem_data {abi : Abi} {s : State} {h : AsmHandle} {data : PluginInstanceData}
    (hentry : s.gPlugins[h]? = some data) (ty me : Str) (a : Argv) (env : RunEnv) (m : Method)
    (args : Addr) (size : BitVec 32) :
    MonoCall.invoke m args size ∈ (runMethod abi s h ty me a env).calls ↔
      args = a.argv ∧ size = a.sizeInBytes abi ∧ data.Finds ty me s.runtime env m := by
  by_cases hnamed : ∃ name dom, data = ⟨.ptr name, .ptr dom⟩
  · obtain ⟨name, dom, rfl⟩ := hnamed
    rw [invoke_mem_runMethod hentry]
    constructor
    · rintro ⟨hfound, hargs, hsize⟩
      exact ⟨hargs, hsize, name, dom, rfl, hfound⟩
    · rintro ⟨hargs, hsize, _, _, hdata, hfound⟩
      cases hdata
      exact ⟨hfound, hargs, hsize⟩
  · have hnone : (data.runMethod abi ty me a s.runtime env).calls = [] := by
      unfold PluginInstanceData.runMethod
      split
      · next name dom => exact absurd ⟨name, dom, rfl⟩ hnamed
      · rfl
    have hcalls : (runMethod abi s h ty me a env).calls = [] := by
      unfold runMethod
      rw [hentry]
      exact hnone
    rw [hcalls]
    constructor
    · intro hmem
      cases hmem
    · rintro ⟨-, -, name, dom, hdata, -⟩
      exact absurd ⟨name, dom, hdata⟩ hnamed

/-! ## The `clrInit` behind an entry -/

variable {abi : Abi} {s : State}

theorem entry_clrInit {h : AsmHandle} (p d : Str) (env : InitEnv) (hs : h ∈ s.gPlugins) :
    (clrInit abi s p d env).state.gPlugins[h]? = s.gPlugins[h]? := by
  obtain ⟨made, hreg, _⟩ := clrInit_registry abi s p d env
  rw [hreg]
  by_cases hkey : (backend abi).key p ∈ s.gPlugins
  · rw [Lib.acquire_of_mem hkey]
  · rw [Lib.getElem?_acquire_of_notMem hkey, if_neg]
    rintro rfl
    exact hkey hs

/-- The inserting lookup of `clrDeInit` changes no entry that is there. -/
theorem entry_insertIfNew {g h : AsmHandle} (hs : h ∈ s.gPlugins) (data : PluginInstanceData) :
    (s.gPlugins.insertIfNew g data)[h]? = s.gPlugins[h]? := by
  rw [Std.ExtTreeMap.getElem?_insertIfNew, if_neg]
  intro hnew
  obtain ⟨heq, hg⟩ := hnew
  rw [Std.compare_eq_iff_eq] at heq
  exact hg (heq ▸ hs)

theorem entry_clrDeInit {g h : AsmHandle} (hs : h ∈ s.gPlugins)
    (hnext : h ∈ (clrDeInit s g ()).state.gPlugins) :
    (clrDeInit s g ()).state.gPlugins[h]? = s.gPlugins[h]? := by
  unfold clrDeInit at hnext ⊢
  dsimp only at hnext ⊢
  split at hnext
  · have hne : compare g h ≠ .eq := (Std.ExtTreeMap.mem_erase.mp hnext).1
    rw [Std.ExtTreeMap.getElem?_erase, if_neg hne]
    exact entry_insertIfNew hs _
  · exact entry_insertIfNew hs _

/-- An entry that is there before and after a step is the same. -/
theorem entry_next {h : AsmHandle} (c : Call) (hs : h ∈ s.gPlugins)
    (hnext : h ∈ ((backend abi).machine.next s c).gPlugins) :
    ((backend abi).machine.next s c).gPlugins[h]? = s.gPlugins[h]? := by
  cases c with
  | clrInit p d env => exact entry_clrInit p d env hs
  | clrDeInit g env => exact entry_clrDeInit hs hnext
  | runMethod g ty me a env =>
    obtain ⟨attached, hstate⟩ := runMethod_state abi s g ty me a env
    show (runMethod abi s g ty me a env).state.gPlugins[h]? = s.gPlugins[h]?
    rw [hstate]

/-- The step that inserts an entry with a name is a `clrInit` that opens an
assembly of this name, in the domain of the entry, and answers the handle. -/
theorem opened_of_new {h : AsmHandle} {name : Str} {dom : Domain} {c : Call}
    (hs : h ∉ s.gPlugins)
    (hentry : ((backend abi).machine.next s c).gPlugins[h]? = some ⟨.ptr name, .ptr dom⟩) :
    ∃ p d env image, c = .clrInit p d env ∧ env.assembly = some (name, some image) ∧
      dom = (readyState s env).runtime.nextDomain ∧ (clrInit abi s p d env).ret = .value h := by
  have hnew : h ∈ ((backend abi).machine.next s c).gPlugins :=
    Lib.mem_iff_exists_getElem?.mpr ⟨_, hentry⟩
  cases c with
  | clrInit p d env =>
    obtain ⟨rfl, hret⟩ := (keyed abi).answered hs hnew
    obtain ⟨hjit, name', image, hasm⟩ := clrInit_registers hs hnew
    obtain ⟨loaded, hstate, _⟩ := clrInit_loaded (d := d) hs hjit hasm
    change (clrInit abi s p d env).state.gPlugins[(backend abi).key p]? = _ at hentry
    rw [hstate, Std.ExtTreeMap.getElem?_insertIfNew, if_pos ⟨by simp, hs⟩] at hentry
    cases hentry
    exact ⟨p, d, env, image, rfl, hasm, rfl, hret⟩
  | clrDeInit g env =>
    change (clrDeInit s g ()).state.gPlugins[h]? = _ at hentry
    change h ∈ (clrDeInit s g ()).state.gPlugins at hnew
    by_cases hg : g ∈ s.gPlugins
    · exact absurd (mem_of_mem_clrDeInit hg hnew) hs
    · -- an entry that `operator[]` made has no name
      rw [clrDeInit_unregistered hg, Std.ExtTreeMap.getElem?_insertIfNew] at hentry
      split at hentry
      · cases hentry
      · rw [Std.ExtTreeMap.getElem?_eq_none hs] at hentry
        cases hentry
  | runMethod g ty me a env =>
    obtain ⟨attached, hstate⟩ := runMethod_state abi s g ty me a env
    change h ∈ (runMethod abi s g ty me a env).state.gPlugins at hnew
    rw [hstate] at hnew
    exact absurd hnew hs

/-- The `clrInit` of the run that returned `h`, since when `h` has been
registered, opened an assembly with this name and image in the domain
`dom`. -/
def OpenedFor (abi : Abi) (calls : List Call) (h : AsmHandle) (name : Str) (image : Image)
    (dom : Domain) : Prop :=
  ∃ before p d env,
    (backend abi).machine.SwitchedOn (fun s => h ∈ s.gPlugins) start calls before
      (.clrInit p d env) ∧
    (clrInit abi ((backend abi).run before) p d env).ret = .value h ∧
    env.assembly = some (name, some image) ∧
    dom = (readyState ((backend abi).run before) env).runtime.nextDomain

variable {calls : List Call} {h : AsmHandle} {name : Str} {image : Image} {dom : Domain}

/-- The entry is the one that the step which switched the handle on has
inserted. -/
theorem entry_switchedOn {before : List Call} {c : Call}
    (hon : (backend abi).machine.SwitchedOn (fun s => h ∈ s.gPlugins) start calls before c) :
    ((backend abi).run calls).gPlugins[h]? =
      ((backend abi).machine.next ((backend abi).run before) c).gPlugins[h]? :=
  hon.invariant (backend abi).machine
    (Q := fun s : State => s.gPlugins[h]? = ((backend abi).machine.next
      ((backend abi).machine.exec start before) c).gPlugins[h]?) rfl
    fun _ j ht hj hQ => (entry_next j ht hj).trans hQ

theorem opened_of_entry
    (hentry : ((backend abi).run calls).gPlugins[h]? = some ⟨.ptr name, .ptr dom⟩) :
    ∃ image, OpenedFor abi calls h name image dom := by
  have hmem : h ∈ ((backend abi).run calls).gPlugins :=
    Lib.mem_iff_exists_getElem?.mpr ⟨_, hentry⟩
  obtain ⟨before, c, hon⟩ := (backend abi).machine.switchedOn
    (P := fun s => h ∈ s.gPlugins) (s := start) Std.ExtTreeMap.not_mem_empty hmem
  obtain ⟨_, hoff, _⟩ := hon.flips
  obtain ⟨p, d, env, image, rfl, hasm, hdom, hret⟩ :=
    opened_of_new hoff ((entry_switchedOn hon).symm.trans hentry)
  exact ⟨image, before, p, d, env, hon, hret, hasm, hdom⟩

theorem OpenedFor.entry (ho : OpenedFor abi calls h name image dom) :
    ((backend abi).run calls).gPlugins[h]? = some ⟨.ptr name, .ptr dom⟩ := by
  obtain ⟨before, p, d, env, hon, _, hasm, rfl⟩ := ho
  obtain ⟨_, hoff, hafter⟩ := hon.flips
  obtain ⟨rfl, _⟩ := (keyed abi).answered hoff hafter
  obtain ⟨hjit, _⟩ := clrInit_registers hoff hafter
  obtain ⟨loaded, hstate, _⟩ := clrInit_loaded (d := d) hoff hjit hasm
  rw [entry_switchedOn hon]
  change (clrInit abi ((backend abi).machine.exec start before) p d env).state.gPlugins[_]? = _
  rw [hstate, Std.ExtTreeMap.getElem?_insertIfNew, if_pos ⟨by simp, hoff⟩]
  rfl

/-- There is only one such image. -/
theorem OpenedFor.image_unique (ho : OpenedFor abi calls h name image dom) {name' : Str}
    {image' : Image} {dom' : Domain} (ho' : OpenedFor abi calls h name' image' dom') :
    image = image' := by
  obtain ⟨before, p, d, env, hon, _, hasm, _⟩ := ho
  obtain ⟨before', p', d', env', hon', _, hasm', _⟩ := ho'
  obtain ⟨_, heq⟩ := hon.unique (backend abi).machine hon'
  cases heq
  rw [hasm] at hasm'
  cases hasm'
  rfl

/-! ## Dispatch -/

/-- The method is one of the image. -/
def Belongs (env : RunEnv) (image : Image) (m : Method) : Prop :=
  ∃ desc, env.searchImage image desc = some m

/-- In whatever order the assemblies are visited, `runMethod` invokes only
methods of the image that was opened for the handle. -/
def DispatchesToOwn (abi : Abi) (calls : List Call) (h : AsmHandle) (ty me : Str)
    (env : RunEnv) : Prop :=
  ∀ visit hvisit a m args size,
    MonoCall.invoke m args size ∈
      (runMethod abi ((backend abi).run calls) h ty me a (env.reorder visit hvisit)).calls →
    ∃ name image dom, OpenedFor abi calls h name image dom ∧ Belongs env image m

/-- An entry for which something is invoked has a name and a domain. -/
theorem entry_of_invoke {s : State} {h : AsmHandle} {ty me : Str} {a : Argv} {env : RunEnv}
    {m : Method} {args : Addr} {size : BitVec 32}
    (hinvoke : MonoCall.invoke m args size ∈ (runMethod abi s h ty me a env).calls) :
    ∃ name dom, s.gPlugins[h]? = some ⟨.ptr name, .ptr dom⟩ := by
  unfold runMethod at hinvoke
  cases hentry : s.gPlugins[h]? with
  | none => simp [hentry] at hinvoke
  | some data =>
    rw [hentry] at hinvoke
    unfold PluginInstanceData.runMethod at hinvoke
    dsimp only at hinvoke
    split at hinvoke
    · next name dom => exact ⟨name, dom, rfl⟩
    · simp at hinvoke

/-- After any run, a handle dispatches to its own plugin in every order
exactly when every assembly loaded under the plugin's simple name that
declares the method declares one of the plugin's own image. -/
theorem dispatchesToOwn_iff (abi : Abi) (calls : List Call) (h : AsmHandle) (ty me : Str)
    (env : RunEnv) :
    DispatchesToOwn abi calls h ty me env ↔
      ∀ name image dom, OpenedFor abi calls h name image dom →
        ∀ asm ∈ ((backend abi).run calls).runtime.assemblies, ∀ m,
          Offers env (descOf ty me) name asm m → Belongs env image m := by
  constructor
  · intro hlaw name image dom ho asm hasm m hoffers
    -- visit this assembly first
    have hfind : findMethod (env.reorder (visitFirst asm) (visitFirst_perm asm))
        (((backend abi).run calls).runtime.attach env.thread) (descOf ty me) name = some m :=
      findMethod_visitFirst hasm hoffers
    have hinvoke : MonoCall.invoke m 0 (Argv.sizeInBytes abi ⟨0, 0⟩) ∈
        (runMethod abi ((backend abi).run calls) h ty me ⟨0, 0⟩
          (env.reorder (visitFirst asm) (visitFirst_perm asm))).calls :=
      (invoke_mem_runMethod ho.entry ty me _ _ m _ _).mpr ⟨hfind, rfl, rfl⟩
    obtain ⟨name', image', dom', ho', hbelongs⟩ := hlaw _ _ _ m _ _ hinvoke
    rw [ho.image_unique ho']
    exact hbelongs
  · intro hcond visit hvisit a m args size hinvoke
    obtain ⟨name, dom, hentry⟩ := entry_of_invoke hinvoke
    obtain ⟨image, ho⟩ := opened_of_entry hentry
    obtain ⟨hfind, _⟩ := (invoke_mem_runMethod hentry ty me a _ m args size).mp hinvoke
    obtain ⟨asm, hasm, hoffers⟩ := offers_of_findMethod hfind
    exact ⟨name, image, dom, ho, hcond name image dom ho asm hasm m hoffers⟩

/-- Two plugins in files of different names, whose assemblies have one
simple name. -/
def sameAssemblyName : List Call :=
  [.clrInit (lit "/a/A.dll") [] (assemblyEnv (lit "Plugin") 1),
    .clrInit (lit "/b/B.dll") [] (assemblyEnv (lit "Plugin") 2)]

/-- Both images declare the method; the assemblies are visited as they were
loaded. -/
def bothDeclare : RunEnv where
  thread := 0
  visit := id
  visit_perm _ := .refl _
  validDesc _ := true
  searchImage image _ := some (10 + image)
  exception _ := none

/-- The handle of the second plugin runs the method of the first. -/
theorem wrong_dispatch :
    let hB := strHash linux64 (lit "B")
    OpenedFor linux64 sameAssemblyName hB (lit "Plugin") 2 2 ∧
      MonoCall.invoke 11 0 0 ∈ (runMethod linux64 ((backend linux64).run sameAssemblyName) hB
        (lit "T") (lit "M") ⟨0, 0⟩ bothDeclare).calls ∧
      ¬ Belongs bothDeclare 2 11 ∧
      ¬ DispatchesToOwn linux64 sameAssemblyName hB (lit "T") (lit "M") bothDeclare := by
  intro hB
  have hopened : OpenedFor linux64 sameAssemblyName hB (lit "Plugin") 2 2 := by
    refine ⟨[.clrInit (lit "/a/A.dll") [] (assemblyEnv (lit "Plugin") 1)], lit "/b/B.dll", [],
      assemblyEnv (lit "Plugin") 2, ⟨[], rfl, by decide, fun q hq => ?_⟩, by decide, rfl,
      by decide⟩
    rw [List.prefix_nil.mp hq]
    decide
  have hinvoke : MonoCall.invoke 11 0 0 ∈
      (runMethod linux64 ((backend linux64).run sameAssemblyName) hB (lit "T") (lit "M") ⟨0, 0⟩
        bothDeclare).calls := by decide
  have hforeign : ¬ Belongs bothDeclare 2 11 := by
    intro hex
    obtain ⟨desc, hdesc⟩ := hex
    cases hdesc
  refine ⟨hopened, hinvoke, hforeign, fun hlaw => ?_⟩
  obtain ⟨name, image, dom, ho, hbelongs⟩ :=
    hlaw bothDeclare.visit bothDeclare.visit_perm ⟨0, 0⟩ 11 0 0 hinvoke
  rw [← hopened.image_unique ho] at hbelongs
  exact hforeign hbelongs

end EzDotnet.Mono
