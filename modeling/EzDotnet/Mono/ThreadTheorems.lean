/-
EzDotnet.Mono.ThreadTheorems — is the calling thread attached to Mono after
`runMethod` as it was before?

`runMethod` attaches the thread, whether it is attached or not, and detaches
it unless it returns early because there is no method. So a thread that was
not attached stays attached after the early return, and a thread that was,
as the one that brought Mono up, is detached by an invocation
(`runMethod_attached`). A call leaves the thread as it found it exactly when
it finds the method for a thread that is not attached, or no method for one
that is; a sequence of calls does so when each of them does.
-/
import EzDotnet.Mono.DispatchTheorems

namespace EzDotnet.Mono

/-! ## Is there a method? -/

/-- An assembly loaded under the name declares the method. -/
def Declared (env : RunEnv) (rt : Runtime) (methodDesc asmName : Str) : Prop :=
  ∃ asm ∈ rt.assemblies, ∃ m, Offers env methodDesc asmName asm m

variable {env : RunEnv} {methodDesc asmName : Str}

/-- The first assembly that offers a method ends the search. -/
theorem foldl_visit_ne_none {asms : List MonoAssembly} {asm : MonoAssembly} {m : Method}
    (hmem : asm ∈ asms) (hoffers : Offers env methodDesc asmName asm m) :
    asms.foldl (visitAssembly env methodDesc asmName) none ≠ none := by
  induction asms with
  | nil => cases hmem
  | cons first asms ih =>
    rw [List.foldl_cons]
    cases hvisit : visitAssembly env methodDesc asmName none first with
    | some found =>
      rw [foldl_visit_some]
      exact Option.some_ne_none found
    | none =>
      rcases List.mem_cons.mp hmem with rfl | hmem
      · rw [visit_eq_some.mpr hoffers] at hvisit
        cases hvisit
      · exact ih hmem

/-- The search over all assemblies finds a method if there is one. -/
theorem declared_iff {rt : Runtime} :
    Declared env rt methodDesc asmName ↔ ∃ m, findMethod env rt methodDesc asmName = some m := by
  constructor
  · intro hdecl
    obtain ⟨asm, hmem, m, hoffers⟩ := hdecl
    exact Option.ne_none_iff_exists'.mp
      (foldl_visit_ne_none ((env.visit_perm rt.assemblies).mem_iff.mpr hmem) hoffers)
  · intro hfound
    obtain ⟨m, hfind⟩ := hfound
    obtain ⟨asm, hmem, hoffers⟩ := offers_of_findMethod hfind
    exact ⟨asm, hmem, m, hoffers⟩

/-! ## One call -/

variable {s : State} {h : AsmHandle} {name : Str} {dom : Domain}

/-- Whatever the thread was, an invocation leaves it detached and the early
return leaves it attached. -/
theorem runMethod_attached (abi : Abi)
    (hentry : s.gPlugins[h]? = some ⟨.ptr name, .ptr dom⟩) (ty me : Str) (a : Argv)
    (env : RunEnv) :
    (Declared env s.runtime (descOf ty me) name →
      (runMethod abi s h ty me a env).state.runtime.attached =
        s.runtime.attached.erase env.thread) ∧
    (¬ Declared env s.runtime (descOf ty me) name →
      (runMethod abi s h ty me a env).state.runtime.attached =
        insert env.thread s.runtime.attached) := by
  have hsearch : Declared env s.runtime (descOf ty me) name ↔
      ∃ m, findMethod env (s.runtime.attach env.thread) (descOf ty me) name = some m :=
    declared_iff
  rw [hsearch]
  unfold runMethod
  rw [hentry]
  unfold PluginInstanceData.runMethod
  dsimp only
  rw [← descOf]
  cases hfind : findMethod env (s.runtime.attach env.thread) (descOf ty me) name with
  | none => simp [Runtime.attach]
  | some m => simp [Runtime.attach, Runtime.detach]

/-- Without an entry that has a name and a domain, Mono is not called. -/
theorem runMethod_noEntry (abi : Abi)
    (hentry : ∀ name dom, s.gPlugins[h]? ≠ some ⟨.ptr name, .ptr dom⟩) (ty me : Str) (a : Argv)
    (env : RunEnv) :
    (runMethod abi s h ty me a env).state = s := by
  unfold runMethod
  cases hdata : s.gPlugins[h]? with
  | none => rfl
  | some data =>
    dsimp only
    unfold PluginInstanceData.runMethod
    split
    · next asmName appDomain => exact absurd hdata (hentry asmName appDomain)
    · rfl

/-- The call leaves its thread as it found it. -/
def KeepsThread (abi : Abi) (s : State) (h : AsmHandle) (ty me : Str) (a : Argv)
    (env : RunEnv) : Prop :=
  env.thread ∈ (runMethod abi s h ty me a env).state.runtime.attached ↔
    env.thread ∈ s.runtime.attached

/-- There is a method exactly when the thread is not attached. -/
def CleansUp (s : State) (h : AsmHandle) (ty me : Str) (env : RunEnv) : Prop :=
  ∀ name dom, s.gPlugins[h]? = some ⟨.ptr name, .ptr dom⟩ →
    (Declared env s.runtime (descOf ty me) name ↔ env.thread ∉ s.runtime.attached)

/-- The calling thread is the only one that a call attaches or detaches. -/
theorem attached_eq_iff (abi : Abi) (ty me : Str) (a : Argv) (env : RunEnv) :
    (runMethod abi s h ty me a env).state.runtime.attached = s.runtime.attached ↔
      KeepsThread abi s h ty me a env := by
  refine ⟨fun heq => ?_, fun hkeeps => ?_⟩
  · unfold KeepsThread
    rw [heq]
  · unfold KeepsThread at hkeeps
    by_cases hentry : ∃ name dom, s.gPlugins[h]? = some ⟨.ptr name, .ptr dom⟩
    · obtain ⟨name, dom, hentry⟩ := hentry
      obtain ⟨herase, hinsert⟩ := runMethod_attached abi hentry ty me a env
      by_cases hdecl : Declared env s.runtime (descOf ty me) name
      · rw [herase hdecl] at hkeeps ⊢
        exact Finset.erase_eq_of_notMem (by simpa using hkeeps)
      · rw [hinsert hdecl] at hkeeps ⊢
        exact Finset.insert_eq_of_mem (by simpa using hkeeps)
    · rw [runMethod_noEntry abi fun name dom heq => hentry ⟨name, dom, heq⟩]

theorem keepsThread_iff_cleansUp (abi : Abi) (s : State) (h : AsmHandle) (ty me : Str) (a : Argv)
    (env : RunEnv) : KeepsThread abi s h ty me a env ↔ CleansUp s h ty me env := by
  by_cases hentry : ∃ name dom, s.gPlugins[h]? = some ⟨.ptr name, .ptr dom⟩
  · obtain ⟨name, dom, hentry⟩ := hentry
    have hclean : CleansUp s h ty me env ↔
        (Declared env s.runtime (descOf ty me) name ↔ env.thread ∉ s.runtime.attached) := by
      refine ⟨fun hall => hall name dom hentry, fun hcond name' dom' hentry' => ?_⟩
      rw [hentry] at hentry'
      cases hentry'
      exact hcond
    obtain ⟨herase, hinsert⟩ := runMethod_attached abi hentry ty me a env
    rw [hclean]
    unfold KeepsThread
    by_cases hdecl : Declared env s.runtime (descOf ty me) name
    · simp [herase hdecl, hdecl]
    · simp [hinsert hdecl, hdecl]
  · have hnone : ∀ name dom, s.gPlugins[h]? ≠ some ⟨.ptr name, .ptr dom⟩ :=
      fun name dom heq => hentry ⟨name, dom, heq⟩
    unfold KeepsThread
    rw [runMethod_noEntry abi hnone]
    exact ⟨fun _ name dom heq => absurd heq (hnone name dom), fun _ => Iff.rfl⟩

/-! ## Any number of calls -/

/-- The step is a `runMethod` that cleans up. -/
def StepCleansUp (s : State) : Call → Prop
  | .runMethod h ty me _ env => CleansUp s h ty me env
  | _ => True

def IsRunMethod (c : Call) : Prop := ∃ h ty me a env, c = .runMethod h ty me a env

theorem attached_next_iff (abi : Abi) {c : Call} (hc : IsRunMethod c) :
    ((backend abi).machine.next s c).runtime.attached = s.runtime.attached ↔
      StepCleansUp s c := by
  obtain ⟨h, ty, me, a, env, rfl⟩ := hc
  rw [Backend.next_runMethod]
  exact (attached_eq_iff abi ty me a env).trans (keepsThread_iff_cleansUp abi s h ty me a env)

/-- In any state, a call leaves its thread as it found it exactly when there
is a method for a thread that is not attached or none for one that is. Any
number of calls, from whatever threads, are balanced at every point exactly
when each of them meets this condition in the state that it finds. -/
theorem keepsThread_iff (abi : Abi) (s : State) (calls : List Call)
    (hcalls : ∀ c ∈ calls, IsRunMethod c) :
    (∀ h ty me a env, KeepsThread abi s h ty me a env ↔ CleansUp s h ty me env) ∧
    ((∀ q, q <+: calls →
        ((backend abi).machine.exec s q).runtime.attached = s.runtime.attached) ↔
      ∀ x ∈ (backend abi).machine.trace s calls, StepCleansUp x.1 x.2) := by
  refine ⟨fun h ty me a env => keepsThread_iff_cleansUp abi s h ty me a env, ?_⟩
  have hconst : (∀ q, q <+: calls →
        ((backend abi).machine.exec s q).runtime.attached = s.runtime.attached) ↔
      ∀ x ∈ (backend abi).machine.trace s calls,
        ((backend abi).machine.next x.1 x.2).runtime.attached = x.1.runtime.attached :=
    (backend abi).machine.constant_iff (f := fun t : State => t.runtime.attached)
  refine hconst.trans (forall₂_congr fun x hx => attached_next_iff abi (hcalls x.2 ?_))
  obtain ⟨pre, post, rfl, -⟩ := (backend abi).machine.mem_trace.mp hx
  simp

/-- One plugin, loaded by thread 0. -/
def onePlugin : State := (backend linux64).run [.clrInit pluginPath [] (assemblyEnv (lit "P") 1)]

/-- Thread `t` in a Mono whose images declare one method each, `T::M`. -/
def threadEnv (t : ThreadId) : RunEnv :=
  { bothDeclare with
    thread := t
    searchImage := fun image desc => if desc = lit "T::M" then some (10 + image) else none }

def callFrom (t : ThreadId) (me : Str) : Call :=
  .runMethod pluginHandle (lit "T") me ⟨0, 0⟩ (threadEnv t)

/-- Another thread invokes the method, twice; thread 0 misses one in between. -/
def balancedCalls : List Call :=
  [callFrom 7 (lit "M"), callFrom 0 (lit "N"), callFrom 7 (lit "M")]

theorem keepsThread_balancedCalls :
    ((backend linux64).machine.exec onePlugin balancedCalls).runtime.attached =
      onePlugin.runtime.attached := by
  have hcalls : ∀ c ∈ balancedCalls, IsRunMethod c := by simp [balancedCalls, callFrom, IsRunMethod]
  have hclean : ∀ x ∈ (backend linux64).machine.trace onePlugin balancedCalls,
      StepCleansUp x.1 x.2 := by
    simp only [balancedCalls, Lib.Machine.trace_cons, Lib.Machine.trace_nil, List.forall_mem_cons]
    refine ⟨?_, ?_, ?_, by simp⟩
    · exact (keepsThread_iff_cleansUp linux64 _ _ _ _ ⟨0, 0⟩ _).mp (by unfold KeepsThread; decide)
    · exact (keepsThread_iff_cleansUp linux64 _ _ _ _ ⟨0, 0⟩ _).mp (by unfold KeepsThread; decide)
    · exact (keepsThread_iff_cleansUp linux64 _ _ _ _ ⟨0, 0⟩ _).mp (by unfold KeepsThread; decide)
  exact (keepsThread_iff linux64 onePlugin balancedCalls hcalls).2.mpr hclean balancedCalls
    (List.prefix_refl _)

/-- A thread that was not attached stays attached when the method is missing,
and the thread that brought Mono up is detached when it is there. -/
theorem threads_unbalanced :
    (¬ KeepsThread linux64 onePlugin pluginHandle (lit "T") (lit "N") ⟨0, 0⟩ (threadEnv 7) ∧
      7 ∉ onePlugin.runtime.attached ∧
      7 ∈ (runMethod linux64 onePlugin pluginHandle (lit "T") (lit "N") ⟨0, 0⟩
        (threadEnv 7)).state.runtime.attached) ∧
    ¬ KeepsThread linux64 onePlugin pluginHandle (lit "T") (lit "M") ⟨0, 0⟩ (threadEnv 0) ∧
      0 ∈ onePlugin.runtime.attached ∧
      0 ∉ (runMethod linux64 onePlugin pluginHandle (lit "T") (lit "M") ⟨0, 0⟩
        (threadEnv 0)).state.runtime.attached := by
  unfold KeepsThread
  decide

end EzDotnet.Mono
