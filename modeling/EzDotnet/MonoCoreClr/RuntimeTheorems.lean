/-
EzDotnet.MonoCoreClr.RuntimeTheorems — how often a process brings the
runtime up.

The only guard of `initialize` is the lookup in `gAssemblies`, and the entry
goes in last, after the main assembly was found. Every `clrInit` that gets
past the lookup with a deps file it can use therefore calls
`monovm_initialize` and `mono_jit_init_version` (`ReachesRuntime`): a retry
after a load that failed, and the first call for a second assembly. The Mono
backend keeps `gMonoInitialized` for this. `oneRuntime_iff` counts: a run
brings one runtime up exactly when no two of its steps get that far.
-/
import EzDotnet.Common.Emitted
import EzDotnet.MonoCoreClr.DocumentTheorems

namespace EzDotnet.MonoCoreClr

/-- `monovm_initialize`. -/
def MonoCall.isMonovmInit : MonoCall → Bool
  | .monovmInit _ => true
  | _ => false

/-- `mono_jit_init_version`, and it returned a domain. -/
def MonoCall.isJitSuccess : MonoCall → Bool
  | .jitInit returned => returned
  | _ => false

/-- The call is a `clrInit` for a path without entry, whose deps file can be
read as a safe document. -/
def ReachesRuntime (abi : Abi) (s : State) : Call → Prop
  | .clrInit p _ env =>
    (backend abi).key p ∉ s.gAssemblies ∧ ∃ deps, readDeps env p = some deps ∧ DepsSafe deps
  | _ => False

variable {abi : Abi} {s : State} {p d : Str} {env : InitEnv}

/-! ## The calls of one step -/

theorem calls_hit (h : (backend abi).key p ∈ s.gAssemblies) :
    (clrInit abi s p d env).calls = [] := by
  rw [clrInit_hit h]

/-- A document was read from a file that was opened. -/
theorem isOpen_of_loadDepsJson {file : DepsFile} {deps : Json}
    (h : loadDepsJson file = some deps) : file.isOpen = true := by
  cases file with
  | missing => cases h
  | parseError left => rfl
  | numberOverflow => cases h
  | json deps => rfl

theorem calls_noDeps (h : (backend abi).key p ∉ s.gAssemblies)
    (hdeps : readDeps env p = none) :
    (clrInit abi s p d env).calls =
      [.openDeps (cstr (getDepsJsonPath p)) (env.depsFile (cstr (getDepsJsonPath p))).isOpen] := by
  have hdeps' : loadDepsJson (env.depsFile
      (cstr (getDepsJsonPath (toNativePath .unix p)))) = none := hdeps
  unfold clrInit initializeAsm
  dsimp only
  rw [depsKey, if_neg h, hdeps']
  rfl

theorem calls_fault (h : (backend abi).key p ∉ s.gAssemblies) {deps : Json}
    (hdeps : readDeps env p = some deps) {f : Fault} (hfault : tpaOf p deps = .error f) :
    (clrInit abi s p d env).calls = [.openDeps (cstr (getDepsJsonPath p)) true] := by
  have hdeps' : loadDepsJson (env.depsFile
      (cstr (getDepsJsonPath (toNativePath .unix p)))) = some deps := hdeps
  have hfault' : buildTpaList unix (cstr (getDepsJsonPath (toNativePath .unix p))) deps
      = .error f := hfault
  unfold clrInit initializeAsm
  dsimp only
  rw [depsKey, if_neg h, hdeps', isOpen_of_loadDepsJson hdeps']
  dsimp only
  rw [hfault']
  cases f <;> rfl

/-- Whatever comes of it, both functions of the runtime are called. -/
theorem calls_built (h : (backend abi).key p ∉ s.gAssemblies) {deps : Json}
    (hdeps : readDeps env p = some deps) {r : Ctx} (hbuilt : tpaOf p deps = .ok r) :
    ∃ loads, (clrInit abi s p d env).calls =
        .openDeps (cstr (getDepsJsonPath p)) true :: .monovmInit (cstr r.tpa_list) ::
          .jitInit env.jitInit :: loads ∧
      ∀ c ∈ loads, ∃ name loaded, c = .loadFull name loaded := by
  have hdeps' : loadDepsJson (env.depsFile
      (cstr (getDepsJsonPath (toNativePath .unix p)))) = some deps := hdeps
  have hbuilt' : buildTpaList unix (cstr (getDepsJsonPath (toNativePath .unix p))) deps
      = .ok r := hbuilt
  unfold clrInit initializeAsm
  dsimp only
  rw [depsKey, if_neg h, hdeps', isOpen_of_loadDepsJson hdeps']
  dsimp only
  rw [hbuilt']
  dsimp only
  cases hjit : env.jitInit with
  | false => exact ⟨[], rfl, by simp⟩
  | true =>
    refine ⟨(loadAsmByName env (cstr r.main_asm_fqdn)).2, ?_, ?_⟩
    · rw [if_neg (by simp)]
      cases (loadAsmByName env (cstr r.main_asm_fqdn)).1 with
      | none => rfl
      | some assembly =>
        dsimp only
        cases env.image assembly <;> rfl
    · unfold loadAsmByName
      split <;> simp

/-- The calls of a `clrInit`, as far as it gets. -/
theorem clrInit_calls (abi : Abi) (s : State) (p d : Str) (env : InitEnv) :
    (¬ ReachesRuntime abi s (.clrInit p d env) ∧
        ∀ c ∈ (clrInit abi s p d env).calls, ∃ path opened, c = .openDeps path opened) ∨
      (ReachesRuntime abi s (.clrInit p d env) ∧
        ∃ path tpaList loads, (clrInit abi s p d env).calls =
            .openDeps path true :: .monovmInit tpaList :: .jitInit env.jitInit :: loads ∧
          ∀ c ∈ loads, ∃ name loaded, c = .loadFull name loaded) := by
  unfold ReachesRuntime
  by_cases hmem : (backend abi).key p ∈ s.gAssemblies
  · rw [calls_hit hmem]
    exact .inl (by simp [hmem])
  cases hdeps : readDeps env p with
  | none =>
    rw [calls_noDeps hmem hdeps]
    exact .inl ⟨by simp [hdeps], fun c hc => ⟨_, _, List.mem_singleton.mp hc⟩⟩
  | some deps =>
    have hsafe : Lib.Returns (tpaOf p deps) ↔ DepsSafe deps := returns_buildTpaList
    cases hbuilt : tpaOf p deps with
    | error f =>
      have hunsafe : ¬ DepsSafe deps := by
        intro h
        obtain ⟨r, hr⟩ := hsafe.mpr h
        rw [hbuilt] at hr
        cases hr
      rw [calls_fault hmem hdeps hbuilt]
      exact .inl (by simp [hdeps, hunsafe])
    | ok r =>
      obtain ⟨loads, hcalls, hloads⟩ := calls_built (d := d) hmem hdeps hbuilt
      exact .inr ⟨⟨hmem, deps, hdeps, hsafe.mp ⟨r, hbuilt⟩⟩, _, _, loads, hcalls, hloads⟩

theorem runMethod_calls (abi : Abi) (s : State) (h : AsmHandle) (ty me : Str) (a : Argv)
    (env : RunEnv) :
    ∀ c ∈ (runMethod abi s h ty me a env).calls,
      c = .attach ∨ ∃ method, c = .invoke method a.argv (a.sizeInBytes abi) := by
  unfold runMethod
  cases s.gAssemblies[h]? with
  | none => simp
  | some data =>
    unfold AsmInstanceData.runMethod
    dsimp only
    cases splitType abi ty with
    | throws => simp
    | undefined => simp
    | value names =>
      obtain ⟨typeNs, typeCls⟩ := names
      dsimp only
      cases env.classFromName data.m_image (cstr typeNs) (cstr typeCls) with
      | none => simp
      | some kls =>
        dsimp only
        cases env.methodFromName kls (cstr me) 2 with
        | none => simp
        | some method => simp

/-! ## The ledger -/

/-- A step that comes to the runtime calls `monovm_initialize` once, and the
JIT comes up at most once in it; no other step calls either. -/
theorem countP_step (abi : Abi) (s : State) (c : Call) :
    (ReachesRuntime abi s c ∧
        ((backend abi).stepCalls s c).countP MonoCall.isMonovmInit = 1 ∧
        ((backend abi).stepCalls s c).countP MonoCall.isJitSuccess ≤ 1) ∨
      (¬ ReachesRuntime abi s c ∧
        ((backend abi).stepCalls s c).countP MonoCall.isMonovmInit = 0 ∧
        ((backend abi).stepCalls s c).countP MonoCall.isJitSuccess = 0) := by
  cases c with
  | clrInit p d env =>
    show (_ ∧ (clrInit abi s p d env).calls.countP _ = 1 ∧
        (clrInit abi s p d env).calls.countP _ ≤ 1) ∨
      (_ ∧ (clrInit abi s p d env).calls.countP _ = 0 ∧
        (clrInit abi s p d env).calls.countP _ = 0)
    rcases clrInit_calls abi s p d env with
      ⟨hreach, hopen⟩ | ⟨hreach, path, tpa, loads, hcalls, hloads⟩
    · refine .inr
        ⟨hreach, Lib.countP_eq_zero_of fun c hc => ?_, Lib.countP_eq_zero_of fun c hc => ?_⟩
      · obtain ⟨path, opened, rfl⟩ := hopen c hc
        rfl
      · obtain ⟨path, opened, rfl⟩ := hopen c hc
        rfl
    · have hmonovm : loads.countP MonoCall.isMonovmInit = 0 := by
        refine Lib.countP_eq_zero_of fun c hc => ?_
        obtain ⟨name, loaded, rfl⟩ := hloads c hc
        rfl
      have hjit : loads.countP MonoCall.isJitSuccess = 0 := by
        refine Lib.countP_eq_zero_of fun c hc => ?_
        obtain ⟨name, loaded, rfl⟩ := hloads c hc
        rfl
      rw [hcalls]
      simp only [List.countP_cons, hmonovm, hjit, MonoCall.isMonovmInit, MonoCall.isJitSuccess]
      refine .inl ⟨hreach, by simp, ?_⟩
      cases env.jitInit <;> simp
  | clrDeInit h env => exact .inr ⟨id, rfl, rfl⟩
  | runMethod h ty me a env =>
    have hrest := runMethod_calls abi s h ty me a env
    refine .inr
      ⟨id, Lib.countP_eq_zero_of fun c hc => ?_, Lib.countP_eq_zero_of fun c hc => ?_⟩
    · rcases hrest c hc with rfl | ⟨method, rfl⟩ <;> rfl
    · rcases hrest c hc with rfl | ⟨method, rfl⟩ <;> rfl

/-! ## One runtime in a process -/

/-- In the whole run `monovm_initialize` is called at most once, and
`mono_jit_init_version` returns a domain at most once. -/
def OneRuntime (abi : Abi) (calls : List Call) : Prop :=
  ((backend abi).emitted calls).countP MonoCall.isMonovmInit ≤ 1 ∧
    ((backend abi).emitted calls).countP MonoCall.isJitSuccess ≤ 1

/-- A run keeps to one runtime exactly when no two of its steps come to it:
once a `clrInit` has, every later one is for a path that is registered by
then, or for one whose deps file cannot be used. -/
theorem oneRuntime_iff (abi : Abi) (calls : List Call) :
    OneRuntime abi calls ↔ ((backend abi).machine.trace start calls).Pairwise
      fun x y => ¬ (ReachesRuntime abi x.1 x.2 ∧ ReachesRuntime abi y.1 y.2) := by
  classical
  have hcount : ((backend abi).emitted calls).countP MonoCall.isMonovmInit =
      ((backend abi).machine.trace start calls).countP
        fun x => ReachesRuntime abi x.1 x.2 := by
    refine Backend.countP_emitted_eq_countP fun x _ => ?_
    rcases countP_step abi x.1 x.2 with ⟨hreach, hone, _⟩ | ⟨hreach, hzero, _⟩
    · rw [hone, if_pos hreach]
    · rw [hzero, if_neg hreach]
  have hjit : ((backend abi).emitted calls).countP MonoCall.isJitSuccess ≤
      ((backend abi).emitted calls).countP MonoCall.isMonovmInit := by
    refine Backend.countP_emitted_mono fun x _ => ?_
    rcases countP_step abi x.1 x.2 with ⟨_, hone, hle⟩ | ⟨_, hzero, hzero'⟩
    · rw [hone]
      exact hle
    · rw [hzero, hzero']
  rw [← Lib.countP_le_one_iff, ← hcount]
  unfold OneRuntime
  omega

/-- Each of these runs brings the runtime up twice: a retry after the main
assembly was not found, a retry after it had no image, and the load of a
second assembly. -/
theorem runtime_twice :
    ¬ OneRuntime linux64
        [.clrInit (lit "/app/App.dll") [] { appEnv with loadFull := fun _ => none },
          .clrInit (lit "/app/App.dll") [] appEnv] ∧
      ¬ OneRuntime linux64
        [.clrInit (lit "/app/App.dll") [] { appEnv with image := fun _ => none },
          .clrInit (lit "/app/App.dll") [] appEnv] ∧
      ¬ OneRuntime linux64
        [.clrInit (lit "/app/App.dll") [] appEnv, .clrInit (lit "/app/B.dll") [] appEnv] := by
  unfold OneRuntime
  set_option maxRecDepth 4000 in decide

end EzDotnet.MonoCoreClr
