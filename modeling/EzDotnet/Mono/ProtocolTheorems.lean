/-
EzDotnet.Mono.ProtocolTheorems — in which order the backend calls Mono.

`runtimeUse` is that order as a protocol over the calls. Mono is down until a
JIT comes up, and the configuration is parsed right behind that. A domain is
then set up in one go: it is created, it gets its configuration, the assembly
is opened in it, and the references of ONE image are loaded row by row. A
thread is attached before a method is invoked and detached right behind it.
`emitted_runtimeUse` says so of every run, whatever handles its calls are
given.

One call is outside of this order. A `clrDeInit` of a handle that holds no
domain passes `mono_domain_unload` a pointer that was never stored, between
any two other things and even while Mono is down: a run may begin with it.
-/
import EzDotnet.Lib.Protocol
import EzDotnet.Mono.DisciplineTheorems

namespace EzDotnet.Mono

open Lib (Protocol)

/-! ## The protocol -/

inductive RuntimePhase where
  | down
  /-- the JIT came up, and its configuration is not parsed yet -/
  | jit
  | ready
  /-- the domain was created -/
  | created (domain : Domain)
  /-- and got its configuration -/
  | configured (domain : Domain)
  /-- the assembly was opened in it, or tried to be -/
  | opened
  /-- the references of the image were loaded up to this row -/
  | references (image : Image) (row : Nat)
  /-- the thread was attached -/
  | attached
  | invoked
  deriving DecidableEq, Repr

/-- Anything may be started here. -/
def RuntimePhase.idle : RuntimePhase → Bool
  | .ready | .opened | .references _ _ | .attached => true
  | _ => false

def runtimeUse : Protocol RuntimePhase MonoCall
  | .down, .jitInit none => some .down
  | .down, .jitInit (some _) => some .jit
  | .jit, .configParse => some .ready
  | ph, .createAppdomain _ domain => if ph.idle then some (.created domain) else none
  | .created domain, .setConfig domain' _ _ =>
    if domain' = domain then some (.configured domain) else none
  | .configured domain, .openAssembly domain' _ =>
    if domain' = domain then some .opened else none
  | .opened, .loadReference image row => if row = 0 then some (.references image 1) else none
  | .references image next, .loadReference image' row =>
    if image' = image ∧ row = next then some (.references image (next + 1)) else none
  | ph, .attach _ => if ph.idle then some .attached else none
  | .attached, .invoke _ _ _ => some .invoked
  | .invoked, .detach => some .ready
  | .down, .unload (.ptr _) => none
  -- a pointer that was never stored
  | .down, .unload _ => some .down
  | ph, .unload _ => if ph.idle then some .ready else none
  | _, _ => none

/-- The phase tells whether Mono is up; no entry holds a domain before. -/
structure Stands (s : State) (ph : RuntimePhase) : Prop where
  up : s.gMonoInitialized = true → ph.idle = true
  down : s.gMonoInitialized = false → ph = .down
  holds : ∀ {h : AsmHandle} {data : PluginInstanceData} {dom : Domain},
    s.gPlugins[h]? = some data → data.appDomain = .ptr dom → s.gMonoInitialized = true

variable {abi : Abi} {s : State} {ph : RuntimePhase}

theorem stands_start : Stands start .down where
  up h := by simp [start] at h
  down _ := rfl
  holds h := by simp [start] at h

/-- Once Mono is up, any idle phase will do. -/
theorem Stands.of_idle (hs : s.gMonoInitialized = true) {ph' : RuntimePhase}
    (hph : ph'.idle = true) : Stands s ph' where
  up _ := hph
  down hdown := by rw [hs] at hdown; cases hdown
  holds _ _ := hs

/-! ## The setup of a domain -/

/-- The rows are loaded in their order. -/
theorem run_references (image : Image) (row n : Nat) :
    runtimeUse.run (.references image row) ((List.range' row n).map (.loadReference image)) =
      some (.references image (row + n)) := by
  induction n generalizing row with
  | zero => rfl
  | succ n ih =>
    have hrow : runtimeUse (.references image row) (.loadReference image row) =
        some (.references image (row + 1)) := by simp [runtimeUse]
    rw [List.range'_succ, List.map_cons, runtimeUse.run_cons_of hrow, ih, Nat.add_right_comm]
    rfl

theorem run_rows (image : Image) (n : Nat) :
    ∃ ph', runtimeUse.run .opened ((List.range n).map (.loadReference image)) = some ph' ∧
      ph'.idle = true := by
  rw [List.range_eq_range']
  cases n with
  | zero => exact ⟨.opened, rfl, rfl⟩
  | succ n =>
    refine ⟨.references image (1 + n), ?_, rfl⟩
    rw [List.range'_succ, List.map_cons]
    exact run_references image 1 n

/-- Created, configured, opened. -/
theorem run_setup (hidle : ph.idle = true) (name dir config path : Str) (domain : Domain)
    (rest : List MonoCall) :
    runtimeUse.run ph ([.createAppdomain name domain, .setConfig domain dir config,
      .openAssembly domain path] ++ rest) = runtimeUse.run .opened rest := by
  have hcreate : runtimeUse ph (.createAppdomain name domain) = some (.created domain) := by
    cases ph <;> simp_all [runtimeUse, RuntimePhase.idle]
  rw [List.cons_append, runtimeUse.run_cons_of hcreate]
  simp [Protocol.run_cons, runtimeUse]

/-! ## Steps -/

/-- Where the JIT does not come up, Mono stays down. -/
theorem run_initMono (hs : Stands s ph) (env : InitEnv) :
    ∃ ph', runtimeUse.run ph (initMono s env).2.2 = some ph' ∧
      ((initMono s env).1 = true → ph'.idle = true ∧ (readyState s env).gMonoInitialized = true) ∧
      ((initMono s env).1 = false → ph' = .down) := by
  unfold readyState initMono
  cases hinit : s.gMonoInitialized with
  | true => exact ⟨ph, rfl, fun _ => ⟨hs.up hinit, hinit⟩, by simp⟩
  | false =>
    obtain rfl := hs.down hinit
    cases env.jitInit with
    | true => exact ⟨.ready, rfl, by simp [RuntimePhase.idle], by simp⟩
    | false => exact ⟨.down, rfl, by simp, by simp⟩

theorem run_clrInit (hs : Stands s ph) (p d : Str) (env : InitEnv) :
    ∃ ph', runtimeUse.run ph (clrInit abi s p d env).calls = some ph' ∧
      Stands (clrInit abi s p d env).state ph' := by
  by_cases hmem : (backend abi).key p ∈ s.gPlugins
  · rw [clrInit_hit hmem]
    exact ⟨ph, rfl, hs⟩
  obtain ⟨ph', hinit, hup, hdown⟩ := run_initMono hs env
  cases hjit : (initMono s env).1 with
  | false =>
    obtain rfl := hdown hjit
    have hoff := (initMono_false hjit).1
    rw [clrInit_noJit hmem hjit]
    refine ⟨.down, hinit, ?_, fun _ => rfl, hs.holds⟩
    intro hon
    rw [hoff] at hon
    cases hon
  | true =>
    obtain ⟨hidle, hflag⟩ := hup hjit
    have hsetup : ∀ name dir config path domain rest,
        runtimeUse.run ph ((initMono s env).2.2 ++ [.createAppdomain name domain,
          .setConfig domain dir config, .openAssembly domain path] ++ rest) =
          runtimeUse.run .opened rest := by
      intro name dir config path domain rest
      rw [List.append_assoc, Protocol.run_append, hinit, Option.bind_some, run_setup hidle]
    have hopened : ∀ name dir config path domain,
        runtimeUse.run ph ((initMono s env).2.2 ++ [.createAppdomain name domain,
          .setConfig domain dir config, .openAssembly domain path]) = some .opened := by
      intro name dir config path domain
      rw [← List.append_nil (_ ++ _), hsetup]
      rfl
    unfold clrInit initializeAsm
    dsimp only
    rw [pluginKey, if_neg hmem, if_neg (by rw [hjit]; simp)]
    cases env.assembly with
    | none => exact ⟨.opened, hopened _ _ _ _ _, .of_idle (by exact hflag) rfl⟩
    | some opened =>
      obtain ⟨name, image⟩ := opened
      cases image with
      | none => exact ⟨.opened, hopened _ _ _ _ _, .of_idle (by exact hflag) rfl⟩
      | some image =>
        obtain ⟨last, hrows, hlast⟩ := run_rows image env.references.length
        exact ⟨last, (hsetup _ _ _ _ _ _).trans hrows, .of_idle (by exact hflag) hlast⟩

/-- An entry that `operator[]` makes holds no domain. -/
theorem Stands.phantom (hs : Stands s ph) {h : AsmHandle} {data : PluginInstanceData}
    (hdata : ∀ dom, data.appDomain ≠ .ptr dom) :
    Stands { s with gPlugins := s.gPlugins.insertIfNew h data } ph where
  up := hs.up
  down := hs.down
  holds {g other dom} hother hdom := by
    rw [Std.ExtTreeMap.getElem?_insertIfNew] at hother
    split at hother
    · rw [← Option.some.inj hother] at hdom
      exact absurd hdom (hdata dom)
    · exact hs.holds hother hdom

/-- A pointer that was never stored may be unloaded whether Mono is up or not. -/
theorem run_unload_stray (hs : Stands s ph) {v : Slot Domain} (hv : ∀ dom, v ≠ .ptr dom) :
    ∃ ph', runtimeUse.run ph [.unload v] = some ph' ∧ Stands s ph' := by
  cases hinit : s.gMonoInitialized with
  | true =>
    have hidle := hs.up hinit
    have hunload : runtimeUse ph (.unload v) = some .ready := by
      cases ph <;> simp_all [runtimeUse, RuntimePhase.idle]
    exact ⟨.ready, runtimeUse.run_cons_of hunload [], .of_idle hinit rfl⟩
  | false =>
    obtain rfl := hs.down hinit
    cases v with
    | ptr dom => exact absurd rfl (hv dom)
    | unset | null => exact ⟨.down, rfl, hs⟩

theorem run_clrDeInit (hs : Stands s ph) (h : AsmHandle) :
    ∃ ph', runtimeUse.run ph (clrDeInit s h ()).calls = some ph' ∧
      Stands (clrDeInit s h ()).state ph' := by
  cases hdata : s.gPlugins[h]? with
  | none =>
    have hmem : h ∉ s.gPlugins := by
      rw [Lib.mem_iff_exists_getElem?, hdata]
      simp
    obtain ⟨ph', hrun, hs'⟩ := run_unload_stray hs (v := .unset) (by simp)
    rw [clrDeInit_unregistered hmem]
    exact ⟨ph', hrun, hs'.phantom (by simp)⟩
  | some data =>
    cases hdom : data.appDomain with
    | ptr dom =>
      have hup := hs.holds hdata hdom
      rw [clrDeInit_registered hdata hdom]
      refine ⟨.ready, ?_, .of_idle (by exact hup) rfl⟩
      have hidle := hs.up hup
      cases ph <;> simp_all [Protocol.run_cons, runtimeUse, RuntimePhase.idle]
    | unset | null =>
      obtain ⟨ph', hrun, hs'⟩ := run_unload_stray hs (v := data.appDomain) (by simp [hdom])
      rw [hdom] at hrun
      refine ⟨ph', ?_, ?_⟩
      · simp only [clrDeInit, hdata, Option.getD_some, hdom]
        exact hrun
      · simp only [clrDeInit, hdata, Option.getD_some, hdom]
        exact hs'.phantom (by simp [hdom])

theorem data_runMethod_calls (data : PluginInstanceData) (ty me : Str) (a : Argv) (rt : Runtime)
    (env : RunEnv) :
    (data.runMethod abi ty me a rt env).calls = [] ∨
      ∃ dom, data.appDomain = .ptr dom ∧
        ((data.runMethod abi ty me a rt env).calls = [.attach dom] ∨
          ∃ method args size,
            (data.runMethod abi ty me a rt env).calls =
              [.attach dom, .invoke method args size, .detach]) := by
  unfold PluginInstanceData.runMethod
  split
  · next asmName dom =>
    refine .inr ⟨dom, rfl, ?_⟩
    dsimp only
    split
    · exact .inl rfl
    · exact .inr ⟨_, _, _, rfl⟩
  · exact .inl rfl

/-- A method is invoked between `attach` and `detach`. -/
theorem run_runMethod (hs : Stands s ph) (h : AsmHandle) (ty me : Str) (a : Argv)
    (env : RunEnv) :
    ∃ ph', runtimeUse.run ph (runMethod abi s h ty me a env).calls = some ph' ∧
      Stands (runMethod abi s h ty me a env).state ph' := by
  have hsame : ∀ ph', Stands s ph' → Stands (runMethod abi s h ty me a env).state ph' := by
    obtain ⟨attached, hstate⟩ := runMethod_state abi s h ty me a env
    rw [hstate]
    exact fun ph' hph' => ⟨hph'.up, hph'.down, hph'.holds⟩
  cases hdata : s.gPlugins[h]? with
  | none =>
    refine ⟨ph, ?_, hsame ph hs⟩
    simp [runMethod, hdata]
  | some data =>
    have hcalls : (runMethod abi s h ty me a env).calls =
        (data.runMethod abi ty me a s.runtime env).calls := by simp [runMethod, hdata]
    rw [hcalls]
    rcases data_runMethod_calls data ty me a s.runtime env with
      hnone | ⟨dom, hdom, hsome⟩
    · rw [hnone]
      exact ⟨ph, rfl, hsame ph hs⟩
    · have hup := hs.holds hdata hdom
      have hidle := hs.up hup
      have hattach : runtimeUse ph (.attach dom) = some .attached := by
        cases ph <;> simp_all [runtimeUse, RuntimePhase.idle]
      rcases hsome with hsome | ⟨method, args, size, hsome⟩
      · rw [hsome, runtimeUse.run_cons_of hattach]
        exact ⟨.attached, rfl, hsame _ (.of_idle hup rfl)⟩
      · rw [hsome, runtimeUse.run_cons_of hattach]
        exact ⟨.ready, rfl, hsame _ (.of_idle hup rfl)⟩

/-! ## Runs -/

/-- In every run, at every moment: Mono comes up at most once, and its
configuration is parsed right behind that, before anything else is done with it,
except that a `clrDeInit` of a handle without a domain may have passed
`mono_domain_unload` a pointer that was never stored; every domain that is
created is configured and gets its assembly before any other call, and the
references of an image are loaded in the order of its rows; a method is invoked
only by a thread attached right before, which is detached right behind. The
phase the run ends in tells whether Mono is up. -/
theorem emitted_runtimeUse (abi : Abi) (calls : List Call) :
    ∃ ph, runtimeUse.run .down ((backend abi).emitted calls) = some ph ∧
      Stands ((backend abi).run calls) ph := by
  rw [(backend abi).emitted_eq_events]
  refine (backend abi).machine.run_events (R := Stands) stands_start ?_
  rintro ⟨s, c⟩ - ph hs
  cases c with
  | clrInit p d env => exact run_clrInit hs p d env
  | clrDeInit h env => exact run_clrDeInit hs h
  | runMethod h ty me a env => exact run_runMethod hs h ty me a env

/-- A `clrDeInit` before anything was loaded. -/
example : runtimeUse.run .down ((backend linux64).emitted [.clrDeInit 1 ()]) = some .down ∧
    (backend linux64).emitted [.clrDeInit 1 ()] = [.unload .unset] := by decide

end EzDotnet.Mono
