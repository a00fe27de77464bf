/-
EzDotnet.MonoCoreClr.ProtocolTheorems — in which order the backend talks to
the file system and to the runtime.

Each `clrInit` that is no hit is an attempt: a deps file is opened, the
runtime is brought up with the list that was read from it, and only behind a
JIT that came up is the main assembly asked for. A thread is attached, and a
method invoked right behind it, only in a process in which some attempt
loaded an assembly. `emitted_embedding` says so of every run; how OFTEN the
runtime is brought up is another matter.
-/
import EzDotnet.Lib.Protocol
import EzDotnet.MonoCoreClr.RuntimeTheorems

namespace EzDotnet.MonoCoreClr

open Lib (Protocol)

/-! ## The protocol -/

inductive Stage where
  | idle
  /-- a deps file was opened -/
  | deps
  /-- the list went to `monovm_initialize` -/
  | vm
  /-- the JIT came up -/
  | jit
  /-- the thread was attached -/
  | attached
  deriving DecidableEq, Repr

structure EmbedPhase where
  stage : Stage
  /-- some assembly was loaded -/
  loaded : Bool
  deriving DecidableEq, Repr

/-- Behind `monovm_initialize` nothing but the JIT is next, and behind a file
that could not be opened it is not. -/
def embedding : Protocol EmbedPhase MonoCall
  | ⟨stage, loaded⟩, .openDeps _ opened =>
    if stage = .vm then none else some ⟨if opened then .deps else .idle, loaded⟩
  | ⟨.deps, loaded⟩, .monovmInit _ => some ⟨.vm, loaded⟩
  | ⟨.vm, loaded⟩, .jitInit returned => some ⟨if returned then .jit else .idle, loaded⟩
  | ⟨.jit, loaded⟩, .loadFull _ assembly => some ⟨.idle, loaded || assembly.isSome⟩
  | ⟨stage, true⟩, .attach => if stage = .vm then none else some ⟨.attached, true⟩
  | ⟨.attached, loaded⟩, .invoke _ _ _ => some ⟨.idle, loaded⟩
  | _, _ => none

/-- The JIT was brought up, or tried to be, behind each `monovm_initialize`,
and the assembly of an entry was loaded. -/
structure Stands (s : State) (ph : EmbedPhase) : Prop where
  stage : ph.stage ≠ .vm
  loaded : ∀ h : AsmHandle, h ∈ s.gAssemblies → ph.loaded = true

variable {abi : Abi} {s : State}

/-! ## Steps -/

theorem run_loadAsmByName (env : InitEnv) (name : Str) (loaded : Bool) :
    ∃ stage, stage ≠ .vm ∧ embedding.run ⟨.jit, loaded⟩ (loadAsmByName env name).2 =
      some ⟨stage, loaded || (loadAsmByName env name).1.isSome⟩ := by
  unfold loadAsmByName
  split
  · exact ⟨.idle, by decide, rfl⟩
  · exact ⟨.jit, by decide, by simp⟩

theorem run_clrInit {ph : EmbedPhase} (hs : Stands s ph) (p d : Str) (env : InitEnv) :
    ∃ ph', embedding.run ph (clrInit abi s p d env).calls = some ph' ∧
      Stands (clrInit abi s p d env).state ph' := by
  obtain ⟨stage, loaded⟩ := ph
  by_cases hmem : (backend abi).key p ∈ s.gAssemblies
  · rw [clrInit_hit hmem]
    exact ⟨_, rfl, hs⟩
  have hopen : ∀ path opened es, embedding.run ⟨stage, loaded⟩ (.openDeps path opened :: es)
      = embedding.run ⟨if opened then .deps else .idle, loaded⟩ es := fun _ _ es =>
    embedding.run_cons_of (by simpa [embedding] using hs.stage) es
  have hopened : ∀ opened : Bool, Stands s ⟨if opened then .deps else .idle, loaded⟩ :=
    fun opened => ⟨by cases opened <;> simp, hs.loaded⟩
  unfold clrInit initializeAsm
  dsimp only
  rw [depsKey, if_neg hmem]
  generalize env.depsFile (cstr (getDepsJsonPath (toNativePath .unix p))) = file
  cases hfile : loadDepsJson file with
  | none => exact ⟨_, hopen _ _ [], hopened _⟩
  | some deps =>
    rw [isOpen_of_loadDepsJson hfile]
    dsimp only
    cases buildTpaList unix (cstr (getDepsJsonPath (toNativePath .unix p))) deps with
    | error f => cases f <;> exact ⟨_, hopen _ _ [], hopened true⟩
    | ok r =>
      dsimp only
      cases hjit : env.jitInit with
      | false => exact ⟨⟨.idle, loaded⟩, hopen _ true _, by simp, hs.loaded⟩
      | true =>
        obtain ⟨stage', hstage, hload⟩ := run_loadAsmByName env (cstr r.main_asm_fqdn) loaded
        have hkept : ∀ b, Stands s ⟨stage', loaded || b⟩ := fun b => ⟨hstage, fun h hh => by
          have hloaded : loaded = true := hs.loaded h hh
          simp [hloaded]⟩
        have hrun : ∀ path tpaList, embedding.run ⟨stage, loaded⟩
            ([.openDeps path true] ++ [.monovmInit tpaList, .jitInit true] ++
              (loadAsmByName env (cstr r.main_asm_fqdn)).2) =
            some ⟨stage', loaded || (loadAsmByName env (cstr r.main_asm_fqdn)).1.isSome⟩ :=
          fun _ _ => (hopen _ true _).trans hload
        rw [if_neg (by simp)]
        cases hasm : (loadAsmByName env (cstr r.main_asm_fqdn)).1 with
        | none => exact ⟨_, hrun _ _, hkept _⟩
        | some assembly =>
          dsimp only
          cases env.image assembly with
          | none => exact ⟨_, hrun _ _, hkept _⟩
          | some img => exact ⟨_, hrun _ _, hstage, fun h _ => by simp [hasm]⟩

theorem data_runMethod_calls (data : AsmInstanceData) (ty me : Str) (a : Argv) (env : RunEnv) :
    (data.runMethod abi ty me a env).2 = [] ∨ (data.runMethod abi ty me a env).2 = [.attach] ∨
      ∃ method args size,
        (data.runMethod abi ty me a env).2 = [.attach, .invoke method args size] := by
  unfold AsmInstanceData.runMethod
  cases splitType abi ty with
  | throws => exact .inl rfl
  | undefined => exact .inl rfl
  | value names =>
    obtain ⟨typeNs, typeCls⟩ := names
    dsimp only
    cases env.classFromName data.m_image (cstr typeNs) (cstr typeCls) with
    | none => exact .inr (.inl rfl)
    | some kls =>
      dsimp only
      cases env.methodFromName kls (cstr me) 2 with
      | none => exact .inr (.inl rfl)
      | some method => exact .inr (.inr ⟨_, _, _, rfl⟩)

/-- A handle that has an entry is one whose assembly was loaded. -/
theorem run_runMethod {ph : EmbedPhase} (hs : Stands s ph) (h : AsmHandle) (ty me : Str)
    (a : Argv) (env : RunEnv) :
    ∃ ph', embedding.run ph (runMethod abi s h ty me a env).calls = some ph' ∧
      Stands (runMethod abi s h ty me a env).state ph' := by
  rw [runMethod_state]
  unfold runMethod
  cases hdata : s.gAssemblies[h]? with
  | none => exact ⟨ph, rfl, hs⟩
  | some data =>
    obtain ⟨stage, loaded⟩ := ph
    obtain rfl : loaded = true := hs.loaded h (Lib.mem_iff_exists_getElem?.mpr ⟨data, hdata⟩)
    have hattach : ∀ es, embedding.run ⟨stage, true⟩ (.attach :: es)
        = embedding.run ⟨.attached, true⟩ es := fun es =>
      embedding.run_cons_of (by simpa [embedding] using hs.stage) es
    show ∃ ph', embedding.run ⟨stage, true⟩ (data.runMethod abi ty me a env).2 = some ph' ∧
      Stands s ph'
    rcases data_runMethod_calls data ty me a env with hcalls | hcalls | ⟨method, args, size, hcalls⟩
    · rw [hcalls]
      exact ⟨_, rfl, hs⟩
    · rw [hcalls]
      exact ⟨⟨.attached, true⟩, hattach [], by decide, fun _ _ => rfl⟩
    · rw [hcalls]
      exact ⟨⟨.idle, true⟩, hattach _, by decide, fun _ _ => rfl⟩

/-! ## Runs -/

/-- In every run, at every moment: the list goes to `monovm_initialize` only
right behind a deps file that was opened, the very next call brings the JIT up,
and the main assembly is asked for only right behind a JIT that came up; a
thread is attached only after some assembly was loaded, and a method invoked
only right behind that. -/
theorem emitted_embedding (abi : Abi) (calls : List Call) :
    ∃ ph, embedding.run ⟨.idle, false⟩ ((backend abi).emitted calls) = some ph ∧
      Stands ((backend abi).run calls) ph := by
  rw [(backend abi).emitted_eq_events]
  refine (backend abi).machine.run_events (R := Stands) ⟨by decide, ?_⟩ ?_
  · intro h hmem
    exact absurd hmem Std.ExtTreeMap.not_mem_empty
  · rintro ⟨s, c⟩ - ph hs
    cases c with
    | clrInit p d env => exact run_clrInit hs p d env
    | clrDeInit h env => exact ⟨ph, rfl, hs⟩
    | runMethod h ty me a env => exact run_runMethod hs h ty me a env

end EzDotnet.MonoCoreClr
