/-
EzDotnet.Backends.Driver — the exit status of the driver, end to end: what
it says about the assembly in the backend behind it.

The driver does not look at the handle, so an assembly that could not be
loaded is found out by the backend: with the null handle `runMethod` throws
in three of them, and the fourth never gets so far, as its `clrInit` throws
(`Strict`). So once the two functions are found the driver never exits with
status 1: either the assembly is registered and its method call came back,
with whatever number, and the status is 0, or the process dies.
-/
import EzDotnet.Backends.Registries
import EzDotnet.Cli.EzdotnetTheorems

namespace EzDotnet

namespace Backend

variable {σ η ι δ ρ ε : Type} {B : Backend σ η ι δ ρ ε}

/-- A handle that a first `clrInit` returns without an entry is good for
nothing: no `runMethod` with it returns. -/
def Strict (B : Backend σ η ι δ ρ ε) : Prop :=
  ∀ p dir env h, (B.clrInit B.start p dir env).ret = .value h →
    ¬ B.registered (B.clrInit B.start p dir env).state h →
      ∀ ty me a call rc,
        (B.runMethod (B.clrInit B.start p dir env).state h ty me a call).ret ≠ .value rc

/-- It is enough that `runMethod` never returns for an unregistered handle. -/
theorem strict_of_throws
    (h : ∀ s g ty me a call, ¬ B.registered s g → (B.runMethod s g ty me a call).ret = .throws) :
    B.Strict := by
  intro p dir env g _ hno ty me a call rc
  rw [h _ _ _ _ _ _ hno]
  simp

end Backend

namespace Cli

variable {σ η ι δ ρ ε : Type} {B : Backend σ η ι δ ρ ε}

/-- The driver gets as far as the two functions, and they are those of the
backend. -/
structure RunsOn (B : Backend σ η ι δ ρ ε) (env : Env σ) (args : Args) (cmd : Command)
    (undefinedDir : Str) (init : ι) (call : ρ) : Prop where
  command : args.command env.abi = some cmd
  loads : Loads env cmd (clrInitOf B undefinedDir init) (runMethodOf B call)

/-- The state of the backend when `runMethod` is called. -/
def loadedState (B : Backend σ η ι δ ρ ε) (env : Env σ) (cmd : Command) (undefinedDir : Str)
    (init : ι) : σ :=
  (B.clrInit B.start cmd.asmPath ((getPwd env.cwd bufSize).getD undefinedDir) init).state

/-- The assembly of the command is registered, and the call of its method
comes back. -/
def CameBack (B : Backend σ η ι δ ρ ε) (env : Env σ) (cmd : Command) (undefinedDir : Str)
    (init : ι) (call : ρ) : Prop :=
  let s := loadedState B env cmd undefinedDir init
  B.registered s (B.key cmd.asmPath) ∧
    ∃ rc, (B.runMethod s (B.key cmd.asmPath) cmd.className cmd.methodName cmd.modArgs call).ret
      = .value rc

/-- How the process ends. An exception that nothing catches ends it, and
undefined behaviour counts as its death too: what it does then is not said. -/
structure EndsBy (came : Prop) (status : Ret Int) : Prop where
  zero : status = .value 0 ↔ came
  dies : ¬ came → status = .throws ∨ status = .undefined

/-- Once it has the functions, the driver knows no status but 0. -/
theorem status_of_loads {env : Env σ} {args : Args} {cmd : Command} {clrInit : ClrInitFunc σ}
    {runMethod : RunMethodFunc σ} (hcmd : args.command env.abi = some cmd)
    (hload : Loads env cmd clrInit runMethod) :
    (main env args).status = .value 0 ∨ (main env args).status = .throws ∨
      (main env args).status = .undefined := by
  rw [main_loaded hcmd hload]
  dsimp only
  rcases clrInit cmd.asmPath (getPwd env.cwd bufSize) env.debugMode with ⟨s, handle | _ | _⟩
  · dsimp only
    cases runMethod s handle cmd.className cmd.methodName cmd.modArgs <;> simp [Ret.map]
  · exact .inr (.inl rfl)
  · exact .inr (.inr rfl)

theorem endsBy_driver (hB : B.Keyed) (hstrict : B.Strict) {env : Env σ} {args : Args}
    {cmd : Command} {undefinedDir : Str} {init : ι} {call : ρ}
    (h : RunsOn B env args cmd undefinedDir init call) :
    EndsBy (CameBack B env cmd undefinedDir init call) (main env args).status := by
  have hzero : (main env args).status = .value 0 ↔
      CameBack B env cmd undefinedDir init call := by
    rw [status_loaded h.command h.loads]
    constructor
    · intro hex
      obtain ⟨s, handle, rc, hinit, hrun⟩ := hex
      obtain ⟨rfl, hret⟩ := Prod.mk.inj hinit
      have hreg : B.registered (loadedState B env cmd undefinedDir init) handle := by
        by_contra hno
        exact hstrict _ _ _ _ hret hno _ _ _ _ rc hrun
      obtain ⟨rfl, -⟩ := hB.answered (hB.not_registered_start handle) hreg
      exact ⟨hreg, rc, hrun⟩
    · intro hcame
      obtain ⟨hreg, rc, hrun⟩ := hcame
      obtain ⟨-, hret⟩ := hB.answered (hB.not_registered_start _) hreg
      exact ⟨_, B.key cmd.asmPath, rc, Prod.ext rfl hret, hrun⟩
  exact ⟨hzero, fun hno =>
    (status_of_loads h.command h.loads).resolve_left fun hvalue => hno (hzero.mp hvalue)⟩

end Cli

/-! ## The four backends -/

namespace Backends

open CLRHost (windowsNames)

theorem coreCLR_strict (abi : Abi) : (CoreCLR.backend abi).Strict :=
  Backend.strict_of_throws fun s h ty me a call hno => by
    show (CoreCLR.runMethod abi s h ty me a call).ret = .throws
    have hnone : s.gPlugins[h]? = none := Std.ExtTreeMap.getElem?_eq_none hno
    unfold CoreCLR.runMethod
    rw [hnone]

theorem mono_strict (abi : Abi) : (Mono.backend abi).Strict :=
  Backend.strict_of_throws fun s h ty me a call hno => by
    show (Mono.runMethod abi s h ty me a call).ret = .throws
    have hnone : s.gPlugins[h]? = none := Std.ExtTreeMap.getElem?_eq_none hno
    unfold Mono.runMethod
    rw [hnone]

theorem monoCoreClr_strict (abi : Abi) : (MonoCoreClr.backend abi).Strict :=
  Backend.strict_of_throws fun s h ty me a call hno => by
    show (MonoCoreClr.runMethod abi s h ty me a call).ret = .throws
    have hnone : s.gAssemblies[h]? = none := Std.ExtTreeMap.getElem?_eq_none hno
    unfold MonoCoreClr.runMethod
    rw [hnone]

/-- The fourth returns no handle without an entry. -/
theorem clrHost_strict (fs : CLRHost.PathFns) (abi : Abi) : (CLRHost.backend fs abi).Strict := by
  intro p dir env h hret hno
  obtain ⟨made, hreg, hans⟩ := CLRHost.clrInit_registry fs abi CLRHost.start p dir env
  refine absurd ?_ hno
  change (CLRHost.clrInit fs abi CLRHost.start p dir env).ret = .value h at hret
  rw [hans] at hret
  split at hret
  · next hentry =>
    obtain rfl := Ret.value.inj hret
    show _ ∈ (CLRHost.clrInit fs abi CLRHost.start p dir env).state.gHandles
    rw [hreg, Lib.mem_acquire]
    exact hentry.imp id fun hmade => ⟨rfl, hmade⟩
  · cases hret

/-- Whatever the backend, the directory and the outcome of every external
step: once the driver has found the two functions, it exits with status 0
exactly when the assembly is registered under its own handle and the call of
the method came back, and with no other status. -/
theorem exit_status (fs : CLRHost.PathFns) (args : Cli.Args) (cmd : Cli.Command) (dir : Str) :
    (∀ (env : Cli.Env CoreCLR.State) init call,
      Cli.RunsOn (CoreCLR.backend env.abi) env args cmd dir init call →
        Cli.EndsBy (Cli.CameBack (CoreCLR.backend env.abi) env cmd dir init call)
          (Cli.main env args).status) ∧
    (∀ (env : Cli.Env Mono.State) init call,
      Cli.RunsOn (Mono.backend env.abi) env args cmd dir init call →
        Cli.EndsBy (Cli.CameBack (Mono.backend env.abi) env cmd dir init call)
          (Cli.main env args).status) ∧
    (∀ (env : Cli.Env MonoCoreClr.State) init call,
      Cli.RunsOn (MonoCoreClr.backend env.abi) env args cmd dir init call →
        Cli.EndsBy (Cli.CameBack (MonoCoreClr.backend env.abi) env cmd dir init call)
          (Cli.main env args).status) ∧
    ∀ (env : Cli.Env CLRHost.State) init call,
      Cli.RunsOn (CLRHost.backend fs env.abi) env args cmd dir init call →
        Cli.EndsBy (Cli.CameBack (CLRHost.backend fs env.abi) env cmd dir init call)
          (Cli.main env args).status :=
  ⟨fun env _ _ h => Cli.endsBy_driver (CoreCLR.keyed env.abi) (coreCLR_strict env.abi) h,
    fun env _ _ h => Cli.endsBy_driver (Mono.keyed env.abi) (mono_strict env.abi) h,
    fun env _ _ h => Cli.endsBy_driver (MonoCoreClr.keyed env.abi) (monoCoreClr_strict env.abi) h,
    fun env _ _ h => Cli.endsBy_driver (CLRHost.keyed fs env.abi) (clrHost_strict fs env.abi) h⟩

/-- hostfxr cannot be opened: the driver goes on with the null handle, and
dies. -/
theorem exit_status_noHostfxr :
    (Cli.main (Cli.coreclrEnv (lit "/app") Cli.noHostfxr Cli.noMethod) Cli.sampleArgs).status
      = .throws := by
  have hends := (exit_status windowsNames Cli.sampleArgs Cli.sampleCommand []).1
    (Cli.coreclrEnv (lit "/app") Cli.noHostfxr Cli.noMethod) Cli.noHostfxr Cli.noMethod
    ⟨Cli.sampleArgs_command, rfl⟩
  have hno : ¬ Cli.CameBack (CoreCLR.backend linux64)
      (Cli.coreclrEnv (lit "/app") Cli.noHostfxr Cli.noMethod) Cli.sampleCommand []
      Cli.noHostfxr Cli.noMethod := fun h => absurd h.1 (by decide)
  rcases hends.dies hno with h | h
  · exact h
  · exact absurd h (by decide)

end Backends

end EzDotnet
