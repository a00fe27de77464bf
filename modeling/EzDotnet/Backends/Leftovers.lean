/-
EzDotnet.Backends.Leftovers — what a failed `clrInit` leaves behind in the
two backends with app domains.

Both create the app domain before they know whether the assembly can be
loaded into it, and the exits after that point take nothing back: the early
returns of the Mono backend and the exceptions that leave `initialize` in
the CLRHost backend. Only the registry is as before, because it is written
last. So every call that fails after the domain was created leaves one more
live domain (and in CLRHost one more resolve handler), in every reachable
state, and a path that fails n times leaves n of them.
-/
import EzDotnet.Backends.Registries
import EzDotnet.Mono.DisciplineTheorems

/-! ## Mono -/

namespace EzDotnet.Mono

/-- `initialize` fails after the new domain was created: the JIT is up or
comes up, and the assembly does not open or has no image. -/
def FailsAfterDomain (abi : Abi) (s : State) : Call → Prop
  | .clrInit p _ env =>
    (backend abi).key p ∉ s.gPlugins ∧ (initMono s env).1 = true ∧
      ∀ name image, env.assembly ≠ some (name, some image)
  | _ => False

/-- The same app domains and the same registry. -/
def LeavesNothing (s s' : State) : Prop :=
  appDomains s' = appDomains s ∧ s'.gPlugins = s.gPlugins

variable {abi : Abi} {s : State} {c : Call}

/-- These are the calls that create an app domain and register nothing. -/
theorem failsAfterDomain_iff {p d : Str} {env : InitEnv} :
    FailsAfterDomain abi s (.clrInit p d env) ↔
      (∃ call ∈ (clrInit abi s p d env).calls, call.isCreateAppdomain = true) ∧
        (backend abi).key p ∉ (clrInit abi s p d env).state.gPlugins := by
  by_cases hmem : (backend abi).key p ∈ s.gPlugins
  · rw [clrInit_hit hmem]
    simp [FailsAfterDomain, hmem]
  cases hjit : (initMono s env).1 with
  | false =>
    have hcalls : (initMono s env).2.2 = [.jitInit none] := by
      obtain ⟨hflag, hno, _⟩ := initMono_false hjit
      simp [initMono, hflag, hno]
    rw [clrInit_noJit hmem hjit, hcalls]
    simp [FailsAfterDomain, hjit, MonoCall.isCreateAppdomain]
  | true =>
    by_cases hasm : ∃ name image, env.assembly = some (name, some image)
    · obtain ⟨name, image, hasm⟩ := hasm
      obtain ⟨loaded, hstate, _⟩ := clrInit_loaded (d := d) hmem hjit hasm
      rw [hstate]
      simp [FailsAfterDomain, hasm]
    · have hno : ∀ name image, env.assembly ≠ some (name, some image) :=
        fun name image heq => hasm ⟨name, image, heq⟩
      obtain ⟨loaded, hstate, _⟩ := clrInit_failed (d := d) hmem hjit hno
      refine ⟨fun _ => ⟨?_, ?_⟩, fun _ => ⟨hmem, hjit, hno⟩⟩
      · refine ⟨.createAppdomain (pluginName p) (readyState s env).runtime.nextDomain, ?_, rfl⟩
        unfold clrInit initializeAsm
        dsimp only
        rw [pluginKey, if_neg hmem, if_neg (by rw [hjit]; simp)]
        cases hopen : env.assembly with
        | none => simp [readyState, toNativePath]
        | some opened =>
          obtain ⟨name, image⟩ := opened
          cases image with
          | none => simp [readyState, toNativePath]
          | some image => exact absurd hopen (hno name image)
      · rw [hstate]
        exact (initMono_gPlugins s env).symm ▸ hmem

/-- The registry is as before. -/
theorem leaves_registry (hc : FailsAfterDomain abi s c) :
    ((backend abi).machine.next s c).gPlugins = s.gPlugins := by
  cases c with
  | clrInit p d env =>
    obtain ⟨hmem, hjit, hasm⟩ := hc
    obtain ⟨loaded, hstate, _⟩ := clrInit_failed (d := d) hmem hjit hasm
    show (clrInit abi s p d env).state.gPlugins = _
    rw [hstate]
    exact initMono_gPlugins s env
  | clrDeInit h env => exact hc.elim
  | runMethod h ty me a env => exact hc.elim

/-- There is one app domain more. -/
theorem leaves_domain (hs : Grounded s) (hc : FailsAfterDomain abi s c) :
    ∃ fresh, fresh ∉ appDomains s ∧
      appDomains ((backend abi).machine.next s c) = insert fresh (appDomains s) := by
  cases c with
  | clrInit p d env =>
    obtain ⟨hmem, hjit, hasm⟩ := hc
    obtain ⟨loaded, hstate, _⟩ := clrInit_failed (d := d) hmem hjit hasm
    have hready := hs.ready env
    show ∃ fresh, _ ∧ appDomains (clrInit abi s p d env).state = _
    rw [hstate, ← hs.appDomains_ready env]
    exact ⟨(readyState s env).runtime.nextDomain, hready.next_notMem_appDomains,
      hready.appDomains_create (readyState s env).gPlugins loaded⟩
  | clrDeInit h env => exact hc.elim
  | runMethod h ty me a env => exact hc.elim

theorem not_leavesNothing (hs : Grounded s) (hc : FailsAfterDomain abi s c) :
    ¬ LeavesNothing s ((backend abi).machine.next s c) := by
  intro hlaw
  obtain ⟨fresh, hfresh, hgrown⟩ := leaves_domain hs hc
  rw [hlaw.1] at hgrown
  exact hfresh (hgrown ▸ Finset.mem_insert_self _ _)

/-- Failing calls in a row. -/
theorem leaves_domains (hs : Grounded s) {calls : List Call}
    (hcalls : ∀ x ∈ (backend abi).machine.trace s calls, FailsAfterDomain abi x.1 x.2) :
    (appDomains ((backend abi).machine.exec s calls)).card =
        (appDomains s).card + calls.length ∧
      ((backend abi).machine.exec s calls).gPlugins = s.gPlugins := by
  constructor
  · refine (backend abi).machine.exec_counts (f := fun t => (appDomains t).card) hs
      (fun t c ht => ht.next c) fun x hx ht => ?_
    obtain ⟨fresh, hfresh, hgrown⟩ := leaves_domain ht (hcalls x hx)
    rw [hgrown, Finset.card_insert_of_notMem hfresh]
  · refine (backend abi).machine.exec_invariant (P := fun t => t.gPlugins = s.gPlugins) rfl ?_
    intro x hx hsame
    rw [leaves_registry (hcalls x hx), hsame]

end EzDotnet.Mono

/-! ## CLRHost -/

namespace EzDotnet.CLRHost

/-- `initialize` fails after the new domain was created: the object in it
is not made. -/
def FailsAfterDomain (fs : PathFns) (abi : Abi) (s : State) : Call → Prop
  | .clrInit p _ env =>
    (backend fs abi).key p ∉ s.gHandles ∧ env.createDomain = true ∧
      ∀ a, ¬ InstanceCreated env a
  | _ => False

/-- The same app domains, the same registry and the same handlers. -/
def LeavesNothing (s s' : State) : Prop :=
  s'.liveDomains = s.liveDomains ∧ s'.gHandles = s.gHandles ∧
    s'.resolveHandlers = s.resolveHandlers

/-- The next domain gets a number that no live domain has. -/
def Numbered (s : State) : Prop := ∀ d ∈ s.liveDomains, d < s.nextDomain

variable {fs : PathFns} {abi : Abi} {s : State} {c : Call}

/-- These are the calls that get past the creation of the domain, where the
handler is added, and register nothing. -/
theorem failsAfterDomain_iff {p d : Str} {env : InitEnv} :
    FailsAfterDomain fs abi s (.clrInit p d env) ↔
      ClrCall.addResolveHandler ∈ (clrInit fs abi s p d env).calls ∧
        (backend fs abi).key p ∉ (clrInit fs abi s p d env).state.gHandles := by
  by_cases hmem : (backend fs abi).key p ∈ s.gHandles
  · rw [clrInit_hit hmem]
    simp [FailsAfterDomain, hmem]
  cases hdom : env.createDomain with
  | false =>
    have hcalls : ClrCall.addResolveHandler ∉ (clrInit fs abi s p d env).calls := by
      unfold clrInit initializeAsm
      dsimp only
      rw [pathKey fs, if_neg hmem, if_pos hdom]
      simp
    simp [FailsAfterDomain, hdom, hcalls]
  | true =>
    by_cases hinst : ∃ a, InstanceCreated env a
    · obtain ⟨a, hinst⟩ := hinst
      obtain ⟨pl, hstate, _⟩ := clrInit_loaded (d := d) hmem hdom hinst
      refine ⟨fun hc => absurd hinst (hc.2.2 a), fun hc => absurd ?_ hc.2⟩
      rw [hstate]
      exact Std.ExtTreeMap.mem_insertIfNew_self
    · have hno : ∀ a, ¬ InstanceCreated env a := fun a ha => hinst ⟨a, ha⟩
      refine ⟨fun _ => ⟨?_, ?_⟩, fun _ => ⟨hmem, hdom, hno⟩⟩
      · unfold clrInit initializeAsm
        dsimp only
        rw [pathKey fs, if_neg hmem, if_neg (by rw [hdom]; simp)]
        cases env.location with
        | error _ => simp
        | ok thisAsmPath => cases env.createInstance <;> simp
      · rw [(clrInit_failed (d := d) hmem hdom hno).1]
        exact hmem

theorem Numbered.ready (hs : Numbered s) : Numbered (readyState s) := by
  intro d hd
  rcases Finset.mem_insert.mp hd with rfl | hd
  · exact Nat.lt_succ_self _
  · exact Nat.lt_succ_of_lt (hs d hd)

theorem Numbered.next (hs : Numbered s) (c : Call) :
    Numbered ((backend fs abi).machine.next s c) := by
  cases c with
  | clrInit p d env =>
    show Numbered (clrInit fs abi s p d env).state
    by_cases hmem : (backend fs abi).key p ∈ s.gHandles
    · rw [clrInit_hit hmem]
      exact hs
    cases hdom : env.createDomain with
    | false =>
      rw [(clrInit_noDomain hmem hdom).1]
      exact hs
    | true =>
      by_cases hinst : ∃ a, InstanceCreated env a
      · obtain ⟨a, hinst⟩ := hinst
        obtain ⟨pl, hstate, _⟩ := clrInit_loaded (d := d) hmem hdom hinst
        rw [hstate]
        exact hs.ready
      · rw [(clrInit_failed (d := d) hmem hdom fun a ha => hinst ⟨a, ha⟩).1]
        exact hs.ready
  | clrDeInit h env =>
    show Numbered (clrDeInit s h env).state
    by_cases hmem : h ∈ s.gHandles
    · obtain ⟨data, hdata⟩ := Lib.mem_iff_exists_getElem?.mp hmem
      rcases clrDeInit_registered hdata env with hstate | ⟨dom, _, hstate⟩
      · rw [hstate]
        exact hs
      · rw [hstate]
        exact fun d hd => hs d (Finset.mem_of_mem_erase hd)
    · rw [clrDeInit_unregistered hmem]
      exact hs
  | runMethod h ty me a env =>
    show Numbered (runMethod abi s h ty me a env).state
    rw [runMethod_state]
    exact hs

theorem numbered_run (fs : PathFns) (abi : Abi) (calls : List Call) :
    Numbered ((backend fs abi).run calls) :=
  (backend fs abi).machine.exec_invariant (P := Numbered) (fun d hd => by cases hd)
    fun x _ hx => hx.next x.2

/-- One domain and one handler more, and nothing else. -/
theorem next_failed (hc : FailsAfterDomain fs abi s c) :
    (backend fs abi).machine.next s c = readyState s := by
  cases c with
  | clrInit p d env =>
    obtain ⟨hmem, hdom, hinst⟩ := hc
    exact (clrInit_failed (d := d) hmem hdom hinst).1
  | clrDeInit h env => exact hc.elim
  | runMethod h ty me a env => exact hc.elim

theorem card_readyState (hs : Numbered s) :
    (readyState s).liveDomains.card = s.liveDomains.card + 1 :=
  Finset.card_insert_of_notMem fun h => Nat.lt_irrefl _ (hs _ h)

theorem not_leavesNothing (hc : FailsAfterDomain fs abi s c) :
    ¬ LeavesNothing s ((backend fs abi).machine.next s c) := by
  intro hlaw
  have hhandlers := congrArg List.length hlaw.2.2
  rw [next_failed hc] at hhandlers
  simp [readyState] at hhandlers

/-- Failing calls in a row. -/
theorem leaves_domains (hs : Numbered s) {calls : List Call}
    (hcalls : ∀ x ∈ (backend fs abi).machine.trace s calls, FailsAfterDomain fs abi x.1 x.2) :
    ((backend fs abi).machine.exec s calls).liveDomains.card =
        s.liveDomains.card + calls.length ∧
      ((backend fs abi).machine.exec s calls).resolveHandlers.length =
        s.resolveHandlers.length + calls.length ∧
      ((backend fs abi).machine.exec s calls).gHandles = s.gHandles := by
  refine ⟨?_, ?_, ?_⟩
  · refine (backend fs abi).machine.exec_counts (f := fun t => t.liveDomains.card) hs
      (fun t c ht => ht.next c) fun x hx ht => ?_
    rw [next_failed (hcalls x hx), card_readyState ht]
  · refine (backend fs abi).machine.exec_counts (f := fun t => t.resolveHandlers.length) hs
      (fun t c ht => ht.next c) fun x hx _ => ?_
    rw [next_failed (hcalls x hx)]
    exact List.length_append
  · refine (backend fs abi).machine.exec_invariant (P := fun t => t.gHandles = s.gHandles) rfl ?_
    intro x hx hsame
    rw [next_failed (hcalls x hx)]
    exact hsame

end EzDotnet.CLRHost

/-! ## Both -/

namespace EzDotnet.Backends

open CLRHost (windowsNames)

/-- In every reachable state a `clrInit` that fails after its domain was
created leaves something behind, and failing calls in a row leave one domain
each (and in CLRHost one handler each); the registry alone is as before. -/
theorem failed_clrInit_leaves (fs : CLRHost.PathFns) (abi : Abi) :
    (∀ s, (Mono.backend abi).machine.Reachable s →
      (∀ c, Mono.FailsAfterDomain abi s c →
        ¬ Mono.LeavesNothing s ((Mono.backend abi).machine.next s c)) ∧
      ∀ calls, (∀ x ∈ (Mono.backend abi).machine.trace s calls,
          Mono.FailsAfterDomain abi x.1 x.2) →
        (Mono.appDomains ((Mono.backend abi).machine.exec s calls)).card =
            (Mono.appDomains s).card + calls.length ∧
          ((Mono.backend abi).machine.exec s calls).gPlugins = s.gPlugins) ∧
    (∀ s, (CLRHost.backend fs abi).machine.Reachable s →
      (∀ c, CLRHost.FailsAfterDomain fs abi s c →
        ¬ CLRHost.LeavesNothing s ((CLRHost.backend fs abi).machine.next s c)) ∧
      ∀ calls, (∀ x ∈ (CLRHost.backend fs abi).machine.trace s calls,
          CLRHost.FailsAfterDomain fs abi x.1 x.2) →
        ((CLRHost.backend fs abi).machine.exec s calls).liveDomains.card =
            s.liveDomains.card + calls.length ∧
          ((CLRHost.backend fs abi).machine.exec s calls).resolveHandlers.length =
            s.resolveHandlers.length + calls.length ∧
          ((CLRHost.backend fs abi).machine.exec s calls).gHandles = s.gHandles) := by
  constructor
  · intro s hreach
    obtain ⟨before, rfl⟩ := hreach
    have hs := Mono.grounded_run abi before
    exact ⟨fun c hc => Mono.not_leavesNothing hs hc,
      fun calls hcalls => Mono.leaves_domains hs hcalls⟩
  · intro s hreach
    obtain ⟨before, rfl⟩ := hreach
    have hs := CLRHost.numbered_run fs abi before
    exact ⟨fun c hc => CLRHost.not_leavesNothing hc,
      fun calls hcalls => CLRHost.leaves_domains hs hcalls⟩

/-- A Mono that opens no assembly. -/
def noAssemblyEnv : Mono.InitEnv := ⟨0, true, none, []⟩

/-- A framework in which the constructor of `AssemblyInstance` throws. -/
def noInstanceEnv : CLRHost.InitEnv := { clrEnv with createInstance := .error () }

/-- A load that fails, and its retry. -/
def monoRetry : List Mono.Call :=
  [.clrInit (lit "/app/P.dll") [] noAssemblyEnv, .clrInit (lit "/app/P.dll") [] noAssemblyEnv]

def clrHostRetry : List CLRHost.Call :=
  [.clrInit (lit "P") [] noInstanceEnv, .clrInit (lit "P") [] noInstanceEnv]

theorem monoRetry_fails : ∀ x ∈ (Mono.backend linux64).machine.trace Mono.start monoRetry,
    Mono.FailsAfterDomain linux64 x.1 x.2 := by
  intro x hx
  simp only [monoRetry, Lib.Machine.trace_cons, Lib.Machine.trace_nil, List.mem_cons,
    List.not_mem_nil, or_false] at hx
  rcases hx with rfl | rfl
  · exact ⟨by decide, by decide, by simp [noAssemblyEnv]⟩
  · exact ⟨by decide, by decide, by simp [noAssemblyEnv]⟩

theorem clrHostRetry_fails :
    ∀ x ∈ (CLRHost.backend windowsNames win64).machine.trace CLRHost.start clrHostRetry,
      CLRHost.FailsAfterDomain windowsNames win64 x.1 x.2 := by
  intro x hx
  simp only [clrHostRetry, Lib.Machine.trace_cons, Lib.Machine.trace_nil, List.mem_cons,
    List.not_mem_nil, or_false] at hx
  rcases hx with rfl | rfl
  · exact ⟨by decide, rfl, fun a ha => by cases ha.2⟩
  · exact ⟨by decide, rfl, fun a ha => by cases ha.2⟩

/-- The retry leaves a second domain behind. -/
theorem retry_leaves_two :
    (Mono.appDomains ((Mono.backend linux64).run monoRetry)).card = 2 ∧
      ((CLRHost.backend windowsNames win64).run clrHostRetry).liveDomains.card = 2 ∧
      ((CLRHost.backend windowsNames win64).run clrHostRetry).resolveHandlers.length = 2 :=
  have hmono := ((failed_clrInit_leaves windowsNames linux64).1 Mono.start ⟨[], rfl⟩).2
    monoRetry monoRetry_fails
  have hclrHost := ((failed_clrInit_leaves windowsNames win64).2 CLRHost.start ⟨[], rfl⟩).2
    clrHostRetry clrHostRetry_fails
  ⟨hmono.1, hclrHost.1, hclrHost.2.1⟩

/-- In a fresh process, an assembly that is not there: `clrInit` fails, and
the domain made for it stays; in CLRHost the handler stays as well. -/
theorem missing_assembly_leaves :
    (Mono.FailsAfterDomain linux64 Mono.start (.clrInit (lit "/app/P.dll") [] noAssemblyEnv) ∧
      (Mono.clrInit linux64 Mono.start (lit "/app/P.dll") [] noAssemblyEnv).ret
        = .value nullAsmHandle ∧
      ¬ Mono.LeavesNothing Mono.start
        (Mono.clrInit linux64 Mono.start (lit "/app/P.dll") [] noAssemblyEnv).state) ∧
    CLRHost.FailsAfterDomain windowsNames win64 CLRHost.start
        (.clrInit (lit "P") [] noInstanceEnv) ∧
      (CLRHost.clrInit windowsNames win64 CLRHost.start (lit "P") [] noInstanceEnv).ret = .throws ∧
      ¬ CLRHost.LeavesNothing CLRHost.start
        (CLRHost.clrInit windowsNames win64 CLRHost.start (lit "P") [] noInstanceEnv).state := by
  refine ⟨⟨⟨Std.ExtTreeMap.not_mem_empty, rfl, by simp [noAssemblyEnv]⟩, by decide, ?_⟩,
    ⟨Std.ExtTreeMap.not_mem_empty, rfl, fun a ha => ?_⟩, by decide, ?_⟩
  · exact fun hlaw => absurd hlaw.1 (by decide)
  · cases ha.2
  · exact fun hlaw => absurd hlaw.1 (by decide)

end EzDotnet.Backends
