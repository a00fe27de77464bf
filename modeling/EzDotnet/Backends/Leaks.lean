/-
EzDotnet.Backends.Leaks — where the app domains of a process come from.

Along a run the live domains and the entries of the registry grow and shrink
together: a load makes one of each and an unload ends one of each. Only the
`clrInit` that fails after it created its domain (`FailsAfterDomain`) makes a
domain and no entry. So at the end of any run that deinitialises registered
handles only, in whatever order loads, failures and unloads came, the domains
that no entry holds are as many as the calls that failed so: nothing else
leaks, and nothing is ever got back. In Mono the root domain comes on top.
-/
import EzDotnet.Backends.Leftovers

/-! ## Domains and entries -/

namespace EzDotnet.DomainBackend

variable {σ η ι δ ρ ε : Type} {B : DomainBackend σ η ι δ ρ ε}

/-- Where each step, `clrDeInit` applied to loaded assemblies only, changes the
live domains and what `g` counts by the same number, but for one more domain
when it leaks, a run ends with what `g` counts and what leaked. -/
theorem Disciplined.card_live_run (hB : B.Disciplined) {I : σ → Prop} {g : σ → Nat}
    {leaks : σ → ApiCall ι δ ρ → Bool} (hI : I B.start) (hlive : B.live B.start = ∅)
    (hg : g B.start = 0)
    (hstep : ∀ s c, I s → (∀ h env, c = .clrDeInit h env → B.Loaded s h) →
      I (B.machine.next s c) ∧
        (B.live (B.machine.next s c)).card + g s =
          (B.live s).card + g (B.machine.next s c) + if leaks s c then 1 else 0)
    {calls : List (ApiCall ι δ ρ)} (hcalls : B.DeInitsRegistered calls) :
    (B.live (B.run calls)).card =
      g (B.run calls) + (B.machine.trace B.start calls).countP fun x => leaks x.1 x.2 := by
  have hbalance : (B.live (B.run calls)).card + g B.start =
      (B.live B.start).card + g (B.run calls) +
        (B.machine.trace B.start calls).countP fun x => decide (leaks x.1 x.2 = true) := by
    refine B.machine.balance (f := fun s => (B.live s).card)
      (I := fun s => I s ∧ ∃ P, B.Represents s P) ⟨hI, _, hB.represents_start⟩ ?_
    rintro ⟨s, c⟩ hx ⟨hs, P, hP⟩
    have hc : ∀ h env, c = .clrDeInit h env → B.registered s h :=
      fun h env heq => hcalls s h env (heq ▸ hx)
    obtain ⟨hnext, hcount⟩ := hstep s c hs fun h env heq => hP.loaded (hc h env heq)
    obtain ⟨Q, -, hQ⟩ := hB.next hP c hc
    exact ⟨⟨hnext, Q, hQ⟩, hcount⟩
  have hnone : (B.live B.start).card = 0 := by rw [hlive, Finset.card_empty]
  simp only [Bool.decide_eq_true] at hbalance
  omega

end EzDotnet.DomainBackend

/-! ## Mono -/

namespace EzDotnet.Mono

variable {abi : Abi} {s : State} {p d : Str} {env : InitEnv}

/-- The call creates a domain and registers nothing. -/
def leaks (abi : Abi) (s : State) : Call → Bool
  | .clrInit p _ env =>
    decide ((backend abi).key p ∉ s.gPlugins) && (initMono s env).1 &&
      (env.assembly.bind fun opened => opened.2).isNone
  | _ => false

theorem leaks_iff (c : Call) : leaks abi s c = true ↔ FailsAfterDomain abi s c := by
  cases c with
  | clrInit p d env =>
    unfold leaks FailsAfterDomain
    cases hasm : env.assembly with
    | none => simp [hasm]
    | some opened =>
      obtain ⟨name, image⟩ := opened
      cases image <;> simp [hasm]
  | clrDeInit h env => simp [leaks, FailsAfterDomain]
  | runMethod h ty me a env => simp [leaks, FailsAfterDomain]

/-- The entries, and the root domain. -/
def owned (s : State) : Nat := jitUps s + s.gPlugins.size

/-- The JIT brings the root domain up. -/
theorem balance_ready (hs : Grounded s) (env : InitEnv) :
    (readyState s env).runtime.liveDomains.card + owned s =
      s.runtime.liveDomains.card + owned (readyState s env) := by
  unfold readyState initMono owned jitUps
  cases hflag : s.gMonoInitialized with
  | true => simp [hflag]
  | false =>
    cases env.jitInit with
    | true =>
      have hcard : (insert s.runtime.nextDomain s.runtime.liveDomains).card
          = s.runtime.liveDomains.card + 1 := Finset.card_insert_of_notMem hs.next_notMem
      simp only [Bool.false_eq_true, if_false, if_true, Runtime.createDomain, Runtime.attach]
      omega
    | false => simp

theorem balance_clrInit (hs : Grounded s) (p d : Str) (env : InitEnv) :
    (clrInit abi s p d env).state.runtime.liveDomains.card + owned s =
      s.runtime.liveDomains.card + owned (clrInit abi s p d env).state +
        if leaks abi s (.clrInit p d env) then 1 else 0 := by
  by_cases hmem : (backend abi).key p ∈ s.gPlugins
  · rw [clrInit_hit hmem]
    simp [leaks, hmem]
  have hready := balance_ready hs env
  have hcard : ((readyState s env).runtime.createDomain).liveDomains.card
      = (readyState s env).runtime.liveDomains.card + 1 :=
    Finset.card_insert_of_notMem (hs.ready env).next_notMem
  have hsame : (readyState s env).gPlugins = s.gPlugins := initMono_gPlugins s env
  cases hjit : (initMono s env).1 with
  | false =>
    rw [clrInit_noJit hmem hjit]
    simp [leaks, hjit, owned, jitUps]
  | true =>
    by_cases hasm : ∃ name image, env.assembly = some (name, some image)
    · obtain ⟨name, image, hasm⟩ := hasm
      obtain ⟨loaded, hstate, -⟩ := clrInit_loaded (d := d) hmem hjit hasm
      have hleaks : leaks abi s (.clrInit p d env) = false := by simp [leaks, hasm]
      -- the entry and its domain
      have howned : owned (clrInit abi s p d env).state = owned (readyState s env) + 1 := by
        rw [hstate]
        unfold owned
        dsimp only
        rw [Std.ExtTreeMap.size_insertIfNew, if_neg hmem, hsame]
        rfl
      have hlive : (clrInit abi s p d env).state.runtime.liveDomains.card
          = (readyState s env).runtime.liveDomains.card + 1 := by
        rw [hstate]
        exact hcard
      rw [hleaks, howned, hlive]
      simp only [Bool.false_eq_true, if_false]
      omega
    · obtain ⟨loaded, hstate, -⟩ :=
        clrInit_failed (d := d) hmem hjit fun name image heq => hasm ⟨name, image, heq⟩
      have hleaks : leaks abi s (.clrInit p d env) = true := by
        rw [leaks_iff]
        exact ⟨hmem, hjit, fun name image heq => hasm ⟨name, image, heq⟩⟩
      have hlive : (clrInit abi s p d env).state.runtime.liveDomains.card
          = (readyState s env).runtime.liveDomains.card + 1 := by
        rw [hstate]
        exact hcard
      have howned : owned (clrInit abi s p d env).state = owned (readyState s env) := by
        rw [hstate]
        rfl
      rw [hleaks, howned, hlive]
      simp only [if_true]
      omega

/-- An entry and its domain end together. -/
theorem balance_clrDeInit {h : AsmHandle} (hloaded : (domainBackend abi).Loaded s h) :
    (clrDeInit s h ()).state.runtime.liveDomains.card + owned s =
      s.runtime.liveDomains.card + owned (clrDeInit s h ()).state := by
  obtain ⟨data, dom, hdata, hdom, hlive⟩ := hloaded
  have hmem : h ∈ s.gPlugins := Lib.mem_iff_exists_getElem?.mpr ⟨data, hdata⟩
  have hcard : (s.runtime.liveDomains.erase dom).card + 1 = s.runtime.liveDomains.card :=
    Finset.card_erase_add_one hlive
  rw [clrDeInit_registered hdata (Slot.get?_eq_some.mp hdom), Lib.insertIfNew_of_mem hmem]
  unfold owned jitUps
  dsimp only [Runtime.unload]
  have hsize : (s.gPlugins.erase h).size + 1 = s.gPlugins.size := Lib.size_erase_add_one hmem
  omega

/-- One step, `clrDeInit` applied to a handle whose domain is live. -/
theorem balance_step (hs : Grounded s) (c : Call)
    (hc : ∀ h env, c = .clrDeInit h env → (domainBackend abi).Loaded s h) :
    ((backend abi).machine.next s c).runtime.liveDomains.card + owned s =
      s.runtime.liveDomains.card + owned ((backend abi).machine.next s c) +
        if leaks abi s c then 1 else 0 := by
  cases c with
  | clrInit p d env => exact balance_clrInit hs p d env
  | clrDeInit h env => exact balance_clrDeInit (hc h env rfl)
  | runMethod h ty me a env =>
    obtain ⟨attached, hstate⟩ := runMethod_state abi s h ty me a env
    rw [Backend.next_runMethod]
    show (runMethod abi s h ty me a env).state.runtime.liveDomains.card + owned s =
      s.runtime.liveDomains.card + owned (runMethod abi s h ty me a env).state + 0
    rw [hstate]
    rfl

/-- The domains of a run: one for each entry, the root domain once the JIT is
up, and one for each call that failed after its domain was created. -/
theorem card_liveDomains_run {calls : List Call}
    (hcalls : (domainBackend abi).DeInitsRegistered calls) :
    ((backend abi).run calls).runtime.liveDomains.card =
      owned ((backend abi).run calls) +
        ((backend abi).machine.trace start calls).countP fun x => leaks abi x.1 x.2 := by
  have howned : owned start = 0 := by
    show 0 + (∅ : Std.ExtTreeMap AsmHandle PluginInstanceData).size = 0
    rw [Std.ExtTreeMap.size_empty]
  exact (disciplined abi).card_live_run grounded_start rfl howned
    (fun _ c hs hc => ⟨hs.next c, balance_step hs c hc⟩) hcalls

end EzDotnet.Mono

/-! ## CLRHost -/

namespace EzDotnet.CLRHost

variable {fs : PathFns} {abi : Abi} {s : State} {p d : Str} {env : InitEnv}

/-- The call creates a domain and registers nothing. -/
def leaks (fs : PathFns) (abi : Abi) (s : State) : Call → Bool
  | .clrInit p _ env =>
    decide ((backend fs abi).key p ∉ s.gHandles) && env.createDomain &&
      !(env.location.isOk && env.createInstance.isOk)
  | _ => false

theorem leaks_iff (c : Call) : leaks fs abi s c = true ↔ FailsAfterDomain fs abi s c := by
  cases c with
  | clrInit p d env =>
    unfold leaks FailsAfterDomain InstanceCreated
    cases hloc : env.location <;> cases hnew : env.createInstance <;>
      simp [Except.isOk, Except.toBool, hloc, hnew]
  | clrDeInit h env => simp [leaks, FailsAfterDomain]
  | runMethod h ty me a env => simp [leaks, FailsAfterDomain]

theorem balance_clrInit (hs : Numbered s) (p d : Str) (env : InitEnv) :
    (clrInit fs abi s p d env).state.liveDomains.card + s.gHandles.size =
      s.liveDomains.card + (clrInit fs abi s p d env).state.gHandles.size +
        if leaks fs abi s (.clrInit p d env) then 1 else 0 := by
  by_cases hmem : (backend fs abi).key p ∈ s.gHandles
  · rw [clrInit_hit hmem]
    simp [leaks, hmem]
  cases hdom : env.createDomain with
  | false =>
    rw [(clrInit_noDomain hmem hdom).1]
    simp [leaks, hdom]
  | true =>
    have hcard := card_readyState hs
    by_cases hinst : ∃ a, InstanceCreated env a
    · obtain ⟨a, hinst⟩ := hinst
      have hleaks : leaks fs abi s (.clrInit p d env) = false := by
        rw [Bool.eq_false_iff, ne_eq, leaks_iff]
        exact fun hfails => hfails.2.2 a hinst
      obtain ⟨pl, hstate, -⟩ := clrInit_loaded (d := d) hmem hdom hinst
      rw [hstate, hleaks]
      dsimp only
      rw [Std.ExtTreeMap.size_insertIfNew, if_neg hmem, hcard]
      simp only [Bool.false_eq_true, if_false]
      omega
    · have hno : ∀ a, ¬ InstanceCreated env a := fun a ha => hinst ⟨a, ha⟩
      have hleaks : leaks fs abi s (.clrInit p d env) = true := by
        rw [leaks_iff]
        exact ⟨hmem, hdom, hno⟩
      rw [(clrInit_failed hmem hdom hno).1, hleaks, hcard]
      simp only [readyState, if_true]
      omega

/-- An entry and its domain end together, or neither does. -/
theorem balance_clrDeInit {h : AsmHandle} (hloaded : (domainBackend fs abi).Loaded s h)
    (env : DeInitEnv) :
    (clrDeInit s h env).state.liveDomains.card + s.gHandles.size =
      s.liveDomains.card + (clrDeInit s h env).state.gHandles.size := by
  obtain ⟨data, dom, hdata, hdom, hlive⟩ := hloaded
  have hmem : h ∈ s.gHandles := Lib.mem_iff_exists_getElem?.mpr ⟨data, hdata⟩
  rcases clrDeInit_registered hdata env with hstate | ⟨dom', hdom', hstate⟩
  · rw [hstate, Lib.insertIfNew_of_mem hmem]
  · obtain rfl : dom = dom' := Option.some.inj (hdom.symm.trans hdom')
    have hcard : (s.liveDomains.erase dom).card + 1 = s.liveDomains.card :=
      Finset.card_erase_add_one hlive
    have hsize : (s.gHandles.erase h).size + 1 = s.gHandles.size := Lib.size_erase_add_one hmem
    rw [hstate, Lib.insertIfNew_of_mem hmem]
    dsimp only
    omega

theorem balance_step (hs : Numbered s) (c : Call)
    (hc : ∀ h env, c = .clrDeInit h env → (domainBackend fs abi).Loaded s h) :
    ((backend fs abi).machine.next s c).liveDomains.card + s.gHandles.size =
      s.liveDomains.card + ((backend fs abi).machine.next s c).gHandles.size +
        if leaks fs abi s c then 1 else 0 := by
  cases c with
  | clrInit p d env => exact balance_clrInit hs p d env
  | clrDeInit h env => exact balance_clrDeInit (hc h env rfl) env
  | runMethod h ty me a env =>
    rw [Backend.next_runMethod]
    show (runMethod abi s h ty me a env).state.liveDomains.card + s.gHandles.size =
      s.liveDomains.card + (runMethod abi s h ty me a env).state.gHandles.size + 0
    rw [runMethod_state]
    rfl

/-- The domains of a run: one for each entry, and one for each call that failed
after its domain was created. -/
theorem card_liveDomains_run {calls : List Call}
    (hcalls : (domainBackend fs abi).DeInitsRegistered calls) :
    ((backend fs abi).run calls).liveDomains.card =
      ((backend fs abi).run calls).gHandles.size +
        ((backend fs abi).machine.trace start calls).countP fun x => leaks fs abi x.1 x.2 := by
  have hnumbered : Numbered start := fun d hd => absurd hd (Finset.notMem_empty d)
  exact (disciplined fs abi).card_live_run (g := fun s => s.gHandles.size) hnumbered rfl
    Std.ExtTreeMap.size_empty (fun _ c hs hc => ⟨hs.next c, balance_step hs c hc⟩) hcalls

end EzDotnet.CLRHost

/-! ## Both -/

namespace EzDotnet.Backends

open CLRHost (windowsNames)

/-- In every run that deinitialises registered handles only, with loads,
failures and unloads in any order, the live domains are as many as the
entries and the calls so far that failed after their domain was created,
with the root domain on top in Mono. -/
theorem live_domains_accounted (fs : CLRHost.PathFns) (abi : Abi) :
    (∀ calls, (Mono.domainBackend abi).DeInitsRegistered calls →
      ((Mono.backend abi).run calls).runtime.liveDomains.card =
        Mono.jitUps ((Mono.backend abi).run calls) +
            ((Mono.backend abi).run calls).gPlugins.size +
          ((Mono.backend abi).machine.trace Mono.start calls).countP
            fun x => Mono.leaks abi x.1 x.2) ∧
    ∀ calls, (CLRHost.domainBackend fs abi).DeInitsRegistered calls →
      ((CLRHost.backend fs abi).run calls).liveDomains.card =
        ((CLRHost.backend fs abi).run calls).gHandles.size +
          ((CLRHost.backend fs abi).machine.trace CLRHost.start calls).countP
            fun x => CLRHost.leaks fs abi x.1 x.2 :=
  ⟨fun _ hcalls => Mono.card_liveDomains_run hcalls,
    fun _ hcalls => CLRHost.card_liveDomains_run hcalls⟩

/-- A load, a load that fails, and the unload of the first. -/
def monoMixed : List Mono.Call :=
  [.clrInit Mono.pluginPath [] (Mono.assemblyEnv (lit "P") 1),
    .clrInit (lit "/app/Q.dll") [] noAssemblyEnv, .clrDeInit Mono.pluginHandle ()]

/-- A load, a load that fails, and a `clrDeInit` of the first in which
`Disconnect` throws. -/
def clrHostMixed : List CLRHost.Call :=
  [.clrInit clrPath [] clrEnv, .clrInit (lit "C:\\app\\Q.dll") [] noInstanceEnv,
    .clrDeInit clrHandle ⟨false, true⟩]

theorem monoMixed_registered : (Mono.domainBackend linux64).DeInitsRegistered monoMixed := by
  intro s h env hx
  simp only [monoMixed, Lib.Machine.trace_cons, Lib.Machine.trace_nil, List.mem_cons,
    List.not_mem_nil, or_false, Prod.mk.injEq, reduceCtorEq, and_false, false_or] at hx
  obtain ⟨rfl, hh⟩ := hx
  cases hh
  show Mono.pluginHandle ∈ ((Mono.backend linux64).run (monoMixed.take 2)).gPlugins
  decide

theorem clrHostMixed_registered :
    (CLRHost.domainBackend windowsNames win64).DeInitsRegistered clrHostMixed := by
  intro s h env hx
  simp only [clrHostMixed, Lib.Machine.trace_cons, Lib.Machine.trace_nil, List.mem_cons,
    List.not_mem_nil, or_false, Prod.mk.injEq, reduceCtorEq, and_false, false_or] at hx
  obtain ⟨rfl, hh⟩ := hx
  cases hh
  show clrHandle ∈ ((CLRHost.backend windowsNames win64).run (clrHostMixed.take 2)).gHandles
  decide

/-- What is left is the domain of the load that failed, with Mono's root domain
or the domain that was not unloaded. -/
theorem live_domains_mixed :
    ((Mono.backend linux64).run monoMixed).runtime.liveDomains.card = 2 ∧
      ((CLRHost.backend windowsNames win64).run clrHostMixed).liveDomains.card = 2 :=
  have hmono := (live_domains_accounted windowsNames linux64).1 monoMixed monoMixed_registered
  have hclrHost :=
    (live_domains_accounted windowsNames win64).2 clrHostMixed clrHostMixed_registered
  ⟨hmono.trans (by decide), hclrHost.trans (by decide)⟩

end EzDotnet.Backends
