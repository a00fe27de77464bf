/-
EzDotnet.CLRHost.LifetimeTheorems — the app domains of the CLRHost backend,
seen from the framework.

`nativeMachine` is the backend behind its path conversion: it takes the
paths that reach `initialize`, whatever they were converted from. What a
step does to the domains (`domainDeeds`) is read off its calls into the
framework and their outcomes; a member call on the proxy of an instance is
carried out in the instance's domain.

Unlike Mono's, these deeds are orderly in EVERY run (`domains_orderly`): the
phantom entry that `clrDeInit` of an unregistered handle leaves behind holds
two null references, and the framework turns each use of them into an
exception, where Mono is handed a pointer that was never stored.
-/
import EzDotnet.Lib.Lifetime
import EzDotnet.CLRHost.HostTheorems

namespace EzDotnet.CLRHost

open Lib (Deed Orderly Stock)

/-! ## The backend over native paths -/

inductive NativeCall where
  | initializeAsm (assemblyPath assemblyDir : Str) (env : InitEnv)
  | clrDeInit (handle : AsmHandle) (env : DeInitEnv)
  | runMethod (handle : AsmHandle) (typeName methodName : Str) (args : Argv) (env : RunEnv)

def nativeStep (fs : PathFns) (abi : Abi) (s : State) : NativeCall → State × Reply × List ClrCall
  | .initializeAsm p d env =>
    let r := initializeAsm fs abi s p d env
    (r.state, .clrInit r.ret, r.calls)
  | .clrDeInit h env =>
    let r := clrDeInit s h env
    (r.state, .clrDeInit r.ret, r.calls)
  | .runMethod h ty me a env =>
    let r := runMethod abi s h ty me a env
    (r.state, .runMethod r.ret, r.calls)

def nativeMachine (fs : PathFns) (abi : Abi) :
    Lib.Machine State NativeCall (Reply × List ClrCall) :=
  ⟨start, nativeStep fs abi⟩

/-! ## What a step does to the domains -/

/-- The calls of `initialize`; `created` is the number of the new domain. -/
def ClrCall.initDeeds (created : Domain) (env : InitEnv) : ClrCall → List Deed
  | .createDomain _ _ => if env.createDomain then [.create created] else []
  | .createInstance domain _ _ => [.use domain]
  | _ => []

/-- The calls of `clrDeInit`: a domain that could not be unloaded was only
worked with. -/
def ClrCall.deInitDeeds (env : DeInitEnv) : ClrCall → List Deed
  | .disconnect (some inst) => [.use inst.domain]
  | .unload (some domain) => if env.unload then [.finish domain] else [.use domain]
  | _ => []

/-- The call on the proxy of an entry. -/
def AssemblyInstanceData.runDeeds (data : AssemblyInstanceData) : List Deed :=
  match data.instance? with
  | some inst => [.use inst.domain]
  | none => []

def domainDeeds (fs : PathFns) (abi : Abi) (s : State) : NativeCall → List Deed
  | .initializeAsm p d env =>
    (initializeAsm fs abi s p d env).calls.flatMap (ClrCall.initDeeds s.nextDomain env)
  | .clrDeInit h env => (clrDeInit s h env).calls.flatMap (ClrCall.deInitDeeds env)
  | .runMethod h _ _ _ _ =>
    match s.gHandles[h]? with
    | some data => data.runDeeds
    | none => []

/-! ## The pool behind a state -/

variable {fs : PathFns} {abi : Abi} {s : State}

/-- An entry holds an instance and its domain, or two null references. -/
def AssemblyInstanceData.WellFormed (data : AssemblyInstanceData) : Prop :=
  data = {} ∨ ∃ inst, data = ⟨some inst.domain, some inst⟩

/-- The handles own the domains of their entries; a phantom entry owns
none. -/
structure Owns (s : State) (P : Lib.Pool AsmHandle) : Prop where
  owner : ∀ h : AsmHandle, (s.gHandles[h]?).bind AssemblyInstanceData.appDomain = P.owner h
  wellFormed : ∀ {h : AsmHandle} {data : AssemblyInstanceData},
    s.gHandles[h]? = some data → data.WellFormed
  live : P.live = s.liveDomains
  next : P.next = s.nextDomain

theorem owns_start : Owns start Lib.Pool.empty where
  owner _ := rfl
  wellFormed h := by simp [start] at h
  live := rfl
  next := rfl

/-- The instance of an entry lives in the domain that its handle owns. -/
theorem Owns.instance_live {P : Lib.Pool AsmHandle} (hs : Owns s P) {h : AsmHandle}
    {data : AssemblyInstanceData} (hdata : s.gHandles[h]? = some data) {inst : AssemblyInstance}
    (hinst : data.instance? = some inst) :
    P.owner h = some inst.domain ∧ data.appDomain = some inst.domain := by
  rcases hs.wellFormed hdata with rfl | ⟨inst', rfl⟩
  · cases hinst
  · obtain rfl := Option.some.inj hinst
    have howner := hs.owner h
    rw [hdata, Option.bind_some] at howner
    exact ⟨howner.symm, rfl⟩

/-- A domain that `initialize` created and no entry holds. -/
theorem Owns.leak {P : Lib.Pool AsmHandle} (hs : Owns s P) (handlers : List ResolveHandler) :
    Owns { s with
      nextDomain := s.nextDomain + 1
      liveDomains := insert s.nextDomain s.liveDomains
      resolveHandlers := handlers } P.leak where
  owner := hs.owner
  wellFormed := hs.wellFormed
  live := by
    show insert P.next P.live = insert s.nextDomain s.liveDomains
    rw [hs.next, hs.live]
  next := by
    show P.next + 1 = s.nextDomain + 1
    rw [hs.next]

/-- A domain with an entry of its own. -/
theorem Owns.acquire {P : Lib.Pool AsmHandle} (hs : Owns s P) (handlers : List ResolveHandler)
    {k : AsmHandle} (hk : k ∉ s.gHandles) (inst : AssemblyInstance)
    (hinst : inst.domain = s.nextDomain) :
    Owns { s with
      gHandles := s.gHandles.insertIfNew k ⟨some s.nextDomain, some inst⟩
      nextDomain := s.nextDomain + 1
      liveDomains := insert s.nextDomain s.liveDomains
      resolveHandlers := handlers } (P.acquire k) where
  owner h := by
    rw [Std.ExtTreeMap.getElem?_insertIfNew]
    show _ = Function.update P.owner k (some P.next) h
    by_cases hh : h = k
    · subst hh
      simp [hk, hs.next]
    · rw [if_neg (by simp [Ne.symm hh]), Function.update_of_ne hh]
      exact hs.owner h
  wellFormed {h data} hdata := by
    rw [Std.ExtTreeMap.getElem?_insertIfNew] at hdata
    split at hdata
    · obtain rfl := Option.some.inj hdata
      exact .inr ⟨inst, by rw [hinst]⟩
    · exact hs.wellFormed hdata
  live := (hs.leak handlers).live
  next := (hs.leak handlers).next

/-- The domain of an entry ends, and the entry goes. -/
theorem Owns.release {P : Lib.Pool AsmHandle} (hs : Owns s P) {k : AsmHandle} {dom : Domain}
    (hk : P.owner k = some dom) :
    Owns { s with
      gHandles := s.gHandles.erase k
      liveDomains := s.liveDomains.erase dom } (P.release k dom hk) where
  owner h := by
    rw [Std.ExtTreeMap.getElem?_erase]
    show _ = Function.update P.owner k none h
    by_cases hh : h = k
    · simp [hh]
    · rw [if_neg (by simp [Ne.symm hh]), Function.update_of_ne hh]
      exact hs.owner h
  wellFormed {h data} hdata := by
    rw [Std.ExtTreeMap.getElem?_erase] at hdata
    split at hdata
    · cases hdata
    · exact hs.wellFormed hdata
  live := by
    show P.live.erase dom = s.liveDomains.erase dom
    rw [hs.live]
  next := hs.next

/-- A phantom entry owns nothing. -/
theorem Owns.phantom {P : Lib.Pool AsmHandle} (hs : Owns s P) {k : AsmHandle}
    (hk : k ∉ s.gHandles) : Owns { s with gHandles := s.gHandles.insertIfNew k {} } P where
  owner h := by
    rw [Std.ExtTreeMap.getElem?_insertIfNew, ← hs.owner h]
    split
    · next hnew =>
      obtain rfl : k = h := Std.compare_eq_iff_eq.mp hnew.1
      rw [Std.ExtTreeMap.getElem?_eq_none hk]
      rfl
    · rfl
  wellFormed {h data} hdata := by
    rw [Std.ExtTreeMap.getElem?_insertIfNew] at hdata
    split at hdata
    · exact .inl (Option.some.inj hdata).symm
    · exact hs.wellFormed hdata
  live := hs.live
  next := hs.next

/-! ## Steps -/

variable {P : Lib.Pool AsmHandle}

theorem check_initializeAsm (hs : Owns s P) (p d : Str) (env : InitEnv) :
    ∃ Q, (Stock.ofPool P).check (domainDeeds fs abi s (.initializeAsm p d env))
        = some (Stock.ofPool Q) ∧
      Owns (initializeAsm fs abi s p d env).state Q := by
  unfold domainDeeds initializeAsm
  dsimp only
  rw [← hs.next]
  split
  · exact ⟨P, rfl, hs⟩
  next hmem =>
  cases hdom : env.createDomain with
  | false => exact ⟨P, by simp [ClrCall.initDeeds, hdom], hs⟩
  | true =>
    cases env.location with
    | error _ =>
      refine ⟨P.leak, by simp [ClrCall.initDeeds, hdom], ?_⟩
      simpa [hs.next] using hs.leak (s.resolveHandlers ++ [.loadFromSameFolder])
    | ok thisAsmPath =>
      cases env.createInstance with
      | error _ =>
        refine ⟨P.leak, by simp [ClrCall.initDeeds, hdom], ?_⟩
        simpa [hs.next] using hs.leak (s.resolveHandlers ++ [.loadFromSameFolder])
      | ok targetAsm =>
        refine ⟨P.acquire (strHash abi p), by simp [ClrCall.initDeeds, hdom], ?_⟩
        rw [hs.next]
        exact hs.acquire _ hmem ⟨targetAsm, s.nextDomain, p, _⟩ rfl

/-- `clrDeInit` of a registered handle works in its domain, and ends it when
both of its external calls return. -/
theorem check_clrDeInit (hs : Owns s P) (h : AsmHandle) (env : DeInitEnv) :
    ∃ Q, (Stock.ofPool P).check (domainDeeds fs abi s (.clrDeInit h env))
        = some (Stock.ofPool Q) ∧
      Owns (clrDeInit s h env).state Q := by
  unfold domainDeeds clrDeInit
  dsimp only
  cases hdata : s.gHandles[h]? with
  | none =>
    have hmem : h ∉ s.gHandles := by
      rw [Lib.mem_iff_exists_getElem?, hdata]
      simp
    exact ⟨P, by simp [ClrCall.deInitDeeds], by simpa using hs.phantom hmem⟩
  | some data =>
    have hmem : h ∈ s.gHandles := Lib.mem_iff_exists_getElem?.mpr ⟨data, hdata⟩
    rw [Option.getD_some, Lib.insertIfNew_of_mem hmem]
    cases hinst : data.instance? with
    | none => exact ⟨P, by simp [ClrCall.deInitDeeds], by simpa using hs⟩
    | some inst =>
      obtain ⟨howner, hdom⟩ := hs.instance_live hdata hinst
      rw [hdom]
      cases hdisc : env.disconnect with
      | false =>
        refine ⟨P, ?_, by simpa using hs⟩
        simp [ClrCall.deInitDeeds, Stock.check_ofPool_use howner]
      | true =>
        cases hunload : env.unload with
        | false =>
          refine ⟨P, ?_, by simpa using hs⟩
          simp [ClrCall.deInitDeeds, hunload, Stock.check_ofPool_use howner]
        | true =>
          refine ⟨P.release h inst.domain howner, ?_, by simpa using hs.release howner⟩
          simp [ClrCall.deInitDeeds, hunload, Stock.check_ofPool_use howner,
            Stock.check_ofPool_finish howner]

theorem check_runMethod (hs : Owns s P) (h : AsmHandle) (ty me : Str) (a : Argv) (env : RunEnv) :
    (Stock.ofPool P).check (domainDeeds fs abi s (.runMethod h ty me a env))
      = some (Stock.ofPool P) := by
  cases hdata : s.gHandles[h]? with
  | none => simp [domainDeeds, hdata]
  | some data =>
    cases hinst : data.instance? with
    | none => simp [domainDeeds, hdata, AssemblyInstanceData.runDeeds, hinst]
    | some inst =>
      have hlive := Stock.check_ofPool_use (hs.instance_live hdata hinst).1
      simp [domainDeeds, hdata, AssemblyInstanceData.runDeeds, hinst, hlive]

/-- Every step does what the stock of its state allows. -/
theorem check_step (hs : Owns s P) (c : NativeCall) :
    ∃ Q, (Stock.ofPool P).check (domainDeeds fs abi s c) = some (Stock.ofPool Q) ∧
      Owns ((nativeMachine fs abi).next s c) Q := by
  cases c with
  | initializeAsm p d env => exact check_initializeAsm hs p d env
  | clrDeInit h env => exact check_clrDeInit hs h env
  | runMethod h ty me a env =>
    refine ⟨P, check_runMethod hs h ty me a env, ?_⟩
    show Owns (runMethod abi s h ty me a env).state P
    rw [runMethod_state]
    exact hs

/-! ## Runs -/

theorem check_run (fs : PathFns) (abi : Abi) (calls : List NativeCall) :
    ∃ P, Stock.empty.check ((nativeMachine fs abi).events (domainDeeds fs abi) start calls)
        = some (Stock.ofPool P) ∧
      Owns ((nativeMachine fs abi).exec start calls) P := by
  have hrun : ∃ S, Stock.empty.check
        ((nativeMachine fs abi).events (domainDeeds fs abi) start calls) = some S ∧
      ∃ P, Owns ((nativeMachine fs abi).exec start calls) P ∧ S = Stock.ofPool P := by
    refine (nativeMachine fs abi).run_events
      (R := fun s S => ∃ P, Owns s P ∧ S = Stock.ofPool P) ⟨Lib.Pool.empty, owns_start, rfl⟩ ?_
    intro x _ S hx
    obtain ⟨P, hP, rfl⟩ := hx
    obtain ⟨Q, hQ, hnext⟩ := check_step hP x.2
    exact ⟨Stock.ofPool Q, hQ, Q, hnext, rfl⟩
  obtain ⟨S, hS, P, hP, rfl⟩ := hrun
  exact ⟨P, hS, hP⟩

/-- In every run, whatever paths reach `initialize` and whatever handles the
other calls are given, no domain is worked with or unloaded before it was
created or after it was unloaded; the live domains are those that were created
and not unloaded, and an entry that is no phantom holds one of them, which no
other entry holds. -/
theorem domains_orderly (fs : PathFns) (abi : Abi) (calls : List NativeCall) :
    let m := nativeMachine fs abi
    let deeds := m.events (domainDeeds fs abi) start calls
    let s := m.exec start calls
    Orderly deeds ∧ (∀ d, d ∈ s.liveDomains ↔ .create d ∈ deeds ∧ .finish d ∉ deeds) ∧
      ∀ (h : AsmHandle) (data : AssemblyInstanceData), s.gHandles[h]? = some data →
        data = {} ∨ ∃ inst, data = ⟨some inst.domain, some inst⟩ ∧ inst.domain ∈ s.liveDomains ∧
          ∀ (g : AsmHandle) (other : AssemblyInstanceData), s.gHandles[g]? = some other →
            other.appDomain = some inst.domain → g = h := by
  obtain ⟨P, hcheck, hP⟩ := check_run fs abi calls
  obtain ⟨horderly, haccounts⟩ := Stock.accounts_of_check hcheck
  refine ⟨horderly, fun d => ?_, fun h data hdata => ?_⟩
  · rw [← hP.live]
    exact haccounts.live d
  · rcases hP.wellFormed hdata with hphantom | ⟨inst, rfl⟩
    · exact .inl hphantom
    · have howner := (hP.instance_live hdata rfl).1
      refine .inr ⟨inst, rfl, hP.live ▸ P.owner_live howner, fun g other hother hdom => ?_⟩
      have hother' := hP.owner g
      rw [hother, Option.bind_some, hdom] at hother'
      exact P.owner_inj hother'.symm howner

end EzDotnet.CLRHost
