/-
EzDotnet.CoreCLR.ProtocolTheorems — the hosting protocol: in which order the
backend talks to the loader, nethost and hostfxr.

`hosting` is that order as a protocol over the external calls. Before the
initializer was called, attempts may fail at any point and start over, each
with nethost; the initializer comes only right behind the library that was
opened at the path which nethost reported, its context goes into the very
next call, and from then on the process only calls the delegate that was
written there, or closes. That the initializer was called does not mean that
it wrote a context, or that a delegate was written: a plugin is registered
without a delegate then. `emitted_hosting` says that every run keeps to the
protocol, and that the phase it ends in is the one of its state: what a
registered plugin holds as its delegate is what hostfxr wrote, if it did.
-/
import EzDotnet.Lib.Protocol
import EzDotnet.Common.Emitted
import EzDotnet.CoreCLR.LifecycleTheorems

namespace EzDotnet.CoreCLR

open Lib (Protocol)

/-! ## The protocol -/

inductive HostPhase where
  /-- nothing was opened yet, or the last attempt found nothing -/
  | idle
  /-- nethost was opened -/
  | nethost
  /-- nethost was asked for the size of the path -/
  | sizing
  /-- nethost reported this path -/
  | located (path : Str)
  /-- the library at that path was opened -/
  | hostfxr
  /-- the initializer wrote this context -/
  | context (c : HostContext)
  /-- the initializer was called, and this delegate written, if any was -/
  | hosted (delegate : Option Addr)
  /-- the delegate was asked for an entry point -/
  | loading (delegate : Addr)
  deriving DecidableEq, Repr

/-- The next attempt may start here. -/
def HostPhase.searching : HostPhase → Bool
  | .idle | .nethost | .sizing | .hostfxr => true
  | _ => false

/-- The delegate of the process. -/
def HostPhase.delegate? : HostPhase → Option Addr
  | .hosted delegate => delegate
  | .loading delegate => some delegate
  | _ => none

/-- The initializer was called, and the context it wrote, if any, asked for the
delegate. -/
def HostPhase.Hosting : HostPhase → Prop
  | .hosted _ | .loading _ => True
  | _ => False

def hosting : Protocol HostPhase HostCall
  | .located path, .openLibrary path' opened =>
    if path' = cstr path then some (if opened then .hostfxr else .idle) else none
  | ph, .openLibrary path opened =>
    if ph.searching ∧ posix.filename path = nethostName then
      some (if opened then .nethost else .idle)
    else none
  | .nethost, .getHostfxrPath none none => some .sizing
  | .sizing, .getHostfxrPath (some n) (some path) => if n ≠ 0 then some (.located path) else none
  | .sizing, .getHostfxrPath (some n) none => if n ≠ 0 then some .idle else none
  | .hostfxr, .initializer _ none => some (.hosted none)
  | .hostfxr, .initializer _ (some c) => some (.context c)
  | .context c, .getDelegate c' written => if c' = c then some (.hosted written) else none
  | .hosted delegate, .close .unset => some (.hosted delegate)
  | .hosted (some d), .loadAssembly d' _ _ => if d' = d then some (.loading d) else none
  | .loading d, .loadAssembly d' _ _ => if d' = d then some (.loading d) else none
  | .loading d, .entry _ _ _ => some (.hosted (some d))
  | .loading d, .close .unset => some (.hosted (some d))
  | _, _ => none

/-! ## The phase of a state -/

/-- The initializer was called exactly if the process has a plugin, and the
plugin holds the delegate of the phase. -/
structure Stands (s : State) (ph : HostPhase) : Prop where
  searching : s.gPlugins.size = 0 → ph.searching = true
  hosting : s.gPlugins.size ≠ 0 → ph.Hosting
  delegate : ∀ {h : AsmHandle} {plugin : PluginInstance}, s.gPlugins[h]? = some plugin →
    plugin.mCtx.pfnLoadAssembly.get? = ph.delegate?

variable {abi : Abi} {s : State}

/-! ## The search for hostfxr -/

/-- A search for hostfxr may start over wherever the last one ended, with the
nethost of any directory. -/
theorem hosting_openNethost {ph : HostPhase} (hph : ph.searching = true) (dir : Str)
    (opened : Bool) :
    hosting ph (.openLibrary (toNativePath .unix (posix.join dir nethostName)) opened) =
      some (if opened then .nethost else .idle) := by
  have hname : posix.filename (toNativePath .unix (posix.join dir nethostName)) = nethostName :=
    Lib.PathSyntax.filename_join dir (by decide)
  cases ph with
  | located path => cases hph
  | idle | nethost | sizing | hostfxr => exact if_pos ⟨rfl, hname⟩
  | context c | hosted d | loading d => cases hph

/-- A search ends with the path that nethost reports, or where the next one may
start. -/
theorem run_getHostFxrPath {ph : HostPhase} (hph : ph.searching = true) (env : NethostEnv 8)
    (dir : Str) :
    ∃ ph', hosting.run ph (getHostFxrPath env dir).2 = some ph' ∧
      match (getHostFxrPath env dir).1 with
      | .ok path => ph' = .located path
      | .error _ => ph'.searching = true := by
  unfold getHostFxrPath
  dsimp only
  split
  · exact ⟨.idle, hosting.run_cons_of (hosting_openNethost hph dir false) [], rfl⟩
  have hopen : ∀ es, hosting.run ph
      (.openLibrary (toNativePath .unix (posix.join dir nethostName)) true :: es)
        = hosting.run .nethost es := fun es =>
    hosting.run_cons_of (hosting_openNethost hph dir true) es
  split
  · exact ⟨.nethost, hopen [], rfl⟩
  split
  · exact ⟨.sizing, hopen _, rfl⟩
  next hsize =>
  have hne : env.pathSize.2 ≠ 0 := fun h => hsize (.inr h)
  split
  · exact ⟨.idle, (hopen _).trans (by simp [Protocol.run_cons, hosting, hne]), rfl⟩
  · exact ⟨_, (hopen _).trans (by simp [Protocol.run_cons, hosting, hne]), rfl⟩

/-- Behind the library, the initializer and what follows it: the plugin holds
the delegate that was written. -/
theorem run_initHostFxr (env : HostfxrEnv) (ctx : DotnetCtx)
    (hunset : ctx.pfnLoadAssembly = .unset) :
    hosting.run .hostfxr (initHostFxr env ctx).2.2 =
      some (.hosted (initHostFxr env ctx).2.1.pfnLoadAssembly.get?) := by
  unfold initHostFxr
  cases hinit : env.initializer (initializerArgs ctx) with
  | none => simp [hinit, hunset, Protocol.run_cons, hosting, Slot.get?]
  | some c =>
    cases hdel : env.getDelegate c with
    | none => simp [hinit, hdel, hunset, Protocol.run_cons, hosting, Slot.get?]
    | some d => simp [hinit, hdel, Protocol.run_cons, hosting, Slot.get?]

/-- The library is the one at the reported path. A load that does not succeed
ends in the search; one that does has come to the initializer. -/
theorem run_loadAndInitHostFxr (env : HostfxrEnv) (ctx : DotnetCtx)
    (hunset : ctx.pfnLoadAssembly = .unset) :
    let r := loadAndInitHostFxr env ctx
    ∃ ph, hosting.run (.located ctx.hostfxrPath) r.2.2 = some ph ∧
      (r.1 ≠ 0 → ph.searching = true) ∧
      (r.1 = 0 → ph = .hosted r.2.1.pfnLoadAssembly.get?) := by
  have hopen : ∀ opened es, hosting.run (.located ctx.hostfxrPath)
      (.openLibrary (cstr ctx.hostfxrPath) opened :: es)
        = hosting.run (if opened then .hostfxr else .idle) es := fun opened es =>
    hosting.run_cons_of (by simp [hosting]) es
  unfold loadAndInitHostFxr
  dsimp only
  split
  · exact ⟨.idle, hopen false [], fun _ => rfl, fun h => by cases h⟩
  · split
    · exact ⟨.hostfxr, hopen true [], fun _ => rfl, fun h => by cases h⟩
    · exact ⟨_, (hopen true _).trans (run_initHostFxr env (resolveSymbols env ctx) hunset),
        fun h => absurd rfl h, fun _ => rfl⟩

/-! ## Steps -/

theorem stands_start : Stands start .idle where
  searching _ := rfl
  hosting h := absurd Std.ExtTreeMap.size_empty h
  delegate h := by simp [start] at h

/-- A plugin is registered where the initializer was called. -/
theorem Stands.hosting_of_getElem? {ph : HostPhase} (hs : Stands s ph) {h : AsmHandle}
    {plugin : PluginInstance} (hplugin : s.gPlugins[h]? = some plugin) : ph.Hosting := by
  refine hs.hosting fun hsize => ?_
  exact notMem_of_size_eq_zero hsize h (Lib.mem_iff_exists_getElem?.mpr ⟨plugin, hplugin⟩)

/-- While there is no plugin, any phase of the search will do. -/
theorem stands_searching (hsize : s.gPlugins.size = 0) {ph : HostPhase}
    (hph : ph.searching = true) :
    Stands s ph where
  searching _ := hph
  hosting h := absurd hsize h
  delegate hplugin := absurd (Lib.mem_iff_exists_getElem?.mpr ⟨_, hplugin⟩)
    (notMem_of_size_eq_zero hsize _)

/-- The first plugin of the process. -/
theorem stands_insert (hsize : s.gPlugins.size = 0) (h : AsmHandle) (plugin : PluginInstance) :
    Stands ⟨s.gPlugins.insertIfNew h plugin⟩ (.hosted plugin.mCtx.pfnLoadAssembly.get?) where
  searching hnone := by
    rw [Std.ExtTreeMap.size_insertIfNew, if_neg (notMem_of_size_eq_zero hsize h)] at hnone
    omega
  hosting _ := trivial
  delegate {g other} hother := by
    rw [Std.ExtTreeMap.getElem?_insertIfNew] at hother
    split at hother
    · rw [← Option.some.inj hother]
      rfl
    · exact absurd (Lib.mem_iff_exists_getElem?.mpr ⟨_, hother⟩)
        (notMem_of_size_eq_zero hsize g)

theorem run_clrInit {ph : HostPhase} (hs : Stands s ph) (p d : Str) (env : InitEnv) :
    ∃ ph', hosting.run ph (clrInit abi s p d env).calls = some ph' ∧
      Stands (clrInit abi s p d env).state ph' := by
  by_cases hmem : strHash abi p ∈ s.gPlugins
  · rw [clrInit_hit hmem]
    exact ⟨ph, rfl, hs⟩
  rcases Nat.eq_zero_or_pos s.gPlugins.size with hsize | hsize
  · obtain ⟨ph', hrun, hfound⟩ := run_getHostFxrPath (hs.searching hsize) env.nethost
      (posix.parentPath p)
    unfold clrInit
    rw [if_neg hmem, if_neg (by omega), if_pos (by omega)]
    cases hres : getHostFxrPath env.nethost (posix.parentPath p) with
    | mk result calls =>
      rw [hres] at hrun hfound
      cases result with
      | error e => exact ⟨ph', hrun, stands_searching hsize hfound⟩
      | ok path =>
        obtain rfl : ph' = .located path := hfound
        obtain ⟨last, hload, hfail, hok⟩ := run_loadAndInitHostFxr env.hostfxr (newCtx p path) rfl
        have hall : hosting.run ph
            (calls ++ (loadAndInitHostFxr env.hostfxr (newCtx p path)).2.2) = some last :=
          Protocol.run_append_eq_some.mpr ⟨_, hrun, hload⟩
        dsimp only
        split
        · next hrc => exact ⟨last, hall, stands_searching hsize (hfail hrc)⟩
        · next hrc =>
          obtain rfl := hok (not_not.mp hrc)
          exact ⟨_, hall, stands_insert hsize _ _⟩
  · rw [clrInit_busy hmem hsize]
    exact ⟨ph, rfl, hs⟩

/-- Closing nothing, where the initializer was called. -/
theorem run_clrDeInit {ph : HostPhase} (hs : Stands s ph) (hreg : AllRegistered s)
    (h : AsmHandle) (rc : Int) :
    ∃ ph', hosting.run ph (clrDeInit s h rc).calls = some ph' ∧
      Stands (clrDeInit s h rc).state ph' := by
  rw [clrDeInit_state]
  cases hplugin : s.gPlugins[h]? with
  | none =>
    have hmem : h ∉ s.gPlugins := by
      rw [Lib.mem_iff_exists_getElem?, hplugin]
      simp
    rw [clrDeInit_unregistered hmem]
    exact ⟨ph, rfl, hs⟩
  | some plugin =>
    rw [clrDeInit_registered hplugin (hreg h plugin hplugin)]
    refine ⟨.hosted ph.delegate?, ?_, fun hsize => ?_, fun _ => trivial, hs.delegate⟩
    · have hph := hs.hosting_of_getElem? hplugin
      cases ph with
      | hosted o => rfl
      | loading d => rfl
      | idle | nethost | sizing | located | hostfxr | context c => exact hph.elim
    · exact absurd (Lib.mem_iff_exists_getElem?.mpr ⟨_, hplugin⟩)
        (notMem_of_size_eq_zero hsize h)

/-- What `runMethod` calls, by what the plugin holds as its delegate. -/
theorem plugin_runMethod_calls (plugin : PluginInstance) (ty me : Str) (a : Argv)
    (env : RunEnv) :
    (plugin.mCtx.pfnLoadAssembly.get? = none ∧ (plugin.runMethod abi ty me a env).2 = []) ∨
      ∃ f ty' me', plugin.mCtx.pfnLoadAssembly.get? = some f ∧
        ((plugin.runMethod abi ty me a env).2 = [.loadAssembly f ty' me'] ∨
          ∃ entry args size, (plugin.runMethod abi ty me a env).2 =
            [.loadAssembly f ty' me', .entry entry args size]) := by
  unfold PluginInstance.runMethod
  cases plugin.mCtx.pfnLoadAssembly with
  | unset => exact .inl ⟨rfl, rfl⟩
  | null => exact .inl ⟨rfl, rfl⟩
  | ptr f =>
    refine .inr ⟨f, strConv 8 ty ++ lit "," ++ posix.stem plugin.mCtx.asmPath, strConv 8 me,
      rfl, ?_⟩
    dsimp only
    split
    · exact .inl rfl
    · exact .inr ⟨_, _, _, rfl⟩

/-- The delegate of the plugin is the one of the phase, and an entry point is
called right behind it. -/
theorem run_runMethod {ph : HostPhase} (hs : Stands s ph) (h : AsmHandle) (ty me : Str)
    (a : Argv) (env : RunEnv) :
    ∃ ph', hosting.run ph (runMethod abi s h ty me a env).calls = some ph' ∧
      Stands (runMethod abi s h ty me a env).state ph' := by
  rw [runMethod_state]
  unfold runMethod
  cases hplugin : s.gPlugins[h]? with
  | none => exact ⟨ph, rfl, hs⟩
  | some plugin =>
    have hdelegate := hs.delegate hplugin
    have hsize : s.gPlugins.size ≠ 0 := fun hzero =>
      notMem_of_size_eq_zero hzero h (Lib.mem_iff_exists_getElem?.mpr ⟨plugin, hplugin⟩)
    show ∃ ph', hosting.run ph (plugin.runMethod abi ty me a env).2 = some ph' ∧ Stands s ph'
    rcases plugin_runMethod_calls plugin ty me a env with
      ⟨-, hcalls⟩ | ⟨f, ty', me', hf, hcalls⟩
    · rw [hcalls]
      exact ⟨ph, rfl, hs⟩
    · -- the phases after the call hold the same delegate
      rw [hf] at hdelegate
      have hload : ∀ es, hosting.run ph (.loadAssembly f ty' me' :: es)
          = hosting.run (.loading f) es := by
        have hph := hs.hosting hsize
        cases ph with
        | hosted o =>
          obtain rfl : some f = o := hdelegate
          exact fun es => hosting.run_cons_of (by simp [hosting]) es
        | loading d =>
          obtain rfl : f = d := Option.some.inj hdelegate
          exact fun es => hosting.run_cons_of (by simp [hosting]) es
        | idle | nethost | sizing | located | hostfxr | context c => exact hph.elim
      have hnext : ∀ ph' : HostPhase, ph'.Hosting → ph'.delegate? = some f → Stands s ph' :=
        fun ph' hh hd => ⟨fun hzero => absurd hzero hsize, fun _ => hh,
          fun hother => (hs.delegate hother).trans (hdelegate.symm.trans hd.symm)⟩
      rcases hcalls with hcalls | ⟨entry, args, size, hcalls⟩
      · rw [hcalls, hload]
        exact ⟨.loading f, rfl, hnext _ trivial rfl⟩
      · rw [hcalls, hload]
        exact ⟨.hosted (some f), rfl, hnext _ trivial rfl⟩

/-! ## Runs -/

/-- Every run keeps to the hosting protocol, at every moment: an attempt opens
nethost, which is asked for the size of the path and then for the path; the
library that is opened next is the one at the path it reported, and the
initializer is called only right behind that library, opened. The context that
the initializer wrote is what the delegate is asked of, and after that no
library is opened and no initializer called again, only the delegate that was
written there, entry points right behind it, and `hostfxr_close`. The phase the
run ends in is the one of its state: a plugin is registered exactly when the
initializer was called, whatever came of that, and it holds the delegate that
was written, if one was. -/
theorem emitted_hosting (abi : Abi) (calls : List Call) :
    ∃ ph, hosting.run .idle ((backend abi).emitted calls) = some ph ∧
      Stands ((backend abi).run calls) ph := by
  have hrun : ∃ ph, hosting.run .idle
        ((backend abi).machine.events (backend abi).stepCalls start calls) = some ph ∧
      Stands ((backend abi).run calls) ph ∧ AllRegistered ((backend abi).run calls) := by
    refine (backend abi).machine.run_events
      (R := fun s ph => Stands s ph ∧ AllRegistered s) ⟨stands_start, allRegistered_start⟩ ?_
    rintro ⟨s, c⟩ - ph ⟨hs, hreg⟩
    have hnext : AllRegistered ((backend abi).machine.next s c) :=
      allRegistered_next abi s c hreg
    have hstep : ∃ ph', hosting.run ph ((backend abi).stepCalls s c) = some ph' ∧
        Stands ((backend abi).machine.next s c) ph' := by
      cases c with
      | clrInit p d env => exact run_clrInit hs p d env
      | clrDeInit h rc => exact run_clrDeInit hs hreg h rc
      | runMethod h ty me a env => exact run_runMethod hs h ty me a env
    obtain ⟨ph', hpass, hstands⟩ := hstep
    exact ⟨ph', hpass, hstands, hnext⟩
  obtain ⟨ph, hpass, hstands, -⟩ := hrun
  rw [(backend abi).emitted_eq_events]
  exact ⟨ph, hpass, hstands⟩

/-- Load a plugin, deinitialise it, and try another one. -/
example : hosting.run .idle ((backend linux64).emitted
    [.clrInit samplePath [] workingEnv, .clrDeInit (strHash linux64 samplePath) 0,
      .clrInit (lit "/app/Q.dll") [] workingEnv]) = some (.hosted (some 2)) := by decide

end EzDotnet.CoreCLR
