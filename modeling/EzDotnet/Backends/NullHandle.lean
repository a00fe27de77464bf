/-
EzDotnet.Backends.NullHandle — whether a `clrInit` that registered an
assembly can return the value that means failure.

The handle of a new entry is the hash of a string that the backend derives
from the path, and `NULL_ASMHANDLE` is no more than one of the values of
that hash. So success and failure look different exactly for the paths
whose string does not add up to a multiple of the word size
(`success_distinguishable_iff`). There are file names that do, of ASCII
letters only and for both word sizes; none of the backends checks.
-/
import EzDotnet.Common.HashTheorems
import EzDotnet.Backends.Registries

namespace EzDotnet

namespace Backend

variable {σ η ι δ ρ ε : Type} {B : Backend σ η ι δ ρ ε} {s : σ} {p d : Str} {env : ι}

/-- The call adds an entry to the registry. -/
def Registers (B : Backend σ η ι δ ρ ε) (s : σ) (p d : Str) (env : ι) : Prop :=
  ∃ h, ¬ B.registered s h ∧ B.registered (B.clrInit s p d env).state h

/-- The answer to a call that registers is the hash of the string from which
the backend makes its key. -/
theorem Keyed.distinguishable_iff (hB : B.Keyed) {abi : Abi} {str : Str}
    (hkey : B.key p = strHash abi str) (hreg : B.Registers s p d env) :
    (B.clrInit s p d env).ret ≠ .value nullAsmHandle ↔
      ¬ (2 : Int) ^ abi.longBits ∣ hashSum abi str := by
  obtain ⟨h, hnew, hentry⟩ := hreg
  obtain ⟨rfl, hret⟩ := hB.answered hnew hentry
  rw [← strHash_eq_null_iff, hret, hkey]
  simp

/-- A call that registers and returns the null handle. -/
theorem Keyed.registers_null (hB : B.Keyed)
    (hentry : B.registered (B.clrInit B.start p d env).state nullAsmHandle) :
    B.Registers B.start p d env ∧
      (B.clrInit B.start p d env).ret = .value nullAsmHandle := by
  have hnew : ¬ B.registered B.start nullAsmHandle := hB.not_registered_start nullAsmHandle
  exact ⟨⟨nullAsmHandle, hnew, hentry⟩, (hB.answered hnew hentry).2⟩

end Backend

namespace Backends

open CLRHost (windowsNames)

/-- For every string and both word sizes, the hash is the null handle
exactly when the 5381 and the characters add up to a multiple of the word
size; and in every state of every backend a `clrInit` that registers an
assembly returns something else than the null handle exactly when the string
it hashes does not add up to such a multiple. -/
theorem success_distinguishable_iff (fs : CLRHost.PathFns) (abi : Abi) :
    (∀ str, strHash abi str ≠ nullAsmHandle ↔ ¬ (2 : Int) ^ abi.longBits ∣ hashSum abi str) ∧
    (∀ s p d env, (CoreCLR.backend abi).Registers s p d env →
      ((CoreCLR.clrInit abi s p d env).ret ≠ .value nullAsmHandle ↔
        ¬ (2 : Int) ^ abi.longBits ∣ hashSum abi p)) ∧
    (∀ s p d env, (Mono.backend abi).Registers s p d env →
      ((Mono.clrInit abi s p d env).ret ≠ .value nullAsmHandle ↔
        ¬ (2 : Int) ^ abi.longBits ∣ hashSum abi (posix.stem p))) ∧
    (∀ s p d env, (MonoCoreClr.backend abi).Registers s p d env →
      ((MonoCoreClr.clrInit abi s p d env).ret ≠ .value nullAsmHandle ↔
        ¬ (2 : Int) ^ abi.longBits ∣ hashSum abi (MonoCoreClr.getDepsJsonPath p))) ∧
    (∀ s p d env, (CLRHost.backend fs abi).Registers s p d env →
      ((CLRHost.clrInit fs abi s p d env).ret ≠ .value nullAsmHandle ↔
        ¬ (2 : Int) ^ abi.longBits ∣ hashSum abi (toNativePath .windows p))) := by
  refine ⟨fun str => not_congr (strHash_eq_null_iff abi str), ?_, ?_, ?_, ?_⟩
  · intro s p d env hreg
    exact (CoreCLR.keyed abi).distinguishable_iff rfl hreg
  · intro s p d env hreg
    exact (Mono.keyed abi).distinguishable_iff (Mono.key_eq abi p) hreg
  · intro s p d env hreg
    exact (MonoCoreClr.keyed abi).distinguishable_iff rfl hreg
  · intro s p d env hreg
    exact (CLRHost.keyed fs abi).distinguishable_iff rfl hreg

/-- A file name whose hash is 0 for 64 bits, and so for 32. -/
def zeroPath : Str := lit "btTSuooiEmrPD.dll"

/-- A stem with that property. -/
def zeroStemPath : Str := lit "ASZgZWsPxCVpHi.dll"

/-- A file whose deps file has that property. -/
def zeroDepsPath : Str := lit "WZxaLaPdJfHNH.dll"

/-- A successful load in a fresh process, with the handle that means
failure, in each backend. -/
theorem success_looks_like_failure :
    (zeroPath ≠ [] ∧ strHash linux64 zeroPath = nullAsmHandle ∧
      strHash win64 zeroPath = nullAsmHandle) ∧
    ((CoreCLR.backend linux64).Registers CoreCLR.start zeroPath [] CoreCLR.workingEnv ∧
      (CoreCLR.clrInit linux64 CoreCLR.start zeroPath [] CoreCLR.workingEnv).ret
        = .value nullAsmHandle) ∧
    ((Mono.backend linux64).Registers Mono.start zeroStemPath [] monoEnv ∧
      (Mono.clrInit linux64 Mono.start zeroStemPath [] monoEnv).ret = .value nullAsmHandle) ∧
    ((MonoCoreClr.backend linux64).Registers MonoCoreClr.start zeroDepsPath []
        MonoCoreClr.appEnv ∧
      (MonoCoreClr.clrInit linux64 MonoCoreClr.start zeroDepsPath []
        MonoCoreClr.appEnv).ret = .value nullAsmHandle) ∧
    (CLRHost.backend windowsNames win64).Registers CLRHost.start zeroPath [] clrEnv ∧
      (CLRHost.clrInit windowsNames win64 CLRHost.start zeroPath [] clrEnv).ret
        = .value nullAsmHandle := by
  refine ⟨⟨by decide, by decide, by decide⟩, ?_, ?_, ?_, ?_⟩
  · exact (CoreCLR.keyed linux64).registers_null (by decide)
  · exact (Mono.keyed linux64).registers_null (by decide)
  · have hkey : (MonoCoreClr.backend linux64).key zeroDepsPath = nullAsmHandle := by
      set_option maxRecDepth 2000 in decide
    have hentry := (monoCoreClr_loads linux64 zeroDepsPath).2
    rw [hkey] at hentry
    exact (MonoCoreClr.keyed linux64).registers_null hentry
  · exact (CLRHost.keyed windowsNames win64).registers_null (by decide)

end Backends

end EzDotnet
