/-
EzDotnet.Backends.NearPaths — whether two paths that differ by one edited
character or one transposition can share a handle.

`str_hash` keeps such strings apart. What a backend hashes is another
matter: CoreCLR hashes the path itself, so there the two paths never share a
handle; the stem of a path (Mono), the path of its deps file (MonoCoreClr)
and its native spelling (CLRHost) can be one string for two paths that
differ, and then they do.
-/
import EzDotnet.Common.HashTheorems
import EzDotnet.Backends.Registries

namespace EzDotnet

namespace Backend

variable {σ η ι δ ρ ε : Type} {B : Backend σ η ι δ ρ ε} {p q : Str}

/-- In no two states do the paths get one handle. -/
def NeverShare (B : Backend σ η ι δ ρ ε) (p q : Str) : Prop :=
  ∀ s d env t d' env' h, h ≠ nullAsmHandle →
    ¬ ((B.clrInit s p d env).ret = .value h ∧ (B.clrInit t q d' env').ret = .value h)

theorem Keyed.neverShare (hB : B.Keyed) (hkey : B.key p ≠ B.key q) : B.NeverShare p q := by
  intro s d env t d' env' h hne hboth
  have hp : h = B.key p := (hB.granted hboth.1 hne).1
  have hq : h = B.key q := (hB.granted hboth.2 hne).1
  exact hkey (hp.symm.trans hq)

/-- Two paths whose strings are near-identical. -/
theorem Keyed.neverShare_of_near (hB : B.Keyed) {abi : Abi} (hw : 13 ≤ abi.longBits)
    {str str' : Str} (hp : B.key p = strHash abi str) (hq : B.key q = strHash abi str')
    (hnear : NearIdentical str str') : B.NeverShare p q := by
  refine hB.neverShare ?_
  rw [hp, hq]
  exact strHash_ne_of_nearIdentical hw hnear

/-- Two paths of one key get one handle as soon as the first is loaded. -/
theorem Keyed.not_neverShare (hB : B.Keyed) {d : Str} {env : ι}
    (hload : (B.clrInit B.start p d env).ret = .value (B.key p)) (hkey : B.key p = B.key q)
    (hne : B.key p ≠ nullAsmHandle) : ¬ B.NeverShare p q :=
  fun hnever => hnever B.start d env (B.clrInit B.start p d env).state d env (B.key p) hne
    ⟨hload, hB.granted_again hload hkey hne d env⟩

end Backend

namespace Backends

open CLRHost (windowsNames)

/-- For both word sizes, near-identical strings have different hashes; so
near-identical paths never share a handle in CoreCLR, and in the other
backends paths never do whose stems, deps paths or native paths are
near-identical. -/
theorem nearIdentical_separated (fs : CLRHost.PathFns) (abi : Abi)
    (hw : abi.longBits = 32 ∨ abi.longBits = 64) :
    (∀ str str', NearIdentical str str' → strHash abi str ≠ strHash abi str') ∧
    (∀ p q, NearIdentical p q → (CoreCLR.backend abi).NeverShare p q) ∧
    (∀ p q, NearIdentical (posix.stem p) (posix.stem q) → (Mono.backend abi).NeverShare p q) ∧
    (∀ p q, NearIdentical (MonoCoreClr.getDepsJsonPath p) (MonoCoreClr.getDepsJsonPath q) →
      (MonoCoreClr.backend abi).NeverShare p q) ∧
    ∀ p q, NearIdentical (toNativePath .windows p) (toNativePath .windows q) →
      (CLRHost.backend fs abi).NeverShare p q := by
  have hw' : 13 ≤ abi.longBits := by omega
  refine ⟨fun str str' => strHash_ne_of_nearIdentical hw', ?_, ?_, ?_, ?_⟩
  · intro p q hnear
    exact (CoreCLR.keyed abi).neverShare_of_near hw' rfl rfl hnear
  · intro p q hnear
    exact (Mono.keyed abi).neverShare_of_near hw' (Mono.key_eq abi p) (Mono.key_eq abi q) hnear
  · intro p q hnear
    exact (MonoCoreClr.keyed abi).neverShare_of_near hw' rfl rfl hnear
  · intro p q hnear
    exact (CLRHost.keyed fs abi).neverShare_of_near hw' rfl rfl hnear

theorem nearIdentical_separated_linux64 :
    strHash linux64 (lit "/app/Ab.dll") ≠ strHash linux64 (lit "/app/bA.dll") ∧
      strHash linux64 (lit "/app/Ab.dll") ≠ strHash linux64 (lit "/app/Ac.dll") := by
  have hall := (nearIdentical_separated windowsNames linux64 (.inr rfl)).1
  refine ⟨hall _ _ ⟨by decide, by decide, .inr ?_⟩, hall _ _ ⟨by decide, by decide, .inl ?_⟩⟩
  · exact ⟨lit "/app/", 0x41#8, 0x62#8, lit ".dll", by decide, rfl, rfl⟩
  · exact ⟨lit "/app/A", 0x62#8, 0x63#8, lit ".dll", by decide, rfl, rfl⟩

/-- Two paths that differ in one character of the directory get one handle
in Mono, two that differ in the extension in MonoCoreClr, and two that
differ in a separator in CLRHost. -/
theorem near_paths_share :
    (NearIdentical (lit "/a/P.dll") (lit "/b/P.dll") ∧
      ¬ (Mono.backend linux64).NeverShare (lit "/a/P.dll") (lit "/b/P.dll")) ∧
    (NearIdentical (lit "/app/P.dll") (lit "/app/P.dlm") ∧
      ¬ (MonoCoreClr.backend linux64).NeverShare (lit "/app/P.dll") (lit "/app/P.dlm")) ∧
    NearIdentical (lit "C:/P.dll") (lit "C:\\P.dll") ∧
      ¬ (CLRHost.backend windowsNames win64).NeverShare (lit "C:/P.dll") (lit "C:\\P.dll") := by
  refine ⟨⟨⟨by decide, by decide, .inl ?_⟩, ?_⟩, ⟨⟨by decide, by decide, .inl ?_⟩, ?_⟩,
    ⟨by decide, by decide, .inl ?_⟩, ?_⟩
  · exact ⟨lit "/", 0x61#8, 0x62#8, lit "/P.dll", by decide, rfl, rfl⟩
  · exact (Mono.keyed linux64).not_neverShare (mono_loads linux64 _) (by decide) (by decide)
  · exact ⟨lit "/app/P.dl", 0x6c#8, 0x6d#8, [], by decide, rfl, rfl⟩
  · exact (MonoCoreClr.keyed linux64).not_neverShare (monoCoreClr_loads linux64 _).1 (by decide)
      (by decide)
  · exact ⟨lit "C:", slash, backslash, lit "P.dll", by decide, rfl, rfl⟩
  · exact (CLRHost.keyed windowsNames win64).not_neverShare (clrHost_loads windowsNames win64 _)
      (by decide) (by decide)

end Backends

end EzDotnet
