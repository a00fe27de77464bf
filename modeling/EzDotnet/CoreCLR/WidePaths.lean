/-
EzDotnet.CoreCLR.WidePaths — the paths that the CoreCLR backend hands to
hostfxr when it is built for Windows outside Cygwin.

There `char_t` is a 16-bit unit and `std::filesystem::path` holds such
units, but `to_native_fx_path` goes through a `std::string`: `str_conv`
cuts every unit down to a `char` and widens the `char` with its sign
afterwards. A unit comes back only if it is the sign extension of its low
byte, that is below 0x80 or from 0xff80 on (`Survives`); a unit whose low
byte is that of `/` even becomes a separator.

How a narrow path is decoded, and the lexical functions of a path with root
names, are a parameter (`WidePathFns`).
-/
import EzDotnet.CoreCLR.Hostfxr

namespace EzDotnet.CoreCLR

/-- `fx_string`, with the 16-bit `char_t` of Windows. -/
abbrev WideStr := List (BitVec 16)

def wideSlash : BitVec 16 := 0x2f#16

def wideBackslash : BitVec 16 := 0x5c#16

/-! ## The code -/

/-- What `clrInit` uses of `std::filesystem::path`. -/
structure WidePathFns where
  /-- the constructor, which decodes the bytes -/
  ofNarrow : Str → WideStr
  parentPath : WideStr → WideStr
  stem : WideStr → WideStr

/-- The members of `dotnet_ctx` that `clrInit` sets from its path. -/
structure WideCtx where
  hostPath : WideStr
  asmBase : WideStr
  asmPath : WideStr
  deriving DecidableEq, Repr

/-- The context `clrInit` builds. -/
def newWideCtx (fs : WidePathFns) (assemblyPath : Str) : WideCtx :=
  let asmPath := fs.ofNarrow assemblyPath
  let asmDir := fs.parentPath asmPath
  { hostPath := toNativeFxPath .windows asmDir
    asmBase := toNativeFxPath .windows asmDir ++ strConv 16 [backslash] ++ fs.stem asmPath
    asmPath := asmPath }

/-- The `argv` of `initHostFxr`. -/
def wideArgv (ctx : WideCtx) : List WideStr := [toNativeFxPath .windows ctx.asmPath]

/-! ## One unit -/

/-- The separators are made native, everything else stays. -/
def nativeUnit (c : BitVec 16) : BitVec 16 := if c = wideSlash then wideBackslash else c

/-- What `to_native_fx_path` makes of one unit. -/
def fxUnit (c : BitVec 16) : BitVec 16 :=
  BitVec.signExtend 16
    (if c.signExtend 8 = slash then backslash else c.signExtend 8)

/-- The unit is the sign extension of a `char`. -/
def Survives (c : BitVec 16) : Prop := c.toNat < 0x80 ∨ 0xff80 ≤ c.toNat

theorem toNativeFxPath_eq_map (path : WideStr) :
    toNativeFxPath .windows path = path.map fxUnit := by
  simp only [toNativeFxPath, strConv, toNativePath, List.map_map]
  rfl

theorem toNat_narrow (c : BitVec 16) : (c.signExtend 8).toNat = c.toNat % 256 := by
  rw [BitVec.signExtend_eq_setWidth_of_le _ (by decide), BitVec.toNat_setWidth]

/-- Widening fills the upper half with the sign of the `char`. -/
theorem toNat_widen (b : Byte) :
    (b.signExtend 16).toNat = b.toNat + if 128 ≤ b.toNat then 0xff00 else 0 := by
  have hb : b.toNat < 256 := b.isLt
  rw [BitVec.toNat_signExtend, BitVec.toNat_setWidth, BitVec.msb_eq_decide,
    Nat.mod_eq_of_lt (by omega)]
  simp

theorem fxUnit_eq_iff (c : BitVec 16) : fxUnit c = nativeUnit c ↔ Survives c := by
  have hlow := toNat_narrow c
  have hc : c.toNat < 0x10000 := c.isLt
  unfold fxUnit nativeUnit Survives
  by_cases hslash : c = wideSlash
  · subst hslash
    decide
  · have hne : c.toNat ≠ 0x2f := fun heq => hslash (BitVec.eq_of_toNat_eq heq)
    rw [if_neg hslash, ← BitVec.toNat_inj, toNat_widen]
    by_cases hbyte : c.signExtend 8 = slash
    · -- a foreign unit whose low byte is a separator
      rw [hbyte] at hlow
      have hlow' : 0x2f = c.toNat % 256 := hlow
      rw [if_pos hbyte]
      show 0x5c = c.toNat ↔ _
      omega
    · rw [if_neg hbyte, hlow]
      split <;> omega

theorem eq_slash_of_widen {b : Byte} (h : b.signExtend 16 = wideSlash) : b = slash := by
  have hnat := congrArg BitVec.toNat h
  have hslash : wideSlash.toNat = 0x2f := rfl
  rw [toNat_widen] at hnat
  refine BitVec.eq_of_toNat_eq ?_
  show b.toNat = 0x2f
  split at hnat <;> omega

/-- What comes out has no `/` left. -/
theorem nativeUnit_fxUnit (c : BitVec 16) : nativeUnit (fxUnit c) = fxUnit c := by
  refine if_neg fun heq => ?_
  unfold fxUnit at heq
  have hbyte := eq_slash_of_widen heq
  split at hbyte
  · exact absurd hbyte (by decide)
  · next hne => exact hne hbyte

/-! ## Paths -/

theorem toNativeFxPath_eq_iff (path : WideStr) :
    toNativeFxPath .windows path = path.map nativeUnit ↔ ∀ c ∈ path, Survives c := by
  rw [toNativeFxPath_eq_map, List.map_inj_left]
  exact forall₂_congr fun c _ => fxUnit_eq_iff c

/-- The same file, by its spelling: Windows takes either separator. -/
def SameFile (path path' : WideStr) : Prop := path.map nativeUnit = path'.map nativeUnit

instance (path path' : WideStr) : Decidable (SameFile path path') :=
  inferInstanceAs (Decidable (_ = _))

theorem sameFile_iff (path : WideStr) :
    SameFile (toNativeFxPath .windows path) path ↔ ∀ c ∈ path, Survives c := by
  have hnative : (toNativeFxPath .windows path).map nativeUnit = toNativeFxPath .windows path := by
    rw [toNativeFxPath_eq_map, List.map_map]
    exact List.map_congr_left fun c _ => nativeUnit_fxUnit c
  unfold SameFile
  rw [hnative, toNativeFxPath_eq_iff]

/-- A common end does not matter. -/
theorem sameFile_append_right (path path' rest : WideStr) :
    SameFile (path ++ rest) (path' ++ rest) ↔ SameFile path path' := by
  unfold SameFile
  rw [List.map_append, List.map_append, List.append_left_inj]

/-- What hostfxr is told denotes what the path of `clrInit` does. -/
structure DenotesSame (fs : WidePathFns) (assemblyPath : Str) : Prop where
  hostPath : SameFile (newWideCtx fs assemblyPath).hostPath
    (fs.parentPath (fs.ofNarrow assemblyPath))
  asmBase : SameFile (newWideCtx fs assemblyPath).asmBase
    (fs.parentPath (fs.ofNarrow assemblyPath) ++ [wideBackslash] ++
      fs.stem (fs.ofNarrow assemblyPath))
  argv : List.Forall₂ SameFile (wideArgv (newWideCtx fs assemblyPath)) [fs.ofNarrow assemblyPath]

/-- `to_native_fx_path` does no more than make the separators native exactly
for the paths whose units all survive; and the paths given to hostfxr denote
what the path of `clrInit` does exactly when this path and its parent are
such. -/
theorem encoding_preserved_iff (fs : WidePathFns) (path : WideStr) (assemblyPath : Str) :
    (toNativeFxPath .windows path = path.map nativeUnit ↔ ∀ c ∈ path, Survives c) ∧
    (DenotesSame fs assemblyPath ↔
      (∀ c ∈ fs.ofNarrow assemblyPath, Survives c) ∧
        ∀ c ∈ fs.parentPath (fs.ofNarrow assemblyPath), Survives c) := by
  refine ⟨toNativeFxPath_eq_iff path, ?_⟩
  constructor
  · intro hsame
    obtain ⟨hhost, _, hargv⟩ := hsame
    have hpath : SameFile (toNativeFxPath .windows (fs.ofNarrow assemblyPath))
        (fs.ofNarrow assemblyPath) := (List.forall₂_cons.mp hargv).1
    exact ⟨(sameFile_iff _).mp hpath, (sameFile_iff _).mp hhost⟩
  · intro hunits
    obtain ⟨hpath, hparent⟩ := hunits
    have hhost := (sameFile_iff _).mpr hparent
    refine ⟨hhost, ?_, List.forall₂_cons.mpr ⟨(sameFile_iff _).mpr hpath, .nil⟩⟩
    have hsep : strConv 16 [backslash] = [wideBackslash] := by decide
    show SameFile (_ ++ strConv 16 [backslash] ++ _) _
    rw [hsep, List.append_assoc, List.append_assoc]
    exact (sameFile_append_right _ _ _).mpr hhost

/-- Latin-1 bytes and absolute paths with `\`, below the root of a drive. -/
def latinPaths : WidePathFns where
  ofNarrow path := path.map (·.setWidth 16)
  parentPath := Lib.PathSyntax.parentPath ⟨wideBackslash, 0x2e#16⟩
  stem := Lib.PathSyntax.stem ⟨wideBackslash, 0x2e#16⟩

/-- `C:\é\P.dll`. -/
def accentedPath : Str := lit "C:\\" ++ [0xe9#8] ++ lit "\\P.dll"

/-- The é becomes U+FFE9, in the path of the assembly and in its
directory, and U+012F becomes a separator. -/
theorem accent_lost :
    wideArgv (newWideCtx latinPaths accentedPath) =
        [strConv 16 (lit "C:\\") ++ [0xffe9#16] ++ strConv 16 (lit "\\P.dll")] ∧
      ¬ DenotesSame latinPaths accentedPath ∧
      toNativeFxPath .windows [0x012f#16] = [wideBackslash] ∧
      toNativeFxPath .windows [0x012f#16] ≠ [0x012f#16].map nativeUnit := by
  refine ⟨by decide, fun hsame => ?_, by decide, by decide⟩
  exact absurd hsame.hostPath (by decide)

end EzDotnet.CoreCLR
