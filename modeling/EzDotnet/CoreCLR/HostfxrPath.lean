/-
EzDotnet.CoreCLR.HostfxrPath — the path of hostfxr, as nethost reports it and
as `getHostFxrPath` returns it.

The size that the first call stores counts the terminator, and the string
that is made for the second call keeps it: what is returned is always one
element longer than the path and ends in a NUL (`getHostFxrPath_reported`).
The loader, which stops at the first NUL, does not see it (`opens_reported`).
An 8-bit path is otherwise unaltered; of a 16-bit one, `str_conv` keeps the
units that survive (`strConv_strConv_eq_iff`).
-/
import EzDotnet.CoreCLR.WidePaths

namespace EzDotnet.CoreCLR

variable {w : Nat} {env : NethostEnv w} {baseDir : Str} {P : List (BitVec w)}

/-! ## What nethost reports -/

/-- nethost is loaded and reports `P`: without a buffer it fails and stores
the size that `P` and its terminator need, and a buffer of this size it
fills with both. -/
structure NethostReports (env : NethostEnv w) (baseDir : Str) (P : List (BitVec w)) : Prop where
  opens : env.opens (toNativePath .unix (posix.join baseDir nethostName)) = true
  hasSymbol : env.hasSymbol = true
  size : env.pathSize.1 ≠ 0 ∧ env.pathSize.2 = P.length + 1
  fills : ∀ buffer, buffer.length = P.length + 1 → env.path buffer = (0, P ++ [0#w])

/-- The string is the path: as long, without a terminator or padding in it,
and its characters, converted back, are those of the path. -/
structure SamePath (path : Str) (P : List (BitVec w)) : Prop where
  length : path.length = P.length
  noNul : 0#8 ∉ path
  chars : strConv w path = P

/-- What is returned is the path and its terminator, both converted. -/
theorem getHostFxrPath_reported (hP : NethostReports env baseDir P) :
    (getHostFxrPath env baseDir).1 = .ok (strConv 8 P ++ [0#8]) := by
  have hfilled := hP.fills (List.replicate (P.length + 1) 0#w) List.length_replicate
  have hnul : (0#w).signExtend 8 = 0#8 := by simp [BitVec.signExtend]
  unfold getHostFxrPath
  dsimp only
  rw [hP.size.2, hfilled, if_neg (by simp [hP.opens]), if_neg (by simp [hP.hasSymbol]),
    if_neg (by simp [hP.size.1]), if_neg (by simp)]
  simp [strConv, hnul]

/-! ## What the loader and the conversion make of it -/

/-- An 8-bit path reaches the loader: it is read up to the terminator. -/
theorem opens_reported {env : NethostEnv 8} {P path : Str} (hP : NethostReports env baseDir P)
    (hnul : 0#8 ∉ P) (hpath : (getHostFxrPath env baseDir).1 = .ok path)
    (hostfxr : HostfxrEnv) (ctx : DotnetCtx) :
    HostCall.openLibrary P (hostfxr.opens P) ∈
      (loadAndInitHostFxr hostfxr { ctx with hostfxrPath := path }).2.2 := by
  have hsame : strConv 8 P = P := by simp [strConv]
  rw [getHostFxrPath_reported hP, hsame] at hpath
  cases hpath
  have hcstr : cstr (P ++ [0#8]) = P := by
    rw [cstr_append_of_notMem hnul]
    exact List.append_nil P
  unfold loadAndInitHostFxr
  dsimp only
  rw [hcstr]
  cases hostfxr.opens P with
  | false => exact List.mem_cons_self
  | true =>
    rw [if_neg (by simp)]
    split_ifs <;> exact List.mem_cons_self

/-- A 16-bit unit comes back from a `char` exactly if it is the sign
extension of one. -/
theorem strConv_strConv_eq_iff (P : WideStr) :
    strConv 16 (strConv 8 P) = P ↔ ∀ c ∈ P, Survives c := by
  have hunit : ∀ c : BitVec 16, (c.signExtend 8).signExtend 16 = c ↔ Survives c := by
    intro c
    have hlow := toNat_narrow c
    have hc : c.toNat < 0x10000 := c.isLt
    unfold Survives
    rw [← BitVec.toNat_inj, toNat_widen, hlow]
    split <;> omega
  unfold strConv
  rw [List.map_map]
  nth_rewrite 2 [← List.map_id P]
  rw [List.map_inj_left]
  exact forall₂_congr fun c _ => hunit c

/-- Whatever path nethost reports, the string that `getHostFxrPath` returns is
not this path: it is one element too long, and this element is a NUL. -/
theorem not_samePath_reported (hP : NethostReports env baseDir P) :
    ∃ path, (getHostFxrPath env baseDir).1 = .ok path ∧ path = strConv 8 P ++ [0#8] ∧
      ¬ SamePath path P := by
  refine ⟨_, getHostFxrPath_reported hP, rfl, fun hsame => ?_⟩
  have hlength := hsame.length
  simp [strConv] at hlength

/-- A nethost that reports `P`. -/
def nethostAt (P : List (BitVec w)) : NethostEnv w where
  opens _ := true
  hasSymbol := true
  pathSize := (-2147450728, P.length + 1)
  path buffer := if buffer.length = P.length + 1 then (0, P ++ [0#w]) else (-2147450728, buffer)

theorem nethostReports_at (P : List (BitVec w)) (baseDir : Str) :
    NethostReports (nethostAt P) baseDir P where
  opens := rfl
  hasSymbol := rfl
  size := ⟨by simp [nethostAt], rfl⟩
  fills _ hlength := if_pos hlength

def hostfxrSo : Str := lit "/usr/share/dotnet/host/fxr/8.0.0/libhostfxr.so"

theorem not_samePath_hostfxrSo :
    ∃ path, (getHostFxrPath (nethostAt hostfxrSo) (lit "/app")).1 = .ok path ∧
      path = strConv 8 hostfxrSo ++ [0#8] ∧ ¬ SamePath path hostfxrSo :=
  not_samePath_reported (nethostReports_at hostfxrSo (lit "/app"))

/-- The terminator stays in the string, for either width; of the 16-bit path
`/ł` the last letter is lost, too. -/
theorem terminator_kept :
    ((getHostFxrPath (nethostAt hostfxrSo) (lit "/app")).1 = .ok (hostfxrSo ++ [0#8]) ∧
      ¬ SamePath (hostfxrSo ++ [0#8]) hostfxrSo) ∧
    (getHostFxrPath (nethostAt [0x2f#16, 0x142#16]) (lit "/app")).1
        = .ok [0x2f#8, 0x42#8, 0#8] ∧
      ¬ SamePath [0x2f#8, 0x42#8, 0#8] [0x2f#16, 0x142#16] := by
  refine ⟨⟨by decide, fun hsame => ?_⟩, by decide, fun hsame => ?_⟩
  · exact absurd hsame.noNul (by decide)
  · exact absurd hsame.noNul (by decide)

end EzDotnet.CoreCLR
