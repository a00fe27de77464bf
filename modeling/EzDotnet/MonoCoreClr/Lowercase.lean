/-
EzDotnet.MonoCoreClr.Lowercase — what the two lower-casing loops of
`host.cpp` pass to `std::tolower`.

The function is defined for `EOF` and for the values of an `unsigned char`.
The loop of `getDepsJsonPath` converts to `unsigned char` first; the one of
`util::lowercase` does not, so that a signed `char` from 0x80 on arrives as
a negative number, outside the domain but for 0xff, which arrives as `EOF`
(`inDomain_charInt_iff`). Where the domain is kept, every C library gives
the result of `lowercase` (`lowercaseWith_eq`), and the filter of
`build_tpa_list` looks at the last four bytes only (`isDll_iff`).
-/
import EzDotnet.Common.HashTheorems
import EzDotnet.MonoCoreClr.Host

namespace EzDotnet.MonoCoreClr

/-! ## `std::tolower` -/

/-- `EOF` or representable as `unsigned char`. -/
def TolowerDomain (i : Int) : Prop := i = -1 ∨ 0 ≤ i ∧ i ≤ 255

/-- The `std::tolower` of some C library, in the "C" locale. Outside of its
domain nothing is known of it. -/
def IsTolower (libTolower : Int → Int) : Prop :=
  ∀ i, TolowerDomain i → libTolower i = if 0x41 ≤ i ∧ i ≤ 0x5a then i + 0x20 else i

/-- `util::lowercase` with this `std::tolower`: the `char` becomes an `int`
and the result a `char`. -/
def lowercaseWith (abi : Abi) (libTolower : Int → Int) (s : Str) : Str :=
  s.map fun v => BitVec.ofInt 8 (libTolower (charInt abi v))

/-- The loop of `getDepsJsonPath` over the extension. -/
def lowercaseExt (libTolower : Int → Int) (ext : Str) : Str :=
  ext.map fun c => BitVec.ofInt 8 (libTolower c.toNat)

/-- What `util::lowercase` passes to `std::tolower`. -/
def lowercaseArgs (abi : Abi) (s : Str) : List Int := s.map (charInt abi)

/-- What `getDepsJsonPath` passes to it. -/
def extensionArgs (inputPath : Str) : List Int :=
  (posix.extension inputPath).map fun c => (c.toNat : Int)

/-! ## The arguments -/

variable {abi : Abi} {c : Byte} {libTolower : Int → Int}

/-- A `char` reaches the domain if `char` is unsigned, if it is ASCII, and as
`EOF`. -/
theorem inDomain_charInt_iff :
    TolowerDomain (charInt abi c) ↔
      (abi.charSigned = true → c.toNat < 0x80 ∨ c = 0xff#8) := by
  have hc : c.toNat < 256 := c.isLt
  have heof : c = 0xff#8 ↔ c.toNat = 255 := by
    rw [← BitVec.toNat_inj]
    rfl
  unfold TolowerDomain charInt
  rw [heof]
  cases abi.charSigned with
  | false => simp; omega
  | true =>
    rw [if_pos rfl, BitVec.toInt_eq_toNat_cond]
    split <;> simp <;> omega

theorem inDomain_toNat (c : Byte) : TolowerDomain c.toNat := by
  have hc : c.toNat < 256 := c.isLt
  unfold TolowerDomain
  omega

/-! ## The results -/

theorem ofInt_charInt (abi : Abi) (c : Byte) : BitVec.ofInt 8 (charInt abi c) = c := by
  unfold charInt
  split
  · exact BitVec.ofInt_toInt
  · simp

theorem ofInt_natCast_tolower (c : Byte) :
    BitVec.ofInt 8 (if 0x41 ≤ (c.toNat : Int) ∧ (c.toNat : Int) ≤ 0x5a then c.toNat + 0x20
      else c.toNat) = tolower c := by
  have hupper : 0x41#8 ≤ c ∧ c ≤ 0x5a#8 ↔
      0x41 ≤ (c.toNat : Int) ∧ (c.toNat : Int) ≤ 0x5a := by
    rw [BitVec.le_def, BitVec.le_def, BitVec.toNat_ofNat, BitVec.toNat_ofNat]
    omega
  unfold tolower
  rw [if_congr hupper rfl rfl]
  split
  · rw [BitVec.ofInt_add]
    simp
  · simp

/-- In the domain, the byte alone decides. -/
theorem ofInt_tolower (ht : IsTolower libTolower) (h : TolowerDomain (charInt abi c)) :
    BitVec.ofInt 8 (libTolower (charInt abi c)) = tolower c := by
  rcases h with heof | hbyte
  · have hc := ofInt_charInt abi c
    rw [heof] at hc ⊢
    rw [ht _ (.inl rfl), ← hc]
    decide
  · have hnat : charInt abi c = c.toNat := by
      have hback := congrArg BitVec.toNat (ofInt_charInt abi c)
      rw [BitVec.toNat_ofInt] at hback
      omega
    rw [ht _ (.inr hbyte), hnat]
    exact ofInt_natCast_tolower c

theorem lowercaseWith_eq (ht : IsTolower libTolower) {s : Str}
    (hs : ∀ i ∈ lowercaseArgs abi s, TolowerDomain i) :
    lowercaseWith abi libTolower s = lowercase s :=
  List.map_congr_left fun _ hc => ofInt_tolower ht (hs _ (List.mem_map_of_mem hc))

/-! ## `.dll` -/

/-- The last four bytes spell `.dll`, each letter in either case. -/
def SpellsDll (key : Str) : Prop :=
  ∃ front d l l', key = front ++ [dot, d, l, l'] ∧ d ∈ lit "dD" ∧ l ∈ lit "lL" ∧ l' ∈ lit "lL"

/-- What is lowered to a byte: the byte itself and, of a small letter, the
capital. -/
theorem tolower_eq_iff {b : Byte} (hb : ¬ (0x41#8 ≤ b ∧ b ≤ 0x5a#8)) :
    tolower c = b ↔ c = b ∨ (0x61#8 ≤ b ∧ b ≤ 0x7a#8) ∧ c = b - 0x20#8 := by
  have hc : c.toNat < 256 := c.isLt
  simp only [BitVec.le_def, BitVec.toNat_ofNat] at hb
  unfold tolower
  simp only [BitVec.le_def, BitVec.toNat_ofNat]
  split
  · simp only [← BitVec.toNat_inj, BitVec.toNat_add, BitVec.toNat_sub, BitVec.toNat_ofNat]
    omega
  · simp only [← BitVec.toNat_inj, BitVec.toNat_sub, BitVec.toNat_ofNat]
    omega

theorem map_tolower_eq_iff {last : Str} :
    last.map tolower = lit ".dll" ↔
      ∃ d l l', last = [dot, d, l, l'] ∧ d ∈ lit "dD" ∧ l ∈ lit "lL" ∧ l' ∈ lit "lL" := by
  have hdll : lit ".dll" = [dot, 0x64#8, 0x6c#8, 0x6c#8] := by decide
  have hdot : ∀ c, tolower c = dot ↔ c = dot := by
    intro c
    rw [tolower_eq_iff (by decide)]
    simp [dot]
  have hd : ∀ c, tolower c = 0x64#8 ↔ c ∈ lit "dD" := by
    intro c
    rw [tolower_eq_iff (by decide)]
    simp [lit]
  have hl : ∀ c, tolower c = 0x6c#8 ↔ c ∈ lit "lL" := by
    intro c
    rw [tolower_eq_iff (by decide)]
    simp [lit]
  rw [hdll]
  constructor
  · intro hmap
    simp only [List.map_eq_cons_iff, List.map_eq_nil_iff, hdot, hd, hl] at hmap
    obtain ⟨_, _, rfl, rfl, d, _, rfl, hd, l, _, rfl, hl, l', _, rfl, hl', rfl⟩ := hmap
    exact ⟨d, l, l', rfl, hd, hl, hl'⟩
  · intro hspelled
    obtain ⟨d, l, l', rfl, hd', hl', hl''⟩ := hspelled
    simp only [List.map_cons, List.map_nil]
    rw [(hdot dot).mpr rfl, (hd d).mpr hd', (hl l).mpr hl', (hl l').mpr hl'']

theorem isDll_iff {key : Str} : IsDll key ↔ SpellsDll key := by
  unfold IsDll lowercase SpellsDll
  constructor
  · intro hends
    obtain ⟨pre, hpre⟩ := hends
    obtain ⟨front, last, rfl, -, hlast⟩ := List.map_eq_append_iff.mp hpre.symm
    obtain ⟨d, l, l', rfl, hspelled⟩ := map_tolower_eq_iff.mp hlast
    exact ⟨front, d, l, l', rfl, hspelled⟩
  · intro hspells
    obtain ⟨front, d, l, l', rfl, hspelled⟩ := hspells
    rw [List.map_append, map_tolower_eq_iff.mpr ⟨d, l, l', rfl, hspelled⟩]
    exact List.suffix_append _ _

/-- What precedes the last four bytes does not matter. -/
theorem dll_suffix_append_iff {front last : Str} (hlast : last.length = 4) :
    lit ".dll" <:+ lowercaseWith abi libTolower (front ++ last) ↔
      lit ".dll" <:+ lowercaseWith abi libTolower last := by
  have hsplit : lowercaseWith abi libTolower (front ++ last) =
      lowercaseWith abi libTolower front ++ lowercaseWith abi libTolower last := List.map_append
  have hlen : (lit ".dll").length = (lowercaseWith abi libTolower last).length := by
    simp [lowercaseWith, lit, hlast]
  rw [hsplit]
  refine ⟨fun hends => ?_, fun hends => hends.trans (List.suffix_append _ _)⟩
  exact List.suffix_of_suffix_length_le hends (List.suffix_append _ _) (Nat.le_of_eq hlen)

/-! ## The two loops -/

/-- The filter is defined for the key, and answers by its last four bytes. -/
structure FilterExact (abi : Abi) (key : Str) : Prop where
  inDomain : ∀ i ∈ lowercaseArgs abi key, TolowerDomain i
  spells : ∀ libTolower, IsTolower libTolower →
    (lit ".dll" <:+ lowercaseWith abi libTolower key ↔ SpellsDll key)
  lastFour : ∀ libTolower, IsTolower libTolower → ∀ front last, key = front ++ last →
    last.length = 4 → (lit ".dll" <:+ lowercaseWith abi libTolower key ↔
      lit ".dll" <:+ lowercaseWith abi libTolower last)

theorem inDomain_lowercaseArgs_iff (abi : Abi) (s : Str) :
    (∀ i ∈ lowercaseArgs abi s, TolowerDomain i) ↔
      (abi.charSigned = true → ∀ c ∈ s, c.toNat < 0x80 ∨ c = 0xff#8) := by
  unfold lowercaseArgs
  rw [List.forall_mem_map]
  constructor
  · intro hall hsigned c hc
    exact inDomain_charInt_iff.mp (hall c hc) hsigned
  · intro hall c hc
    exact inDomain_charInt_iff.mpr fun hsigned => hall hsigned c hc

/-- The loop over the extension gives what the model says of it. -/
theorem lowercaseExt_eq (ht : IsTolower libTolower) (ext : Str) :
    lowercaseExt libTolower ext = ext.map tolower := by
  refine List.map_congr_left fun c _ => ?_
  rw [ht _ (inDomain_toNat c)]
  exact ofInt_natCast_tolower c

/-- The filter of `build_tpa_list` is defined and exact for a key exactly when
`char` is unsigned, or no byte of the key is one of 0x80 to 0xfe. The
extension test of `getDepsJsonPath` is always defined. -/
theorem filterExact_iff (abi : Abi) (key : Str) :
    (FilterExact abi key ↔
      (abi.charSigned = true → ∀ c ∈ key, c.toNat < 0x80 ∨ c = 0xff#8)) ∧
    ∀ inputPath, ∀ i ∈ extensionArgs inputPath, TolowerDomain i := by
  refine ⟨⟨fun hexact => (inDomain_lowercaseArgs_iff abi key).mp hexact.inDomain, fun hbytes => ?_⟩,
    fun inputPath i hi => ?_⟩
  · have hdomain := (inDomain_lowercaseArgs_iff abi key).mpr hbytes
    refine ⟨hdomain, fun libTolower ht => ?_, fun libTolower _ front last heq hlast => ?_⟩
    · rw [lowercaseWith_eq ht hdomain]
      exact isDll_iff
    · rw [heq]
      exact dll_suffix_append_iff hlast
  · obtain ⟨c, -, rfl⟩ := List.mem_map.mp hi
    exact inDomain_toNat c

/-- `café.dll`, in UTF-8. -/
def accentedDll : Str := lit "caf" ++ [0xc3#8, 0xa9#8] ++ lit ".dll"

/-- With a signed `char`, the two bytes of the é arrive as -61 and -87. -/
theorem accent_outOfDomain :
    ¬ FilterExact linux64 accentedDll ∧ SpellsDll accentedDll ∧
      -61 ∈ lowercaseArgs linux64 accentedDll ∧ -87 ∈ lowercaseArgs linux64 accentedDll ∧
      ¬ TolowerDomain (-61) ∧ ¬ TolowerDomain (-87) := by
  have harg : -61 ∈ lowercaseArgs linux64 accentedDll := by decide
  have hout : ¬ TolowerDomain (-61) := by simp [TolowerDomain]
  refine ⟨fun hexact => hout (hexact.inDomain _ harg), ?_, harg, by decide, hout, ?_⟩
  · exact ⟨lit "caf" ++ [0xc3#8, 0xa9#8], 0x64#8, 0x6c#8, 0x6c#8, by decide, by decide, by decide,
      by decide⟩
  · simp [TolowerDomain]

end EzDotnet.MonoCoreClr
