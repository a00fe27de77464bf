/-
EzDotnet.Common.Strings — the string functions of `common/`: `str_conv`,
`str_hash` and `to_native_path`.

A `std::string` is the list of its bytes, a `basic_string<char_t>` the
list of its 16-bit units. A `const char *` is read up to its first NUL,
which is what `cstr` says; a C string that really came from C has none.

`str_hash` is compiled with the `unsigned long` and the `char` of the
target, so both are a parameter (`Abi`): 64 bits on 64-bit Unix, 32 bits on
Windows, signed `char` on x86 and unsigned on ARM Linux.
-/
import Mathlib.Data.BitVec
import EzDotnet.Lib.FsPath

namespace EzDotnet

abbrev Byte := BitVec 8

/-- `std::string`. -/
abbrev Str := List Byte

/-- An ASCII string literal of the source. -/
def lit (s : String) : Str := s.toList.map fun c => BitVec.ofNat 8 c.toNat

def slash : Byte := 0x2f#8

def backslash : Byte := 0x5c#8

/-- What a C function sees of a buffer: the bytes before the first NUL. -/
def cstr (s : Str) : Str := s.takeWhile (· ≠ 0#8)

theorem cstr_append_of_notMem {a b : Str} (ha : 0#8 ∉ a) : cstr (a ++ b) = a ++ cstr b := by
  unfold cstr
  rw [List.takeWhile_append_of_pos]
  intro c hc
  simp only [ne_eq, decide_eq_true_eq]
  rintro rfl
  exact ha hc

theorem cstr_eq_self {a : Str} (ha : 0#8 ∉ a) : cstr a = a := by
  simpa [cstr] using cstr_append_of_notMem (b := []) ha

theorem notMem_cstr (a : Str) : 0#8 ∉ cstr a := by
  intro h
  simpa using List.mem_takeWhile_imp h

/-- The properties of the target that the hosts' integers depend on. -/
structure Abi where
  /-- width of `unsigned long` -/
  longBits : Nat
  charSigned : Bool
  /-- `sizeof(char *)` -/
  ptrBytes : Nat

/-- x86-64 Linux. -/
def linux64 : Abi := ⟨64, true, 8⟩

/-- x86-64 Windows, where `unsigned long` has 32 bits. -/
def win64 : Abi := ⟨32, true, 8⟩

/-! ## `str_conv` -/

/-- Element by element, with the implicit integer conversion: a narrower
target truncates, a wider one extends the sign of the `char`. -/
def strConv {w : Nat} (v : Nat) (str : List (BitVec w)) : List (BitVec v) :=
  str.map (·.signExtend v)

/-! ## `to_native_path` -/

inductive Os where
  | unix
  | windows
  deriving DecidableEq, Repr

/-- `to_native_path` of `common_unix.cpp` and, for a process that does not
run inside Cygwin, of `common_win32.cpp`. -/
def toNativePath : Os → Str → Str
  | .unix, path => path
  | .windows, path => path.map fun c => if c = slash then backslash else c

/-! ## `str_hash` -/

/-- `ASMHANDLE` is `size_t`. -/
abbrev AsmHandle := Nat

/-- `NULL_ASMHANDLE`. -/
def nullAsmHandle : AsmHandle := 0

/-- The value `c` of the loop: a `char` promoted to `int` and added to an
`unsigned long`. -/
def charValue (abi : Abi) (c : Byte) : BitVec abi.longBits :=
  if abi.charSigned then c.signExtend abi.longBits else c.setWidth abi.longBits

/-- The loop of `str_hash`; the NUL that ends it is the first zero byte. -/
def strHashLoop (abi : Abi) : BitVec abi.longBits → Str → BitVec abi.longBits
  | hash, [] => hash
  | hash, c :: str =>
    if c = 0#8 then hash
    else strHashLoop abi (((hash <<< 5) + hash) + charValue abi c) str

def strHash (abi : Abi) (str : Str) : AsmHandle :=
  (strHashLoop abi (BitVec.ofNat abi.longBits 5381) str).toNat

/-! ## `std::filesystem::path` -/

/-- POSIX path syntax over bytes. -/
def posix : Lib.PathSyntax Byte := ⟨slash, 0x2e#8⟩

example : posix.parentPath (lit "dir/N.dll") = lit "dir" := by decide

example : posix.stem (lit "dir/N.tar.dll") = lit "N.tar" := by decide

end EzDotnet
