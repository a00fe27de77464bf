/-
EzDotnet.Managed.Program — `ReadArgv` of the managed sample
(`samples/Managed/Sample/Program.cs`): from the pointer and the size that
`Entry` gets to an array of strings.

`Marshal` reads the memory of the process. What is mapped there is a
`Memory`; a read outside of it does not come back. `IntPtr.Size` is
`abi.ptrBytes`: the process has one pointer size.
-/
import EzDotnet.Common.Interface

namespace EzDotnet.Managed

/-- The memory of the process: the pointers and the C strings that can be
read at an address. -/
structure Memory where
  pointer : Addr → Option Addr
  cString : Addr → Option Str

/-- `Marshal.PtrToStringAnsi`: a null reference for the null pointer. -/
def ptrToStringAnsi (mem : Memory) (ptr : Addr) : Option (Option Str) :=
  if ptr = 0 then some none else (mem.cString ptr).map some

/-- The loop of `ReadArgv`, with `n` turns to go. -/
def readLoop (abi : Abi) (mem : Memory) : Nat → Addr → Ret (List (Option Str))
  | 0, _ => .value []
  | n + 1, args =>
    match mem.pointer args with
    | none => .undefined
    | some charPtr =>
      match ptrToStringAnsi mem charPtr with
      | none => .undefined
      | some str => (readLoop abi mem n (args + abi.ptrBytes)).map (str :: ·)

/-- `ReadArgv`. A negative length makes `new string[nargs]` throw. -/
def readArgv (abi : Abi) (mem : Memory) (args : Addr) (sizeBytes : BitVec 32) :
    Ret (List (Option Str)) :=
  let nargs := sizeBytes.toInt.tdiv abi.ptrBytes
  if nargs < 0 then .throws else readLoop abi mem nargs.toNat args

end EzDotnet.Managed
