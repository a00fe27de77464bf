/-
EzDotnet.Cli.Ezdotnet — the command line driver `samples/cli/ezdotnet.c`:
`go` and `main`.

What a run meets outside the driver is `Env`: the libraries that can be
opened, the current directory, and what the two functions of a library do.
The functions of a library are those of a backend (`Library.ofBackend`) or
of anything else that exports the two names.

The driver prints to `stdout` and `stderr`; nothing of that is read back,
so an outcome is the exit status and the calls into the library.
-/
import EzDotnet.Common.Interface

namespace EzDotnet.Cli

/-! ## The arguments -/

/-- The parameters of `main`: `argc` is an `int` that counts the strings. -/
structure Args where
  argv : List Str
  /-- where the array of pointers starts -/
  addr : Addr
  fits : argv.length < 2 ^ 31

def Args.argc (args : Args) : Nat := args.argv.length

/-- What `main` reads out of its arguments. -/
structure Command where
  loaderPath : Str
  asmPath : Str
  className : Str
  methodName : Str
  /-- `mod_argc` and `mod_argv` -/
  modArgs : Argv
  deriving DecidableEq, Repr

/-- `argv[1]` to `argv[4]`, and the rest of the array; `none` for
`argc < 5`. -/
def Args.command (abi : Abi) (args : Args) : Option Command :=
  match args.argv with
  | _ :: loaderPath :: asmPath :: className :: methodName :: _ =>
    some ⟨loaderPath, asmPath, className, methodName,
      ⟨BitVec.ofNat 32 (args.argc - 5), args.addr + 5 * abi.ptrBytes⟩⟩
  | _ => none

theorem Args.command_eq_none_iff {abi : Abi} {args : Args} :
    args.command abi = none ↔ args.argc < 5 := by
  unfold Args.command Args.argc
  split
  · next heq => simp [heq]
  · next hno =>
    refine ⟨fun _ => ?_, fun _ => rfl⟩
    by_contra hlen
    match hargv : args.argv with
    | [] | [_] | [_, _] | [_, _, _] | [_, _, _, _] => simp [hargv] at hlen
    | a :: b :: c :: d :: e :: rest => exact hno a b c d e rest hargv

/-! ## The library and the system -/

/-- `clrInitFunc`; the buffer is `none` when it holds nothing defined. -/
abbrev ClrInitFunc (σ : Type) := Str → Option Str → BitVec 32 → σ × Ret AsmHandle

/-- `runMethodFunc`, in the state that `clrInit` left. -/
abbrev RunMethodFunc (σ : Type) := σ → AsmHandle → Str → Str → Argv → Ret Int

/-- The two names `go` looks up in a library it opened. -/
structure Library (σ : Type) where
  clrInit : Option (ClrInitFunc σ)
  runMethod : Option (RunMethodFunc σ)

structure Env (σ : Type) where
  abi : Abi
  /-- the build's `DEBUG_MODE` -/
  debugMode : BitVec 32
  /-- `to_windows_path` in a Cygwin build, the path itself in any other -/
  finalLoaderPath : Str → Str
  /-- `LIB_OPEN`: `LoadLibraryA`, or `dlopen` with `RTLD_NOW | RTLD_GLOBAL` -/
  libOpen : Str → Option (Library σ)
  /-- the current directory, when the system can tell it -/
  cwd : Option Str

/-- `GET_PWD(buf, size)`: the directory is stored when it fits with its
NUL, and `buf` holds nothing defined when it does not. -/
def getPwd (cwd : Option Str) (size : Nat) : Option Str :=
  match cwd with
  | some dir => if dir.length + 1 ≤ size then some dir else none
  | none => none

/-- A call into the library. -/
inductive Call where
  | clrInit (asmPath : Str) (buf : Option Str) (debugMode : BitVec 32)
  | runMethod (handle : AsmHandle) (className methodName : Str) (args : Argv)
  deriving DecidableEq, Repr

structure Outcome where
  status : Ret Int
  calls : List Call
  deriving DecidableEq, Repr

/-! ## `go` and `main` -/

/-- `sizeof(buf)`. -/
def bufSize : Nat := 255

variable {σ : Type}

def go (env : Env σ) (cmd : Command) : Outcome :=
  match env.libOpen (env.finalLoaderPath cmd.loaderPath) with
  | none => ⟨.value (-1), []⟩
  | some hmod =>
    match hmod.clrInit with
    | none => ⟨.value (-1), []⟩
    | some clrInit =>
      match hmod.runMethod with
      | none => ⟨.value (-1), []⟩
      | some runMethod =>
        -- the result of `GET_PWD` is not looked at
        let buf := getPwd env.cwd bufSize
        let init := Call.clrInit cmd.asmPath buf env.debugMode
        match clrInit cmd.asmPath buf env.debugMode with
        | (s, .value handle) =>
          -- neither is the handle, nor what `runMethod` returns
          ⟨(runMethod s handle cmd.className cmd.methodName cmd.modArgs).map fun _ => 0,
            [init, .runMethod handle cmd.className cmd.methodName cmd.modArgs]⟩
        | (_, .throws) => ⟨.throws, [init]⟩
        | (_, .undefined) => ⟨.undefined, [init]⟩

/-- `MAIN_METHOD_NAME`. -/
def main (env : Env σ) (args : Args) : Outcome :=
  match args.command env.abi with
  | none => ⟨.value 1, []⟩
  | some cmd =>
    let r := go env cmd
    ⟨r.status.map fun rc => if rc < 0 then 1 else 0, r.calls⟩

/-! ## A backend as the library -/

section OfBackend

variable {η ι δ ρ ε : Type} (B : Backend σ η ι δ ρ ε)

/-- The exported `clrInit` in a process that has not called it before;
`init` is what happens in the call, and `undefinedDir` what a directory
buffer holds that was not filled. -/
def clrInitOf (undefinedDir : Str) (init : ι) : ClrInitFunc σ :=
  fun asmPath buf _ =>
    let r := B.clrInit B.start asmPath (buf.getD undefinedDir) init
    (r.state, r.ret)

def runMethodOf (call : ρ) : RunMethodFunc σ :=
  fun s handle typeName methodName args =>
    (B.runMethod s handle typeName methodName args call).ret

/-- A backend as a library of the driver. -/
def Library.ofBackend (undefinedDir : Str) (init : ι) (call : ρ) : Library σ where
  clrInit := some (clrInitOf B undefinedDir init)
  runMethod := some (runMethodOf B call)

end OfBackend

end EzDotnet.Cli
