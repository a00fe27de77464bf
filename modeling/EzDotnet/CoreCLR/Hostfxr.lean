/-
EzDotnet.CoreCLR.Hostfxr — how the CoreCLR backend finds, loads and
initialises hostfxr: `getHostFxrPath`, `loadAndInitHostFxr` and
`initHostFxr` of `dotnetcore.cpp`.

nethost and hostfxr are not part of the repository. What they do during
one `clrInit` is an `InitEnv`: which libraries open, which symbols they
export, what `get_hostfxr_path` reports, which context handle the
initializer writes and which delegate `hostfxr_get_runtime_delegate`
writes. Every combination is a value of this type. A static nethost
(`NETHOST_STATIC`) is the case in which its library and symbol are found.

The backend is modelled as built for Unix: `char_t` is `char`, paths are
POSIX paths and `to_native_path` is the identity. `getHostFxrPath` and
`toNativeFxPath` keep the width of `char_t` as a parameter, because their
conversions between `char_t` and `char` depend on it. The code under
`#if false` and the two paths only it uses are left out.
-/
import EzDotnet.Common.Interface

namespace EzDotnet.CoreCLR

/-- `fx_string`, with the 8-bit `char_t` of Unix. -/
abbrev FxStr := List (BitVec 8)

/-- A `hostfxr_handle` that is not null. -/
abbrev HostContext := Addr

/-- `to_native_fx_path`. -/
def toNativeFxPath {w : Nat} (os : Os) (fxPath : List (BitVec w)) : List (BitVec w) :=
  let path : Str := strConv 8 fxPath
  let nativePath := toNativePath os path
  strConv w nativePath

/-- What the initializer is given: `argv`, and the `host_path` and
`dotnet_root` of its parameters. -/
structure InitializerArgs where
  argv : List FxStr
  hostPath : FxStr
  dotnetRoot : Option FxStr
  deriving DecidableEq, Repr

/-! ## External calls and their outcomes -/

/-- The calls the backend makes into the loader, nethost and hostfxr, with what
came of them. -/
inductive HostCall where
  | openLibrary (path : Str) (opened : Bool)
  /-- `none` for the call with a null buffer, else the buffer's size; and the
  path, if the call reported one, as the string that is made of it -/
  | getHostfxrPath (bufferSize : Option Nat) (reported : Option Str)
  | initializer (args : InitializerArgs) (written : Option HostContext)
  | getDelegate (context : HostContext) (written : Option Addr)
  | close (context : Slot HostContext)
  | loadAssembly (delegate : Addr) (typeName methodName : FxStr)
  | entry (pfnEntry : Addr) (args : Addr) (sizeBytes : BitVec 32)
  deriving DecidableEq, Repr

/-- nethost, for a `char_t` of width `w`. -/
structure NethostEnv (w : Nat) where
  opens : Str → Bool
  /-- `get_hostfxr_path` is exported -/
  hasSymbol : Bool
  /-- the call with a null buffer: its result and the size it stores -/
  pathSize : Int × Nat
  /-- the call with a buffer: its result and the buffer after it -/
  path : List (BitVec w) → Int × List (BitVec w)

/-- hostfxr. -/
structure HostfxrEnv where
  opens : Str → Bool
  symbol : Str → Option Addr
  /-- what the initializer leaves in `runtimeHandle` -/
  initializer : InitializerArgs → Option HostContext
  /-- what `hostfxr_get_runtime_delegate` leaves in `pfnLoadAssembly` -/
  getDelegate : HostContext → Option Addr

structure InitEnv where
  nethost : NethostEnv 8
  hostfxr : HostfxrEnv

/-! ## `dotnet_ctx` -/

/-- `struct dotnet_ctx`. `dotnet_ctx ctx;` sets none of its pointers. -/
structure DotnetCtx where
  runtimeHandle : Slot HostContext := .unset
  pfnClose : Slot Addr := .unset
  pfnInitializer : Slot Addr := .unset
  pfnGetRuntimeProperty : Slot Addr := .unset
  pfnSetRuntimeProperty : Slot Addr := .unset
  pfnGetDelegate : Slot Addr := .unset
  pfnLoadAssembly : Slot Addr := .unset
  hostfxrPath : Str
  hostPath : FxStr
  dotnetRoot : Option FxStr
  asmBase : FxStr
  asmPath : FxStr
  deriving DecidableEq, Repr

/-! ## `initHostFxr` -/

def initializerArgs (ctx : DotnetCtx) : InitializerArgs where
  argv := [toNativeFxPath .unix ctx.asmPath]
  hostPath := ctx.hostPath
  dotnetRoot := ctx.dotnetRoot

/-- `initHostFxr`. The context handle stays in the local `runtimeHandle`;
only `pfnLoadAssembly` is stored. -/
def initHostFxr (env : HostfxrEnv) (ctx : DotnetCtx) : Int × DotnetCtx × List HostCall :=
  let args := initializerArgs ctx
  match env.initializer args with
  | none => (-1, ctx, [.initializer args none])
  | some runtimeHandle =>
    match env.getDelegate runtimeHandle with
    | none =>
      (-2, ctx, [.initializer args (some runtimeHandle), .getDelegate runtimeHandle none])
    | some pfnLoadAssembly =>
      (0, { ctx with pfnLoadAssembly := .ptr pfnLoadAssembly },
        [.initializer args (some runtimeHandle),
          .getDelegate runtimeHandle (some pfnLoadAssembly)])

/-! ## `loadAndInitHostFxr` -/

/-- The five `LIB_GETSYM` assignments. -/
def resolveSymbols (env : HostfxrEnv) (ctx : DotnetCtx) : DotnetCtx :=
  let sym := fun name => Slot.ofOption (env.symbol (lit name))
  { ctx with
    pfnInitializer := sym "hostfxr_initialize_for_dotnet_command_line"
    pfnGetRuntimeProperty := sym "hostfxr_get_runtime_property_value"
    pfnSetRuntimeProperty := sym "hostfxr_set_runtime_property_value"
    pfnGetDelegate := sym "hostfxr_get_runtime_delegate"
    pfnClose := sym "hostfxr_close" }

def loadAndInitHostFxr (env : HostfxrEnv) (ctx : DotnetCtx) :
    Int × DotnetCtx × List HostCall :=
  let path := cstr ctx.hostfxrPath
  if env.opens path = false then (-1, ctx, [.openLibrary path false])
  else
    let ctx := resolveSymbols env ctx
    if ctx.pfnInitializer = .null ∨ ctx.pfnGetDelegate = .null ∨ ctx.pfnClose = .null then
      (-2, ctx, [.openLibrary path true])
    else
      -- the result of `initHostFxr` is dropped
      let (_, ctx, calls) := initHostFxr env ctx
      (0, ctx, .openLibrary path true :: calls)

/-! ## `getHostFxrPath` -/

/-- `FX_LIBRARY_NAME("nethost")`. -/
def nethostName : Str := lit "libnethost.so"

/-- `getHostFxrPath`: an error number or the path. -/
def getHostFxrPath {w : Nat} (env : NethostEnv w) (baseDir : Str) :
    Except Int Str × List HostCall :=
  let nethostPath := toNativePath .unix (posix.join baseDir nethostName)
  if env.opens nethostPath = false then (.error (-1), [.openLibrary nethostPath false])
  else
    let opened : List HostCall := [.openLibrary nethostPath true]
    if env.hasSymbol = false then (.error (-2), opened)
    else
      let hostfxrPathsz := env.pathSize.2
      let sized := opened ++ [.getHostfxrPath none none]
      if env.pathSize.1 = 0 ∨ hostfxrPathsz = 0 then (.error (-3), sized)
      else
        let filled := env.path (List.replicate hostfxrPathsz 0#w)
        if filled.1 ≠ 0 then (.error (-3), sized ++ [.getHostfxrPath (some hostfxrPathsz) none])
        else
          let path := strConv 8 filled.2
          (.ok path, sized ++ [.getHostfxrPath (some hostfxrPathsz) (some path)])

end EzDotnet.CoreCLR
