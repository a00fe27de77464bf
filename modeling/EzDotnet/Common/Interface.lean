/-
EzDotnet.Common.Interface — the C interface that the four backends share:
`clrInit`, `clrDeInit` and `runMethod`.

What the runtime underneath a backend does during one call is not
decided by the code; it is part of the input of that call (`ι`, `δ` and
`ρ` below, one type for each function). A backend is then a deterministic
machine over `ApiCall`s, and a run is a list of them: any paths, any handle
values, any outcome of every external step, in any order.

Besides its return value a call reports the external calls it made, in
order (`calls`): which contexts are closed (`CoreCLR.ClosesOwnContexts`), how
often a runtime is brought up (`MonoCoreClr.OneRuntime`), and in which order it
is spoken to (`Lib.Protocol`) are properties of these.
-/
import EzDotnet.Common.Strings
import EzDotnet.Lib.Registry

namespace EzDotnet

/-- A machine address: a function pointer, an object of a runtime, an
array of arguments. -/
abbrev Addr := Nat

/-- A pointer member that no constructor sets: it holds nothing defined
(`unset`) until it is written, and then `nullptr` or an address. -/
inductive Slot (α : Type) where
  | unset
  | null
  | ptr (a : α)
  deriving DecidableEq, Repr

/-- What a call that fills an out parameter leaves in it. -/
def Slot.ofOption {α : Type} : Option α → Slot α
  | some a => .ptr a
  | none => .null

@[simp] theorem Slot.ofOption_eq_null {α : Type} {o : Option α} :
    Slot.ofOption o = .null ↔ o = none := by
  cases o <;> simp [Slot.ofOption]

/-- The address in a pointer that holds one. -/
def Slot.get? {α : Type} : Slot α → Option α
  | .ptr a => some a
  | _ => none

@[simp] theorem Slot.get?_eq_some {α : Type} {v : Slot α} {a : α} :
    v.get? = some a ↔ v = .ptr a := by
  cases v <;> simp [Slot.get?]

/-- How a call ends: it returns, an exception leaves it, or it runs into
undefined behaviour. -/
inductive Ret (α : Type) where
  | value (a : α)
  | throws
  | undefined
  deriving DecidableEq, Repr

/-- The caller goes on with a value, and no further without one. -/
def Ret.map {α β : Type} (f : α → β) : Ret α → Ret β
  | .value a => .value (f a)
  | .throws => .throws
  | .undefined => .undefined

@[simp] theorem Ret.map_eq_value {α β : Type} {f : α → β} {r : Ret α} {b : β} :
    r.map f = .value b ↔ ∃ a, r = .value a ∧ f a = b := by
  cases r <;> simp [Ret.map]

@[simp] theorem Ret.map_map {α β γ : Type} (f : α → β) (g : β → γ) (r : Ret α) :
    (r.map f).map g = r.map fun a => g (f a) := by
  cases r <;> rfl

/-- The end of a call: the state it leaves, how it ends, and the external
calls it made. -/
structure Result (σ α ε : Type) where
  state : σ
  ret : Ret α
  calls : List ε

/-- The last two parameters of `runMethod`. -/
structure Argv where
  argc : BitVec 32
  argv : Addr
  deriving DecidableEq, Repr

/-- `int argsSizeInBytes = argc * sizeof(char *)`: a product in `size_t`,
narrowed to `int`. -/
def Argv.sizeInBytes (abi : Abi) (a : Argv) : BitVec 32 :=
  (a.argc.signExtend (8 * abi.ptrBytes) * BitVec.ofNat (8 * abi.ptrBytes) abi.ptrBytes).setWidth 32

/-- One call of the interface, with what the outside world does in it. -/
inductive ApiCall (ι δ ρ : Type) where
  | clrInit (assemblyPath pluginFolder : Str) (env : ι)
  | clrDeInit (handle : AsmHandle) (env : δ)
  | runMethod (handle : AsmHandle) (typeName methodName : Str) (args : Argv) (env : ρ)

/-- The path a call wants loaded. -/
def ApiCall.path? {ι δ ρ : Type} : ApiCall ι δ ρ → Option Str
  | .clrInit p _ _ => some p
  | _ => none

inductive Reply where
  | clrInit (r : Ret AsmHandle)
  | clrDeInit (r : Ret Bool)
  | runMethod (r : Ret Int)
  deriving DecidableEq, Repr

/-- A backend: the state behind the interface, the map from handles to
loaded assemblies in it, the handle that belongs to a path, and the three
functions. -/
structure Backend (σ η ι δ ρ ε : Type) where
  start : σ
  registry : σ → Std.ExtTreeMap AsmHandle η
  key : Str → AsmHandle
  clrInit : σ → Str → Str → ι → Result σ AsmHandle ε
  clrDeInit : σ → AsmHandle → δ → Result σ Bool ε
  runMethod : σ → AsmHandle → Str → Str → Argv → ρ → Result σ Int ε

namespace Backend

variable {σ η ι δ ρ ε : Type} (B : Backend σ η ι δ ρ ε)

def registered (s : σ) (h : AsmHandle) : Prop := h ∈ B.registry s

instance (s : σ) (h : AsmHandle) : Decidable (B.registered s h) :=
  inferInstanceAs (Decidable (h ∈ B.registry s))

def step (s : σ) : ApiCall ι δ ρ → σ × Reply × List ε
  | .clrInit p d env =>
    let r := B.clrInit s p d env
    (r.state, .clrInit r.ret, r.calls)
  | .clrDeInit h env =>
    let r := B.clrDeInit s h env
    (r.state, .clrDeInit r.ret, r.calls)
  | .runMethod h ty me a env =>
    let r := B.runMethod s h ty me a env
    (r.state, .runMethod r.ret, r.calls)

def machine : Lib.Machine σ (ApiCall ι δ ρ) (Reply × List ε) := ⟨B.start, B.step⟩

/-- The state after a list of calls, from a process that has made none. -/
def run (calls : List (ApiCall ι δ ρ)) : σ := B.machine.exec B.start calls

@[simp] theorem next_clrInit (s : σ) (p d : Str) (env : ι) :
    B.machine.next s (.clrInit p d env) = (B.clrInit s p d env).state := rfl

@[simp] theorem next_runMethod (s : σ) (h : AsmHandle) (ty me : Str) (a : Argv) (env : ρ) :
    B.machine.next s (.runMethod h ty me a env) = (B.runMethod s h ty me a env).state := rfl

end Backend

end EzDotnet
