/-
EzDotnet.MonoCoreClr.Host — the backend for .NET Core's Mono
(`MonoCoreClr/host.cpp`), built for Unix.

The runtime is not part of the repository. What it and the file system do
during one `clrInit` is an `InitEnv`: the state of every deps file, whether
the JIT comes up, which names parse, which assemblies load and which images
they have. `monovm_initialize` has a result that the code does not look at.

A deps file that does not parse leaves in `deps` whatever the parser had
built, and a number that is out of range is an exception of another class
than the one the code catches.
-/
import EzDotnet.Common.Interface
import EzDotnet.MonoCoreClr.DepsJson

namespace EzDotnet.MonoCoreClr

open Std (ExtTreeMap)

abbrev Assembly := Addr

abbrev Image := Addr

abbrev MonoClass := Addr

abbrev Method := Addr

/-- The state of a deps file. -/
inductive DepsFile where
  | missing
  | parseError (left : Json)
  | numberOverflow
  | json (deps : Json)

structure InitEnv where
  depsFile : Str → DepsFile
  /-- `mono_jit_init_version` returns a domain -/
  jitInit : Bool
  /-- `mono_assembly_name_new` accepts the name -/
  nameParses : Str → Bool
  /-- `mono_assembly_load_full` returns an assembly and `MONO_IMAGE_OK` -/
  loadFull : Str → Option Assembly
  image : Assembly → Option Image

structure RunEnv where
  classFromName : Image → Str → Str → Option MonoClass
  /-- the method of this name with so many parameters -/
  methodFromName : MonoClass → Str → Nat → Option Method
  /-- what `mono_runtime_invoke` leaves in `exception` -/
  exception : Method → Option Addr

/-- The calls the backend makes into the file system and the runtime. -/
inductive MonoCall where
  | openDeps (path : Str) (opened : Bool)
  | monovmInit (tpaList : Str)
  | jitInit (returned : Bool)
  | loadFull (name : Str) (loaded : Option Assembly)
  | attach
  | invoke (method : Method) (args : Addr) (sizeBytes : BitVec 32)
  deriving DecidableEq, Repr

/-! ## `AsmInstanceData` -/

structure AsmInstanceData where
  m_image : Image
  deriving DecidableEq, Repr

/-- `std::string::substr`; `none` when it throws `out_of_range`. -/
def substr (s : Str) (pos n : Nat) : Option Str :=
  if pos ≤ s.length then some ((s.drop pos).take n) else none

def dot : Byte := 0x2e#8

/-- `find_last_of('.')`, a `size_t`; `npos` when there is none. -/
def findLastDot (abi : Abi) (s : Str) : BitVec (8 * abi.ptrBytes) :=
  match s.reverse.findIdx? (· = dot) with
  | some i => BitVec.ofNat _ (s.length - 1 - i)
  | none => BitVec.allOnes _

/-- An `int` as an argument of type `size_t`. -/
def toSizeT (abi : Abi) (i : BitVec 32) : Nat := (i.signExtend (8 * abi.ptrBytes)).toNat

/-- `type_ns` and `type_cls`. The sum `lastdot + 1` of `int`s must not
overflow, and `substr` throws when it starts behind the end. -/
def splitType (abi : Abi) (typeName : Str) : Ret (Str × Str) :=
  let lastdot : BitVec 32 := (findLastDot abi typeName).setWidth 32
  match substr typeName 0 (toSizeT abi lastdot) with
  | none => .throws
  | some typeNs =>
    if lastdot = 0x7fffffff#32 then .undefined
    else match substr typeName (toSizeT abi (lastdot + 1#32)) typeName.length with
      | none => .throws
      | some typeCls => .value (typeNs, typeCls)

/-- `AsmInstanceData::runMethod`. The thread stays attached. -/
def AsmInstanceData.runMethod (abi : Abi) (data : AsmInstanceData)
    (typeName methodName : Str) (args : Argv) (env : RunEnv) : Ret Int × List MonoCall :=
  match splitType abi typeName with
  | .throws => (.throws, [])
  | .undefined => (.undefined, [])
  | .value (typeNs, typeCls) =>
    match env.classFromName data.m_image (cstr typeNs) (cstr typeCls) with
    | none => (.value (-1), [.attach])
    | some kls =>
      match env.methodFromName kls (cstr methodName) 2 with
      | none => (.value (-1), [.attach])
      | some method =>
        (.value (if (env.exception method).isSome then -1 else 0),
          [.attach, .invoke method args.argv (args.sizeInBytes abi)])

/-! ## `initialize` -/

structure State where
  gAssemblies : ExtTreeMap AsmHandle AsmInstanceData

def start : State := ⟨∅⟩

/-- `is_open` of the stream. -/
def DepsFile.isOpen : DepsFile → Bool
  | .missing => false
  | _ => true

/-- `load_deps_json`; `none` when an exception leaves it. -/
def loadDepsJson : DepsFile → Option Json
  | .missing => none
  | .parseError left => some left
  | .numberOverflow => none
  | .json deps => some deps

/-- `load_asm_by_name`. -/
def loadAsmByName (env : InitEnv) (asmName : Str) : Option Assembly × List MonoCall :=
  if env.nameParses asmName then
    (env.loadFull asmName, [.loadFull asmName (env.loadFull asmName)])
  else (none, [])

def getDepsJsonPath (inputPath : Str) : Str :=
  if (posix.extension inputPath).map tolower = lit ".json" then inputPath
  else posix.join (posix.parentPath inputPath) (posix.stem inputPath) ++ lit ".deps.json"

/-- `initialize`. -/
def initializeAsm (abi : Abi) (s : State) (inputPath : Str) (env : InitEnv) :
    Result State AsmHandle MonoCall :=
  let depsPathStr := getDepsJsonPath inputPath
  let handle := strHash abi depsPathStr
  if handle ∈ s.gAssemblies then ⟨s, .value handle, []⟩
  else
    let file := env.depsFile (cstr depsPathStr)
    let calls : List MonoCall := [.openDeps (cstr depsPathStr) file.isOpen]
    match loadDepsJson file with
    | none => ⟨s, .throws, calls⟩
    | some deps =>
      match buildTpaList unix (cstr depsPathStr) deps with
      | .error .typeError => ⟨s, .throws, calls⟩
      | .error .emptyOptional => ⟨s, .undefined, calls⟩
      | .ok tpaList =>
        let calls := calls ++ [.monovmInit (cstr tpaList.tpa_list), .jitInit env.jitInit]
        if env.jitInit = false then ⟨s, .value nullAsmHandle, calls⟩
        else
          let (assembly, calls') := loadAsmByName env (cstr tpaList.main_asm_fqdn)
          let calls := calls ++ calls'
          match assembly with
          | none => ⟨s, .value nullAsmHandle, calls⟩
          | some assembly =>
            match env.image assembly with
            | none => ⟨s, .value nullAsmHandle, calls⟩
            | some img => ⟨⟨s.gAssemblies.insertIfNew handle ⟨img⟩⟩, .value handle, calls⟩

/-! ## The exported functions -/

def clrInit (abi : Abi) (s : State) (assemblyPath _assemblyDir : Str) (env : InitEnv) :
    Result State AsmHandle MonoCall :=
  initializeAsm abi s (toNativePath .unix assemblyPath) env

/-- `clrDeInit` is not implemented. -/
def clrDeInit (s : State) (_handle : AsmHandle) (_ : Unit) : Result State Bool MonoCall :=
  ⟨s, .value false, []⟩

/-- `runMethod`: `at` throws when the handle is not in the map. -/
def runMethod (abi : Abi) (s : State) (handle : AsmHandle) (typeName methodName : Str)
    (args : Argv) (env : RunEnv) : Result State Int MonoCall :=
  match s.gAssemblies[handle]? with
  | none => ⟨s, .throws, []⟩
  | some data =>
    let (ret, calls) := data.runMethod abi typeName methodName args env
    ⟨s, ret, calls⟩

abbrev Call := ApiCall InitEnv Unit RunEnv

/-- The MonoCoreClr backend. -/
def backend (abi : Abi) : Backend State AsmInstanceData InitEnv Unit RunEnv MonoCall where
  start := start
  registry := State.gAssemblies
  key p := strHash abi (getDepsJsonPath (toNativePath .unix p))
  clrInit := clrInit abi
  clrDeInit := clrDeInit
  runMethod := runMethod abi

example : getDepsJsonPath (lit "dir/N.dll") = lit "dir/N.deps.json" := by decide

example : splitType linux64 (lit "ManagedSample.EntryPoint")
    = .value (lit "ManagedSample", lit "EntryPoint") := by decide

end EzDotnet.MonoCoreClr
