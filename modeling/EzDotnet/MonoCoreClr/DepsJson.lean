/-
EzDotnet.MonoCoreClr.DepsJson — `build_tpa_list` of `MonoCoreClr/host.cpp`:
from a deps document to the name of the main assembly and the list of
trusted platform assemblies.

The function body is one `do { … } while(false)` whose `break`s return what
has been found so far; `buildTpaList` has the same statements in the same
order. It can fail in two ways (`Fault`): a conversion of a value that is no
string to `std::string` throws, and `project_node->first` is read before it
is known that there is a project.

The separator of the list and the path functions depend on the platform and
are a parameter.
-/
import EzDotnet.MonoCoreClr.Json

namespace EzDotnet.MonoCoreClr

/-- What `build_tpa_list` uses of the platform. -/
structure Platform where
  tpaSeparator : Byte
  parentPath : Str → Str
  /-- `path::operator/` -/
  join : Str → Str → Str

/-- A Unix build. -/
def unix : Platform := ⟨0x3a#8, posix.parentPath, posix.join⟩

@[simp] theorem unix_parentPath (p : Str) : unix.parentPath p = posix.parentPath p := rfl

@[simp] theorem unix_join (p q : Str) : unix.join p q = posix.join p q := rfl

inductive Fault where
  /-- `nlohmann::json::type_error` -/
  | typeError
  /-- `operator->` of an empty `std::optional`: undefined behaviour -/
  | emptyOptional
  deriving DecidableEq, Repr

/-! ## `json_get_opt` -/

/-- Conversion to `nlohmann::json`. -/
def asJson (j : Json) : Except Fault Json := .ok j

/-- Conversion to `std::string`. -/
def asString : Json → Except Fault Str
  | .string s => .ok s
  | _ => .error .typeError

/-- `json_get_opt<T>`, with the conversion to `T`. -/
def jsonGetOpt {α : Type} (conv : Json → Except Fault α) (j : Json) (key : Str) :
    Except Fault (Option α) :=
  match j.get? key with
  | some v => (conv v).map some
  | none => .ok none

/-! ## `tpa_append` -/

/-- The variables that `tpa_append` captures. -/
structure Tpa where
  tpa_first : Bool := true
  tpa : Str := []
  deriving DecidableEq, Repr

def Tpa.append (pl : Platform) (t : Tpa) (itm : Str) : Tpa :=
  if t.tpa_first then ⟨false, t.tpa ++ itm⟩
  else ⟨false, t.tpa ++ [pl.tpaSeparator] ++ itm⟩

/-- `std::tolower` in the "C" locale. -/
def tolower (c : Byte) : Byte := if 0x41#8 ≤ c ∧ c ≤ 0x5a#8 then c + 0x20#8 else c

/-- `util::lowercase`. -/
def lowercase (s : Str) : Str := s.map tolower

/-- `lowercase(lib_name).ends_with(".dll")`. -/
def IsDll (libName : Str) : Prop := lit ".dll" <:+ lowercase libName

instance (libName : Str) : Decidable (IsDll libName) :=
  inferInstanceAs (Decidable (_ <:+ _))

/-- The loop over the items of a `runtime` or `native` section. -/
def appendDlls (pl : Platform) (depsDir : Str) (t : Tpa) (libs : Json) : Tpa :=
  libs.items.foldl
    (fun t lib => if IsDll lib.1 then t.append pl (pl.join depsDir lib.1) else t) t

/-! ## `build_tpa_list` -/

/-- `struct ctx`. -/
structure Ctx where
  main_asm_name : Str := []
  main_asm_fqdn : Str := []
  tpa_list : Str := []
  deriving DecidableEq, Repr

/-- The search for a library of type `project`. -/
def findProject : List (Str × Json) → Except Fault (Option (Str × Json))
  | [] => .ok none
  | (libName, libItem) :: rest => do
    match ← jsonGetOpt asString libItem (lit "type") with
    | none => findProject rest
    | some libType =>
      if libType = lit "project" then return some (libName, libItem) else findProject rest

/-- `ssprintf("%s, Version=%s", …)`, for a result of less than 2^31 - 1 bytes:
`ssprintf` keeps the length in an `int` and asserts that it has one. -/
def fqdn (name version : Str) : Str := cstr name ++ lit ", Version=" ++ cstr version

/-- `ssprintf("%s/%s", …)`, with the bound of `fqdn`. -/
def itemKey (name version : Str) : Str := cstr name ++ [slash] ++ cstr version

/-- One turn of the loop over the dependencies of the project. -/
def addDependency (pl : Platform) (depsDir : Str) (frameworkTarget : Json) (t : Tpa)
    (itm : Str × Json) : Except Fault Tpa := do
  let itemVersion ← asString itm.2
  let some targetItem ← jsonGetOpt asJson frameworkTarget (itemKey itm.1 itemVersion)
    | return t
  let targetRuntime ← jsonGetOpt asJson targetItem (lit "runtime")
  let targetNative ← jsonGetOpt asJson targetItem (lit "native")
  let t := match targetRuntime with
    | some libs => appendDlls pl depsDir t libs
    | none => t
  let t := match targetNative with
    | some libs => appendDlls pl depsDir t libs
    | none => t
  return t

/-- The assemblies of the project and those of its dependencies. -/
def listAssets (pl : Platform) (depsDir : Str) (frameworkTarget projectTarget : Json) :
    Except Fault Str := do
  let some projectRt ← jsonGetOpt asJson projectTarget (lit "runtime") | return []
  let t := appendDlls pl depsDir {} projectRt
  let some projectDeps ← jsonGetOpt asJson projectTarget (lit "dependencies") | return t.tpa
  let t ← projectDeps.items.foldlM (addDependency pl depsDir frameworkTarget) t
  return t.tpa

/-- What follows once the project is known. -/
def listProject (pl : Platform) (depsDir : Str) (frameworkTarget : Json) (project : Str) :
    Except Fault Ctx := do
  let some projectTarget ← jsonGetOpt asJson frameworkTarget project
    | return { main_asm_name := project }
  if slash ∈ project then
    let name := project.takeWhile (· ≠ slash)
    let version := (project.dropWhile (· ≠ slash)).tail
    let tpa ← listAssets pl depsDir frameworkTarget projectTarget
    return ⟨project, fqdn name version, tpa⟩
  -- no version specifier
  else return { main_asm_name := project }

/-- `build_tpa_list`. -/
def buildTpaList (pl : Platform) (depsFile : Str) (deps : Json) : Except Fault Ctx := do
  let depsDir := pl.parentPath depsFile
  let some runtimeTarget ← jsonGetOpt asJson deps (lit "runtimeTarget") | return {}
  let some runtimeTargetName ← jsonGetOpt asString runtimeTarget (lit "name") | return {}
  let some allTargets ← jsonGetOpt asJson deps (lit "targets") | return {}
  let some frameworkTarget ← jsonGetOpt asJson allTargets runtimeTargetName | return {}
  let some libraries ← jsonGetOpt asJson deps (lit "libraries") | return {}
  match ← findProject libraries.items with
  -- `project_node->first` is read before `has_value` is checked
  | none => throw .emptyOptional
  | some (project, _) => listProject pl depsDir frameworkTarget project

end EzDotnet.MonoCoreClr
