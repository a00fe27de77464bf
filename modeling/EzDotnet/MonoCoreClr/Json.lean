/-
EzDotnet.MonoCoreClr.Json — JSON values as `nlohmann::json` holds them.

A parsed object is a `std::map`: its members come in ascending order of
their keys, whatever their order in the file, and of two members with one
key the last one counts. `Json` keeps the members as they stand in the file;
`get?` and `items` read them through that map. `contains` is false on a
value that is no object, and iterating a value that is no container visits
that value under an empty key, `null` excepted.

The values of numbers and booleans are never read and are left out.
-/
import EzDotnet.Common.Strings

namespace EzDotnet.MonoCoreClr

open Std (ExtTreeMap)

inductive Json where
  | null
  | boolean
  | number
  | string (s : Str)
  | array (elements : List Json)
  | object (members : List (Str × Json))

namespace Json

/-- The `std::map` of an object. -/
def map (members : List (Str × Json)) : ExtTreeMap Str Json := .ofList members

/-- `at`, where `contains` holds. -/
def get? : Json → Str → Option Json
  | .object members, key => (map members)[key]?
  | _, _ => none

/-- `items`. The keys of an array are its indices. -/
def items : Json → List (Str × Json)
  | .object members => (map members).toList
  | .array elements => elements.zipIdx.map fun x => (lit (toString x.2), x.1)
  | .null => []
  | j => [([], j)]

def IsString (j : Json) : Prop := ∃ s, j = .string s

def IsObject (j : Json) : Prop := ∃ members, j = .object members

/-- A member is an item, and of an object the items are its members. -/
theorem mem_items_iff {j : Json} (h : j.IsObject) {k : Str} {v : Json} :
    (k, v) ∈ j.items ↔ j.get? k = some v := by
  obtain ⟨members, rfl⟩ := h
  exact ExtTreeMap.mem_toList_iff_getElem?_eq_some

theorem mem_items_of_get? {j : Json} {k : Str} {v : Json} (h : j.get? k = some v) :
    (k, v) ∈ j.items := by
  cases j with
  | object members => exact (mem_items_iff ⟨members, rfl⟩).mpr h
  | _ => cases h

theorem mem_of_getElem?_insertMany {t : ExtTreeMap Str Json} {members : List (Str × Json)}
    {k : Str} {v : Json} (h : (t.insertMany members)[k]? = some v) :
    (k, v) ∈ members ∨ t[k]? = some v := by
  induction members generalizing t with
  | nil => exact .inr (by simpa using h)
  | cons x members ih =>
    rw [ExtTreeMap.insertMany_cons] at h
    rcases ih h with hmem | ht
    · exact .inl (List.mem_cons_of_mem _ hmem)
    · rw [ExtTreeMap.getElem?_insert] at ht
      split at ht
      · next hkey =>
        rw [Std.compare_eq_iff_eq] at hkey
        refine .inl (List.mem_cons.mpr (.inl ?_))
        rw [← hkey, ← Option.some.inj ht]
      · exact .inr ht

/-- What `at` returns stands in the file. -/
theorem mem_of_get? {members : List (Str × Json)} {k : Str} {v : Json}
    (h : (Json.object members).get? k = some v) : (k, v) ∈ members := by
  change (ExtTreeMap.ofList members)[k]? = some v at h
  rw [ExtTreeMap.ofList_eq_insertMany_empty] at h
  rcases mem_of_getElem?_insertMany h with hmem | hempty
  · exact hmem
  · rw [ExtTreeMap.getElem?_empty] at hempty
    cases hempty

theorem mem_of_mem_items {members : List (Str × Json)} {x : Str × Json}
    (h : x ∈ (Json.object members).items) : x ∈ members :=
  mem_of_get? ((mem_items_iff ⟨members, rfl⟩).mp h)

/-- The items of an object are in ascending order of their keys. -/
theorem items_ordered {j : Json} (h : j.IsObject) :
    j.items.Pairwise fun a b => compare a.1 b.1 = .lt := by
  obtain ⟨members, rfl⟩ := h
  exact ExtTreeMap.ordered_keys_toList

end Json

/-- Members come in key order, and the last of two counts. -/
example : (Json.object [(lit "b", .null), (lit "a", .number), (lit "b", .boolean)]).items
    = [(lit "a", .number), (lit "b", .boolean)] := rfl

end EzDotnet.MonoCoreClr
