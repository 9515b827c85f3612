import Mathlib.Data.List.Lex
import Mathlib.Data.List.Sort
import SubstrateDevTemplate.Support.Script

/-!
# Support — Objects

JavaScript objects as they are enumerated: a list of entries in the order of enumeration, no two
under one key.  `get` reads an entry, and `Js.sort` sorts keys as `sort()` does, by their UTF-16
code units.

Nothing here mentions a particular object.
-/

namespace Js

/-! ### Objects -/

/-- The enumerable properties of an object, in the order they are enumerated in. -/
structure Object (α : Type*) where
  entries : List (String × α)
  distinct : (entries.map Prod.fst).Nodup

namespace Object
variable {α β : Type*}

/-- `Object.keys(o)`. -/
def keys (o : Object α) : List String := o.entries.map Prod.fst

/-- `o[key]`, of an enumerable property. -/
def get (o : Object α) (key : String) : Option α := o.entries.lookup key

/-- An entry is found under its key, since no other has it. -/
theorem get_eq_some {o : Object α} {key : String} {value : α} :
    o.get key = some value ↔ (key, value) ∈ o.entries := by
  obtain ⟨entries, hdistinct⟩ := o
  simp only [get]
  induction entries with
  | nil => simp
  | cons entry entries ih =>
      obtain ⟨key', value'⟩ := entry
      rw [List.map_cons, List.nodup_cons] at hdistinct
      rw [List.lookup_cons, List.mem_cons]
      by_cases hkey : key = key'
      · subst hkey
        simp only [beq_self_eq_true, Option.some.injEq, Prod.mk.injEq, true_and]
        refine ⟨fun h => .inl h.symm, fun h => h.elim Eq.symm fun hmem => ?_⟩
        exact absurd (List.mem_map_of_mem (f := Prod.fst) hmem) hdistinct.1
      · rw [beq_false_of_ne hkey, ih hdistinct.2, Prod.mk.injEq]
        exact (or_iff_right fun h => hkey h.1).symm

theorem mem_keys {o : Object α} {key : String} :
    key ∈ o.keys ↔ ∃ value, o.get key = some value := by
  simp only [keys, List.mem_map, get_eq_some]
  constructor
  · rintro ⟨⟨key', value⟩, hmem, rfl⟩
    exact ⟨value, hmem⟩
  · rintro ⟨value, hmem⟩
    exact ⟨(key, value), hmem, rfl⟩

end Object

/-! ### Sorting -/

/-- The UTF-16 code units of a character. -/
def units (c : Char) : List Nat :=
  if c.toNat < 0x10000 then [c.toNat]
  else [0xD800 + (c.toNat - 0x10000) / 0x400, 0xDC00 + (c.toNat - 0x10000) % 0x400]

/-- The UTF-16 code units of a string. -/
def codeUnits (s : String) : List Nat := s.toList.flatMap units

/-- The order `sort()` puts strings in. -/
def SortsBefore (s t : String) : Prop := codeUnits s ≤ codeUnits t

instance : DecidableRel SortsBefore := fun s t =>
  inferInstanceAs (Decidable (codeUnits s ≤ codeUnits t))

instance : Std.Total SortsBefore := ⟨fun s t => le_total (codeUnits s) (codeUnits t)⟩

instance : IsTrans String SortsBefore := ⟨fun _ _ _ => le_trans⟩

/-- `keys.sort()`. -/
def sort (keys : List String) : List String := keys.insertionSort SortsBefore

theorem sort_perm (keys : List String) : (sort keys).Perm keys := List.perm_insertionSort _ _

theorem sort_sorted (keys : List String) : (sort keys).Pairwise SortsBefore :=
  List.pairwise_insertionSort _ _

example : sort ["system", "balances", "Zeta"] = ["Zeta", "balances", "system"] := by decide

end Js
