import Mathlib.Data.List.Basic
import Mathlib.Data.List.Infix

/-!
# Support — Script

The JavaScript primitives the modelled code rests on: truthiness of a string that may be
`undefined` or `null`, `||`, the string methods `includes`, `indexOf`, `replace`, `padEnd`,
`repeat` and `toLowerCase`, and sparse arrays.  An absent value (`undefined`, `null`, a hole) is
`none`.
-/

namespace Js

/-! ### Truthiness -/

/-- A string is truthy when it is present and nonempty. -/
def truthy (v : Option String) : Bool := v.getD "" != ""

/-- `v || d`. -/
def or (v : Option String) (d : String) : String := if truthy v then v.getD "" else d

@[simp] theorem truthy_none : truthy none = false := rfl

@[simp] theorem truthy_some (s : String) : truthy (some s) = true ↔ s ≠ "" := by
  simp [truthy]

theorem exists_of_truthy {v : Option String} (h : truthy v = true) :
    ∃ s, v = some s ∧ s ≠ "" := by
  cases v with
  | none => simp at h
  | some s => exact ⟨s, rfl, (truthy_some s).mp h⟩

theorem or_of_truthy {v : Option String} {d : String} (h : truthy v = true) :
    or v d = v.getD "" := by simp [or, h]

theorem or_of_falsy {v : Option String} {d : String} (h : truthy v = false) : or v d = d := by
  simp [or, h]

@[simp] theorem or_some {s d : String} (h : s ≠ "") : or (some s) d = s := by
  simp [or, h]

@[simp] theorem or_self (s : String) : or (some s) s = s := by
  unfold or; split <;> rfl

/-- `v || d`, with `v` already used up, is itself. -/
theorem or_or (v : Option String) (d : String) : or v (or v d) = or v d := by
  unfold or; split <;> rfl

/-- A value that is passed on. -/
inductive Value where
  | undefined
  | bool (b : Bool)
  | string (s : String)
  /-- an array of strings -/
  | array (items : List String)
  deriving DecidableEq

/-! ### Strings, where their characters are edited as lists of characters -/

/-- `s.includes(sub)`. -/
def includes (s sub : String) : Bool := s.toList.tails.any fun t => sub.toList.isPrefixOf t

/-- A string that starts with another includes it. -/
theorem includes_append (pre s : String) : includes (pre ++ s) pre = true := by
  rw [includes, List.any_eq_true]
  refine ⟨pre.toList ++ s.toList, ?_, ?_⟩
  · rw [String.toList_append, List.mem_tails]
  · rw [List.isPrefixOf_iff_prefix]
    exact List.prefix_append ..

/-- `s.startsWith(pre)`. -/
def startsWith (s pre : String) : Bool := pre.toList.isPrefixOf s.toList

/-- `s.toLowerCase()`, of ASCII letters.  Of the other characters only the Kelvin sign lowers to
one, `k`, and the dotted capital I to an `i` with a mark after it; the words looked for contain no
`k`, and no `i` at their end. -/
def toLowerCase (s : String) : String := String.ofList (s.toList.map Char.toLower)

theorem toLowerCase_append (s t : String) :
    toLowerCase (s ++ t) = toLowerCase s ++ toLowerCase t := by
  simp only [toLowerCase, String.toList_append, List.map_append, String.ofList_append]

/-- `s.indexOf(c)` for a character `s` contains. -/
def indexOf (c : Char) (s : List Char) : Nat := s.idxOf c

/-- `s.replace(c, '')`: the first occurrence of `c` goes. -/
def removeFirst (c : Char) (s : List Char) : List Char := s.erase c

/-- `s.padEnd(targetLength, c)`. -/
def padEnd (s : List Char) (targetLength : Nat) (c : Char) : List Char :=
  s ++ List.replicate (targetLength - s.length) c

/-- `c.repeat(n)`. -/
def rep (c : Char) (n : Nat) : List Char := List.replicate n c

/-! ### Sparse arrays -/

/-- `const copy = [...xs]; copy[i] = v`: the array grows to hold index `i`, and the entries in
between are absent. -/
def assign {α : Type*} (xs : List (Option α)) (i : Nat) (v : α) : List (Option α) :=
  if i < xs.length then xs.set i (some v)
  else xs ++ List.replicate (i - xs.length) none ++ [some v]

/-- `xs[i]`, `undefined` outside the array and at a hole. -/
def item {α : Type*} (xs : List (Option α)) (i : Nat) : Option α := (xs[i]?).join

section
variable {α : Type*}

@[simp] theorem item_nil (i : Nat) : item ([] : List (Option α)) i = none := rfl

theorem item_replicate (n i : Nat) (v : α) :
    item (List.replicate n (some v)) i = if i < n then some v else none := by
  unfold item
  rw [List.getElem?_replicate]
  split <;> rfl

@[simp] theorem length_assign (xs : List (Option α)) (i : Nat) (v : α) :
    (assign xs i v).length = max xs.length (i + 1) := by
  unfold assign
  split
  · rw [List.length_set]; omega
  · simp only [List.length_append, List.length_replicate, List.length_singleton]; omega

/-- The entry at the assigned index is the new one, and any other the old one. -/
theorem item_assign (xs : List (Option α)) (i j : Nat) (v : α) :
    item (assign xs i v) j = if j = i then some v else item xs j := by
  unfold item assign
  split
  · rename_i hi
    rw [List.getElem?_set]
    by_cases hj : j = i
    · simp [hj, hi]
    · simp [hj, Ne.symm hj]
  · rename_i hi
    rw [List.append_assoc]
    by_cases hlt : j < xs.length
    · -- before the end of the old array nothing changes
      rw [List.getElem?_append_left hlt, if_neg (by omega)]
    · have hout : xs[j]? = none := List.getElem?_eq_none (by omega)
      rw [List.getElem?_append_right (by omega), hout, List.getElem?_append,
        List.length_replicate]
      by_cases hj : j = i
      · simp [hj]
      · by_cases hji : j < i
        · rw [if_pos (by omega), List.getElem?_replicate, if_pos (by omega), if_neg hj]; rfl
        · rw [if_neg (by omega), if_neg hj, List.getElem?_singleton, if_neg (by omega)]

end

end Js
