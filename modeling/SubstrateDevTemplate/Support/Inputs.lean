import SubstrateDevTemplate.Support.Script

/-!
# Support — Inputs

A list of keyed inputs, each with a text of its own, under a page that keeps the texts a second
time, in an array it changes whenever an input is typed into.

* `reconcile keys inputs` is what a rendering of the keys `keys` makes of the inputs there are: an
  input keeps its text exactly when its key and its position persist.
* `Shows inputs values` says that the inputs show what the page's array holds.
* `shows_typed`: typing keeps that.
* `shows_cleared_iff`: when the page empties its array, it stays so exactly when no input that
  keeps its text has one.

Nothing here mentions a particular page.
-/

namespace Inputs

/-- An input: its key, and the text it shows. -/
structure Input where
  key : String
  value : String
  deriving DecidableEq

/-- The input rendered under `key` at a position, from the one that was there. -/
def render (key : String) : Option Input → Input
  | none => ⟨key, ""⟩
  | some input => if input.key = key then input else ⟨key, ""⟩

/-- The inputs after a rendering of the keys `keys`. -/
def reconcile (keys : List String) (inputs : List Input) : List Input :=
  keys.mapIdx fun i key => render key inputs[i]?

/-- `value` is typed into the input at `index`. -/
def typed (index : Nat) (value : String) (inputs : List Input) : List Input :=
  inputs.modify index fun input => { input with value := value }

/-- Each input shows the entry of the array at its position; an absent entry is the empty text. -/
def Shows (inputs : List Input) (values : List (Option String)) : Prop :=
  ∀ i input, inputs[i]? = some input → input.value = (Js.item values i).getD ""

/-- No input that a rendering of `keys` keeps has a text. -/
def KeepsNoText (keys : List String) (inputs : List Input) : Prop :=
  ∀ x ∈ inputs.zipIdx, keys[x.2]? = some x.1.key → x.1.value = ""

instance (keys : List String) (inputs : List Input) : Decidable (KeepsNoText keys inputs) :=
  inferInstanceAs (Decidable (∀ x ∈ _, _ → _))

/-! ### Renderings -/

theorem render_key (key : String) (old : Option Input) : (render key old).key = key := by
  unfold render
  split
  · rfl
  · split
    · assumption
    · rfl

theorem render_self (input : Input) : render input.key (some input) = input := if_pos rfl

theorem getElem?_reconcile (keys : List String) (inputs : List Input) (i : Nat) :
    (reconcile keys inputs)[i]? = keys[i]?.map fun key => render key inputs[i]? :=
  List.getElem?_mapIdx

/-- A rendering makes one input for each key. -/
theorem map_key_reconcile (keys : List String) (inputs : List Input) :
    (reconcile keys inputs).map Input.key = keys := by
  apply List.ext_getElem?
  intro i
  rw [List.getElem?_map, getElem?_reconcile, Option.map_map]
  cases keys[i]? with
  | none => rfl
  | some key => exact congrArg some (render_key key _)

/-- A rendering of the same keys changes nothing. -/
theorem reconcile_map_key (inputs : List Input) :
    reconcile (inputs.map Input.key) inputs = inputs := by
  apply List.ext_getElem?
  intro i
  rw [getElem?_reconcile, List.getElem?_map]
  cases inputs[i]? with
  | none => rfl
  | some input => exact congrArg some (render_self input)

/-- Neither does rendering the same keys a second time. -/
theorem reconcile_reconcile (keys : List String) (inputs : List Input) :
    reconcile keys (reconcile keys inputs) = reconcile keys inputs := by
  have h := reconcile_map_key (reconcile keys inputs)
  rwa [map_key_reconcile] at h

/-! ### What is shown -/

theorem shows_nil (values : List (Option String)) : Shows [] values := by
  intro i input h
  cases h

@[simp] theorem map_key_typed (index : Nat) (value : String) (inputs : List Input) :
    (typed index value inputs).map Input.key = inputs.map Input.key := by
  apply List.ext_getElem?
  intro i
  rw [List.getElem?_map, List.getElem?_map, typed, List.getElem?_modify]
  cases inputs[i]? with
  | none => rfl
  | some input => by_cases h : index = i <;> simp [h]

/-- Typing changes the input and the entry alike. -/
theorem shows_typed {inputs : List Input} {values : List (Option String)}
    (h : Shows inputs values) (index : Nat) (value : String) :
    Shows (typed index value inputs) (Js.assign values index value) := by
  intro i input hi
  rw [typed, List.getElem?_modify] at hi
  obtain ⟨old, ho, rfl⟩ := Option.map_eq_some_iff.mp hi
  rw [Js.item_assign]
  by_cases he : index = i
  · simp [he]
  · simp only [if_neg he, if_neg (Ne.symm he)]
    exact h i old ho

/-- With every entry empty, inputs show the array exactly when they show nothing. -/
theorem shows_empty_iff {values : List (Option String)}
    (hv : ∀ i, (Js.item values i).getD "" = "") (inputs : List Input) :
    Shows inputs values ↔ ∀ input ∈ inputs, input.value = "" := by
  constructor
  · intro h input hi
    obtain ⟨i, hi⟩ := List.mem_iff_getElem?.mp hi
    rw [h i input hi, hv]
  · intro h i input hi
    rw [hv, h input (List.mem_of_getElem? hi)]

/-- With every entry empty, a rendering shows the array exactly when it keeps no text. -/
theorem shows_cleared_iff {values : List (Option String)}
    (hv : ∀ i, (Js.item values i).getD "" = "") (keys : List String) (inputs : List Input) :
    Shows (reconcile keys inputs) values ↔ KeepsNoText keys inputs := by
  rw [shows_empty_iff hv]
  constructor
  · intro h x hx hk
    refine h x.1 (List.mem_of_getElem? (i := x.2) ?_)
    rw [getElem?_reconcile, hk, List.mem_zipIdx_iff_getElem?.mp hx]
    exact congrArg some (render_self x.1)
  · intro h input hi
    obtain ⟨i, hi⟩ := List.mem_iff_getElem?.mp hi
    rw [getElem?_reconcile] at hi
    obtain ⟨key, hk, rfl⟩ := Option.map_eq_some_iff.mp hi
    cases ho : inputs[i]? with
    | none => rfl
    | some old =>
        by_cases he : old.key = key
        · obtain rfl := he
          rw [render_self]
          exact h (old, i) (List.mem_zipIdx_iff_getElem?.mpr ho) hk
        · rw [render, if_neg he]

end Inputs
