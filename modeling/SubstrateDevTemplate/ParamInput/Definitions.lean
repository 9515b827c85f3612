import SubstrateDevTemplate.Support.Inputs

/-!
# ParamInput — Definitions

`ParamInput` of `components/common/ParamInput.tsx`, the input of one parameter, as its two pages
render it: one for each parameter, under a key of the parameter's name and index.  Which widget it
is, is chosen by words in the parameter's type and name (`widget`).  The text it shows is its own
state (`Inputs.Input`); its `onChange` tells the page.
-/

namespace SubstrateDevTemplate.ParamInput

/-- What describes a parameter: `{ name, type, isOptional }`. -/
structure Param where
  name : String
  type : String
  isOptional : Bool
  deriving DecidableEq

/-- What is rendered for a parameter. -/
inductive Widget where
  /-- a choice of `true` and `false` -/
  | bool
  /-- an address -/
  | account
  /-- a number, with the promise that decimal notation is converted to the correct precision -/
  | balance
  /-- any other number -/
  | number
  | string
  /-- a comma-separated array -/
  | array
  /-- JSON -/
  | complex
  /-- the fallback -/
  | other
  deriving DecidableEq

/-- The chain of tests that chooses `input`. -/
def widget (module name type : String) : Widget :=
  let typeIncludes := fun word => Js.includes (Js.toLowerCase type) word
  let nameIncludes := fun word => Js.includes (Js.toLowerCase name) word
  if typeIncludes "bool" then .bool
  else if typeIncludes "account" || typeIncludes "address" || typeIncludes "multiaddress" ||
      nameIncludes "dest" || nameIncludes "target" then .account
  else if (module = "balances" && (name = "value" || name = "amount")) ||
      typeIncludes "balance" || typeIncludes "compact<u128>" ||
      typeIncludes "compact<balance>" then .balance
  else if typeIncludes "u8" || typeIncludes "u16" || typeIncludes "u32" || typeIncludes "u64" ||
      typeIncludes "u128" || typeIncludes "i8" || typeIncludes "i16" || typeIncludes "i32" ||
      typeIncludes "i64" || typeIncludes "i128" || typeIncludes "compact<" then .number
  else if typeIncludes "string" || typeIncludes "str" then .string
  else if typeIncludes "vec" || typeIncludes "array" then .array
  else if typeIncludes "struct" || typeIncludes "enum" || Js.includes type "\x7b" then .complex
  else .other

/-- A parameter of a boolean type gets the first widget. -/
theorem widget_not_bool {module name type : String} (h : widget module name type ≠ .bool) :
    Js.includes (Js.toLowerCase type) "bool" = false := by
  cases hb : Js.includes (Js.toLowerCase type) "bool" with
  | false => rfl
  | true =>
      rw [widget, if_pos hb] at h
      exact absurd rfl h

/-- The keys of the inputs for `params`. -/
def inputKeys (params : List Param) : List String :=
  params.mapIdx fun index param => param.name ++ "-" ++ toString index

@[simp] theorem inputKeys_length (params : List Param) :
    (inputKeys params).length = params.length := List.length_mapIdx

/-- A page and the inputs it has rendered. -/
structure Screen (π : Type*) where
  page : π
  inputs : List Inputs.Input

/-- An event of a page and its inputs, where the page handles it.  What is typed changes the input
first (`handleChange` sets its text and calls `onChange`); the page is rendered after the handler,
and again after its effects. -/
def Screen.step {π ε : Type*} (keys : π → List String) (handle : π → ε → Option π)
    (flush : ε → π → π → π) (typed : ε → Option (Nat × String)) (s : Screen π) (e : ε) :
    Option (Screen π) :=
  (handle s.page e).map fun p =>
    let inputs := (typed e).elim s.inputs fun t => Inputs.typed t.1 t.2 s.inputs
    let q := flush e s.page p
    ⟨q, Inputs.reconcile (keys q) (Inputs.reconcile (keys p) inputs)⟩

end SubstrateDevTemplate.ParamInput
