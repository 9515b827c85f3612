import SubstrateDevTemplate.Support.Objects
import SubstrateDevTemplate.ChainState.Definitions

/-!
# Catalogue — Definitions

`fetchModules` of the two hooks `hooks/useChainState.ts` and `hooks/useExtrinsics.ts`, which list
the modules of `api.query` and of `api.tx` with their methods.  The two run the same loops, over
the modules and over the entries of each (`modulesOf`, `methodsOf`), and differ in what they make
of a method (`StorageTests.describe`, `CallTests.describe`).

A method is given by what the tests that are made of it come to, in the order they are made.  Each
of them may throw, and so may the enumeration of the modules and of a module's entries.
-/

namespace SubstrateDevTemplate.Catalogue
open ParamInput (Param)
open ChainState (ChainStateModule Method)

/-! ### Tests that may throw -/

/-- `a && b`. -/
def and (a b : Except String Bool) : Except String Bool :=
  match a with
  | .error message => .error message
  | .ok false => .ok false
  | .ok true => b

/-- `a || b`. -/
def or (a b : Except String Bool) : Except String Bool :=
  match a with
  | .error message => .error message
  | .ok true => .ok true
  | .ok false => b

/-! ### A storage entry -/

/-- What the tests of a method of `api.query` come to. -/
structure StorageTests where
  /-- `typeof method === 'function'` -/
  isFunction : Bool
  /-- `method.creator` -/
  hasCreator : Except String Bool
  /-- `typeof method.creator === 'object'` -/
  creatorIsObject : Except String Bool
  /-- `'meta' in method.creator` -/
  metaInCreator : Except String Bool
  /-- `method.creator.meta` -/
  hasMeta : Except String Bool
  /-- `'type' in method.creator.meta` -/
  typeInMeta : Except String Bool
  /-- `method.creator.meta.type.isMap` -/
  isMap : Except String Bool
  /-- `method.creator.meta.type.isDoubleMap` -/
  isDoubleMap : Except String Bool

namespace StorageTests

/-- `hasParams`. -/
def hasParams (m : StorageTests) : Except String Bool :=
  and m.metaInCreator (and m.hasMeta (and m.typeInMeta (or m.isMap m.isDoubleMap)))

/-- `params`, as it is when the method is pushed. -/
def params (m : StorageTests) : Except String (List Param) :=
  if m.isFunction = false then .ok []
  else
    match and m.hasCreator m.creatorIsObject with
    | .error message => .error message
    | .ok false => .ok [⟨"key", "Codec", true⟩]
    | .ok true =>
        match m.hasParams with
        | .error _ => .ok [⟨"key", "Codec", true⟩]
        | .ok true => .ok [⟨"key", "Codec", false⟩]
        | .ok false => .ok []

/-- The method that is pushed, after the tests or in the `catch`. -/
def describe (methodName : String) (m : StorageTests) : Method :=
  match m.params with
  | .ok params => ⟨methodName, params⟩
  | .error _ => ⟨methodName, [⟨"key", "any", true⟩]⟩

end StorageTests

/-! ### A call -/

/-- What the tests of an argument come to. -/
structure ArgTests where
  /-- `arg && typeof arg === 'object'` -/
  isObject : Bool
  /-- `'name' in arg` -/
  nameInArg : Except String Bool
  /-- `String(arg.name)` -/
  name : Except String String
  /-- `'type' in arg` -/
  typeInArg : Except String Bool
  /-- `String(arg.type)` -/
  type : Except String String

/-- The parameter of the `index`-th argument: what was read of it before a test threw, if one
did. -/
def ArgTests.describe (index : Nat) (arg : ArgTests) : Param :=
  let name := "param" ++ toString index
  if arg.isObject = false then ⟨name, "unknown", false⟩
  else
    match arg.nameInArg, arg.name with
    | .error _, _ => ⟨name, "unknown", false⟩
    | .ok true, .error _ => ⟨name, "unknown", false⟩
    | .ok true, .ok argName => ⟨argName, typeOf, false⟩
    | .ok false, _ => ⟨name, typeOf, false⟩
where
  /-- The type, once the name is read. -/
  typeOf : String :=
    match arg.typeInArg, arg.type with
    | .ok true, .ok argType => argType
    | _, _ => "unknown"

/-- What the tests of a method of `api.tx` come to. -/
structure CallTests where
  /-- `method.callIndex` -/
  hasCallIndex : Except String Bool
  /-- `api.registry.findMetaCall(method.callIndex)` -/
  hasMethodMeta : Except String Bool
  /-- `methodMeta.args` -/
  hasArgs : Except String Bool
  /-- `Array.isArray(methodMeta.args)` -/
  argsIsArray : Except String Bool
  /-- the arguments that `forEach` comes to -/
  args : List ArgTests
  /-- whether `forEach` comes to the end of them -/
  argsEnd : Except String Unit

namespace CallTests

/-- The parameter where nothing is known of one. -/
def fallback : Param := ⟨"param", "any", false⟩

/-- `params`, as it is after the inner `try` and `catch`. -/
def params (m : CallTests) : Except String (List Param) :=
  match m.hasCallIndex with
  | .error message => .error message
  | .ok false => .ok []
  | .ok true =>
      match and m.hasMethodMeta (and m.hasArgs m.argsIsArray) with
      | .error _ => .ok [fallback]
      | .ok false => .ok []
      | .ok true =>
          let params := m.args.mapIdx ArgTests.describe
          match m.argsEnd with
          | .ok () => .ok params
          | .error _ => .ok (params ++ [fallback])

/-- The method that is pushed, after the tests or in the `catch`. -/
def describe (methodName : String) (m : CallTests) : Method :=
  match m.params with
  | .ok params => ⟨methodName, if params.length = 0 then [fallback] else params⟩
  | .error _ => ⟨methodName, [fallback]⟩

end CallTests

/-! ### The loops -/

section
variable {α : Type*}

/-- The loop over the entries of a module, with the methods pushed so far. -/
def methodsOf (describe : String → α → Method) : List (String × α) → List Method → List Method
  | [], methods => methods
  | (methodName, method) :: entries, methods =>
      if Js.startsWith methodName "$" then methodsOf describe entries methods
      else methodsOf describe entries (methods ++ [describe methodName method])

/-- A table of modules, as `api.query` and `api.tx` are: each with its entries, or what enumerating
them throws. -/
abbrev Table (α : Type*) := Js.Object (Except String (Js.Object α))

/-- `Object.entries(table[moduleName])`. -/
def entriesOf (table : Table α) (moduleName : String) : Except String (List (String × α)) :=
  match table.get moduleName with
  | none => .error "Cannot convert undefined or null to object"
  | some (.error message) => .error message
  | some (.ok module) => .ok module.entries

/-- The loop over the modules, with those pushed so far. -/
def modulesOf (describe : String → α → Method) (table : Table α) :
    List String → List ChainStateModule → Except String (List ChainStateModule)
  | [], modules => .ok modules
  | moduleName :: apiModules, modules =>
      if moduleName = "$metadata" then modulesOf describe table apiModules modules
      else
        match entriesOf table moduleName with
        | .error message => .error message
        | .ok moduleEntries =>
            let methods := methodsOf describe moduleEntries []
            if 0 < methods.length then
              modulesOf describe table apiModules (modules ++ [⟨moduleName, methods⟩])
            else modulesOf describe table apiModules modules

/-- What a hook returns of its catalogue. -/
structure Hook where
  modules : List ChainStateModule
  isLoading : Bool
  error : Option String
  deriving DecidableEq

/-- `fetchModules`, of a table or of what `Object.keys` throws. -/
def fetchModules (describe : String → α → Method) (table : Except String (Table α)) (hook : Hook) :
    Hook :=
  match table.bind fun table => modulesOf describe table (Js.sort table.keys) [] with
  | .ok modules => ⟨modules, false, none⟩
  | .error message => ⟨hook.modules, false, some message⟩

end

/-- `fetchModules` of `useChainState`. -/
def StorageTests.fetchModules (query : Except String (Table StorageTests)) (hook : Hook) : Hook :=
  Catalogue.fetchModules StorageTests.describe query hook

/-- `fetchModules` of `useExtrinsics`. -/
def CallTests.fetchModules (tx : Except String (Table CallTests)) (hook : Hook) : Hook :=
  Catalogue.fetchModules CallTests.describe tx hook

end SubstrateDevTemplate.Catalogue
