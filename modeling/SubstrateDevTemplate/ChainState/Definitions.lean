import SubstrateDevTemplate.ParamInput.Definitions

/-!
# ChainState — Definitions

The ChainState page, `pages/ChainState.tsx`: the selection, the parameters of the selected storage
entry and their values, and the queries under way.  The catalogue `modules` of `useChainState` is
fixed.

`handleQuery` runs from its start to `await executeQuery(…)`; what `executeQuery` settles with comes
with the event, and the rest of the handler runs then.
-/

namespace SubstrateDevTemplate.ChainState
open Js (Value)
open ParamInput (Param inputKeys)

/-- A storage entry in the catalogue. -/
structure Method where
  name : String
  params : List Param
  deriving DecidableEq

/-- A module in the catalogue. -/
structure ChainStateModule where
  name : String
  methods : List Method
  deriving DecidableEq

/-- A call of `executeQuery` under way. -/
structure Query where
  module : String
  method : String
  params : List Value
  deriving DecidableEq

/-- The page's state, with results in `ρ`. -/
structure Page (ρ : Type*) where
  selectedModule : String
  selectedMethod : String
  params : List (Option String)
  queryResult : Option ρ
  isQuerying : Bool
  queryError : Option String
  queries : List Query

namespace Page
variable {ρ : Type*}

/-- The page as it is rendered first. -/
def init : Page ρ where
  selectedModule := ""
  selectedMethod := ""
  params := []
  queryResult := none
  isQuerying := false
  queryError := none
  queries := []

/-- The entries of the selected module. -/
def moduleMethods (modules : List ChainStateModule) (p : Page ρ) : List Method :=
  ((modules.find? fun m => m.name = p.selectedModule).map ChainStateModule.methods).getD []

/-- The parameters of the selected entry. -/
def methodParams (modules : List ChainStateModule) (p : Page ρ) : List Param :=
  (((p.moduleMethods modules).find? fun m => m.name = p.selectedMethod).map Method.params).getD []

def handleModuleChange (p : Page ρ) (newModule : String) : Page ρ :=
  { p with
    selectedModule := newModule
    selectedMethod := ""
    params := []
    queryResult := none
    queryError := none }

def handleMethodChange (p : Page ρ) (newMethod : String) : Page ρ :=
  { p with
    selectedMethod := newMethod
    params := []
    queryResult := none
    queryError := none }

def handleParamChange (p : Page ρ) (index : Nat) (value : String) : Page ρ :=
  { p with params := Js.assign p.params index value }

/-- What a query passes on for a value of the page, of the type `paramType`. -/
def processParam (paramType : Option String) : Option String → Value
  | none => .undefined
  | some param =>
      if paramType.any fun t => Js.includes t "Bool" then .bool (param = "true") else .string param

/-- `handleQuery`, up to `await executeQuery(…)`. -/
def handleQuery (modules : List ChainStateModule) (p : Page ρ) : Page ρ :=
  { p with
    isQuerying := true
    queryError := none
    queryResult := none
    queries := p.queries ++ [{
      module := p.selectedModule
      method := p.selectedMethod
      params := p.params.mapIdx fun index param =>
        processParam (((p.methodParams modules)[index]?).map Param.type) param }] }

/-- `handleQuery`, once `executeQuery` has settled. -/
def querySettled (p : Page ρ) (k : Nat) : Except String ρ → Page ρ
  | .ok result =>
      { p with queryResult := some result, isQuerying := false, queries := p.queries.eraseIdx k }
  | .error message =>
      { p with queryError := some message, isQuerying := false, queries := p.queries.eraseIdx k }

/-- The keys of the parameter inputs the page renders. -/
def keys (modules : List ChainStateModule) (p : Page ρ) : List String :=
  if p.selectedMethod = "" then [] else inputKeys (p.methodParams modules)

end Page

inductive Event (ρ : Type*) where
  | moduleChange (newModule : String)
  | methodChange (newMethod : String)
  | paramChange (index : Nat) (value : String)
  | query
  | settled (k : Nat) (outcome : Except String ρ)

/-- One event, where the page lets it happen. -/
def step {ρ : Type*} (modules : List ChainStateModule) (p : Page ρ) : Event ρ → Option (Page ρ)
  | .moduleChange newModule => some (p.handleModuleChange newModule)
  | .methodChange newMethod =>
      if p.selectedModule = "" then none else some (p.handleMethodChange newMethod)
  | .paramChange index value =>
      if index < (p.keys modules).length then some (p.handleParamChange index value) else none
  | .query =>
      if p.isQuerying = true ∨ p.selectedModule = "" ∨ p.selectedMethod = "" then none
      else some (p.handleQuery modules)
  | .settled k outcome => if k < p.queries.length then some (p.querySettled k outcome) else none

end SubstrateDevTemplate.ChainState
