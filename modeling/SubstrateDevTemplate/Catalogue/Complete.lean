import SubstrateDevTemplate.Catalogue.Definitions

/-!
# Catalogue — Complete

What the two catalogues list.  A `continue` passes over an entry, and of every other one exactly one
method is pushed: after the tests, or in the `catch` around them, since nothing throws once the
method is pushed.

* `methodsOf_eq`, `modulesOf_eq`: what the loops have pushed at their ends.
* `Catalogued`: the modules in sorted order, each once, those that have a method to list; and of
  each the methods in the order they are enumerated, each once.
* `catalogues_complete`: both hooks, where the enumeration does not throw.
* `fetchModules_error`: where it does, the hook has what it threw.
-/

namespace SubstrateDevTemplate.Catalogue
open ChainState (ChainStateModule Method)

section
variable {α : Type*}

/-- The names of the methods to list, in the order they are enumerated. -/
def listed (entries : List (String × α)) : List String :=
  (entries.map Prod.fst).filter fun name => !Js.startsWith name "$"

/-- The catalogue is that of the table. -/
structure Catalogued (table : Table α) (modules : List ChainStateModule) : Prop where
  sorted : (modules.map ChainStateModule.name).Pairwise Js.SortsBefore
  once : (modules.map ChainStateModule.name).Nodup
  complete : ∀ name, name ∈ modules.map ChainStateModule.name ↔
    name ≠ "$metadata" ∧ ∃ module, table.get name = some (.ok module) ∧ listed module.entries ≠ []
  methods : ∀ m ∈ modules, ∃ module, table.get m.name = some (.ok module) ∧
    m.methods.map Method.name = listed module.entries ∧ (m.methods.map Method.name).Nodup

/-- Enumerating the modules' entries does not throw. -/
def Enumerates (table : Table α) : Prop :=
  ∀ name ∈ table.keys, name ≠ "$metadata" → ∃ module, table.get name = some (.ok module)

/-! ### The loops -/

variable {describe : String → α → Method} {table : Table α}

/-- The methods pushed of a module's entries: one of each that is not passed over. -/
def pushed (describe : String → α → Method) (entries : List (String × α)) : List Method :=
  (entries.filter fun entry => !Js.startsWith entry.1 "$").map fun entry =>
    describe entry.1 entry.2

theorem methodsOf_eq (entries : List (String × α)) :
    ∀ methods, methodsOf describe entries methods = methods ++ pushed describe entries := by
  induction entries with
  | nil => intro methods; exact (List.append_nil methods).symm
  | cons entry entries ih =>
      intro methods
      obtain ⟨methodName, method⟩ := entry
      rw [methodsOf, ih, ih]
      simp only [pushed, List.filter_cons]
      cases Js.startsWith methodName "$" with
      | true => rfl
      | false => exact List.append_assoc ..

/-- Whatever is made of the methods, they keep their names. -/
theorem map_name_pushed (hname : ∀ name method, (describe name method).name = name)
    (entries : List (String × α)) :
    (pushed describe entries).map Method.name = listed entries := by
  rw [pushed, listed, List.map_map, List.filter_map]
  refine List.map_congr_left fun entry _ => ?_
  exact hname entry.1 entry.2

theorem listed_nodup (module : Js.Object α) : (listed module.entries).Nodup :=
  module.distinct.filter _

/-- The module pushed under a name, if one is. -/
def pushedModule (describe : String → α → Method) (table : Table α) (name : String) :
    Option ChainStateModule :=
  if name = "$metadata" then none
  else
    match table.get name with
    | some (.ok module) =>
        if pushed describe module.entries = [] then none
        else some ⟨name, pushed describe module.entries⟩
    | _ => none

theorem pushedModule_eq_some {name : String} {m : ChainStateModule} :
    pushedModule describe table name = some m ↔ name ≠ "$metadata" ∧
      ∃ module, table.get name = some (.ok module) ∧ pushed describe module.entries ≠ [] ∧
        m = ⟨name, pushed describe module.entries⟩ := by
  unfold pushedModule
  split
  · rename_i hmeta
    exact iff_of_false nofun fun h => h.1 hmeta
  · rename_i hmeta
    rw [and_iff_right hmeta]
    split
    · rename_i module hget
      simp only [hget, Option.some.injEq, Except.ok.injEq, exists_eq_left']
      split
      · rename_i hnil
        exact iff_of_false nofun fun h => h.1 hnil
      · rename_i hne
        rw [and_iff_right hne, Option.some.injEq, eq_comm]
    · rename_i hno
      exact iff_of_false nofun fun ⟨module, hget, _⟩ => hno module hget

/-- What the outer loop pushes, where no enumeration throws. -/
theorem modulesOf_eq (names : List String) : ∀ modules,
    (∀ name ∈ names, name ≠ "$metadata" → ∃ module, table.get name = some (.ok module)) →
    modulesOf describe table names modules =
      .ok (modules ++ names.filterMap (pushedModule describe table)) := by
  induction names with
  | nil =>
      intro modules _
      rw [modulesOf, List.filterMap_nil, List.append_nil]
  | cons name names ih =>
      intro modules h
      have hrest := fun n hn => h n (List.mem_cons_of_mem _ hn)
      rw [modulesOf, List.filterMap_cons]
      by_cases hmeta : name = "$metadata"
      · rw [if_pos hmeta, ih modules hrest, pushedModule, if_pos hmeta]
      · obtain ⟨module, hget⟩ := h name (List.mem_cons_self ..) hmeta
        rw [if_neg hmeta, entriesOf, hget, pushedModule, if_neg hmeta, hget]
        simp only [methodsOf_eq, List.nil_append]
        by_cases hnil : pushed describe module.entries = []
        · simp only [hnil, List.length_nil, Nat.lt_irrefl, if_false, if_true]
          exact ih modules hrest
        · rw [if_pos (List.length_pos_iff.mpr hnil), if_neg hnil, ih _ hrest, List.append_assoc]
          rfl

/-- The modules pushed are under the names that one is pushed under. -/
theorem map_name_filterMap (names : List String) :
    (names.filterMap (pushedModule describe table)).map ChainStateModule.name =
      names.filter fun name => (pushedModule describe table name).isSome := by
  induction names with
  | nil => rfl
  | cons name names ih =>
      rw [List.filterMap_cons, List.filter_cons]
      cases hm : pushedModule describe table name with
      | none => exact ih
      | some m =>
          obtain ⟨-, module, -, -, rfl⟩ := pushedModule_eq_some.mp hm
          exact congrArg (name :: ·) ih

/-! ### The catalogue -/

/-- The catalogue that is fetched. -/
def catalogue (describe : String → α → Method) (table : Table α) : List ChainStateModule :=
  (Js.sort table.keys).filterMap (pushedModule describe table)

theorem mem_sort_keys {name : String} {module : Except String (Js.Object α)}
    (h : table.get name = some module) : name ∈ Js.sort table.keys :=
  (Js.sort_perm _).mem_iff.mpr (Js.Object.mem_keys.mpr ⟨module, h⟩)

/-- A module of the catalogue is the one pushed under its name. -/
theorem mem_catalogue {m : ChainStateModule} :
    m ∈ catalogue describe table ↔ pushedModule describe table m.name = some m := by
  rw [catalogue, List.mem_filterMap]
  constructor
  · rintro ⟨name, -, hm⟩
    obtain ⟨-, module, -, -, rfl⟩ := pushedModule_eq_some.mp hm
    exact hm
  · intro hm
    obtain ⟨-, module, hget, -⟩ := pushedModule_eq_some.mp hm
    exact ⟨m.name, mem_sort_keys hget, hm⟩

theorem fetchModules_eq (henum : Enumerates table) (hook : Hook) :
    fetchModules describe (.ok table) hook = ⟨catalogue describe table, false, none⟩ := by
  have hnames : ∀ name ∈ Js.sort table.keys, name ≠ "$metadata" →
      ∃ module, table.get name = some (.ok module) :=
    fun name hn => henum name ((Js.sort_perm _).mem_iff.mp hn)
  have hmodules : modulesOf describe table (Js.sort table.keys) [] = .ok ([] ++ _) :=
    modulesOf_eq (Js.sort table.keys) [] hnames
  rw [fetchModules]
  simp only [Except.bind, hmodules, List.nil_append]
  rfl

/-- Where enumerating a module's entries throws, the outer loop throws with the first that does. -/
theorem modulesOf_error (describe : String → α → Method) (names : List String) : ∀ modules,
    (∃ name ∈ names, name ≠ "$metadata" ∧ ∃ message, entriesOf table name = .error message) →
    ∃ name ∈ names, name ≠ "$metadata" ∧ ∃ message, entriesOf table name = .error message ∧
      modulesOf describe table names modules = .error message := by
  induction names with
  | nil =>
      rintro modules ⟨name, hname, -⟩
      cases hname
  | cons first names ih =>
      rintro modules ⟨name, hname, hmeta, message, hthrows⟩
      have hlater : ∀ modules', name ∈ names →
          modulesOf describe table (first :: names) modules =
            modulesOf describe table names modules' →
          ∃ name ∈ first :: names, name ≠ "$metadata" ∧ ∃ message,
            entriesOf table name = .error message ∧
            modulesOf describe table (first :: names) modules = .error message := by
        intro modules' hrest heq
        obtain ⟨name', hname', hmeta', message', hthrows', herror⟩ :=
          ih modules' ⟨name, hrest, hmeta, message, hthrows⟩
        exact ⟨name', List.mem_cons_of_mem _ hname', hmeta', message', hthrows', heq.trans herror⟩
      by_cases hfirst : first = "$metadata"
      · have hrest : name ∈ names :=
          (List.mem_cons.mp hname).resolve_left fun h => hmeta (h.trans hfirst)
        exact hlater modules hrest (by rw [modulesOf, if_pos hfirst])
      · cases hentries : entriesOf table first with
        | error message' =>
            refine ⟨first, List.mem_cons_self, hfirst, message', hentries, ?_⟩
            rw [modulesOf, if_neg hfirst, hentries]
        | ok entries =>
            have hrest : name ∈ names := by
              refine (List.mem_cons.mp hname).resolve_left ?_
              rintro rfl
              rw [hentries] at hthrows
              cases hthrows
            by_cases hpushed : 0 < (methodsOf describe entries []).length
            · refine hlater (modules ++ [⟨first, methodsOf describe entries []⟩]) hrest ?_
              rw [modulesOf, if_neg hfirst, hentries]
              exact if_pos hpushed
            · refine hlater modules hrest ?_
              rw [modulesOf, if_neg hfirst, hentries]
              exact if_neg hpushed

/-- Then the hook has the error, and the modules it had. -/
theorem fetchModules_error (describe : String → α → Method) (henum : ¬ Enumerates table)
    (hook : Hook) :
    ∃ name ∈ table.keys, name ≠ "$metadata" ∧ ∃ message,
      table.get name = some (.error message) ∧
      fetchModules describe (.ok table) hook = ⟨hook.modules, false, some message⟩ := by
  have hget : ∀ name ∈ table.keys, ∀ message, entriesOf table name = .error message →
      table.get name = some (.error message) := by
    intro name hname message hthrows
    obtain ⟨module, hmodule⟩ := Js.Object.mem_keys.mp hname
    rw [entriesOf, hmodule] at hthrows
    cases module with
    | error message' =>
        cases hthrows
        exact hmodule
    | ok module => cases hthrows
  have hthrows : ∃ name ∈ Js.sort table.keys, name ≠ "$metadata" ∧
      ∃ message, entriesOf table name = .error message := by
    by_contra hnone
    refine henum fun name hname hmeta => ?_
    obtain ⟨module, hmodule⟩ := Js.Object.mem_keys.mp hname
    cases module with
    | ok module => exact ⟨module, hmodule⟩
    | error message =>
        refine absurd ⟨name, (Js.sort_perm _).mem_iff.mpr hname, hmeta, message, ?_⟩ hnone
        rw [entriesOf, hmodule]
  obtain ⟨name, hname, hmeta, message, hentries, herror⟩ :=
    modulesOf_error describe (Js.sort table.keys) [] hthrows
  have hkey := (Js.sort_perm _).mem_iff.mp hname
  refine ⟨name, hkey, hmeta, message, hget name hkey message hentries, ?_⟩
  simp only [fetchModules, Except.bind, herror]

/-- Where a method keeps its name, the catalogue is that of the table. -/
theorem catalogue_catalogued (hname : ∀ name method, (describe name method).name = name) :
    Catalogued table (catalogue describe table) where
  sorted := by
    rw [catalogue, map_name_filterMap]
    exact (Js.sort_sorted _).filter _
  once := by
    rw [catalogue, map_name_filterMap]
    exact ((Js.sort_perm _).nodup_iff.mpr table.distinct).filter _
  complete := by
    intro name
    rw [List.mem_map]
    constructor
    · rintro ⟨m, hm, rfl⟩
      obtain ⟨hmeta, module, hget, hne, -⟩ := pushedModule_eq_some.mp (mem_catalogue.mp hm)
      refine ⟨hmeta, module, hget, ?_⟩
      rw [← map_name_pushed hname]
      exact fun h => hne (List.map_eq_nil_iff.mp h)
    · rintro ⟨hmeta, module, hget, hne⟩
      refine ⟨⟨name, pushed describe module.entries⟩, mem_catalogue.mpr ?_, rfl⟩
      refine pushedModule_eq_some.mpr ⟨hmeta, module, hget, fun h => hne ?_, rfl⟩
      rw [← map_name_pushed hname, h, List.map_nil]
  methods := by
    intro m hm
    obtain ⟨-, module, hget, -, hm'⟩ := pushedModule_eq_some.mp (mem_catalogue.mp hm)
    have hmethods : m.methods.map Method.name = listed module.entries := by
      rw [hm']
      exact map_name_pushed hname _
    exact ⟨module, hget, hmethods, hmethods ▸ listed_nodup module⟩

end

/-! ### The hooks -/

/-- Whatever the tests come to, the method is pushed under its name. -/
theorem StorageTests.describe_name (methodName : String) (m : StorageTests) :
    (m.describe methodName).name = methodName := by
  unfold describe
  cases m.params with
  | ok params => rfl
  | error message => rfl

theorem CallTests.describe_name (methodName : String) (m : CallTests) :
    (m.describe methodName).name = methodName := by
  unfold describe
  cases m.params with
  | ok params => rfl
  | error message => rfl

/-- **The catalogues lose and duplicate nothing**, whatever the tests of the methods come to. -/
theorem catalogues_complete :
    (∀ (query : Table StorageTests) (hook : Hook), Enumerates query →
      ∃ modules, StorageTests.fetchModules (.ok query) hook = ⟨modules, false, none⟩ ∧
        Catalogued query modules) ∧
    (∀ (tx : Table CallTests) (hook : Hook), Enumerates tx →
      ∃ modules, CallTests.fetchModules (.ok tx) hook = ⟨modules, false, none⟩ ∧
        Catalogued tx modules) := by
  constructor
  · intro query hook henum
    exact ⟨_, fetchModules_eq henum hook, catalogue_catalogued StorageTests.describe_name⟩
  · intro tx hook henum
    exact ⟨_, fetchModules_eq henum hook, catalogue_catalogued CallTests.describe_name⟩

/-- A storage entry whose creator cannot be read. -/
def unreadableEntry : StorageTests where
  isFunction := true
  hasCreator := .error "creator"
  creatorIsObject := .error "creator"
  metaInCreator := .error "creator"
  hasMeta := .error "creator"
  typeInMeta := .error "creator"
  isMap := .error "creator"
  isDoubleMap := .error "creator"

/-- A call whose index cannot be read. -/
def unreadableCall : CallTests where
  hasCallIndex := .error "callIndex"
  hasMethodMeta := .error "callIndex"
  hasArgs := .error "callIndex"
  argsIsArray := .error "callIndex"
  args := []
  argsEnd := .ok ()

/-- A table of three modules out of order, one of them empty, with methods out of order, one of them
hidden; and `$metadata`, which cannot be enumerated. -/
def mixedModules {α : Type*} (method : α) : Table α :=
  ⟨[("timestamp", .ok ⟨[("now", method), ("$hidden", method), ("didUpdate", method)],
        (by decide : ["now", "$hidden", "didUpdate"].Nodup)⟩),
      ("$metadata", .error "entries"),
      ("mmr", .ok ⟨[], List.nodup_nil⟩),
      ("balances", .ok ⟨[("locks", method), ("account", method)],
        (by decide : ["locks", "account"].Nodup)⟩)],
    (by decide : ["timestamp", "$metadata", "mmr", "balances"].Nodup)⟩

theorem mixedModules_enumerates {α : Type*} (method : α) : Enumerates (mixedModules method) := by
  intro moduleName hname hmeta
  simp only [mixedModules, Js.Object.keys, List.map_cons, List.map_nil, List.mem_cons,
    List.not_mem_nil, or_false] at hname
  rcases hname with rfl | rfl | rfl | rfl
  · exact ⟨_, rfl⟩
  · exact absurd rfl hmeta
  · exact ⟨_, rfl⟩
  · exact ⟨_, rfl⟩

/-- Where no test of the methods comes to anything. -/
theorem unreadable_catalogues_complete :
    (∃ modules, StorageTests.fetchModules (.ok (mixedModules unreadableEntry))
        ⟨[], false, none⟩ = ⟨modules, false, none⟩ ∧
      Catalogued (mixedModules unreadableEntry) modules) ∧
    (∃ modules, CallTests.fetchModules (.ok (mixedModules unreadableCall))
        ⟨[], false, none⟩ = ⟨modules, false, none⟩ ∧
      Catalogued (mixedModules unreadableCall) modules) :=
  ⟨catalogues_complete.1 _ _ (mixedModules_enumerates _),
    catalogues_complete.2 _ _ (mixedModules_enumerates _)⟩

example : (CallTests.fetchModules (.ok (mixedModules unreadableCall)) ⟨[], false, none⟩).modules.map
    (fun m => (m.name, m.methods.map Method.name)) =
      [("balances", ["locks", "account"]), ("timestamp", ["now", "didUpdate"])] := by decide

end SubstrateDevTemplate.Catalogue
