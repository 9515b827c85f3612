import SubstrateDevTemplate.Catalogue.Complete

/-!
# Catalogue — the keys of a storage entry

How many parameters `useChainState` lists for a storage entry.  A plain value has no key, and a map
as many as it has hashers.  The hook pushes one parameter at the most, and it comes to none only
where the entry's creator is an object: of a function, as the creators of `@polkadot/api` are, it
asks nothing, and assumes one key.  Of an object it asks whether there is a type in its metadata,
and whether that is a map's; an object that has none is taken to have no key.

* `methodParams_catalogue`: the page has the parameters pushed for the selected entry.
* `describe_arity_iff`, `storage_arity_iff`: they are as many as the entry has keys for one key,
  unless the entry is taken to have none, and for no key, if it is.
-/

namespace SubstrateDevTemplate.Catalogue
open ChainState (ChainStateModule Method Page)

/-- `meta.type`, in the latest metadata, to which older ones are converted. -/
inductive StorageEntryType where
  | plain
  | map (hashers : Nat)
  deriving DecidableEq

/-- The number of keys. -/
def StorageEntryType.keys : StorageEntryType → Nat
  | .plain => 0
  | .map hashers => hashers

def StorageEntryType.isMap : StorageEntryType → Bool
  | .plain => false
  | .map _ => true

/-- Whether there is a type in the creator's metadata, as far as that is tested. -/
def StorageTests.carriesType (m : StorageTests) : Except String Bool :=
  and m.metaInCreator (and m.hasMeta m.typeInMeta)

/-- The tests are of an entry of this type: a type in its creator's metadata throws when it is
asked whether it is a map's, or says what the entry is.  Whether there is a creator, what shape it
has and what metadata it carries is open. -/
def Describes (m : StorageTests) (type : StorageEntryType) : Prop :=
  m.carriesType = .ok true → ∀ b, or m.isMap m.isDoubleMap = .ok b → b = type.isMap

/-- The creator is an object, and not a function. -/
def StorageTests.ObjectCreator (m : StorageTests) : Prop :=
  m.hasCreator = .ok true ∧ m.creatorIsObject = .ok true

/-- The entry is taken to have no key: it is no function, or its creator is an object that carries
no type, or the type of a plain value, and no test of it throws. -/
def StorageTests.Keyless (m : StorageTests) (type : StorageEntryType) : Prop :=
  m.isFunction = false ∨
    m.ObjectCreator ∧ (m.carriesType = .ok false ∨
      m.carriesType = .ok true ∧ type = .plain ∧ ∃ b, or m.isMap m.isDoubleMap = .ok b)

/-! ### One entry -/

section
variable {m : StorageTests} {type : StorageEntryType}

theorem and_and_eq (a b c : Except String Bool) : and a (and b c) = and (and a b) c := by
  cases a with
  | error message => rfl
  | ok v => cases v <;> rfl

theorem and_eq_false_iff {a b : Except String Bool} :
    and a b = .ok false ↔ a = .ok false ∨ a = .ok true ∧ b = .ok false := by
  cases a with
  | error message => simp [and]
  | ok v => cases v <;> simp [and]

/-- The metadata says that there is no key exactly when it carries no type, or that of a plain
value. -/
theorem hasParams_eq_false_iff (hm : Describes m type) :
    m.hasParams = .ok false ↔ m.carriesType = .ok false ∨
      m.carriesType = .ok true ∧ type = .plain ∧ ∃ b, or m.isMap m.isDoubleMap = .ok b := by
  have hassoc : m.hasParams = and m.carriesType (or m.isMap m.isDoubleMap) := by
    rw [StorageTests.hasParams, StorageTests.carriesType, and_and_eq, and_and_eq, and_and_eq]
  rw [hassoc, and_eq_false_iff]
  refine or_congr_right (and_congr_right fun hcarries => ⟨fun hor => ?_, ?_⟩)
  · have hmap := hm hcarries false hor
    cases type with
    | plain => exact ⟨rfl, false, hor⟩
    | map hashers => cases hmap
  · rintro ⟨rfl, b, hor⟩
    rw [hor, hm hcarries b hor]
    rfl

/-- One parameter is pushed, unless the entry is no function, or its creator is asked and says there
is none. -/
theorem length_describe (m : StorageTests) (methodName : String) :
    (m.describe methodName).params.length = 0 ∧
        (m.isFunction = false ∨ m.ObjectCreator ∧ m.hasParams = .ok false) ∨
      (m.describe methodName).params.length = 1 ∧
        ¬ (m.isFunction = false ∨ m.ObjectCreator ∧ m.hasParams = .ok false) := by
  unfold StorageTests.describe StorageTests.params StorageTests.ObjectCreator
  cases hf : m.isFunction with
  | false => exact .inl ⟨rfl, .inl rfl⟩
  | true =>
      cases hcreator : m.hasCreator with
      | error message => exact .inr ⟨rfl, by simp⟩
      | ok v =>
          cases v with
          | false => exact .inr ⟨rfl, by simp⟩
          | true =>
              cases hobject : m.creatorIsObject with
              | error message => exact .inr ⟨rfl, by simp⟩
              | ok v =>
                  cases v with
                  | false => exact .inr ⟨rfl, by simp⟩
                  | true =>
                      cases hparams : m.hasParams with
                      | error message => exact .inr ⟨rfl, by simp⟩
                      | ok v =>
                          cases v with
                          | true => exact .inr ⟨rfl, by simp⟩
                          | false => exact .inl ⟨rfl, .inr ⟨⟨rfl, rfl⟩, rfl⟩⟩

/-- **One entry**: as many parameters are pushed as it has keys. -/
theorem describe_arity_iff (hm : Describes m type) (methodName : String) :
    (m.describe methodName).params.length = type.keys ↔
      type.keys = 1 ∧ ¬ m.Keyless type ∨ type.keys = 0 ∧ m.Keyless type := by
  rw [StorageTests.Keyless, ← hasParams_eq_false_iff hm]
  rcases length_describe m methodName with ⟨hlen, hnone⟩ | ⟨hlen, hone⟩
  · rw [hlen, eq_comm, and_iff_left hnone, or_iff_right fun h => h.2 hnone]
  · rw [hlen, eq_comm, and_iff_left hone, or_iff_left fun h => hone h.2]

end

/-! ### The page -/

/-- The first element a test holds of, where it holds of one only. -/
theorem find?_unique {β : Type*} {p : β → Bool} {l : List β} {x : β} (hx : x ∈ l) (hp : p x = true)
    (h : ∀ y ∈ l, p y = true → y = x) : l.find? p = some x := by
  cases hf : l.find? p with
  | none => exact absurd hp (List.find?_eq_none.mp hf x hx)
  | some y =>
      rw [h y (List.mem_of_find?_eq_some hf) (List.find?_some hf)]

/-- The page has the parameters that are pushed for the selected entry. -/
theorem methodParams_catalogue {ρ : Type*} {query : Table StorageTests} {p : Page ρ}
    {module : Js.Object StorageTests} {m : StorageTests}
    (hmodule : query.get p.selectedModule = some (.ok module))
    (hmethod : module.get p.selectedMethod = some m)
    (hmeta : p.selectedModule ≠ "$metadata")
    (hdollar : Js.startsWith p.selectedMethod "$" = false) :
    p.methodParams (catalogue StorageTests.describe query) =
      (m.describe p.selectedMethod).params := by
  have hentry : (p.selectedMethod, m) ∈ module.entries := Js.Object.get_eq_some.mp hmethod
  have hpushed : m.describe p.selectedMethod ∈ pushed StorageTests.describe module.entries := by
    refine List.mem_map.mpr ⟨(p.selectedMethod, m), List.mem_filter.mpr ⟨hentry, ?_⟩, rfl⟩
    rw [hdollar]
    rfl
  have hfound : pushedModule StorageTests.describe query p.selectedModule =
      some ⟨p.selectedModule, pushed StorageTests.describe module.entries⟩ :=
    pushedModule_eq_some.mpr ⟨hmeta, module, hmodule, List.ne_nil_of_mem hpushed, rfl⟩
  have hmodules : (catalogue StorageTests.describe query).find?
      (fun m => m.name = p.selectedModule) =
        some ⟨p.selectedModule, pushed StorageTests.describe module.entries⟩ := by
    refine find?_unique (mem_catalogue.mpr hfound) (decide_eq_true rfl) fun y hy hname => ?_
    have hy' := mem_catalogue.mp hy
    rw [of_decide_eq_true hname, hfound, Option.some.injEq] at hy'
    exact hy'.symm
  have hmethods : (pushed StorageTests.describe module.entries).find?
      (fun m => m.name = p.selectedMethod) = some (m.describe p.selectedMethod) := by
    refine find?_unique hpushed (decide_eq_true (StorageTests.describe_name _ m)) ?_
    intro y hy hname
    obtain ⟨⟨name, m'⟩, hmem, rfl⟩ := List.mem_map.mp hy
    have hname' : name = p.selectedMethod :=
      (StorageTests.describe_name name m').symm.trans (of_decide_eq_true hname)
    have hm' := Js.Object.get_eq_some.mpr (List.mem_of_mem_filter hmem)
    rw [hname', hmethod, Option.some.injEq] at hm'
    rw [hname', hm']
  rw [Page.methodParams, Page.moduleMethods, hmodules, Option.map_some, Option.getD_some, hmethods,
    Option.map_some, Option.getD_some]

/-- **The keys of a storage entry.**  The page offers as many inputs as the selected entry has keys
exactly when that is one and the entry is not taken to have none, or when it is none and the entry
is taken to have none. -/
theorem storage_arity_iff {ρ : Type*} {query : Table StorageTests} (henum : Enumerates query)
    (hook : Hook) {p : Page ρ} {module : Js.Object StorageTests} {m : StorageTests}
    {type : StorageEntryType} (hmodule : query.get p.selectedModule = some (.ok module))
    (hmethod : module.get p.selectedMethod = some m)
    (hmeta : p.selectedModule ≠ "$metadata") (hdollar : Js.startsWith p.selectedMethod "$" = false)
    (hm : Describes m type) :
    (p.methodParams (StorageTests.fetchModules (.ok query) hook).modules).length = type.keys ↔
      type.keys = 1 ∧ ¬ m.Keyless type ∨ type.keys = 0 ∧ m.Keyless type := by
  rw [StorageTests.fetchModules, fetchModules_eq henum,
    methodParams_catalogue hmodule hmethod hmeta hdollar]
  exact describe_arity_iff hm _

/-- The tests of an entry whose creator carries its type, and is an object or a function. -/
def readableTests (creatorIsObject : Bool) (type : StorageEntryType) : StorageTests where
  isFunction := true
  hasCreator := .ok true
  creatorIsObject := .ok creatorIsObject
  metaInCreator := .ok true
  hasMeta := .ok true
  typeInMeta := .ok true
  isMap := .ok type.isMap
  isDoubleMap := .ok false

theorem readableTests_describes (creatorIsObject : Bool) (type : StorageEntryType) :
    Describes (readableTests creatorIsObject type) type := by
  intro _ b hb
  cases type <;> exact (Except.ok.inj hb).symm

/-- The tests of an entry whose creator is an object without metadata. -/
def bareTests : StorageTests where
  isFunction := true
  hasCreator := .ok true
  creatorIsObject := .ok true
  metaInCreator := .ok false
  hasMeta := .ok false
  typeInMeta := .error "Cannot use 'in' operator to search for 'type' in undefined"
  isMap := .error "Cannot read properties of undefined (reading 'type')"
  isDoubleMap := .error "Cannot read properties of undefined (reading 'type')"

theorem bareTests_describes (type : StorageEntryType) : Describes bareTests type := by
  intro hcarries
  cases hcarries

/-- A chain with one storage entry. -/
def oneEntry (m : StorageTests) : Table StorageTests :=
  ⟨[("system", .ok ⟨[("account", m)], List.nodup_singleton _⟩)], List.nodup_singleton _⟩

theorem oneEntry_enumerates (m : StorageTests) : Enumerates (oneEntry m) := by
  intro name hname _
  obtain rfl := List.mem_singleton.mp hname
  exact ⟨_, rfl⟩

/-- The page with that entry selected. -/
def oneEntryPage : Page Nat :=
  { Page.init with selectedModule := "system", selectedMethod := "account" }

/-- A map of one key is offered its key where its creator is a function, and none where it is an
object without metadata. -/
theorem map_arity :
    (oneEntryPage.methodParams (StorageTests.fetchModules
      (.ok (oneEntry (readableTests false (.map 1)))) ⟨[], false, none⟩).modules).length = 1 ∧
    (oneEntryPage.methodParams (StorageTests.fetchModules
      (.ok (oneEntry bareTests)) ⟨[], false, none⟩).modules).length ≠ 1 := by
  have hkeyed : ¬ (readableTests false (.map 1)).Keyless (.map 1) := by
    rintro (hf | ⟨⟨-, hobject⟩, -⟩)
    · cases hf
    · cases hobject
  have hkeyless : bareTests.Keyless (.map 1) := .inr ⟨⟨rfl, rfl⟩, .inl rfl⟩
  refine ⟨(storage_arity_iff (oneEntry_enumerates _) _ rfl rfl (by decide) (by decide)
    (readableTests_describes false (.map 1))).mpr (.inl ⟨rfl, hkeyed⟩), fun h => ?_⟩
  rcases (storage_arity_iff (oneEntry_enumerates _) _ rfl rfl (by decide) (by decide)
    (bareTests_describes (.map 1))).mp h with ⟨-, hnot⟩ | ⟨hzero, -⟩
  · exact hnot hkeyless
  · cases hzero

/-- A plain value whose creator is a function is given a key. -/
theorem plain_value_has_key :
    ¬ ∀ (query : Table StorageTests) (hook : Hook) (p : Page Nat) (module : Js.Object StorageTests)
      (m : StorageTests) (type : StorageEntryType), Enumerates query →
      query.get p.selectedModule = some (.ok module) → module.get p.selectedMethod = some m →
      p.selectedModule ≠ "$metadata" → Js.startsWith p.selectedMethod "$" = false →
      Describes m type →
      (p.methodParams (StorageTests.fetchModules (.ok query) hook).modules).length = type.keys := by
  intro h
  have hzero := h (oneEntry (readableTests false .plain)) ⟨[], false, none⟩ oneEntryPage _ _ _
    (oneEntry_enumerates _) rfl rfl (by decide) (by decide) (readableTests_describes false .plain)
  revert hzero
  decide

end SubstrateDevTemplate.Catalogue
