import SubstrateDevTemplate.EndpointSelector.Definitions

/-!
# EndpointSelector — Steps

What one event of the selector and the provider does.

* `endpointEffect_cases`: the effect selects the preset of the endpoint, or the custom one.
* `step_moves`: each way an event moves the two (`Moves`), before the effect.
* `Selector.Valid`: the selector selects one of its options, and shows the custom endpoint where
  that is the one.
-/

namespace SubstrateDevTemplate.EndpointSelector
open Context (Provider)

/-- Each preset has a name and an endpoint of its own, neither of them empty. -/
theorem predefined_entries : ∀ entry ∈ predefinedEndpoints,
    predefinedEndpoints.lookup entry.1 = some entry.2 ∧ entry.1 ∈ options ∧ entry.1 ≠ "custom" ∧
      entry.1 ≠ "" ∧ entry.2 ≠ "" := by
  decide

/-- A name is that of one preset. -/
theorem predefined_unique {key v v' : String} (h : (key, v) ∈ predefinedEndpoints)
    (h' : (key, v') ∈ predefinedEndpoints) : v = v' := by
  have h₁ := (predefined_entries _ h).1
  have h₂ := (predefined_entries _ h').1
  exact Option.some.inj (h₁.symm.trans h₂)

/-- An option that is not the custom one is a preset. -/
theorem mem_options {selected : String} (h : selected ∈ options) (hne : selected ≠ "custom") :
    ∃ v, (selected, v) ∈ predefinedEndpoints := by
  rcases List.mem_append.mp h with h | h
  · obtain ⟨⟨key, v⟩, hmem, rfl⟩ := List.mem_map.mp h
    exact ⟨v, hmem⟩
  · exact absurd (List.mem_singleton.mp h) hne

namespace Selector

/-- **The effect** selects the preset of the endpoint, or shows the endpoint as a custom one. -/
theorem endpointEffect_cases (s : Selector) (endpoint : String) :
    (∃ key, (key, endpoint) ∈ predefinedEndpoints ∧
      s.endpointEffect endpoint = { s with selectedEndpoint := key, showCustom := false }) ∨
    s.endpointEffect endpoint = ⟨endpoint, "custom", true⟩ := by
  cases hf : predefinedEndpoints.find? fun entry => entry.2 = endpoint with
  | none => exact .inr (by simp [endpointEffect, hf])
  | some entry =>
      obtain ⟨key, v⟩ := entry
      have hmem := List.mem_of_find?_eq_some hf
      have hv : v = endpoint := by simpa using List.find?_some hf
      have hkey : key ≠ "" := (predefined_entries _ hmem).2.2.2.1
      exact .inl ⟨key, hv ▸ hmem, by simp [endpointEffect, hf, hkey]⟩

/-- Run again for the same endpoint, it changes nothing. -/
theorem endpointEffect_twice (s : Selector) (endpoint : String) :
    (s.endpointEffect endpoint).endpointEffect endpoint = s.endpointEffect endpoint := by
  unfold endpointEffect
  dsimp only
  split
  · rfl
  · rfl

/-- The selector selects one of its options, and shows the custom endpoint for the custom one. -/
structure Valid (s : Selector) : Prop where
  option : s.selectedEndpoint ∈ options
  custom : s.showCustom = true ↔ s.selectedEndpoint = "custom"

theorem valid_preset {key v : String} (h : (key, v) ∈ predefinedEndpoints) (custom : String) :
    Valid ⟨custom, key, false⟩ :=
  ⟨(predefined_entries _ h).2.1, iff_of_false (by simp) (predefined_entries _ h).2.2.1⟩

theorem valid_custom (custom : String) : Valid ⟨custom, "custom", true⟩ :=
  ⟨List.mem_append_right _ (List.mem_singleton_self _), iff_of_true rfl rfl⟩

theorem valid_endpointEffect (s : Selector) (endpoint : String) :
    (s.endpointEffect endpoint).Valid := by
  rcases s.endpointEffect_cases endpoint with ⟨key, hmem, h⟩ | h
  · rw [h]; exact valid_preset hmem _
  · rw [h]; exact valid_custom _

end Selector

/-- What an event does, before the effect. -/
inductive Moves (wsProviderError : String → Option String) (env : Option String) (h : Home) :
    Event → Home → Prop where
  | custom (hne : h.selector.selectedEndpoint ≠ "custom") :
      Moves wsProviderError env h (.presetChange "custom")
        { h with selector := ⟨h.selector.customEndpoint, "custom", true⟩ }
  | preset {key v : String} {p' : Provider} (hmem : (key, v) ∈ predefinedEndpoints)
      (hne : key ≠ h.selector.selectedEndpoint)
      (hp : Context.step wsProviderError h.provider (.handleConnect v) = some p') :
      Moves wsProviderError env h (.presetChange key) ⟨p', h.selector.customEndpoint, key, false⟩
  | type (hshow : h.selector.showCustom = true) (value : String) :
      Moves wsProviderError env h (.customChange value)
        { h with selector := { h.selector with customEndpoint := value } }
  | click {p' : Provider} (hshow : h.selector.showCustom = true)
      (hflag : h.provider.isConnecting = false) (hne : h.selector.customEndpoint ≠ "")
      (hp : Context.step wsProviderError h.provider (.handleConnect h.selector.customEndpoint) =
        some p') :
      Moves wsProviderError env h .connectClick { h with provider := p' }
  | mount : Moves wsProviderError env h .mount
      { h with selector := Selector.init.endpointEffect h.provider.endpoint }
  | reload : Moves wsProviderError env h .reload (.load h.provider.service.state.localStorage env)
  | provider {e : Context.Event} {p' : Provider} (he : ∀ v, e ≠ .handleConnect v)
      (hp : Context.step wsProviderError h.provider e = some p') :
      Moves wsProviderError env h (.provider e) { h with provider := p' }

section
variable {wsProviderError : String → Option String} {env : Option String} {h h' : Home}

/-- An endpoint that is not empty is passed on. -/
theorem handleConnect_some {h₁ : Home} {endpoint : String} (hne : endpoint ≠ "")
    (hc : h.handleConnect wsProviderError endpoint = some h₁) :
    ∃ p', Context.step wsProviderError h.provider (.handleConnect endpoint) = some p' ∧
      h₁ = { h with provider := p' } := by
  rw [Home.handleConnect, if_neg hne] at hc
  obtain ⟨p', hp, rfl⟩ := Option.map_eq_some_iff.mp hc
  exact ⟨p', hp, rfl⟩

theorem handle_moves {e : Event} (hh : handle wsProviderError env h e = some h') :
    Moves wsProviderError env h e h' := by
  cases e with
  | presetChange selected =>
      simp only [handle] at hh
      split at hh
      · rename_i hsel
        by_cases hc : selected = "custom"
        · subst hc
          simp only [Home.handlePresetChange, if_true, Option.some.injEq] at hh
          exact hh ▸ .custom (Ne.symm hsel.2)
        · obtain ⟨v, hmem⟩ := mem_options hsel.1 hc
          obtain ⟨hlookup, -, -, -, hv⟩ := predefined_entries _ hmem
          simp only [Home.handlePresetChange, if_neg hc, hlookup, Option.getD_some,
            (Js.truthy_some v).mpr hv, if_true] at hh
          obtain ⟨p', hp, rfl⟩ := handleConnect_some hv hh
          exact .preset hmem hsel.2 hp
      · cases hh
  | customChange value =>
      simp only [handle] at hh
      split at hh
      · rename_i hshow
        cases hh
        exact .type hshow value
      · cases hh
  | connectClick =>
      simp only [handle] at hh
      split at hh
      · rename_i hen
        obtain ⟨hshow, hdis⟩ := hen
        rw [Provider.connectDisabled, Bool.or_eq_false_iff, Bool.not_eq_false', Js.truthy_some] at hdis
        obtain ⟨p', hp, rfl⟩ := handleConnect_some hdis.2 hh
        exact .click hshow hdis.1 hdis.2 hp
      · cases hh
  | mount => cases hh; exact .mount
  | reload => cases hh; exact .reload
  | provider e =>
      cases e with
      | handleConnect v => cases hh
      | connect | cleanup | resume k | deliver k | ready k | close inst | reopen inst
      | error inst message =>
          simp only [handle] at hh
          obtain ⟨p', hp, rfl⟩ := Option.map_eq_some_iff.mp hh
          exact .provider (by rintro v ⟨⟩) hp

/-- **Each way an event moves the two.** -/
theorem step_moves {e : Event} (hs : step wsProviderError env h e = some h') :
    ∃ h₁, Moves wsProviderError env h e h₁ ∧ h' = flush h h₁ := by
  obtain ⟨h₁, hh, rfl⟩ := Option.map_eq_some_iff.mp hs
  exact ⟨h₁, handle_moves hh, rfl⟩

/-- The effect changes the selector only. -/
@[simp] theorem flush_provider (before h : Home) : (flush before h).provider = h.provider := by
  unfold flush
  split
  · rfl
  · rfl

/-- It is not run where the provider is as it was. -/
theorem flush_selector (h : Home) (s : Selector) : flush h ⟨h.provider, s⟩ = ⟨h.provider, s⟩ :=
  if_pos rfl

theorem Moves.valid {e : Event} (hm : Moves wsProviderError env h e h') (hv : h.selector.Valid) :
    h'.selector.Valid := by
  cases hm with
  | custom hne => exact Selector.valid_custom _
  | preset hmem hne hp => exact Selector.valid_preset hmem _
  | type hshow value => exact ⟨hv.option, hv.custom⟩
  | click hshow hflag hne hp => exact hv
  | mount => exact Selector.valid_endpointEffect _ _
  | reload => exact Selector.valid_endpointEffect _ _
  | provider he hp => exact hv

theorem valid_flush {before : Home} (hv : h.selector.Valid) : (flush before h).selector.Valid := by
  unfold flush
  split
  · exact hv
  · exact Selector.valid_endpointEffect _ _

theorem valid_load (savedEndpoint env : Option String) :
    (Home.load savedEndpoint env).selector.Valid := Selector.valid_endpointEffect _ _

end

end SubstrateDevTemplate.EndpointSelector
