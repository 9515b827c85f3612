import SubstrateDevTemplate.Support.Runs
import SubstrateDevTemplate.ChainState.Definitions

/-!
# ChainState — Results

Which query the result or the error on the page is of.  A change of the selection clears what is
shown, but not the query under way, and a query that settles writes what it has whatever is
selected by then.

`record` keeps, beside the page, the query whose settling wrote what is shown.

* `shown_iff`, `shown_of_run`: there is such a query exactly when something is shown.
* `step_belongs_iff`: one event keeps what is shown that of the selection exactly when the event is
  not the settling of another query.
* `shown_belongs`: so it is, in every run in which each query settles while its entry is selected.
-/

namespace SubstrateDevTemplate.ChainState
open Transition (Run anyEvent traced)

variable {ρ : Type*} {modules : List ChainStateModule}

/-- The query whose settling wrote what is shown: the page is cleared, or written to, or left as it
was. -/
def record (p : Page ρ) (e : Event ρ) (_ : Page ρ) (source : Option Query) : Option Query :=
  match e with
  | .moduleChange _ | .methodChange _ | .query => none
  | .paramChange _ _ => source
  | .settled k _ => p.queries[k]?

/-- A result or an error is shown. -/
def Page.Shown (p : Page ρ) : Prop := p.queryResult.isSome = true ∨ p.queryError.isSome = true

/-- The query is of the selected entry. -/
def Query.OfSelected (q : Query) (p : Page ρ) : Prop :=
  q.module = p.selectedModule ∧ q.method = p.selectedMethod

instance (q : Query) (p : Page ρ) : Decidable (q.OfSelected p) :=
  inferInstanceAs (Decidable (_ ∧ _))

/-- What is shown is of the selected entry. -/
def Belongs (s : Page ρ × Option Query) : Prop :=
  s.1.Shown → ∃ q, s.2 = some q ∧ q.OfSelected s.1

/-- A query settles while its entry is the selected one. -/
def SettlesSelected (s : Page ρ × Option Query) : Event ρ → Prop
  | .settled k _ => ∀ q ∈ s.1.queries[k]?, q.OfSelected s.1
  | _ => True

instance (s : Page ρ × Option Query) : (e : Event ρ) → Decidable (SettlesSelected s e)
  | .settled k _ => inferInstanceAs (Decidable (∀ q ∈ s.1.queries[k]?, _))
  | .moduleChange _ | .methodChange _ | .paramChange _ _ | .query => isTrue trivial

theorem init_not_shown : ¬ (Page.init : Page ρ).Shown := by
  rintro (h | h)
  · cases h
  · cases h

/-- What one event does to what is shown, and to the query it is of. -/
theorem traced_cases {s s' : Page ρ × Option Query} {e : Event ρ}
    (h : traced (step modules) record s e = some s') :
    (¬ s'.1.Shown ∧ s'.2 = none ∧ SettlesSelected s e) ∨
    ((∃ index value, s'.1 = s.1.handleParamChange index value) ∧ s'.2 = s.2 ∧
      SettlesSelected s e) ∨
    (∃ k outcome q, e = .settled k outcome ∧ s.1.queries[k]? = some q ∧
      s'.1 = s.1.querySettled k outcome ∧ s'.2 = some q) := by
  obtain ⟨hs, hsource⟩ := Transition.traced_eq_some.mp h
  cases e with
  | moduleChange newModule =>
      simp only [step, Option.some.injEq] at hs
      refine .inl ⟨?_, hsource, trivial⟩
      rw [← hs]
      exact init_not_shown
  | methodChange newMethod =>
      simp only [step] at hs
      split at hs
      · cases hs
      · rw [Option.some.injEq] at hs
        refine .inl ⟨?_, hsource, trivial⟩
        rw [← hs]
        exact init_not_shown
  | query =>
      simp only [step] at hs
      split at hs
      · cases hs
      · rw [Option.some.injEq] at hs
        refine .inl ⟨?_, hsource, trivial⟩
        rw [← hs]
        exact init_not_shown
  | paramChange index value =>
      simp only [step] at hs
      split at hs
      · rw [Option.some.injEq] at hs
        exact .inr (.inl ⟨⟨index, value, hs.symm⟩, hsource, trivial⟩)
      · cases hs
  | settled k outcome =>
      simp only [step] at hs
      split at hs
      · rename_i hk
        rw [Option.some.injEq] at hs
        have hq : s.1.queries[k]? = some s.1.queries[k] := List.getElem?_eq_getElem hk
        exact .inr (.inr ⟨k, outcome, s.1.queries[k], rfl, hq, hs.symm, hsource.trans hq⟩)
      · cases hs

/-- A query that settles has its result or its error shown. -/
theorem querySettled_shown (p : Page ρ) (k : Nat) (outcome : Except String ρ) :
    (p.querySettled k outcome).Shown := by
  cases outcome with
  | ok result => exact .inl rfl
  | error message => exact .inr rfl

/-- **There is a query on record exactly when something is shown.** -/
theorem shown_iff {s : Page ρ × Option Query} {es : List (Event ρ)}
    (h : Run (traced (step modules) record) anyEvent (.init, none) es s) :
    s.1.Shown ↔ s.2.isSome = true := by
  refine h.invariant (I := fun s => s.1.Shown ↔ s.2.isSome = true) (fun s e s' hI _ hs => ?_)
    (iff_of_false init_not_shown nofun)
  rcases traced_cases hs with ⟨hnot, hnone, -⟩ | ⟨⟨index, value, hp⟩, hsource, -⟩ |
      ⟨k, outcome, q, -, -, hp, hsource⟩
  · rw [hnone]
    exact iff_of_false hnot nofun
  · rw [hp, hsource]
    exact hI
  · rw [hp, hsource]
    exact iff_of_true (querySettled_shown ..) rfl

/-- Every run of the page has its record, and what it shows is of the query there. -/
theorem shown_of_run {p : Page ρ} {es : List (Event ρ)}
    (h : Run (step modules) anyEvent .init es p) :
    ∃ source, Run (traced (step modules) record) anyEvent (.init, none) es (p, source) ∧
      (p.Shown ↔ source.isSome = true) := by
  obtain ⟨source, hrun⟩ := (Transition.Run.traced_iff none).mpr h
  exact ⟨source, hrun, shown_iff hrun⟩

/-- **One event**: what is shown is still of the selected entry exactly when no other query has
settled. -/
theorem step_belongs_iff {s s' : Page ρ × Option Query} {e : Event ρ} (hs : Belongs s)
    (h : traced (step modules) record s e = some s') : Belongs s' ↔ SettlesSelected s e := by
  rcases traced_cases h with ⟨hnot, -, hg⟩ | ⟨⟨index, value, hp⟩, hsource, hg⟩ |
      ⟨k, outcome, q, rfl, hq, hp, hsource⟩
  · exact iff_of_true (fun hshown => absurd hshown hnot) hg
  · refine iff_of_true ?_ hg
    rw [Belongs, hp, hsource]
    exact hs
  · have hshown : s'.1.Shown := hp ▸ querySettled_shown ..
    have hselected : q.OfSelected s'.1 ↔ q.OfSelected s.1 := by
      rw [hp]
      cases outcome with
      | ok result => exact Iff.rfl
      | error message => exact Iff.rfl
    constructor
    · intro hb q' hq'
      obtain ⟨q'', hsrc, hof⟩ := hb hshown
      rw [hsource, Option.some.injEq] at hsrc
      rw [hq, Option.mem_some_iff] at hq'
      rw [← hq', hsrc]
      exact (hsrc ▸ hselected).mp hof
    · intro hg _
      exact ⟨q, hsource, hselected.mpr (hg q hq)⟩

/-- **What is shown is of the selected entry**, in every run in which each query settles while its
entry is selected. -/
theorem shown_belongs {s : Page ρ × Option Query} {es : List (Event ρ)}
    (h : Run (traced (step modules) record) SettlesSelected (.init, none) es s) : Belongs s :=
  h.invariant (fun _ _ _ hI g hs => (step_belongs_iff hI hs).mpr g)
    fun hshown => absurd hshown init_not_shown

/-- A catalogue with two plain values. -/
def systemCatalogue : List ChainStateModule := [⟨"system", [⟨"number", []⟩, ⟨"eventCount", []⟩]⟩]

/-- A query that is waited for. -/
theorem awaited_result_belongs :
    ∃ s : Page Nat × Option Query,
      Run (traced (step systemCatalogue) record) SettlesSelected (.init, none)
        [.moduleChange "system", .methodChange "number", .query, .settled 0 (.ok 7)] s ∧
      Belongs s :=
  Transition.exists_run_and (by decide) fun _ h => shown_belongs h

/-- Another entry is selected while the query is under way: its result is shown there. -/
theorem late_result_not_belongs :
    ¬ ∀ (modules : List ChainStateModule) (es : List (Event Nat)) (s : Page Nat × Option Query),
      Run (traced (step modules) record) anyEvent (.init, none) es s → Belongs s := by
  intro h
  obtain ⟨s, hr, hshown, hsource, hselected⟩ : ∃ s : Page Nat × Option Query,
      Run (traced (step systemCatalogue) record) anyEvent (.init, none)
        [.moduleChange "system", .methodChange "number", .query, .methodChange "eventCount",
          .settled 0 (.ok 7)] s ∧
      s.1.queryResult.isSome = true ∧ s.2 = some ⟨"system", "number", []⟩ ∧
        s.1.selectedMethod = "eventCount" := Transition.exists_run (by decide)
  obtain ⟨q, hq, -, hmethod⟩ := h _ _ s hr (.inl hshown)
  rw [hsource, Option.some.injEq] at hq
  rw [← hq, hselected] at hmethod
  revert hmethod
  decide

end SubstrateDevTemplate.ChainState
