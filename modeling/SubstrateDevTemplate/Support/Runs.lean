import Mathlib.Data.List.Basic

/-!
# Support — Runs

Runs of a transition system whose events are partial functions on states.  `step s e` is the
state the event `e` leads to, or `none` where `e` is not enabled.  `Run step G s es s'` says that
the events `es` lead from `s` to `s'`, each one enabled, and each one admitted by the guard `G`
in the state it is taken in.  A guard of `fun _ _ => True` admits every enabled event.

* `Run.steps`: each step of a run is taken at the end of a run of the events before it.
* `Run.invariant`: a predicate that every admitted step preserves holds along every run.
* `Run.invariant_history`: the same for a predicate of the state and of the events so far, the
  latest first.
* `Run.origin`: what holds at the end of a run and not at its start is made true by one event.
* `Run.simulation`: a relation that every admitted step of one system preserves, by a run of another
  one, holds at the end of every run.
* `exec` runs the system; `run_of_exec` turns an evaluation into a run, `exists_run` one whose
  last state passes a test.
* `traced` keeps a record beside the state, of where something in it came from; `Run.traced_iff`: it
  changes no run.

Nothing here mentions a particular system.
-/

namespace Transition

variable {σ ε : Type*}

/-- The events `es` lead from `s` to `s'`, each admitted by `G`. -/
inductive Run (step : σ → ε → Option σ) (G : σ → ε → Prop) : σ → List ε → σ → Prop where
  | refl (s : σ) : Run step G s [] s
  | more {s s₁ s' : σ} {e : ε} {es : List ε}
      (g : G s e) (h : step s e = some s₁) (t : Run step G s₁ es s') : Run step G s (e :: es) s'

/-- Every enabled event is admitted. -/
def anyEvent : σ → ε → Prop := fun _ _ => True

instance (s : σ) (e : ε) : Decidable (anyEvent s e) := isTrue trivial

variable {step : σ → ε → Option σ} {G : σ → ε → Prop}

namespace Run

theorem one {s s' : σ} {e : ε} (g : G s e) (h : step s e = some s') : Run step G s [e] s' :=
  .more g h (.refl _)

theorem trans {s s₁ s' : σ} {es es' : List ε} (h₁ : Run step G s es s₁)
    (h₂ : Run step G s₁ es' s') : Run step G s (es ++ es') s' := by
  induction h₁ with
  | refl => exact h₂
  | more g h _ ih => exact .more g h (ih h₂)

/-- A run of a first event and more. -/
theorem uncons {s s' : σ} {e : ε} {es : List ε} (h : Run step G s (e :: es) s') :
    ∃ s₁, step s e = some s₁ ∧ Run step G s₁ es s' := by
  cases h with
  | more _ hs t => exact ⟨_, hs, t⟩

/-- A run of two parts, taken apart. -/
theorem split {s s' : σ} {es es' : List ε} (h : Run step G s (es ++ es') s') :
    ∃ s₁, Run step G s es s₁ ∧ Run step G s₁ es' s' := by
  induction es generalizing s with
  | nil => exact ⟨s, .refl s, h⟩
  | cons e es ih =>
      cases h with
      | more g hs t =>
          obtain ⟨s₁, h₁, h₂⟩ := ih t
          exact ⟨s₁, .more g hs h₁, h₂⟩

/-- Every step of a run is taken at the end of a run of the events before it. -/
theorem steps {s s' : σ} {es : List ε} (h : Run step G s es s') :
    Run step (fun t e => G t e ∧ ∃ es₁ es₂, es = es₁ ++ e :: es₂ ∧ Run step G s es₁ t) s es s' := by
  have hrest : ∀ {past rest : List ε} {t : σ}, Run step G s past t → es = past ++ rest →
      Run step G t rest s' →
      Run step (fun t e => G t e ∧ ∃ es₁ es₂, es = es₁ ++ e :: es₂ ∧ Run step G s es₁ t)
        t rest s' := by
    intro past rest t hpast hes ht
    clear h
    induction ht generalizing past with
    | refl t => exact .refl t
    | @more t t₁ _ e rest g hs _ ih =>
        have hes' : es = (past ++ [e]) ++ rest := by rw [hes, List.append_assoc]; rfl
        exact .more ⟨g, past, rest, hes, hpast⟩ hs (ih (hpast.trans (.one g hs)) hes')
  exact hrest (.refl s) rfl h

/-- What every admitted step preserves holds along every run. -/
theorem invariant {I : σ → Prop}
    (hI : ∀ s e s', I s → G s e → step s e = some s' → I s') {s s' : σ} {es : List ε}
    (h : Run step G s es s') (h₀ : I s) : I s' := by
  induction h with
  | refl => exact h₀
  | more g h _ ih => exact ih (hI _ _ _ h₀ g h)

/-- **Where a predicate comes from**: one that holds at the end of a run and not at its start is
made true by one of its events. -/
theorem origin {P : σ → Prop} {s s' : σ} {es : List ε} (h : Run step G s es s') (h₀ : ¬ P s)
    (h₁ : P s') : ∃ es₁ e es₂ s₁ s₂, es = es₁ ++ e :: es₂ ∧ Run step G s es₁ s₁ ∧ G s₁ e ∧
      step s₁ e = some s₂ ∧ ¬ P s₁ ∧ P s₂ := by
  induction h with
  | refl => exact absurd h₁ h₀
  | @more s s₁ s' e es g hs t ih =>
      by_cases hp : P s₁
      · exact ⟨[], e, es, s, s₁, rfl, .refl s, g, hs, h₀, hp⟩
      · obtain ⟨es₁, e', es₂, t₁, t₂, rfl, hrun, g', hs', hno, hyes⟩ := ih hp h₁
        exact ⟨e :: es₁, e', es₂, t₁, t₂, rfl, .more g hs hrun, g', hs', hno, hyes⟩

/-- The same for a predicate of the state and of the history, whose head is the latest event. -/
theorem invariant_history {I : List ε → σ → Prop}
    (hI : ∀ past s e s', I past s → G s e → step s e = some s' → I (e :: past) s')
    {s s' : σ} {es : List ε} (h : Run step G s es s') :
    ∀ {past : List ε}, I past s → I (es.reverse ++ past) s' := by
  induction h with
  | refl => intro past h₀; exact h₀
  | @more s s₁ s' e es g h _ ih =>
      intro past h₀
      have := ih (hI past _ _ _ h₀ g h)
      rwa [List.reverse_cons, List.append_assoc, List.singleton_append]

/-- **Simulation.**  Where each admitted step from a related state is followed by a run of the
system `step'`, every run is. -/
theorem simulation {τ δ : Type*} {step' : τ → δ → Option τ} {G' : τ → δ → Prop}
    {R : σ → τ → Prop}
    (hR : ∀ s t e s', R s t → G s e → step s e = some s' →
      ∃ ds t', Run step' G' t ds t' ∧ R s' t')
    {s s' : σ} {es : List ε} (h : Run step G s es s') :
    ∀ {t : τ}, R s t → ∃ ds t', Run step' G' t ds t' ∧ R s' t' := by
  induction h with
  | refl s => intro t ht; exact ⟨[], t, .refl t, ht⟩
  | more g h _ ih =>
      intro t ht
      obtain ⟨ds, t₁, hrun, ht₁⟩ := hR _ _ _ _ ht g h
      obtain ⟨ds', t', hrun', ht'⟩ := ih ht₁
      exact ⟨ds ++ ds', t', hrun.trans hrun', ht'⟩

end Run

/-- The state the events `es` lead to from `s`, if each is enabled and admitted. -/
def exec (step : σ → ε → Option σ) (G : σ → ε → Prop) [∀ s e, Decidable (G s e)] :
    σ → List ε → Option σ
  | s, [] => some s
  | s, e :: es => if G s e then (step s e).bind fun s₁ => exec step G s₁ es else none

theorem run_of_exec [∀ s e, Decidable (G s e)] {s' : σ} :
    ∀ {s : σ} {es : List ε}, exec step G s es = some s' → Run step G s es s'
  | s, [], h => by
      simp only [exec, Option.some.injEq] at h
      exact h ▸ .refl s
  | s, e :: es, h => by
      simp only [exec] at h
      split at h
      · rename_i g
        obtain ⟨s₁, hs, ht⟩ := Option.bind_eq_some_iff.mp h
        exact .more g hs (run_of_exec ht)
      · cases h

theorem exists_run [∀ s e, Decidable (G s e)] {P : σ → Prop} [DecidablePred P] {s : σ}
    {es : List ε} (h : (exec step G s es).any (fun s' => decide (P s')) = true) :
    ∃ s', Run step G s es s' ∧ P s' := by
  cases hx : exec step G s es with
  | none => rw [hx] at h; cases h
  | some s' =>
      rw [hx, Option.any_some, decide_eq_true_eq] at h
      exact ⟨s', run_of_exec hx, h⟩

/-- The same for what follows from the test. -/
theorem exists_run_of [∀ s e, Decidable (G s e)] {P Q : σ → Prop} [DecidablePred P] {s : σ}
    {es : List ε} (h : (exec step G s es).any (fun s' => decide (P s')) = true)
    (hQ : ∀ s', P s' → Q s') : ∃ s', Run step G s es s' ∧ Q s' := by
  obtain ⟨s', hr, hs⟩ := exists_run h
  exact ⟨s', hr, hQ s' hs⟩

/-- The same for what follows from the run. -/
theorem exists_run_and [∀ s e, Decidable (G s e)] {Q : σ → Prop} {s : σ} {es : List ε}
    (h : (exec step G s es).isSome = true) (hQ : ∀ s', Run step G s es s' → Q s') :
    ∃ s', Run step G s es s' ∧ Q s' := by
  obtain ⟨s', hs⟩ := Option.isSome_iff_exists.mp h
  exact ⟨s', run_of_exec hs, hQ s' (run_of_exec hs)⟩

/-! ### Runs with a record beside the state -/

section
variable {α : Type*}

/-- The system, with a record beside its state: `record s e s' a` is what is on record after the
step from `s` to `s'`, where it was `a` before. -/
def traced (step : σ → ε → Option σ) (record : σ → ε → σ → Option α → Option α)
    (s : σ × Option α) (e : ε) : Option (σ × Option α) :=
  (step s.1 e).map fun s' => (s', record s.1 e s' s.2)

variable {record : σ → ε → σ → Option α → Option α}

theorem traced_eq_some {s s' : σ × Option α} {e : ε} :
    traced step record s e = some s' ↔
      step s.1 e = some s'.1 ∧ s'.2 = record s.1 e s'.1 s.2 := by
  obtain ⟨s', a'⟩ := s'
  rw [traced, Option.map_eq_some_iff]
  constructor
  · rintro ⟨s₁, hs, heq⟩
    cases heq
    exact ⟨hs, rfl⟩
  · rintro ⟨hs, ha⟩
    exact ⟨s', hs, congrArg (Prod.mk s') ha.symm⟩

/-- The record is beside every run of the system, and changes none. -/
theorem Run.traced_iff {s s' : σ} {es : List ε} (a : Option α) :
    (∃ a', Run (traced step record) anyEvent (s, a) es (s', a')) ↔ Run step anyEvent s es s' := by
  constructor
  · rintro ⟨a', h⟩
    generalize ht : (s, a) = t at h
    generalize ht' : (s', a') = t' at h
    induction h generalizing s a with
    | refl t =>
        rw [← ht] at ht'
        cases ht'
        exact .refl _
    | more _ hs _ ih =>
        subst ht
        obtain ⟨hstep, -⟩ := traced_eq_some.mp hs
        exact .more trivial hstep (ih _ rfl ht')
  · intro h
    induction h generalizing a with
    | refl s => exact ⟨a, .refl _⟩
    | @more s s₁ s' e es _ hs _ ih =>
        obtain ⟨a', hrun⟩ := ih (record s e s₁ a)
        exact ⟨a', .more trivial (traced_eq_some.mpr ⟨hs, rfl⟩) hrun⟩

end

end Transition
