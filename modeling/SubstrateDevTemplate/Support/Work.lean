import SubstrateDevTemplate.Support.Runs

/-!
# Support — Work

Systems with work in hand.  Some of the events, the *inner* ones, are the system's own: each does a
part of the work that is in hand, and the other events add none.

* `Run.work_done`: along a run the inner events do no more than the work there was.
* `Run.drain`: from any state, inner events lead to one in which none is enabled.

Nothing here mentions a particular system.
-/

namespace Transition

variable {σ ε : Type*}

/-- `work` counts what inner events have left to do: each admitted inner event does a part of it,
and no admitted event adds any. -/
structure Works (step : σ → ε → Option σ) (G : σ → ε → Prop) (inner : ε → Bool) (work : σ → Nat) :
    Prop where
  inner : ∀ s e s', G s e → step s e = some s' → inner e = true → work s' < work s
  outer : ∀ s e s', G s e → step s e = some s' → work s' ≤ work s

/-- No inner event is enabled. -/
def Stuck (step : σ → ε → Option σ) (inner : ε → Bool) (s : σ) : Prop :=
  ∀ e, inner e = true → step s e = none

variable {step : σ → ε → Option σ} {G : σ → ε → Prop} {inner : ε → Bool} {work : σ → Nat}

namespace Run

/-- **The inner events of a run do no more than the work there was.** -/
theorem work_done (hw : Works step G inner work) {s s' : σ} {es : List ε}
    (h : Run step G s es s') : es.countP inner + work s' ≤ work s := by
  induction h with
  | refl s => simp
  | @more s s₁ s' e es g hs _ ih =>
      have houter := hw.outer _ _ _ g hs
      cases he : inner e with
      | false =>
          rw [List.countP_cons_of_neg (by simp [he])]
          omega
      | true =>
          have hinner := hw.inner _ _ _ g hs he
          rw [List.countP_cons_of_pos he]
          omega

/-- **The work can be done**: inner events lead to a state in which none is enabled. -/
theorem drain (hw : Works step G inner work) (hG : ∀ s e, inner e = true → G s e) (s : σ) :
    ∃ es s', Run step G s es s' ∧ (∀ e ∈ es, inner e = true) ∧ Stuck step inner s' := by
  induction hn : work s using Nat.strongRecOn generalizing s with
  | ind n ih =>
      by_cases hstuck : Stuck step inner s
      · exact ⟨[], s, .refl s, by simp, hstuck⟩
      · -- one inner event, and what is left by induction on the work
        simp only [Stuck, not_forall] at hstuck
        obtain ⟨e, he, hne⟩ := hstuck
        obtain ⟨s₁, hs⟩ := Option.ne_none_iff_exists'.mp hne
        have hlt : work s₁ < n := hn ▸ hw.inner _ _ _ (hG s e he) hs he
        obtain ⟨es, s', hrun, hall, hend⟩ := ih _ hlt s₁ rfl
        refine ⟨e :: es, s', .more (hG s e he) hs hrun, ?_, hend⟩
        rintro e' (_ | ⟨_, he'⟩)
        · exact he
        · exact hall e' he'

end Run

end Transition
