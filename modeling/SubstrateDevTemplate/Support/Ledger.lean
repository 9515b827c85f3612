import Mathlib.Data.List.Perm.Subperm
import SubstrateDevTemplate.Support.Runs

/-!
# Support — Ledger

What the events of a run give out, against what they take in.  A state holds things; an event may
give one out and may take one in.  It is covered when what it gives out, with what is held after it,
is among what it takes in with what was held before, each thing as often at most.

* `outputs`: what is read off the events of a run.
* `Covers.flatMap_set`: where one part of the state is covered, so is the whole.
* `Run.covers`: what a run gives out is covered by what it takes in.

Nothing here mentions a particular system.
-/

namespace Transition

variable {σ ε α β : Type*}

/-- What `out` reads off the events `es` from `s`, in their order. -/
def outputs (step : σ → ε → Option σ) (out : σ → ε → Option α) : σ → List ε → List α
  | _, [] => []
  | s, e :: es => (out s e).toList ++ (step s e).elim [] fun s₁ => outputs step out s₁ es

/-- `given` and what is held after, `held'`, are among `taken` and what was held before, `held`. -/
def Covers (taken : Option α) (held : List α) (given : Option α) (held' : List α) : Prop :=
  (given.toList ++ held').Subperm (taken.toList ++ held)

namespace Covers
variable {taken given : Option α} {held held' : List α}

/-- Nothing is given out, and nothing more is held. -/
theorem of_subperm (taken : Option α) (h : held'.Subperm held) : Covers taken held none held' :=
  h.trans (List.sublist_append_right _ _).subperm

/-- Nothing is given out, and what is taken in is held. -/
theorem takes {new : Option α} (h : ∀ x ∈ new, taken = some x) (held : List α) :
    Covers taken held none (held ++ new.toList) := by
  have hle : new.toList.Subperm taken.toList := by
    cases new with
    | none => exact List.nil_subperm
    | some x => rw [h x rfl]
  have hcomm : (held ++ new.toList).Subperm (new.toList ++ held) := List.perm_append_comm.subperm
  exact hcomm.trans ((List.subperm_append_right held).mpr hle)

/-- What is given out was held, and is not any more. -/
theorem gives {held : Option α} (h : ∀ x ∈ given, held = some x) :
    Covers none held.toList given [] := by
  cases given with
  | none => exact List.nil_subperm
  | some x => rw [h x rfl]; exact List.Subperm.refl _

/-- What is held elsewhere is left alone. -/
theorem append_left (rest : List α) (h : Covers taken held given held') :
    Covers taken (rest ++ held) given (rest ++ held') :=
  ((List.perm_append_comm_assoc _ _ _).subperm.trans ((List.subperm_append_left rest).mpr h)).trans
    (List.perm_append_comm_assoc _ _ _).subperm

theorem append_right (rest : List α) (h : Covers taken held given held') :
    Covers taken (held ++ rest) given (held' ++ rest) := by
  have := (List.subperm_append_right rest).mpr h
  rwa [List.append_assoc, List.append_assoc] at this

/-- **One part of the state**, of a list of them, is covered: so is the state. -/
theorem flatMap_set {f : β → List α} {b b' : β} (h : Covers taken (f b) given (f b')) :
    ∀ {l : List β} {k : Nat}, l[k]? = some b →
      Covers taken (l.flatMap f) given ((l.set k b').flatMap f)
  | c :: l, 0, hk => by
      cases hk
      exact h.append_right (l.flatMap f)
  | c :: l, k + 1, hk => (flatMap_set h (l := l) hk).append_left (f c)

end Covers

/-- **A run gives out what it takes in**, or what was held at its start, each thing once: where
every admitted step is covered, so is the run. -/
theorem Run.covers {step : σ → ε → Option σ} {G : σ → ε → Prop} {I : σ → Prop}
    {taken given : σ → ε → Option α} {held : σ → List α}
    (hI : ∀ s e s', I s → G s e → step s e = some s' →
      I s' ∧ Covers (taken s e) (held s) (given s e) (held s'))
    {s s' : σ} {es : List ε} (h : Run step G s es s') (h₀ : I s) :
    (outputs step given s es ++ held s').Subperm (outputs step taken s es ++ held s) := by
  induction h with
  | refl s => exact List.Subperm.refl _
  | @more s s₁ s' e es g hs _ ih =>
      obtain ⟨h₁, hcovers⟩ := hI _ _ _ h₀ g hs
      rw [outputs, outputs, hs, Option.elim_some, Option.elim_some, List.append_assoc,
        List.append_assoc]
      -- the rest of the run by induction, then this step
      have hrest : ((given s e).toList ++ (outputs step given s₁ es ++ held s')).Subperm
          (outputs step taken s₁ es ++ ((given s e).toList ++ held s₁)) :=
        ((List.subperm_append_left _).mpr (ih h₁)).trans
          (List.perm_append_comm_assoc _ _ _).subperm
      have hstep : (outputs step taken s₁ es ++ ((given s e).toList ++ held s₁)).Subperm
          ((taken s e).toList ++ (outputs step taken s₁ es ++ held s)) :=
        ((List.subperm_append_left _).mpr hcovers).trans
          (List.perm_append_comm_assoc _ _ _).subperm
      exact hrest.trans hstep

end Transition
