import Mathlib.Data.List.Basic

/-!
# Support — Promises

A promise that several listeners may settle: the first that does settles it, and what the others
call afterwards changes nothing.  `settle` is one such call, `race` a sequence of them; a listener
that does not settle the promise leaves it to the next.

* `settle_assoc`, `settle_settled`: `settle` keeps what is settled.
* `race_concat`: one more call after a sequence of them.
* `race_map_settled`: what settled the promise, and that nothing before it did.

Nothing here mentions a particular promise.
-/

namespace Js

/-- A promise; a rejection carries the message of its error. -/
inductive Promise (α : Type*) where
  | pending
  | fulfilled (value : α)
  | rejected (message : String)
  deriving DecidableEq

namespace Promise
variable {α β : Type*}

/-- It is pending no more. -/
def Settled (p : Promise α) : Prop := p ≠ .pending

instance [DecidableEq α] (p : Promise α) : Decidable p.Settled :=
  inferInstanceAs (Decidable (_ ≠ _))

theorem fulfilled_settled (value : α) : (fulfilled value).Settled := by rintro ⟨⟩

theorem rejected_settled (message : String) : (rejected message : Promise α).Settled := by
  rintro ⟨⟩

/-- `resolve` or `reject` is called, with what `q` is, or neither. -/
def settle : Promise α → Promise α → Promise α
  | .pending, q => q
  | p, _ => p

@[simp] theorem pending_settle (q : Promise α) : settle .pending q = q := rfl

@[simp] theorem settle_pending (p : Promise α) : p.settle .pending = p := by
  cases p with
  | pending | fulfilled | rejected => rfl

/-- A settled promise stays as it is. -/
theorem settle_settled {p : Promise α} (h : p.Settled) (q : Promise α) : p.settle q = p := by
  cases p with
  | pending => exact absurd rfl h
  | fulfilled | rejected => rfl

theorem settle_eq_pending {p q : Promise α} :
    p.settle q = .pending ↔ p = .pending ∧ q = .pending := by
  cases p with
  | pending => exact (and_iff_right rfl).symm
  | fulfilled | rejected => exact iff_of_false nofun (fun h => nomatch h.1)

theorem settle_assoc (p q r : Promise α) : (p.settle q).settle r = p.settle (q.settle r) := by
  cases p with
  | pending | fulfilled | rejected => rfl

/-! ### Calls one after the other -/

/-- The promise, after all of `ps` have been called for. -/
def race (ps : List (Promise α)) : Promise α := ps.foldl settle .pending

@[simp] theorem race_nil : race ([] : List (Promise α)) = .pending := rfl

theorem race_concat (ps : List (Promise α)) (p : Promise α) :
    race (ps ++ [p]) = (race ps).settle p := List.foldl_concat ..

theorem foldl_settle (ps : List (Promise α)) : ∀ p : Promise α,
    ps.foldl settle p = p.settle (race ps) := by
  induction ps with
  | nil => exact fun p => p.settle_pending.symm
  | cons q ps ih =>
      intro p
      rw [race, List.foldl_cons, List.foldl_cons, pending_settle, ih (p.settle q), ih q,
        settle_assoc]

theorem race_cons (p : Promise α) (ps : List (Promise α)) : race (p :: ps) = p.settle (race ps) :=
  foldl_settle ps p

/-- **What settled the promise**, and that nothing before it did. -/
theorem race_map_settled {f : β → Promise α} {xs : List β} (h : (race (xs.map f)).Settled) :
    ∃ before x after, xs = before ++ x :: after ∧ f x = race (xs.map f) ∧
      ∀ y ∈ before, f y = .pending := by
  induction xs with
  | nil => exact absurd rfl h
  | cons x xs ih =>
      rw [List.map_cons, race_cons] at h ⊢
      by_cases hx : f x = .pending
      · rw [hx, pending_settle] at h ⊢
        obtain ⟨before, y, after, rfl, hy, hbefore⟩ := ih h
        refine ⟨x :: before, y, after, rfl, hy, fun z hz => ?_⟩
        rcases List.mem_cons.mp hz with rfl | hz
        · exact hx
        · exact hbefore z hz
      · refine ⟨[], x, xs, rfl, (settle_settled hx _).symm, ?_⟩
        rintro y ⟨⟩

end Promise

end Js
