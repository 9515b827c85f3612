import SubstrateDevTemplate.Support.Runs
import SubstrateDevTemplate.Extrinsics.Definitions

/-!
# Submission — Protocol

What the Transfer page and the Extrinsics page both set out to do with a submission, apart from
what they show: it is started when none is under way, it gets an injector and is sent, or fails; it
is told statuses until a terminal one, and then it unsubscribes and the page is free again.

A `Desk` is what a page keeps of this, and `Step` the protocol, with the status an event delivers.

* `Step.ofStart`, `Step.ofInject`, …: the steps of a page that keeps its submissions in a list.
* `Lifecycle`: the page says that it is submitting exactly while a submission is under way, and each
  submission that has ended has unsubscribed once.
* `Inv.step`: the invariant, one case for each step.
* `lifecycle_of_run`: a page whose steps are the protocol's has its lifecycle.
-/

namespace SubstrateDevTemplate

/-- `result.isError`, of this status: the transaction is out of the pool and not in the chain. -/
def Extrinsics.Status.isError : Extrinsics.Status → Bool
  | .finalityTimeout | .usurped | .dropped | .invalid => true
  | _ => false

/-- No status follows this one. -/
def Extrinsics.Status.isTerminal : Extrinsics.Status → Bool
  | .finalized _ => true
  | status => status.isError

theorem Extrinsics.Status.isError_eq_false {status : Extrinsics.Status}
    (h : status.isTerminal = false) : status.isError = false := by
  cases status with
  | finalized hash => cases h
  | _ => exact h

namespace Submission
open Extrinsics (Status SubmissionStage)

/-! ### Deliveries -/

/-- A status, and the submission it is told to. -/
structure Delivery where
  submission : Nat
  status : Status
  deriving DecidableEq

/-- The submission `k` has been told a terminal status. -/
def Ended (ds : List Delivery) (k : Nat) : Prop :=
  ∃ d ∈ ds, d.submission = k ∧ d.status.isTerminal = true

/-- Nothing is told to a submission that has ended.  The latest delivery comes first. -/
def Deliverable (ds : List Delivery) : Prop :=
  ds.Pairwise fun later earlier =>
    later.submission = earlier.submission → earlier.status.isTerminal = false

instance (ds : List Delivery) : Decidable (Deliverable ds) :=
  inferInstanceAs (Decidable (List.Pairwise _ _))

variable {ds : List Delivery} {j k : Nat}

theorem ended_cons {d : Delivery} :
    Ended (d :: ds) k ↔ d.submission = k ∧ d.status.isTerminal = true ∨ Ended ds k := by
  simp only [Ended, List.mem_cons, or_and_right, exists_or, exists_eq_left]

/-- A status that is not terminal ends nothing. -/
theorem ended_cons_of_open {d : Delivery} (h : d.status.isTerminal = false) :
    Ended (d :: ds) k ↔ Ended ds k := by
  rw [ended_cons, h, or_iff_right (by simp)]

theorem Deliverable.not_ended {d : Delivery} (h : Deliverable (d :: ds)) :
    ¬ Ended ds d.submission := by
  rintro ⟨e, he, hsub, hterm⟩
  have := (List.pairwise_cons.mp h).1 e he hsub.symm
  rw [this] at hterm
  cases hterm

/-! ### The protocol -/

/-- What a page has of its submissions. -/
structure Desk where
  isSubmitting : Bool
  stages : List SubmissionStage

/-- One step of the protocol, and what it delivers. -/
inductive Step : Desk → Option Delivery → Desk → Prop where
  | other (s : Desk) : Step s none s
  | start (stages : List SubmissionStage) (source : String) :
      Step ⟨false, stages⟩ none ⟨true, stages ++ [.injecting source]⟩
  | inject {b : Bool} {stages : List SubmissionStage} {k : Nat} {source : String}
      (h : stages[k]? = some (.injecting source)) (account : String) :
      Step ⟨b, stages⟩ none ⟨b, stages.set k (.sending account)⟩
  | subscribe {b : Bool} {stages : List SubmissionStage} {k : Nat} {account : String}
      (h : stages[k]? = some (.sending account)) :
      Step ⟨b, stages⟩ none ⟨b, stages.set k (.subscribed 0)⟩
  | failInject {b : Bool} {stages : List SubmissionStage} {k : Nat} {source : String}
      (h : stages[k]? = some (.injecting source)) :
      Step ⟨b, stages⟩ none ⟨false, stages.set k .failed⟩
  | failSend {b : Bool} {stages : List SubmissionStage} {k : Nat} {account : String}
      (h : stages[k]? = some (.sending account)) :
      Step ⟨b, stages⟩ none ⟨false, stages.set k .failed⟩
  | tell {b : Bool} {stages : List SubmissionStage} {k unsubs : Nat} {status : Status}
      (h : stages[k]? = some (.subscribed unsubs)) (hs : status.isTerminal = false) :
      Step ⟨b, stages⟩ (some ⟨k, status⟩) ⟨b, stages⟩
  | finish {b : Bool} {stages : List SubmissionStage} {k unsubs : Nat} {status : Status}
      (h : stages[k]? = some (.subscribed unsubs)) (hs : status.isTerminal = true) :
      Step ⟨b, stages⟩ (some ⟨k, status⟩) ⟨false, stages.set k (.subscribed (unsubs + 1))⟩

/-! ### A list of submissions -/

namespace Step
variable {α : Type*} {stage : α → SubmissionStage} {b : Bool} {xs : List α} {k : Nat} {x x' : α}

/-- The stage of one of them is on the desk. -/
theorem stages_getElem? {t : SubmissionStage} (hx : xs[k]? = some x) (hs : stage x = t) :
    (xs.map stage)[k]? = some t := by
  rw [List.getElem?_map, hx, Option.map_some, hs]

theorem ofStart {source : String} (hx' : stage x' = .injecting source) :
    Step ⟨false, xs.map stage⟩ none ⟨true, (xs ++ [x']).map stage⟩ := by
  rw [List.map_append, List.map_singleton, hx']
  exact .start _ source

theorem ofInject {source account : String} (hx : xs[k]? = some x) (hs : stage x = .injecting source)
    (hx' : stage x' = .sending account) :
    Step ⟨b, xs.map stage⟩ none ⟨b, (xs.set k x').map stage⟩ := by
  rw [List.map_set, hx']
  exact .inject (stages_getElem? hx hs) account

theorem ofFailInject {source : String} (hx : xs[k]? = some x) (hs : stage x = .injecting source)
    (hx' : stage x' = .failed) :
    Step ⟨b, xs.map stage⟩ none ⟨false, (xs.set k x').map stage⟩ := by
  rw [List.map_set, hx']
  exact .failInject (stages_getElem? hx hs)

/-- `signAndSend` has settled: the submission has failed, or is subscribed. -/
theorem ofSent {account : String} {b' : Bool} (hx : xs[k]? = some x)
    (hs : stage x = .sending account)
    (hx' : stage x' = .failed ∧ b' = false ∨ stage x' = .subscribed 0 ∧ b' = b) :
    Step ⟨b, xs.map stage⟩ none ⟨b', (xs.set k x').map stage⟩ := by
  have hk := stages_getElem? hx hs
  rw [List.map_set]
  rcases hx' with ⟨hx', rfl⟩ | ⟨hx', rfl⟩
  · rw [hx']
    exact .failSend hk
  · rw [hx']
    exact .subscribe hk

theorem ofTell {unsubs : Nat} {status : Status} (hx : xs[k]? = some x)
    (hs : stage x = .subscribed unsubs) (ht : status.isTerminal = false) :
    Step ⟨b, xs.map stage⟩ (some ⟨k, status⟩) ⟨b, xs.map stage⟩ :=
  .tell (stages_getElem? hx hs) ht

theorem ofFinish {unsubs : Nat} {status : Status} (hx : xs[k]? = some x)
    (hs : stage x = .subscribed unsubs) (hx' : stage x' = .subscribed (unsubs + 1))
    (ht : status.isTerminal = true) :
    Step ⟨b, xs.map stage⟩ (some ⟨k, status⟩) ⟨false, (xs.set k x').map stage⟩ := by
  rw [List.map_set, hx']
  exact .finish (stages_getElem? hx hs) ht

/-- What leaves the desk as it is, and delivers nothing. -/
theorem ofOther {s s' : Desk} {d : Option Delivery} (hs : s' = s) (hd : d = none) :
    Step s d s' := by
  subst hs hd
  exact .other _

end Step

/-! ### The lifecycle -/

/-- The submission `k` has been started, and has neither failed nor ended. -/
def Active (s : Desk) (ds : List Delivery) (k : Nat) : Prop :=
  (∃ stage, s.stages[k]? = some stage ∧ stage ≠ .failed) ∧ ¬ Ended ds k

/-- What the page says of its submissions is so. -/
structure Lifecycle (s : Desk) (ds : List Delivery) : Prop where
  submitting : s.isSubmitting = true ↔ ∃ k, Active s ds k
  unsubscribed : ∀ k, Ended ds k → s.stages[k]? = some (.subscribed 1)

/-- The lifecycle, with what keeps it: no submission unsubscribes before it has ended, and no two
are under way. -/
structure Inv (s : Desk) (ds : List Delivery) : Prop extends Lifecycle s ds where
  subscribed : ∀ k unsubs, s.stages[k]? = some (.subscribed unsubs) → ¬ Ended ds k → unsubs = 0
  single : ∀ j k, Active s ds j → Active s ds k → j = k

theorem Inv.init : Inv ⟨false, []⟩ [] where
  submitting := by
    refine iff_of_false (by simp) ?_
    rintro ⟨k, ⟨stage, h, -⟩, -⟩
    cases h
  unsubscribed := by
    rintro k ⟨d, hd, -⟩
    cases hd
  subscribed := by
    intro k unsubs h
    cases h
  single := by
    rintro j k ⟨⟨stage, h, -⟩, -⟩
    cases h

namespace Inv
variable {b : Bool} {stages : List SubmissionStage}

/-- A submission that has not unsubscribed has not ended. -/
theorem not_ended {s : Desk} (h : Inv s ds) {stage : SubmissionStage}
    (hk : s.stages[k]? = some stage) (hs : stage ≠ .subscribed 1) : ¬ Ended ds k := by
  intro he
  rw [h.unsubscribed k he, Option.some.injEq] at hk
  exact hs hk.symm

/-- A submission that moves on, and neither fails nor ends, stays under way. -/
theorem moved (h : Inv ⟨b, stages⟩ ds) {stage stage' : SubmissionStage}
    (hk : stages[k]? = some stage) (hs : stage ≠ .failed) (hs' : stage' ≠ .failed)
    (hns : stage ≠ .subscribed 1) (hzero : ∀ unsubs, stage' = .subscribed unsubs → unsubs = 0) :
    Inv ⟨b, stages.set k stage'⟩ ds := by
  have hend : ¬ Ended ds k := h.not_ended hk hns
  have hlt := (List.getElem?_eq_some_iff.mp hk).1
  have hactive : ∀ j, Active ⟨b, stages.set k stage'⟩ ds j ↔ Active ⟨b, stages⟩ ds j := by
    intro j
    refine and_congr_left fun _ => ?_
    by_cases hj : j = k
    · subst hj
      refine iff_of_true ⟨stage', ?_, hs'⟩ ⟨stage, hk, hs⟩
      exact List.getElem?_set_self hlt
    · simp only [List.getElem?_set_ne (Ne.symm hj)]
  constructor
  · constructor
    · simp only [hactive]
      exact h.submitting
    · intro j hj
      have hne : j ≠ k := fun he => hend (he ▸ hj)
      rw [List.getElem?_set_ne hne.symm]
      exact h.unsubscribed j hj
  · intro j unsubs hj hnot
    by_cases hjk : j = k
    · subst hjk
      rw [List.getElem?_set_self hlt, Option.some.injEq] at hj
      exact hzero unsubs hj
    · rw [List.getElem?_set_ne (Ne.symm hjk)] at hj
      exact h.subscribed j unsubs hj hnot
  · intro i j hi hj
    exact h.single i j ((hactive i).mp hi) ((hactive j).mp hj)

/-- The one submission under way comes to its end, and the page is free. -/
theorem closed (h : Inv ⟨b, stages⟩ ds) {ds' : List Delivery} {stage stage' : SubmissionStage}
    (hk : stages[k]? = some stage) (hs : stage ≠ .failed) (hend : ¬ Ended ds k)
    (hds : ∀ j, j ≠ k → (Ended ds' j ↔ Ended ds j))
    (hclosed : stage' = .failed ∧ ¬ Ended ds' k ∨ stage' = .subscribed 1 ∧ Ended ds' k) :
    Inv ⟨false, stages.set k stage'⟩ ds' := by
  have hlt := (List.getElem?_eq_some_iff.mp hk).1
  have hnone : ∀ j, ¬ Active ⟨false, stages.set k stage'⟩ ds' j := by
    rintro j ⟨⟨t, ht, hf⟩, hne⟩
    by_cases hj : j = k
    · subst hj
      rw [List.getElem?_set_self hlt, Option.some.injEq] at ht
      rcases hclosed with ⟨hfail, -⟩ | ⟨-, he⟩
      · exact hf (ht.symm.trans hfail)
      · exact hne he
    · rw [List.getElem?_set_ne (Ne.symm hj)] at ht
      exact hj (h.single j k ⟨⟨t, ht, hf⟩, mt (hds j hj).mpr hne⟩ ⟨⟨stage, hk, hs⟩, hend⟩)
  constructor
  · constructor
    · exact iff_of_false (by simp) fun ⟨j, hj⟩ => hnone j hj
    · intro j hj
      by_cases hjk : j = k
      · subst hjk
        rcases hclosed with ⟨-, he⟩ | ⟨rfl, -⟩
        · exact absurd hj he
        · exact List.getElem?_set_self hlt
      · rw [List.getElem?_set_ne (Ne.symm hjk)]
        exact h.unsubscribed j ((hds j hjk).mp hj)
  · intro j unsubs hj hnot
    by_cases hjk : j = k
    · subst hjk
      rw [List.getElem?_set_self hlt, Option.some.injEq] at hj
      rcases hclosed with ⟨rfl, -⟩ | ⟨-, he⟩
      · cases hj
      · exact absurd he hnot
    · rw [List.getElem?_set_ne (Ne.symm hjk)] at hj
      exact h.subscribed j unsubs hj (mt (hds j hjk).mpr hnot)
  · intro i j hi
    exact absurd hi (hnone i)

/-- A submission is started only where none is under way. -/
theorem started (h : Inv ⟨false, stages⟩ ds) (source : String) :
    Inv ⟨true, stages ++ [.injecting source]⟩ ds := by
  have hnone : ∀ j, ¬ Active ⟨false, stages⟩ ds j := by
    intro j hj
    cases h.submitting.mpr ⟨j, hj⟩
  have hold : ∀ j, j ≠ stages.length →
      (stages ++ [SubmissionStage.injecting source])[j]? = stages[j]? := by
    intro j hj
    by_cases hlt : j < stages.length
    · exact List.getElem?_append_left hlt
    · rw [List.getElem?_eq_none (l := stages) (by omega), List.getElem?_eq_none]
      rw [List.length_append, List.length_singleton]
      omega
  have hnew : (stages ++ [SubmissionStage.injecting source])[stages.length]? =
      some (.injecting source) := List.getElem?_concat_length
  have hend : ¬ Ended ds stages.length := by
    intro he
    have := h.unsubscribed _ he
    rw [List.getElem?_eq_none (Nat.le_refl _)] at this
    cases this
  have hactive : ∀ j, Active ⟨true, stages ++ [.injecting source]⟩ ds j ↔ j = stages.length := by
    intro j
    constructor
    · rintro ⟨⟨t, ht, hf⟩, hne⟩
      by_contra hj
      rw [hold j hj] at ht
      exact hnone j ⟨⟨t, ht, hf⟩, hne⟩
    · rintro rfl
      exact ⟨⟨_, hnew, by simp⟩, hend⟩
  constructor
  · constructor
    · exact iff_of_true rfl ⟨_, (hactive _).mpr rfl⟩
    · intro j hj
      have hne : j ≠ stages.length := fun he => hend (he ▸ hj)
      rw [hold j hne]
      exact h.unsubscribed j hj
  · intro j unsubs hj hnot
    by_cases hne : j = stages.length
    · subst hne
      rw [hnew] at hj
      cases hj
    · rw [hold j hne] at hj
      exact h.subscribed j unsubs hj hnot
  · intro i j hi hj
    exact ((hactive i).mp hi).trans ((hactive j).mp hj).symm

/-- A status that ends nothing changes nothing. -/
theorem told {s : Desk} (h : Inv s ds) {d : Delivery} (hd : d.status.isTerminal = false) :
    Inv s (d :: ds) := by
  have hended : ∀ j, Ended (d :: ds) j ↔ Ended ds j := fun j => ended_cons_of_open hd
  have hactive : ∀ j, Active s (d :: ds) j ↔ Active s ds j := by
    intro j
    rw [Active, Active, hended]
  constructor
  · constructor
    · simp only [hactive]
      exact h.submitting
    · intro j hj
      exact h.unsubscribed j ((hended j).mp hj)
  · intro j unsubs hj hnot
    exact h.subscribed j unsubs hj (mt (hended j).mpr hnot)
  · intro i j hi hj
    exact h.single i j ((hactive i).mp hi) ((hactive j).mp hj)

/-- **One step of the protocol keeps the lifecycle.** -/
theorem step {s s' : Desk} {d : Option Delivery} (h : Inv s ds)
    (hds : Deliverable (d.toList ++ ds)) (hstep : Step s d s') : Inv s' (d.toList ++ ds) := by
  cases hstep with
  | other => exact h
  | start stages source => exact h.started source
  | inject hk account => exact h.moved hk nofun nofun nofun nofun
  | subscribe hk =>
      refine h.moved hk nofun nofun nofun ?_
      intro unsubs hu
      exact (SubmissionStage.subscribed.inj hu).symm
  | failInject hk =>
      have hend := h.not_ended hk nofun
      exact h.closed hk nofun hend (fun _ _ => Iff.rfl) (.inl ⟨rfl, hend⟩)
  | failSend hk =>
      have hend := h.not_ended hk nofun
      exact h.closed hk nofun hend (fun _ _ => Iff.rfl) (.inl ⟨rfl, hend⟩)
  | tell hk hs => exact h.told hs
  | @finish b stages k unsubs status hk hs =>
      have hend : ¬ Ended ds k := hds.not_ended
      have hzero : unsubs = 0 := h.subscribed k unsubs hk hend
      refine h.closed hk nofun hend (fun j hj => ?_) (.inr ⟨by rw [hzero], ?_⟩)
      · rw [Option.toList_some, List.singleton_append, ended_cons, or_iff_right]
        exact fun hc => hj hc.1.symm
      · exact ended_cons.mpr (.inl ⟨rfl, hs⟩)

end Inv

/-! ### Runs -/

section
variable {π ε : Type*} {step : π → ε → Option π} {G : π → ε → Prop}
  {desk : π → Desk} {delivery : ε → Option Delivery}

/-- **A page whose steps are the protocol's has its lifecycle**, in every state of every run. -/
theorem lifecycle_of_run
    (hstep : ∀ p e p', G p e → step p e = some p' → Step (desk p) (delivery e) (desk p'))
    {p p' : π} {es : List ε} (h : Transition.Run step G p es p') (h₀ : desk p = ⟨false, []⟩)
    (hds : Deliverable (es.reverse.filterMap delivery)) :
    Lifecycle (desk p') (es.reverse.filterMap delivery) := by
  have hinv : Deliverable ((es.reverse ++ []).filterMap delivery) →
      Inv (desk p') ((es.reverse ++ []).filterMap delivery) := by
    refine h.invariant_history (I := fun past p => Deliverable (past.filterMap delivery) →
      Inv (desk p) (past.filterMap delivery)) ?_ (fun _ => h₀ ▸ Inv.init)
    intro past p e p₁ hI g hs hd
    have hcons : (e :: past).filterMap delivery =
        (delivery e).toList ++ past.filterMap delivery := by
      rw [List.filterMap_cons]
      cases delivery e <;> rfl
    rw [hcons] at hd ⊢
    exact (hI (List.pairwise_append.mp hd).2.1).step hd (hstep p e p₁ g hs)
  rw [List.append_nil] at hinv
  exact (hinv hds).toLifecycle

end

end Submission

end SubstrateDevTemplate
