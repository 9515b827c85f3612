import Mathlib.Algebra.Ring.Nat
import Mathlib.Data.List.Perm.Basic
import SubstrateDevTemplate.Support.Work
import SubstrateDevTemplate.Wallet.Definitions

/-!
# Wallet — the calls

Any number of calls of `connectWallet` and `connectAny` may overlap, and they share the module's two
variables.  What each caller gets is not mixed up by that: a call that is started settles once, in
the way of its kind.

* `step_moves`: an event starts a call, or lets one go on, or settles one.
* `accounted_step`: of each kind, as many calls have been started as are in flight or have settled.
* `works`: each `await` that completes leaves fewer of them.
* `calls_settle`: along every run, and from every state that one reaches.
-/

namespace SubstrateDevTemplate.Wallet
open Transition

/-- The kind of the call that settles so. -/
def Outcome.method : Outcome → Method
  | .connected _ | .rejected _ => .connectWallet
  | .accounts _ => .connectAny

@[simp] theorem outcome_method (method : Method) (result : Except String State) :
    (method.outcome result).method = method := by
  cases method with
  | connectWallet | connectAny => cases result <;> rfl

/-- A list of accounts that a caller gets is not empty. -/
def Outcome.Usable : Outcome → Prop
  | .connected value => value.accounts ≠ []
  | .accounts value => value ≠ []
  | .rejected _ => True

/-- `connectAny` has the development account to fall back on. -/
theorem usable_outcome {method : Method} {result : Except String State}
    (h : ∀ value, result = .ok value → value.accounts ≠ []) : (method.outcome result).Usable := by
  cases result with
  | ok value =>
      have hvalue := h value rfl
      cases method with
      | connectWallet | connectAny => exact hvalue
  | error message =>
      cases method with
      | connectWallet => trivial
      | connectAny => exact List.cons_ne_nil _ _

/-! ### One event -/

/-- A call is started, or goes on, or settles. -/
inductive Moves (c : Config) : Event → Config → Prop where
  | starts (method : Method) : Moves c (.call method)
      { c with calls := c.calls ++ [⟨method, .enabling⟩] }
  | goesOn {e : Event} {c' : Config} {method : Method} {rest : List Pending}
      (he : ∀ m, e ≠ .call m) (h : c.calls.Perm (⟨method, .enabling⟩ :: rest))
      (h' : c'.calls.Perm (⟨method, .listing⟩ :: rest)) (ho : c'.outcomes = c.outcomes) :
      Moves c e c'
  | settles {e : Event} {c' : Config} {q : Pending} {result : Except String State}
      (he : ∀ m, e ≠ .call m) (h : c.calls.Perm (q :: c'.calls))
      (ho : c'.outcomes = c.outcomes ++ [q.method.outcome result])
      (hresult : ∀ value, result = .ok value → value.accounts ≠ []) : Moves c e c'

section
variable {c c' : Config}

/-- The `k`-th call, taken out. -/
theorem perm_eraseIdx {l : List Pending} {k : Nat} {q : Pending} (h : l[k]? = some q) :
    l.Perm (q :: l.eraseIdx k) := by
  obtain ⟨hk, rfl⟩ := List.getElem?_eq_some_iff.mp h
  exact (List.getElem_cons_eraseIdx_perm hk).symm

/-- A call that settles with `web3Enable` rejects. -/
theorem enabled_rejects {s s' : State} {extensions : Except String (List InjectedExtension)}
    {result : Except String State} (h : enabled s extensions = (s', some result)) :
    ∃ message, result = .error message := by
  cases extensions with
  | error message => cases h; exact ⟨message, rfl⟩
  | ok values =>
      simp only [enabled] at h
      split at h
      · cases h; exact ⟨noExtension, rfl⟩
      · cases h

/-- A call that resolves has accounts. -/
theorem listed_accounts {s value : State} {accounts : Except String (List Account)}
    (h : (listed s accounts).2 = .ok value) : value.accounts ≠ [] := by
  cases accounts with
  | error message => cases h
  | ok values =>
      simp only [listed] at h
      split at h
      · cases h
      · rename_i hne
        cases h
        exact hne

/-- **What an event does to the calls.** -/
theorem step_moves {e : Event} (h : step c e = some c') : Moves c e c' := by
  cases e with
  | call method => cases h; exact .starts method
  | enabled k extensions =>
      simp only [step] at h
      split at h
      · rename_i method hk
        have hperm := perm_eraseIdx hk
        split at h
        · rename_i s result hen
          cases h
          obtain ⟨message, rfl⟩ := enabled_rejects hen
          exact .settles (by rintro m ⟨⟩) hperm rfl (by rintro value ⟨⟩)
        · cases h
          obtain ⟨hlt, -⟩ := List.getElem?_eq_some_iff.mp hk
          exact .goesOn (by rintro m ⟨⟩) hperm (List.set_perm_cons_eraseIdx hlt _) rfl
      · cases h
  | listed k accounts =>
      simp only [step] at h
      split at h
      · rename_i method hk
        cases h
        exact .settles (by rintro m ⟨⟩) (perm_eraseIdx hk) rfl fun value hv => listed_accounts hv
      · cases h

/-! ### The accounts -/

/-- The calls of a kind that are in flight, and those that have settled. -/
def Config.known (c : Config) (method : Method) : Nat :=
  c.calls.countP (fun q => q.method = method) + c.outcomes.countP fun o => o.method = method

/-- **Of each kind, a call is known of from its start on**, and from no other event. -/
theorem known_step {e : Event} (h : step c e = some c') (method : Method) :
    c'.known method = c.known method + if e = .call method then 1 else 0 := by
  cases step_moves h with
  | starts m =>
      simp only [Config.known, List.countP_append, List.countP_singleton, decide_eq_true_eq,
        Event.call.injEq]
      omega
  | goesOn he h h' ho =>
      rw [if_neg (he method), Config.known, Config.known, h.countP_eq, h'.countP_eq, ho]
      simp only [List.countP_cons]
      rfl
  | settles he h ho hresult =>
      rw [if_neg (he method), Config.known, Config.known, h.countP_eq, ho]
      simp only [List.countP_append, List.countP_cons, List.countP_nil, outcome_method]
      omega

/-- What a run has started, is in flight or has settled; and no caller gets an empty list. -/
structure Accounted (past : List Event) (c : Config) : Prop where
  started : ∀ method, past.count (.call method) = c.known method
  usable : ∀ o ∈ c.outcomes, o.Usable

theorem accounted_step {past : List Event} {e : Event} (hc : Accounted past c)
    (h : step c e = some c') : Accounted (e :: past) c' := by
  refine ⟨fun method => ?_, fun o ho => ?_⟩
  · rw [known_step h, List.count_cons, hc.started]
    simp only [beq_iff_eq]
  · cases step_moves h with
    | starts m => exact hc.usable o ho
    | goesOn he h h' ho' => rw [ho'] at ho; exact hc.usable o ho
    | settles he h ho' hresult =>
        rw [ho', List.mem_append, List.mem_singleton] at ho
        rcases ho with ho | rfl
        · exact hc.usable o ho
        · exact usable_outcome hresult

/-! ### The work in hand -/

/-- An `await` completes. -/
def Event.completes : Event → Bool
  | .call _ => false
  | .enabled _ _ | .listed _ _ => true

/-- No call is started. -/
def StartsNone (_ : Config) (e : Event) : Prop := e.completes = true

instance (c : Config) (e : Event) : Decidable (StartsNone c e) :=
  inferInstanceAs (Decidable (_ = _))

/-- The `await`s a call has before it. -/
def Stage.awaits : Stage → Nat
  | .enabling => 2
  | .listing => 1

/-- The `await`s the calls in flight have before them. -/
def Config.work (c : Config) : Nat := (c.calls.map fun q => q.stage.awaits).sum

theorem awaits_pos (stage : Stage) : 0 < stage.awaits := by
  cases stage with
  | enabling | listing => decide

theorem work_lt {e : Event} (hg : e.completes = true) (h : step c e = some c') :
    c'.work < c.work := by
  cases step_moves h with
  | starts m => cases hg
  | goesOn he h h' ho =>
      rw [Config.work, Config.work, (h.map _).sum_nat, (h'.map _).sum_nat]
      simp [Stage.awaits]
  | @settles _ _ q result he h ho hresult =>
      rw [Config.work, Config.work, (h.map _).sum_nat, List.map_cons, List.sum_cons]
      have := awaits_pos q.stage
      omega

theorem works : Works step StartsNone Event.completes Config.work :=
  ⟨fun _ _ _ _ h he => work_lt he h, fun _ _ _ hg h => Nat.le_of_lt (work_lt hg h)⟩

/-- The `await` of a call in flight can complete. -/
theorem calls_of_stuck (h : Stuck step Event.completes c) : c.calls = [] := by
  cases hc : c.calls with
  | nil => rfl
  | cons q l =>
      obtain ⟨method, stage⟩ := q
      cases stage with
      | enabling =>
          have := h (.enabled 0 (.error "")) rfl
          simp [step, hc, enabled] at this
      | listing =>
          have := h (.listed 0 (.error "")) rfl
          simp [step, hc] at this

/-- **Every call settles once**, in the way of its kind: as many calls of each kind have been
started as are in flight or have settled, `connectAny` with a list that is not empty; and from there
the calls in flight settle, in any order, within the `await`s they have before them. -/
theorem calls_settle {es : List Event} (h : Run step anyEvent .load es c) :
    (∀ method, es.count (.call method) =
      c.calls.countP (fun q => q.method = method) + c.outcomes.countP fun o => o.method = method) ∧
    (∀ o ∈ c.outcomes, o.method = .connectAny → ∃ accounts, o = .accounts accounts ∧ accounts ≠ []) ∧
    (∀ es' c', Run step StartsNone c es' c' →
      es'.countP Event.completes + c'.work ≤ c.work ∧ (Stuck step Event.completes c' → c'.calls = [])) ∧
    ∃ es' c', Run step StartsNone c es' c' ∧ c'.calls = [] := by
  have hc : Accounted es.reverse c := by
    have hstart : Accounted [] .load := ⟨fun method => rfl, by rintro o ⟨⟩⟩
    have := h.invariant_history (fun _ _ _ _ hI _ hs => accounted_step hI hs) hstart
    rwa [List.append_nil] at this
  refine ⟨fun method => ?_, fun o ho hm => ?_, fun es' c' h' =>
    ⟨h'.work_done works, calls_of_stuck⟩, ?_⟩
  · rw [← List.count_reverse]
    exact hc.started method
  · have hu := hc.usable o ho
    cases o with
    | connected value | rejected message => cases hm
    | accounts value => exact ⟨value, rfl, hu⟩
  · obtain ⟨es', c', h', -, hstuck⟩ := Run.drain works (fun _ _ he => he) c
    exact ⟨es', c', h', calls_of_stuck hstuck⟩

end

/-- Two calls overlap; the extensions go away between their answers, and `connectAny` falls back. -/
theorem calls_settle_overlap :
    ∃ c, Run step anyEvent .load
        [.call .connectWallet, .call .connectAny, .enabled 0 (.ok [⟨"polkadot-js", "0.46"⟩]),
          .enabled 1 (.ok []), .listed 0 (.ok [⟨"5Grw", none, some "polkadot-js"⟩])] c ∧
      ∀ o ∈ c.outcomes, o.method = .connectAny → ∃ accounts, o = .accounts accounts ∧ accounts ≠ [] :=
  exists_run_and (by decide) fun _ h => (calls_settle h).2.1

end SubstrateDevTemplate.Wallet
