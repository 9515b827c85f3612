import SubstrateDevTemplate.Support.Runs
import SubstrateDevTemplate.Transfer.Steps

/-!
# Transfer — Balance

Whose balance is on the page.  The balance effect runs again when the account or the api changes,
and its cleanup stops the timer; a query that was sent before keeps its account and its api, and
writes its reply whenever that comes.

`record` keeps, beside the page, the query that returned the balance, with what it returned.

* `UpToDate`: the balance is of the account selected on the current api, or a query for that
  account is under way.
* `step_upToDate_iff`: one event keeps that exactly when it is no late reply (`InTime`).
* `balance_belongs`: in every run without late replies, a balance that is there while no query is
  under way is the selected account's.
-/

namespace SubstrateDevTemplate.Transfer
open Service (ApiPromise)
open Transition (Run anyEvent traced)

/-- The query is for the account selected, on the current api. -/
def Page.Current (p : Page) (f : Fetch) : Prop :=
  p.api = some f.api ∧ p.selectedAccount = f.selectedAccount

instance (p : Page) (f : Fetch) : Decidable (p.Current f) := inferInstanceAs (Decidable (_ ∧ _))

/-- A query for that account is among `fetches`. -/
def Page.Loading (p : Page) (fetches : List Fetch) : Prop := ∃ f ∈ fetches, p.Current f

instance (p : Page) (fetches : List Fetch) : Decidable (p.Loading fetches) :=
  inferInstanceAs (Decidable (∃ f ∈ fetches, _))

/-- The query that returned the balance, and the balance it returned. -/
def record (p : Page) (e : Event) (p' : Page) (source : Option (Fetch × Nat)) :
    Option (Fetch × Nat) :=
  if p'.balanceRaw = none then none
  else
    match e with
    | .fetched k (.ok (some free)) => (p.fetches[k]?).map fun f => (f, free)
    | _ => source

theorem record_none {p p' : Page} {e : Event} {source : Option (Fetch × Nat)}
    (h : p'.balanceRaw = none) : record p e p' source = none := if_pos h

/-- Only a reply with a balance changes the record. -/
theorem record_kept {p p' : Page} {e : Event} {source : Option (Fetch × Nat)}
    (h : p'.balanceRaw ≠ none) (he : ∀ k free, e ≠ .fetched k (.ok (some free))) :
    record p e p' source = source := by
  refine (if_neg h).trans ?_
  split
  · rename_i k free
    exact absurd rfl (he k free)
  · rfl

theorem record_fetched {p p' : Page} {k free : Nat} {f : Fetch} {source : Option (Fetch × Nat)}
    (h : p'.balanceRaw ≠ none) (hf : p.fetches[k]? = some f) :
    record p (.fetched k (.ok (some free))) p' source = some (f, free) := by
  have hmap : (p.fetches[k]?).map (fun f => (f, free)) = some (f, free) := by rw [hf]; rfl
  exact (if_neg h).trans hmap

/-- With no query under way, the balance is what a query for the account selected on the current api
returned; it is the one that a percentage is taken of. -/
def BalanceBelongs (s : Page × Option (Fetch × Nat)) : Prop :=
  s.1.fetches = [] → ∀ balance, s.1.balanceRaw = some balance →
    (∃ f, s.2 = some (f, balance) ∧ s.1.Current f) ∧
    ∀ percent, (s.1.setPercentage percent).amount =
      percentAmount balance s.1.tokenDecimals percent

/-- The balance was returned by a query for the account selected. -/
def OfSelected (s : Page × Option (Fetch × Nat)) : Prop := ∃ x ∈ s.2, s.1.Current x.1

instance (s : Page × Option (Fetch × Nat)) : Decidable (OfSelected s) :=
  inferInstanceAs (Decidable (∃ x ∈ s.2, s.1.Current x.1))

/-- There is no balance, or it is of the account selected, or a query for that is under way. -/
def UpToDate (s : Page × Option (Fetch × Nat)) : Prop :=
  s.1.balanceRaw = none ∨ OfSelected s ∨ s.1.Loading s.1.fetches

/-- No late reply: a balance that arrives is of the account selected, or another query for that is
still under way.  A reply without a balance leaves the one there is, so that has to be none, or of
the account selected, or again another query is under way. -/
def InTime (s : Page × Option (Fetch × Nat)) : Event → Prop
  | .fetched k (.ok (some _)) =>
      (∃ f ∈ s.1.fetches[k]?, s.1.Current f) ∨ s.1.Loading (s.1.fetches.eraseIdx k)
  | .fetched k (.ok none) =>
      s.1.balanceRaw = none ∨ OfSelected s ∨ s.1.Loading (s.1.fetches.eraseIdx k)
  | _ => True

instance (s : Page × Option (Fetch × Nat)) : (e : Event) → Decidable (InTime s e)
  | .fetched k (.ok (some _)) =>
      inferInstanceAs (Decidable ((∃ f ∈ s.1.fetches[k]?, s.1.Current f) ∨ _))
  | .fetched _ (.ok none) => inferInstanceAs (Decidable (_ ∨ _ ∨ _))
  | .fetched _ (.error _) => isTrue trivial
  | .context _ _ | .accountChange _ | .recipientChange _ | .amountChange _ | .percentage _
  | .refresh | .connectWallet | .walletEnabled _ _ | .walletListed _ _ | .submit
  | .injected _ _ | .sent _ _ | .notified _ _ => isTrue trivial

/-! ### The effects -/

namespace Page

/-- The balance is cleared, or a query for the account selected is sent. -/
theorem fetchBalance_balance (p : Page) :
    p.fetchBalance.balanceRaw = none ∨
      p.fetchBalance.balanceRaw = p.balanceRaw ∧ p.Loading p.fetchBalance.fetches := by
  unfold fetchBalance
  split
  · exact .inl rfl
  · rename_i api hapi
    split
    · exact .inl rfl
    · refine .inr ⟨rfl, _, List.mem_append_right _ (List.mem_singleton_self _), hapi, rfl⟩

theorem chainPropertiesEffect_balance (chain : ApiPromise → Chain) (p : Page) :
    (p.chainPropertiesEffect chain).balanceRaw = p.balanceRaw ∧
      (p.chainPropertiesEffect chain).fetches = p.fetches := by
  unfold chainPropertiesEffect
  split
  · exact ⟨rfl, rfl⟩
  · split
    · exact ⟨rfl, rfl⟩
    · split
      · exact ⟨rfl, rfl⟩
      · exact ⟨rfl, rfl⟩
      · split
        · exact ⟨rfl, rfl⟩
        · exact ⟨rfl, rfl⟩

/-- The effects clear the balance, or send a query for the account selected; they do neither only
where the balance effect does not run. -/
theorem runEffects_balance (chain : ApiPromise → Chain) (balance properties : Bool) (p : Page) :
    (p.runEffects chain balance properties).balanceRaw = none ∨
      (p.runEffects chain balance properties).balanceRaw = p.balanceRaw ∧
        (p.Loading (p.runEffects chain balance properties).fetches ∨
          balance = false ∧ (p.runEffects chain balance properties).fetches = p.fetches) := by
  obtain ⟨q, hqdef⟩ : ∃ q, q = if balance then p.fetchBalance else p := ⟨_, rfl⟩
  obtain ⟨r, hrdef⟩ : ∃ r, r = if properties then q.chainPropertiesEffect chain else q := ⟨_, rfl⟩
  have hq : q.balanceRaw = none ∨ q.balanceRaw = p.balanceRaw ∧
      (p.Loading q.fetches ∨ balance = false ∧ q.fetches = p.fetches) := by
    rw [hqdef]
    cases balance with
    | false => exact .inr ⟨rfl, .inr ⟨rfl, rfl⟩⟩
    | true => exact p.fetchBalance_balance.imp_right fun h => ⟨h.1, .inl h.2⟩
  have hr : r.balanceRaw = q.balanceRaw ∧ r.fetches = q.fetches := by
    rw [hrdef]
    cases properties with
    | false => exact ⟨rfl, rfl⟩
    | true => exact q.chainPropertiesEffect_balance chain
  have hqp : q.api = p.api ∧ q.selectedAccount = p.selectedAccount := by
    obtain ⟨a, ha⟩ := p.fetchBalance_eq
    rw [hqdef, ha]
    cases balance with
    | false => exact ⟨rfl, rfl⟩
    | true => exact ⟨rfl, rfl⟩
  have hrp : r.api = p.api ∧ r.selectedAccount = p.selectedAccount := by
    obtain ⟨a, ha⟩ := q.chainPropertiesEffect_eq chain
    rw [hrdef, ha]
    cases properties with
    | false => exact hqp
    | true => exact hqp
  have hloading : ∀ fetches, r.Loading fetches ↔ p.Loading fetches := by
    intro fetches
    simp only [Loading, Current, hrp]
  rw [← hr.1, ← hr.2] at hq
  have hrun : p.runEffects chain balance properties =
      if r.tokenSymbol = p.tokenSymbol ∧ r.tokenDecimals = p.tokenDecimals then r
      else r.fetchBalance := by
    rw [hrdef, hqdef]
    rfl
  rw [hrun]
  split
  · exact hq
  · rcases r.fetchBalance_balance with h | ⟨h, hload⟩
    · exact .inl h
    · rw [h]
      exact hq.imp_right fun hq => ⟨hq.1, .inl ((hloading _).mp hload)⟩

end Page

section
variable {chain : ApiPromise → Chain} {formatBalance : Nat → String → Nat → String}

/-- Where nothing that the effects depend on has changed, none runs. -/
theorem flush_same {before p : Page} (h : p.balanceDeps = before.balanceDeps) :
    flush chain before p = p := by
  have hapi : p.api = before.api := congrArg Prod.fst h
  have hready : p.isApiReady = before.isApiReady := congrArg (fun d => d.2.1) h
  simp [flush, Page.runEffects, h, hapi, hready]

/-- A submission's start leaves the balance alone. -/
theorem handleSubmit_balance (p : Page) : (p.handleSubmit chain).balanceRaw = p.balanceRaw ∧
    (p.handleSubmit chain).fetches = p.fetches := by
  unfold Page.handleSubmit
  split
  · exact ⟨rfl, rfl⟩
  · split
    · exact ⟨rfl, rfl⟩
    · split
      · exact ⟨rfl, rfl⟩
      · split
        · exact ⟨rfl, rfl⟩
        · exact ⟨rfl, rfl⟩

theorem injected_balance (p : Page) (k : Nat) (t : Submission) (r : Except String Unit) :
    (p.injected chain k t r).balanceRaw = p.balanceRaw ∧
      (p.injected chain k t r).fetches = p.fetches := by
  cases r with
  | error message => exact ⟨rfl, rfl⟩
  | ok u =>
      simp only [Page.injected]
      split
      · exact ⟨rfl, rfl⟩
      · exact ⟨rfl, rfl⟩

theorem sent_balance (p : Page) (k : Nat) (t : Submission) (r : Except String Unit) :
    (p.sent k t r).balanceRaw = p.balanceRaw ∧ (p.sent k t r).fetches = p.fetches := by
  cases r with
  | error message => exact ⟨rfl, rfl⟩
  | ok u => exact ⟨rfl, rfl⟩

theorem notified_balance (p : Page) (k : Nat) (t : Submission) (unsubs : Nat) (result : TxResult) :
    (p.notified chain k t unsubs result).balanceRaw = p.balanceRaw ∧
      (p.notified chain k t unsubs result).fetches = p.fetches := by
  unfold Page.notified
  split
  · exact ⟨rfl, rfl⟩
  · split
    · exact ⟨rfl, rfl⟩
    · split
      · exact ⟨rfl, rfl⟩
      · exact ⟨rfl, rfl⟩
  · exact ⟨rfl, rfl⟩

/-- An event that is no reply and no refresh leaves the balance to the effects. -/
theorem handle_balance {p p' : Page} {e : Event} (hf : ∀ k outcome, e ≠ .fetched k outcome)
    (hr : e ≠ .refresh) (h : handle chain formatBalance p e = some p') :
    p'.balanceRaw = p.balanceRaw ∧ p'.fetches = p.fetches := by
  cases hs : e.ofSubmission with
  | false =>
      have hb : e.ofBalance = false := by
        cases e with
        | fetched k outcome => exact absurd rfl (hf k outcome)
        | refresh => exact absurd rfl hr
        | _ => rfl
      have hsteady := handle_steady hs hb h
      exact ⟨hsteady.balanceRaw, hsteady.fetches⟩
  | true =>
      cases e with
      | submit =>
          obtain ⟨-, rfl⟩ := handle_submit h
          exact handleSubmit_balance p
      | injected k injector =>
          obtain ⟨t, source, -, -, rfl⟩ := handle_injected h
          exact injected_balance p k t injector
      | sent k unsub =>
          obtain ⟨t, account, -, -, rfl⟩ := handle_sent h
          exact sent_balance p k t unsub
      | notified k result =>
          obtain ⟨t, unsubs, -, -, rfl⟩ := handle_notified h
          exact notified_balance p k t unsubs result
      | _ => cases hs

/-! ### One event -/

variable {s s' : Page × Option (Fetch × Nat)}

/-- What is shown is what the record says was returned. -/
def Recorded (s : Page × Option (Fetch × Nat)) : Prop := s.1.balanceRaw = s.2.map Prod.snd

/-- A query changes nothing that the effects depend on. -/
theorem fetchBalance_balanceDeps (p : Page) : p.fetchBalance.balanceDeps = p.balanceDeps := by
  unfold Page.fetchBalance
  split
  · rfl
  · split
    · rfl
    · rfl

/-- An event that is no reply clears the balance, or leaves it; where the account or the api
changes, a query for the new one is sent. -/
theorem step_elsewhere {p p' : Page} {e : Event} (hf : ∀ k outcome, e ≠ .fetched k outcome)
    (h : step chain formatBalance p e = some p') :
    p'.balanceRaw = none ∨ p'.balanceRaw = p.balanceRaw ∧
      (p'.Loading p'.fetches ∨ p'.api = p.api ∧ p'.selectedAccount = p.selectedAccount ∧
        p'.fetches = p.fetches) := by
  obtain ⟨q, hq, hflush⟩ := Option.map_eq_some_iff.mp h
  by_cases hr : e = .refresh
  · subst hr
    cases hq
    obtain ⟨a, ha⟩ := p.fetchBalance_eq
    rw [flush_same (fetchBalance_balanceDeps p)] at hflush
    rw [← hflush]
    refine p.fetchBalance_balance.imp_right fun h => ⟨h.1, .inl ?_⟩
    have hload := h.2
    rw [ha] at hload ⊢
    exact hload
  · obtain ⟨hbal, hfetches⟩ := handle_balance hf hr hq
    obtain ⟨a, ha⟩ := flush_eq chain p q
    have hcurrent : ∀ fetches, p'.Loading fetches ↔ q.Loading fetches := by
      intro fetches
      rw [← hflush, ha]
      rfl
    rcases q.runEffects_balance chain (q.balanceDeps ≠ p.balanceDeps)
        (q.api ≠ p.api ∨ q.isApiReady ≠ p.isApiReady) with hn | ⟨heq, hload | ⟨hb, -⟩⟩
    · exact .inl (hflush ▸ hn)
    · refine .inr ⟨hflush ▸ heq.trans hbal, .inl ((hcurrent _).mpr ?_)⟩
      rw [← hflush]
      exact hload
    · have hdeps : q.balanceDeps = p.balanceDeps := not_not.mp (of_decide_eq_false hb)
      rw [flush_same hdeps] at hflush
      rw [← hflush]
      exact .inr ⟨hbal, .inr ⟨congrArg Prod.fst hdeps, congrArg (fun d => d.2.2.1) hdeps, hfetches⟩⟩

/-- The same with the record, which is cleared or left with the balance. -/
theorem traced_elsewhere {e : Event} (hf : ∀ k outcome, e ≠ .fetched k outcome)
    (h : traced (step chain formatBalance) record s e = some s') :
    s'.1.balanceRaw = none ∧ s'.2 = none ∨
      (s'.1.balanceRaw = s.1.balanceRaw ∧ (s.1.balanceRaw ≠ none → s'.2 = s.2)) ∧
        (s'.1.Loading s'.1.fetches ∨
          s'.1.api = s.1.api ∧ s'.1.selectedAccount = s.1.selectedAccount ∧
            s'.1.fetches = s.1.fetches) := by
  obtain ⟨hs, hsource⟩ := Transition.traced_eq_some.mp h
  rcases step_elsewhere hf hs with hn | ⟨heq, hload⟩
  · exact .inl ⟨hn, by rw [hsource, record_none hn]⟩
  · refine .inr ⟨⟨heq, fun hne => ?_⟩, hload⟩
    rw [hsource, record_kept (heq ▸ hne) fun k free => hf k _]

/-- A reply. -/
theorem traced_fetched {k : Nat} {outcome : Except String (Option Nat)}
    (h : traced (step chain formatBalance) record s (.fetched k outcome) = some s') :
    ∃ f, s.1.fetches[k]? = some f ∧ s'.1 = s.1.balanceFetched formatBalance k f outcome ∧
      s'.2 = record s.1 (.fetched k outcome) s'.1 s.2 := by
  obtain ⟨hs, hsource⟩ := Transition.traced_eq_some.mp h
  obtain ⟨q, hq, hflush⟩ := Option.map_eq_some_iff.mp hs
  obtain ⟨f, hf, rfl⟩ := Option.map_eq_some_iff.mp hq
  refine ⟨f, hf, ?_, hsource⟩
  rw [← hflush]
  refine flush_same ?_
  unfold Page.balanceFetched
  split
  · rfl
  · rfl
  · rfl

variable (formatBalance) in
/-- A reply without a balance leaves the one there is. -/
theorem balanceFetched_none (p : Page) (k : Nat) (f : Fetch) :
    (p.balanceFetched formatBalance k f (.ok none)).balanceRaw = p.balanceRaw := rfl

/-- It leaves the record of it too. -/
theorem record_unanswered {p : Page} {k : Nat} {f : Fetch} {source : Option (Fetch × Nat)}
    (h : p.balanceRaw ≠ none) :
    record p (.fetched k (.ok none)) (p.balanceFetched formatBalance k f (.ok none)) source =
      source :=
  record_kept h (by rintro k' free ⟨⟩)

/-- The record is kept. -/
theorem step_recorded {e : Event} (hI : Recorded s)
    (h : traced (step chain formatBalance) record s e = some s') : Recorded s' := by
  by_cases hf : ∃ k outcome, e = .fetched k outcome
  · obtain ⟨k, outcome, rfl⟩ := hf
    obtain ⟨f, hf, hp, hsource⟩ := traced_fetched h
    rw [Recorded, hsource, hp]
    cases outcome with
    | error message => rfl
    | ok free =>
        cases free with
        | some free =>
            have hne : (s.1.balanceFetched formatBalance k f (.ok (some free))).balanceRaw ≠ none :=
              nofun
            rw [record_fetched hne hf]
            rfl
        | none =>
            rw [balanceFetched_none]
            by_cases hn : s.1.balanceRaw = none
            · have hnone := (balanceFetched_none formatBalance s.1 k f).trans hn
              rw [record_none hnone, hn, Option.map_none]
            · rw [record_unanswered hn]
              exact hI
  · rcases traced_elsewhere (fun k outcome he => hf ⟨k, outcome, he⟩) h with ⟨hn, hsource⟩ |
        ⟨⟨heq, hsource⟩, -⟩
    · rw [Recorded, hn, hsource, Option.map_none]
    · by_cases hn : s.1.balanceRaw = none
      · have hnone : s'.2 = none := by
          obtain ⟨-, hrec⟩ := Transition.traced_eq_some.mp h
          rw [hrec, record_none (heq.trans hn)]
        rw [Recorded, heq, hn, hnone, Option.map_none]
      · rw [Recorded, heq, hsource hn]
        exact hI

/-- **One event**: the balance stays up to date exactly when the event is no late reply. -/
theorem step_upToDate_iff {e : Event} (hI : UpToDate s)
    (h : traced (step chain formatBalance) record s e = some s') :
    UpToDate s' ↔ InTime s e := by
  by_cases hf : ∃ k outcome, e = .fetched k outcome
  · obtain ⟨k, outcome, rfl⟩ := hf
    obtain ⟨f, hf, hp, hsource⟩ := traced_fetched h
    rw [UpToDate, OfSelected, hsource, hp]
    cases outcome with
    | error message => exact iff_of_true (.inl rfl) trivial
    | ok free =>
        cases free with
        | some free =>
            have hne : (s.1.balanceFetched formatBalance k f (.ok (some free))).balanceRaw ≠ none :=
              nofun
            rw [or_iff_right hne, record_fetched hne hf]
            simp only [InTime, hf, Option.mem_some_iff, exists_eq_left']
            exact Iff.rfl
        | none =>
            rw [balanceFetched_none]
            by_cases hn : s.1.balanceRaw = none
            · exact iff_of_true (.inl hn) (.inl hn)
            · rw [or_iff_right hn, record_unanswered hn, InTime, or_iff_right hn]
              exact Iff.rfl
  · have htrue : InTime s e := by
      cases e with
      | fetched k outcome => exact absurd ⟨k, outcome, rfl⟩ hf
      | _ => trivial
    refine iff_of_true ?_ htrue
    rcases traced_elsewhere (fun k outcome he => hf ⟨k, outcome, he⟩) h with ⟨hn, -⟩ |
        ⟨⟨heq, hsource⟩, hload | ⟨hapi, haccount, hfetches⟩⟩
    · exact .inl hn
    · exact .inr (.inr hload)
    · by_cases hn : s.1.balanceRaw = none
      · exact .inl (heq.trans hn)
      · have hcurrent : ∀ f, s'.1.Current f ↔ s.1.Current f := by
          intro f
          rw [Page.Current, Page.Current, hapi, haccount]
        rcases hI with hI | ⟨x, hx, hc⟩ | ⟨f, hf, hc⟩
        · exact absurd hI hn
        · exact .inr (.inl ⟨x, hsource hn ▸ hx, (hcurrent _).mpr hc⟩)
        · exact .inr (.inr ⟨f, hfetches ▸ hf, (hcurrent f).mpr hc⟩)

/-! ### Runs -/

theorem mount_balance (api : Option ApiPromise) (isApiReady : Bool) :
    (Page.mount chain api isApiReady).balanceRaw = none := by
  rcases (Page.init api isApiReady).runEffects_balance chain true true with h | ⟨h, -⟩
  · exact h
  · exact h

/-- **The balance is the selected account's**, where no query is under way, in every run without
late replies. -/
theorem balance_belongs {api : Option ApiPromise} {isApiReady : Bool} {es : List Event}
    (h : Run (traced (step chain formatBalance) record) InTime
      (.mount chain api isApiReady, none) es s) : BalanceBelongs s := by
  obtain ⟨hrec, hup⟩ := h.invariant (I := fun s => Recorded s ∧ UpToDate s)
    (fun _ _ _ hI g hs => ⟨step_recorded hI.1 hs, (step_upToDate_iff hI.2 hs).mpr g⟩)
    ⟨mount_balance api isApiReady, .inl (mount_balance api isApiReady)⟩
  intro hidle balance hbal
  refine ⟨?_, fun percent => ?_⟩
  · rcases hup with hn | ⟨x, hx, hc⟩ | ⟨f, hf, -⟩
    · rw [hbal] at hn
      cases hn
    · rw [Option.mem_def] at hx
      rw [Recorded, hbal, hx, Option.map_some, Option.some.injEq] at hrec
      exact ⟨x.1, by rw [hx, hrec], hc⟩
    · rw [hidle] at hf
      cases hf
  · rw [Page.setPercentage, hbal]

end

/-- A chain with nothing on it. -/
def bareChain (_ : ApiPromise) : Chain where
  chainProperties := .ok none
  balances := none
  transferError _ _ _ := none
  findMetaError _ _ := .error "Unable to find Error"

/-- Two accounts are connected, and the first is selected. -/
def twoAccounts : List Event :=
  [.connectWallet, .walletEnabled 0 (.ok 2),
    .walletListed 0 (.ok [⟨"5Alice", "polkadot-js"⟩, ⟨"5Bob", "polkadot-js"⟩])]

/-- The second account is selected once the first one's balance is there. -/
theorem awaited_balance_belongs :
    ∃ s, Run (traced (step bareChain fun free _ _ => toString free) record) InTime
        (.mount bareChain (some ⟨0, "ws://a"⟩) true, none)
        (twoAccounts ++ [.fetched 0 (.ok (some 10)), .accountChange "5Bob",
          .fetched 0 (.ok (some 20))]) s ∧
      BalanceBelongs s :=
  Transition.exists_run_and (by decide) fun _ h => balance_belongs h

/-- The first account's balance arrives last: it is shown as the second one's. -/
theorem late_balance_not_belongs :
    ¬ ∀ (chain : ApiPromise → Chain) (formatBalance : Nat → String → Nat → String)
      (api : Option ApiPromise) (isApiReady : Bool) (es : List Event)
      (s : Page × Option (Fetch × Nat)),
      Run (traced (step chain formatBalance) record) anyEvent
        (.mount chain api isApiReady, none) es s → BalanceBelongs s := by
  intro h
  obtain ⟨s, hr, hidle, hbal, hsource, haccount⟩ : ∃ s,
      Run (traced (step bareChain fun free _ _ => toString free) record) anyEvent
        (.mount bareChain (some ⟨0, "ws://a"⟩) true, none)
        (twoAccounts ++ [.accountChange "5Bob", .fetched 1 (.ok (some 20)),
          .fetched 0 (.ok (some 10))]) s ∧
      s.1.fetches = [] ∧ s.1.balanceRaw = some 10 ∧
        s.2 = some (⟨⟨0, "ws://a"⟩, "5Alice", "UNIT", 12⟩, 10) ∧ s.1.selectedAccount = "5Bob" :=
    Transition.exists_run (by decide)
  obtain ⟨⟨f, hf, -, hc⟩, -⟩ := h _ _ _ _ _ s hr hidle 10 hbal
  rw [hsource, Option.some.injEq, Prod.mk.injEq] at hf
  rw [haccount, ← hf.1] at hc
  revert hc
  decide

end SubstrateDevTemplate.Transfer
