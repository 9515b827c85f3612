import SubstrateDevTemplate.Support.Runs
import SubstrateDevTemplate.Transfer.Frames

/-!
# Transfer — the token

The symbol and the decimals of the token are read of each instance that is published ready.  Where a
chain's can be read, `rawAmount` is given its decimals when an amount is submitted to that chain,
whatever was connected before and whatever is published meanwhile.

* `chainPropertiesEffect_token`: the effect reads the token, where there is one to read.
* `handle_token`: no event but the context's changes the instance or the token.
* `token_of_chain`: the token shown is the chain's, and a submission has the decimals of the chain
  it goes to.

The invariant is `TokenHeld`.
-/

namespace SubstrateDevTemplate.Transfer
open Service (ApiPromise)
open Transition

/-- The token that can be read of a chain. -/
def Chain.token (chain : Chain) : Option (String × Nat) :=
  match chain.chainProperties with
  | .error _ | .ok none => none
  | .ok (some properties) =>
      match (properties.tokenSymbol.getD ["UNIT"])[0]?,
        (properties.tokenDecimals.getD [12])[0]? with
      | some tokenSymbol, some tokenDecimals => some (tokenSymbol, tokenDecimals)
      | _, _ => none

namespace Page

/-- The token the page has. -/
def token (p : Page) : String × Nat := (p.tokenSymbol, p.tokenDecimals)

/-- The token that can be read of the instance there is, if it is ready. -/
def chainToken (chain : ApiPromise → Chain) (p : Page) : Option (String × Nat) :=
  if p.isApiReady then p.api.bind fun api => (chain api).token else none

section
variable (chain : ApiPromise → Chain) (p : Page)

/-- **The effect** reads the token, where there is one to read. -/
theorem chainPropertiesEffect_token :
    (p.chainPropertiesEffect chain).token = (p.chainToken chain).getD p.token := by
  unfold chainPropertiesEffect chainToken
  cases hapi : p.api with
  | none => simp
  | some api =>
      cases hready : p.isApiReady with
      | false => rfl
      | true =>
          simp only [Bool.true_eq_false, if_false, if_true, Option.bind_some, Chain.token]
          cases (chain api).chainProperties with
          | error message => rfl
          | ok properties =>
              cases properties with
              | none => rfl
              | some properties =>
                  dsimp only
                  cases (properties.tokenSymbol.getD ["UNIT"])[0]? with
                  | none => rfl
                  | some tokenSymbol =>
                      cases (properties.tokenDecimals.getD [12])[0]? with
                      | none => rfl
                      | some tokenDecimals => rfl

/-- The balance effect leaves the token, and what the other effect reads. -/
theorem fetchBalance_token :
    p.fetchBalance.token = p.token ∧ p.fetchBalance.chainToken chain = p.chainToken chain := by
  unfold fetchBalance
  split
  · exact ⟨rfl, rfl⟩
  · split
    · exact ⟨rfl, rfl⟩
    · exact ⟨rfl, rfl⟩

/-- The effects set the token where the instance or its readiness has changed. -/
theorem runEffects_token (balance properties : Bool) :
    (p.runEffects chain balance properties).token =
      if properties then (p.chainToken chain).getD p.token else p.token := by
  have hbalance : ∀ q : Page, (if balance then q.fetchBalance else q).token = q.token ∧
      (if balance then q.fetchBalance else q).chainToken chain = q.chainToken chain := by
    intro q
    cases balance with
    | false => exact ⟨rfl, rfl⟩
    | true => exact q.fetchBalance_token chain
  obtain ⟨htoken, hchain⟩ := hbalance p
  have hboth : (if properties then (if balance then p.fetchBalance else p).chainPropertiesEffect chain
      else (if balance then p.fetchBalance else p)).token =
        if properties then (p.chainToken chain).getD p.token else p.token := by
    cases properties with
    | false => exact htoken
    | true =>
        rw [if_pos rfl, if_pos rfl, chainPropertiesEffect_token, htoken, hchain]
  -- a token that has changed sends one more query
  have hagain : ∀ (b : Prop) [Decidable b] (q : Page),
      (if b then q else q.fetchBalance).token = q.token := by
    intro b _ q
    split
    · rfl
    · exact (q.fetchBalance_token chain).1
  exact (hagain _ _).trans hboth

end

end Page

/-! ### The invariant -/

section
variable {chain : ApiPromise → Chain} {formatBalance : Nat → String → Nat → String} {p p' : Page}

variable (chain) in
/-- The token is that of the instance there is; a submission has the decimals of the one it
captured. -/
structure TokenHeld (p : Page) : Prop where
  shown : ∀ token, p.chainToken chain = some token → p.token = token
  captured : ∀ s ∈ p.closures, ∀ token, (chain s.api).token = some token →
    s.tokenDecimals = token.2

/-- No event but the context's changes the instance or the token, before the effects. -/
theorem handle_token {e : Event} (he : ∀ api isApiReady, e ≠ .context api isApiReady)
    (h : handle chain formatBalance p e = some p') :
    p'.api = p.api ∧ p'.isApiReady = p.isApiReady ∧ p'.token = p.token := by
  cases handle_moves h with
  | context api isApiReady => exact absurd rfl (he api isApiReady)
  | selected | recipientTyped | amountTyped | shared | connecting | sending =>
      exact ⟨rfl, rfl, rfl⟩
  | fetching a hb htoken => exact ⟨rfl, rfl, congrArg₂ Prod.mk htoken.1 htoken.2⟩
  | @enabled k extensions hk =>
      obtain ⟨w, hw⟩ := p.walletEnabled_eq k extensions
      rw [hw]
      exact ⟨rfl, rfl, rfl⟩
  | @listed k accounts hk =>
      obtain ⟨w, hw⟩ := p.walletListed_eq k accounts
      rw [hw]
      exact ⟨rfl, rfl, rfl⟩

/-- The effects set the token of an instance that is new, or newly ready. -/
theorem flush_token {before : Page} (hb : before.chainToken chain = p.chainToken chain →
    ∀ token, p.chainToken chain = some token → p.token = token) :
    ∀ token, (flush chain before p).chainToken chain = some token →
      (flush chain before p).token = token := by
  intro token ht
  have hchain : (flush chain before p).chainToken chain = p.chainToken chain := by
    obtain ⟨a, ha⟩ := flush_eq chain before p
    rw [ha]
    rfl
  rw [hchain] at ht
  rw [flush, Page.runEffects_token]
  split
  · rw [ht]; rfl
  · rename_i hsame
    have hsame : p.api = before.api ∧ p.isApiReady = before.isApiReady := by
      simpa [not_or] using hsame
    exact hb (by rw [Page.chainToken, Page.chainToken, hsame.1, hsame.2]) token ht

/-- **One event.** -/
theorem tokenHeld_step {e : Event} (hp : TokenHeld chain p)
    (h : step chain formatBalance p e = some p') : TokenHeld chain p' := by
  obtain ⟨p₁, hh, rfl⟩ := Option.map_eq_some_iff.mp h
  have hclosures : (flush chain p p₁).closures = p₁.closures := by
    obtain ⟨a, ha⟩ := flush_eq chain p p₁
    rw [ha]
    rfl
  refine ⟨flush_token fun hsame token ht => ?_, ?_⟩
  · by_cases hc : ∃ api isApiReady, e = .context api isApiReady
    · obtain ⟨api, isApiReady, rfl⟩ := hc
      cases hh
      exact hp.shown token (hsame.trans ht)
    · obtain ⟨-, -, htoken⟩ := handle_token (fun api ready he => hc ⟨api, ready, he⟩) hh
      rw [htoken]
      exact hp.shown token (hsame.trans ht)
  · rw [hclosures]
    intro s hs token ht
    rcases handle_closures hh with hc | ⟨api, -, -, hapi, hready, -, hc⟩
    · rw [hc] at hs
      exact hp.captured s hs token ht
    · rw [hc, List.mem_append, List.mem_singleton] at hs
      rcases hs with hs | rfl
      · exact hp.captured s hs token ht
      · -- the form has the token of the instance it is submitted to
        have hshown := hp.shown token (by rw [Page.chainToken, hready, hapi]; exact ht)
        exact congrArg Prod.snd hshown

/-- **In every run.** -/
theorem tokenHeld_run {api : Option ApiPromise} {isApiReady : Bool} {es : List Event}
    (hrun : Run (step chain formatBalance) anyEvent (.mount chain api isApiReady) es p) :
    TokenHeld chain p := by
  obtain ⟨a, ha⟩ := (Page.init api isApiReady).runEffects_eq chain true true
  refine hrun.invariant (fun _ _ _ hI _ hs => tokenHeld_step hI hs) ⟨fun token ht => ?_, ?_⟩
  · have hchain : (Page.mount chain api isApiReady).chainToken chain =
        (Page.init api isApiReady).chainToken chain := by
      rw [Page.mount, ha]
      rfl
    rw [hchain] at ht
    rw [Page.mount, Page.runEffects_token, if_pos rfl, ht]
    rfl
  · rw [Page.mount, ha]
    rintro s ⟨⟩

/-- What is shown is the token of the instance there is. -/
theorem TokenHeld.of_api (hp : TokenHeld chain p) {inst : ApiPromise} {token : String × Nat}
    (hapi : p.api = some inst) (hready : p.isApiReady = true)
    (ht : (chain inst).token = some token) :
    (p.tokenSymbol, p.tokenDecimals) = token :=
  hp.shown token (by rw [Page.chainToken, hready, hapi]; exact ht)

/-- **The decimals are the chain's.**  Where the token of the instance there is can be read, it is
the one shown; and where that of the instance a submission captured can, the submission has that
one's decimals. -/
theorem token_of_chain {api : Option ApiPromise} {isApiReady : Bool} {es : List Event}
    (hrun : Run (step chain formatBalance) anyEvent (.mount chain api isApiReady) es p) :
    (∀ inst token, p.api = some inst → p.isApiReady = true → (chain inst).token = some token →
      (p.tokenSymbol, p.tokenDecimals) = token) ∧
    ∀ s ∈ p.submissions, ∀ token, (chain s.api).token = some token →
      s.tokenDecimals = token.2 := by
  have hp := tokenHeld_run hrun
  refine ⟨fun inst token hapi hready ht => hp.of_api hapi hready ht, fun s hs token ht => ?_⟩
  exact hp.captured s.closure (List.mem_map_of_mem hs) token ht

end

/-- The chain is changed between two transfers of the same amount: the second one has the new
chain's decimals. -/
theorem token_of_chain_changed :
    let chain : ApiPromise → Chain := fun inst =>
      ⟨.ok (some ⟨some [if inst.id = 0 then "DOT" else "KSM"], some [if inst.id = 0 then 10 else 12]⟩),
        some ["transferKeepAlive"], fun _ _ _ => none, fun _ _ => .error "Unable to find Error"⟩
    ∃ p, Run (step chain fun free _ _ => toString free) anyEvent
        (.mount chain (some ⟨0, "wss://rpc.polkadot.io"⟩) true)
        [.connectWallet, .walletEnabled 0 (.ok 1), .walletListed 0 (.ok [⟨"5Grw", "polkadot-js"⟩]),
          .recipientChange "5Fhn", .amountChange ['1'], .submit, .injected 0 (.error "Cancelled"),
          .context (some ⟨1, "wss://kusama-rpc.polkadot.io"⟩) true, .submit] p ∧
      ∀ s ∈ p.submissions, ∀ token, (chain s.api).token = some token →
        s.tokenDecimals = token.2 :=
  exists_run_and (by decide) fun _ hrun => (token_of_chain hrun).2

end SubstrateDevTemplate.Transfer
