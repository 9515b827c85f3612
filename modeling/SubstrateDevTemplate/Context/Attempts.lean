import SubstrateDevTemplate.Context.Steps
import SubstrateDevTemplate.Service.Steps
import SubstrateDevTemplate.Support.Runs

/-!
# Context — `isConnecting` and the attempts in flight

An attempt is a call of `connect` or of `handleChangeEndpoint`.  Each sets the flag when it starts
and clears it when it settles; the flag does not know how many there are.

* `step_accounts`: an event starts an attempt, or settles one, or does neither.
* `connecting_counts`: in a run in which no attempt settles with another one in flight
  (`EndsAlone`), the flag is true exactly while there is an attempt, and the Connect button is
  disabled then.
* `step_counts_iff`: from a state in which the flag is right, no other event makes it wrong.
-/

namespace SubstrateDevTemplate.Context
open Service (ApiPromise Request Outcome Pending Settled Config)
open Transition

/-! ### The attempts in flight -/

/-- What awaits a call of the service is an attempt. -/
def Caller.attempt : Caller → Bool
  | .connect | .changeEndpoint _ => true
  | .cleanup => false

/-- The attempts that wait for the service, or that the service has yet to let go on. -/
def callAttempts (c : Config Caller) : Nat :=
  (c.calls.countP fun q => q.caller.attempt) + c.settled.countP fun r => r.caller.attempt

/-- The attempts that have started and not settled. -/
def Provider.attempts (p : Provider) : Nat := callAttempts p.service + p.connecting.length

/-- The flag is true exactly while there is an attempt. -/
def Counts (p : Provider) : Prop := p.isConnecting = true ↔ 0 < p.attempts

instance (p : Provider) : Decidable (Counts p) := inferInstanceAs (Decidable (_ ↔ _))

/-- The Connect button of the endpoint selector: `disabled={isConnecting || !customEndpoint}`. -/
def Provider.connectDisabled (p : Provider) (customEndpoint : String) : Bool :=
  p.isConnecting || !Js.truthy (some customEndpoint)

/-- The attempt settles when it goes on with what the service returned: `connect` with an instance
does not yet. -/
def endsAttempt (r : Settled Caller) : Bool :=
  match r.caller, r.outcome with
  | .cleanup, _ | .connect, .resolved (some _) => false
  | .connect, _ | .changeEndpoint _, _ => true

/-- The event settles an attempt. -/
def Provider.settles (p : Provider) : Event → Bool
  | .deliver k => (p.service.settled[k]?).any endsAttempt
  | .ready _ => true
  | _ => false

/-- An attempt settles with no other in flight. -/
def EndsAlone (p : Provider) (e : Event) : Prop := p.settles e = true → p.attempts = 1

instance (p : Provider) (e : Event) : Decidable (EndsAlone p e) :=
  inferInstanceAs (Decidable (_ → _))

/-! ### One event -/

/-- `e` starts an attempt, or settles one, or does neither. -/
inductive Accounts (p : Provider) (e : Event) (p' : Provider) : Prop where
  | starts (he : p.settles e = false) (h : p'.attempts = p.attempts + 1)
      (flag : p'.isConnecting = true)
  | settles (he : p.settles e = true) (h : p.attempts = p'.attempts + 1)
      (flag : p'.isConnecting = false)
  | neither (he : p.settles e = false) (h : p'.attempts = p.attempts)
      (flag : p'.isConnecting = p.isConnecting)

section
variable {wsProviderError : String → Option String}

/-- A call joins those in flight, or the settled ones. -/
theorem callAttempts_record (c : Config Caller) (caller : Caller) (request : Request)
    (r : Service.State × Service.Progress) :
    callAttempts (c.record caller request r) =
      callAttempts c + if caller.attempt then 1 else 0 := by
  obtain ⟨s, progress⟩ := r
  cases progress with
  | suspended f =>
      simp only [callAttempts, Config.record, List.countP_append, List.countP_singleton]
      omega
  | settled o =>
      simp only [callAttempts, Config.record, List.countP_append, List.countP_singleton]
      omega

/-- The attempts a step of the service starts. -/
def started : Service.Event Caller → Nat
  | .call caller _ => if caller.attempt then 1 else 0
  | _ => 0

/-- The service settles none. -/
theorem callAttempts_step {c c' : Config Caller} {e : Service.Event Caller}
    (h : Service.step wsProviderError c e = some c') :
    callAttempts c' = callAttempts c + started e := by
  rcases Service.step_cases h with ⟨caller, request, rfl, rfl⟩ | ⟨k, q, l₁, l₂, rfl, hl, rfl⟩ |
      ⟨inst, rfl, -, rfl⟩ | ⟨inst, rfl, -, -, rfl⟩
  · exact callAttempts_record { c with issued := some request } caller request _
  · -- the call that goes on is taken out, and joins the others again
    rw [callAttempts_record]
    simp only [callAttempts, hl, List.countP_append, List.countP_cons, started]
    omega
  · rfl
  · rfl

theorem attempts_serve {p p' : Provider} {e : Service.Event Caller}
    (h : p.serve wsProviderError e = some p') :
    p'.attempts = p.attempts + started e ∧ p'.isConnecting = p.isConnecting := by
  obtain ⟨c, hc, rfl⟩ := Option.map_eq_some_iff.mp h
  refine ⟨?_, rfl⟩
  have hcalls : callAttempts c = callAttempts p.service + started e := callAttempts_step hc
  simp only [Provider.attempts, hcalls]
  exact Nat.add_right_comm ..

/-- A step of the service that starts no attempt. -/
theorem accounts_serve {p p' : Provider} {e : Service.Event Caller} {e' : Event}
    (h : p.serve wsProviderError e = some p') (he : started e = 0)
    (hsettles : p.settles e' = false) : Accounts p e' p' := by
  obtain ⟨hattempts, hflag⟩ := attempts_serve h
  exact .neither hsettles (by rw [hattempts, he]; rfl) hflag

/-- The settled call that goes on is taken out. -/
theorem attempts_taken {p : Provider} {k : Nat} {r : Settled Caller}
    (hk : p.service.settled[k]? = some r) :
    p.attempts = ({ p with service := { p.service with
      settled := p.service.settled.eraseIdx k } } : Provider).attempts +
        if r.caller.attempt then 1 else 0 := by
  obtain ⟨l₁, l₂, hl, hl'⟩ := Service.eraseIdx_split hk
  have hcount : p.service.settled.countP (fun r => r.caller.attempt) =
      (p.service.settled.eraseIdx k).countP (fun r => r.caller.attempt) +
        if r.caller.attempt then 1 else 0 := by
    rw [hl', hl, List.countP_append, List.countP_append, List.countP_cons, Nat.add_assoc]
  simp only [Provider.attempts, callAttempts, hcount]
  omega

theorem accounts_deliver {p : Provider} {k : Nat} {r : Settled Caller}
    (hk : p.service.settled[k]? = some r) :
    Accounts p (.deliver k) (({ p with service := { p.service with
      settled := p.service.settled.eraseIdx k } } : Provider).deliver r) := by
  have htaken := attempts_taken hk
  have hsettles : p.settles (.deliver k) = endsAttempt r := by
    rw [Provider.settles, hk, Option.any_some]
  obtain ⟨caller, request, outcome⟩ := r
  cases caller with
  | cleanup => exact .neither hsettles htaken.symm rfl
  | changeEndpoint e =>
      cases outcome with
      | resolved value => exact .settles hsettles htaken rfl
      | rejected message => exact .settles hsettles htaken rfl
  | connect =>
      cases outcome with
      | rejected message => exact .settles hsettles htaken rfl
      | resolved value =>
          cases value with
          | none => exact .settles hsettles htaken rfl
          | some inst =>
              -- it waits for the instance to be ready
              refine .neither hsettles ?_ rfl
              rw [htaken]
              simp only [Provider.attempts, Provider.deliver, List.length_append,
                List.length_singleton, Caller.attempt, if_true]
              omega

theorem accounts_ready {p : Provider} {k : Nat} {inst : ApiPromise}
    (hk : p.connecting[k]? = some inst) :
    Accounts p (.ready k)
      (({ p with connecting := p.connecting.eraseIdx k } : Provider).connected inst) := by
  obtain ⟨hlt, -⟩ := List.getElem?_eq_some_iff.mp hk
  refine .settles rfl ?_ rfl
  simp only [Provider.attempts, Provider.connected, List.length_eraseIdx_of_lt hlt]
  omega

/-- **Every event** starts an attempt, or settles one, or does neither. -/
theorem step_accounts {p p' : Provider} {e : Event} (h : step wsProviderError p e = some p') :
    Accounts p e p' := by
  cases e with
  | connect =>
      obtain ⟨hattempts, hflag⟩ := attempts_serve h
      exact .starts rfl hattempts hflag
  | handleConnect endpoint =>
      obtain ⟨-, hserve⟩ := step_handleConnect h
      obtain ⟨hattempts, hflag⟩ := attempts_serve hserve
      exact .starts rfl hattempts hflag
  | cleanup => exact accounts_serve h rfl rfl
  | resume k => exact accounts_serve h rfl rfl
  | deliver k =>
      obtain ⟨r, hk, rfl⟩ := step_deliver h
      exact accounts_deliver hk
  | ready k =>
      obtain ⟨inst, hk, rfl⟩ := step_ready h
      exact accounts_ready hk
  | close inst =>
      obtain ⟨p₁, hserve, hp'⟩ := step_close h
      obtain ⟨hattempts, hflag⟩ := attempts_serve hserve
      rcases hp' with rfl | rfl
      · exact .neither rfl hattempts hflag
      · exact .neither rfl hattempts hflag
  | reopen inst => exact accounts_serve h rfl rfl
  | error inst message =>
      obtain rfl := step_error h
      exact .neither rfl rfl rfl

/-- **One event keeps the flag right** exactly when no attempt settles beside another. -/
theorem step_counts_iff {p p' : Provider} {e : Event} (hp : Counts p)
    (h : step wsProviderError p e = some p') : Counts p' ↔ EndsAlone p e := by
  cases step_accounts h with
  | starts he hattempts hflag =>
      refine iff_of_true ?_ ?_
      · rw [Counts, hflag, hattempts]
        exact iff_of_true rfl (Nat.succ_pos _)
      · rw [EndsAlone, he]
        exact nofun
  | settles he hattempts hflag =>
      rw [Counts, EndsAlone, he, hflag, hattempts]
      simp only [Bool.false_eq_true, false_iff, Nat.not_lt, Nat.le_zero, forall_const,
        Nat.add_eq_right]
  | neither he hattempts hflag =>
      refine iff_of_true ?_ ?_
      · rw [Counts, hflag, hattempts]
        exact hp
      · rw [EndsAlone, he]
        exact nofun

/-! ### Whole runs -/

variable {savedEndpoint env : Option String} {es : List Event} {p : Provider}

/-- **`isConnecting` counts the attempts**, where each settles with no other in flight. -/
theorem connecting_counts
    (h : Run (step wsProviderError) EndsAlone (.load savedEndpoint env) es p) :
    (p.isConnecting = true ↔ 0 < p.attempts) ∧
      ∀ customEndpoint, 0 < p.attempts → p.connectDisabled customEndpoint = true := by
  have hload : Counts (.load savedEndpoint env) := by
    refine iff_of_false ?_ (Nat.lt_irrefl 0)
    rintro ⟨⟩
  have hp : Counts p :=
    h.invariant (fun _ _ _ hp hg hst => (step_counts_iff hp hst).mpr hg) hload
  refine ⟨hp, fun customEndpoint hattempts => ?_⟩
  rw [Provider.connectDisabled, hp.mpr hattempts, Bool.true_or]

end

/-- The mount, which settles, and then a change of endpoint, in flight. -/
theorem connecting_counts_change :
    ∃ p, Run (step Service.schemeError) EndsAlone (.load (some "wss://rpc.polkadot.io") none)
        [.connect, .resume 0, .resume 0, .deliver 0, .ready 0,
          .handleConnect "wss://kusama-rpc.polkadot.io"] p ∧
      (p.isConnecting = true ↔ 0 < p.attempts) :=
  exists_run_and (by decide) fun _ h => (connecting_counts h).1

/-- **The first attempt to settle clears the flag.**  A preset is chosen while the mount connects;
with the mount's `connect` settled, the button is enabled while the change is in flight. -/
theorem overlap_not_counted :
    ∃ p, Run (step Service.schemeError) anyEvent (.load (some "wss://rpc.polkadot.io") none)
        [.connect, .handleConnect "wss://kusama-rpc.polkadot.io", .resume 0, .resume 1, .deliver 0,
          .ready 0] p ∧
      ¬ ((p.isConnecting = true ↔ 0 < p.attempts) ∧
        ∀ customEndpoint, 0 < p.attempts → p.connectDisabled customEndpoint = true) := by
  refine exists_run_of (P := fun p => ¬ Counts p) (by decide) fun p hp hall => hp hall.1

end SubstrateDevTemplate.Context
