import SubstrateDevTemplate.Context.Steps
import SubstrateDevTemplate.Service.Leaks

/-!
# Context — `isApiReady` and the connection

`connect` puts a `'disconnected'` handler on the instance it got, and nothing clears the flag
otherwise when a socket closes; nothing sets it when a socket opens again.

* `ready_tracks`: in a run whose calls do not overlap, and in which the socket events that reach
  the provider are those its one handler is right about (`Tracked`), `isApiReady` is true exactly
  when the published instance is connected, whenever no call is in flight and every instance that
  was told to disconnect has.
* `ready_not_tracked`: after a drop and a reconnection the flag stays false; after a change of
  endpoint it stays true when the new instance drops.

The invariant is `Phase`, which says what a provider whose calls do not overlap is doing, next to
`Service.Sole`.
-/

namespace SubstrateDevTemplate.Service

/-! ### What one call of the service establishes -/

/-- What is known of the module's state while `initializeApi` is suspended, with no call beside
it. -/
def Frame.Sound (s : State) : Frame → Prop
  | .initializeApi _ _ .disconnecting | .initializeApi _ _ (.creating _) => True
  | .initializeApi _ _ .ready => s.api ≠ none
  | .initializeApi _ _ (.connecting inst) => s.api = some inst
  | .initializeApi _ _ .reconnected => ∃ inst, s.api = some inst ∧ inst ∈ s.connected
  | .disconnectApi => False

/-- It resolves with the module's instance, connected, or leaves the module without one. -/
def Outcome.Sound (s : State) : Outcome → Prop
  | .resolved value => ∃ inst, value = some inst ∧ s.api = some inst ∧ inst ∈ s.connected
  | .rejected _ => s.api = none

def Progress.Sound (s : State) : Progress → Prop
  | .suspended f => f.Sound s
  | .settled outcome => outcome.Sound s

/-- The call has been through the check that the API is connected. -/
def Frame.checked : Frame → Bool
  | .initializeApi _ _ .reconnected => true
  | _ => false

section
variable {wsProviderError : String → Option String}

theorem establish_sound {s : State} (ha : s.api = none) (endpoint : Option String) (w : String) :
    (establish wsProviderError s endpoint w).2.Sound
      (establish wsProviderError s endpoint w).1 := by
  rcases establish_cases wsProviderError s endpoint w with
    ⟨message, -, h⟩ | ⟨-, h⟩
  · rw [h]; exact (State.retarget_api s endpoint).trans ha
  · rw [h]; trivial

theorem checkConnected_sound {s : State} (ha : s.api ≠ none) (endpoint : Option String)
    (w : String) :
    (checkConnected s endpoint w).2.Sound (checkConnected s endpoint w).1 := by
  rcases checkConnected_cases s endpoint w with ⟨h₀, -⟩ | ⟨inst, hi, hc, h⟩ | ⟨inst, hi, -, h⟩
  · exact absurd h₀ ha
  · rw [h]; exact ⟨inst, rfl, hi, hc⟩
  · rw [h]; exact hi

theorem enter_sound (s : State) (endpoint : Option String) :
    ((Request.initializeApi endpoint).enter wsProviderError s).2.Sound
      ((Request.initializeApi endpoint).enter wsProviderError s).1 := by
  cases ha : s.api with
  | none =>
      rw [enter_initializeApi_none ha]
      exact establish_sound ha _ _
  | some inst =>
      by_cases he : endpoint = some s.currentEndpoint
      · obtain rfl := he
        rw [enter_reuses ⟨by simp [ha], rfl⟩]
        exact checkConnected_sound (by simp [ha]) _ _
      · rw [enter_initializeApi_leave ha he]
        trivial

theorem resume_sound {s : State} {f : Frame} (hf : f.Sound s) :
    (f.resume wsProviderError s).2.Sound (f.resume wsProviderError s).1 := by
  cases f with
  | disconnectApi => exact hf.elim
  | initializeApi endpoint w stage =>
      cases stage with
      | disconnecting => exact establish_sound rfl endpoint w
      | creating inst => exact Option.some_ne_none inst
      | ready => exact checkConnected_sound hf endpoint w
      | connecting inst =>
          have ha : s.api = some inst := hf
          simp only [Frame.resume, ha]
          exact ⟨inst, ha, by simp⟩
      | reconnected =>
          obtain ⟨inst, ha, hc⟩ := hf
          exact ⟨inst, ha, ha, hc⟩

end

/-- What is known of a call stays known while the module's instance stays, and stays connected once
the call has been through its check. -/
theorem Frame.Sound.mono {s s' : State} {f : Frame} (hf : f.Sound s) (hapi : s'.api = s.api)
    (hconn : f.checked = true → ∀ inst, s.api = some inst → inst ∈ s.connected →
      inst ∈ s'.connected) : f.Sound s' := by
  cases f with
  | disconnectApi => exact hf.elim
  | initializeApi endpoint w stage =>
      cases stage with
      | disconnecting | creating => trivial
      | ready | connecting =>
          rw [Frame.Sound, hapi]
          exact hf
      | reconnected =>
          obtain ⟨inst, ha, hc⟩ := hf
          exact ⟨inst, hapi.trans ha, hconn rfl inst ha hc⟩

theorem Outcome.Sound.mono {s s' : State} {o : Outcome} (ho : o.Sound s) (hapi : s'.api = s.api)
    (hconn : ∀ inst, s.api = some inst → inst ∈ s.connected → inst ∈ s'.connected) :
    o.Sound s' := by
  cases o with
  | rejected message => exact hapi.trans ho
  | resolved value =>
      obtain ⟨inst, hv, ha, hc⟩ := ho
      exact ⟨inst, hv, hapi.trans ha, hconn inst ha hc⟩

/-- The module's instance stays connected when another one's socket closes. -/
theorem State.close_connected {s : State} {inst : ApiPromise} (hi : s.api ≠ some inst) :
    ∀ i, s.api = some i → i ∈ s.connected → i ∈ (s.close inst).connected := by
  intro i ha hc
  refine Finset.mem_erase.mpr ⟨?_, hc⟩
  rintro rfl
  exact hi ha

/-- A socket that closes matters only to a call past its check, and then only the module's. -/
theorem Frame.Sound.close {s : State} {f : Frame} {inst : ApiPromise} (hf : f.Sound s)
    (hi : f.checked = true → s.api ≠ some inst) : f.Sound (s.close inst) :=
  hf.mono rfl fun hchecked => State.close_connected (hi hchecked)

theorem Frame.Sound.connect {s : State} {f : Frame} (inst : ApiPromise) (hf : f.Sound s) :
    f.Sound (s.connect inst) :=
  hf.mono rfl fun _ _ _ hc => Finset.mem_insert_of_mem hc

theorem Outcome.Sound.close {s : State} {o : Outcome} {inst : ApiPromise} (ho : o.Sound s)
    (hi : s.api ≠ some inst) : o.Sound (s.close inst) :=
  ho.mono rfl (State.close_connected hi)

theorem Outcome.Sound.connect {s : State} {o : Outcome} (inst : ApiPromise) (ho : o.Sound s) :
    o.Sound (s.connect inst) :=
  ho.mono rfl fun _ _ hc => Finset.mem_insert_of_mem hc

end SubstrateDevTemplate.Service

namespace SubstrateDevTemplate.Context
open Service (ApiPromise Request Outcome Pending Settled Config Frame)
open Transition

/-- Every instance that was told to disconnect has, so every `'disconnected'` has been emitted. -/
def Provider.Delivered (p : Provider) : Prop :=
  ∀ inst ∈ p.service.state.connected, inst ∈ p.service.state.opened

instance (p : Provider) : Decidable p.Delivered :=
  inferInstanceAs (Decidable (∀ inst ∈ _, _))

/-- At rest, the flag is true exactly when the published instance is connected. -/
def ReadyTracks (p : Provider) : Prop :=
  p.Idle → p.Delivered →
    (p.isApiReady = true ↔ ∃ inst, p.api = some inst ∧ inst ∈ p.service.state.connected)

/-- A call is past the check that the API is connected, and its caller has yet to publish what it
returns. -/
def Provider.Checked (p : Provider) : Prop :=
  p.service.settled ≠ [] ∨ p.connecting ≠ [] ∨ ∃ q ∈ p.service.calls, q.frame.checked = true

instance (p : Provider) : Decidable p.Checked := inferInstanceAs (Decidable (_ ∨ _ ∨ _))

/-- Calls start one after the other, and the provider stays mounted. -/
def NonOverlapping (p : Provider) : Event → Prop
  | .connect | .handleConnect _ => p.Idle
  | .cleanup => False
  | _ => True

instance (p : Provider) : (e : Event) → Decidable (NonOverlapping p e)
  | .connect | .handleConnect _ => inferInstanceAs (Decidable p.Idle)
  | .cleanup => isFalse id
  | .resume _ | .deliver _ | .ready _ | .close _ | .reopen _ | .error _ _ => isTrue trivial

/-- Calls do not overlap, and of the socket events:

* a socket that closes while the flag is true, no call being in flight, is the published
  instance's and carries the handler, or neither;
* the module's socket does not close between a call's check and the publication of its result;
* the published instance does not reconnect while the flag is false, no call being in flight. -/
def Tracked (p : Provider) (e : Event) : Prop :=
  NonOverlapping p e ∧ match e with
    | .close inst =>
        (p.Idle → p.isApiReady = true → (inst ∈ p.listeners ↔ p.api = some inst)) ∧
          (p.Checked → p.service.state.api ≠ some inst)
    | .reopen inst => p.Idle → p.isApiReady = true ∨ p.api ≠ some inst
    | _ => True

instance (p : Provider) : (e : Event) → Decidable (Tracked p e)
  | .close _ => inferInstanceAs (Decidable (_ ∧ (_ → _ → _) ∧ (_ → _)))
  | .reopen _ => inferInstanceAs (Decidable (_ ∧ (_ → _)))
  | .connect | .handleConnect _ | .cleanup | .resume _ | .deliver _ | .ready _ | .error _ _ =>
      inferInstanceAs (Decidable (_ ∧ True))

/-! ### The invariant -/

/-- What a provider whose calls do not overlap is doing. -/
inductive Phase (p : Provider) : Prop where
  /-- nothing: the flag is true with the published instance connected, or false without -/
  | rest (idle : p.Idle)
      (ready : p.isApiReady = true → ∃ inst, p.api = some inst ∧ inst ∈ p.service.state.connected)
      (notReady : p.isApiReady = false → ∀ inst, p.api = some inst →
        inst ∈ p.service.state.connected → inst ∉ p.service.state.opened)
  /-- it is in a call of the service -/
  | calling (q : Pending Caller) (hq : p.service.calls = [q]) (hs : p.service.settled = [])
      (hc : p.connecting = []) (caller : q.caller ≠ .cleanup)
      (sound : q.frame.Sound p.service.state)
  /-- a call of the service has settled -/
  | settled (r : Settled Caller) (hq : p.service.calls = []) (hs : p.service.settled = [r])
      (hc : p.connecting = []) (caller : r.caller ≠ .cleanup)
      (sound : r.outcome.Sound p.service.state)
  /-- `connect` waits for the instance it got to be ready -/
  | connecting (inst : ApiPromise) (hq : p.service.calls = []) (hs : p.service.settled = [])
      (hc : p.connecting = [inst])
      (sound : (Outcome.resolved (some inst)).Sound p.service.state)

theorem phase_load (savedEndpoint env : Option String) : Phase (.load savedEndpoint env) :=
  .rest ⟨rfl, rfl, rfl⟩ (by intro h; cases h) (by intro _ inst h; cases h)

/-- A call of the service has got as far as `r`. -/
theorem phase_record {p : Provider} {c : Config Caller} (hq : c.calls = [])
    (hs : c.settled = []) (hc : p.connecting = []) {caller : Caller} (hcaller : caller ≠ .cleanup)
    {request : Request} {r : Service.State × Service.Progress} (hr : r.2.Sound r.1) :
    Phase { p with service := c.record caller request r } := by
  obtain ⟨s, progress⟩ := r
  cases progress with
  | suspended f => exact .calling ⟨caller, f⟩ (by simp [hq]) hs hc hcaller hr
  | settled o => exact .settled ⟨caller, request, o⟩ hq (by simp [hs]) hc hcaller hr

/-- The instance published before a call that failed has been disconnected. -/
theorem phase_failed {p : Provider} (hsole : Service.Sole p.service) (hidle : p.Idle)
    (hf : p.isApiReady = false) (ha : p.service.state.api = none) : Phase p := by
  refine .rest hidle (by simp [hf]) fun _ inst _ _ ho => ?_
  rw [(hsole.noLeak hidle.1).1, ha] at ho
  cases ho

/-! ### One step -/

section
variable {wsProviderError : String → Option String}

/-- A call starts with nothing in flight. -/
theorem phase_begin {p p' : Provider} (hidle : p.Idle) {caller : Caller}
    (hcaller : caller ≠ .cleanup) {endpoint : Option String}
    (h : p.begin.serve wsProviderError (.call caller (.initializeApi endpoint)) = some p') :
    Phase p' := by
  obtain ⟨c, hc, rfl⟩ := Option.map_eq_some_iff.mp h
  obtain rfl := Option.some.inj hc
  exact phase_record (p := p.begin)
    (c := { p.service with issued := some (.initializeApi endpoint) })
    hidle.1 hidle.2.1 hidle.2.2 hcaller (Service.enter_sound _ _)

/-- The call in flight goes on. -/
theorem phase_resume {p p' : Provider} (hp : Phase p) {k : Nat}
    (h : p.serve wsProviderError (.resume k) = some p') : Phase p' := by
  obtain ⟨c, hc, rfl⟩ := Option.map_eq_some_iff.mp h
  simp only [Service.step] at hc
  split at hc
  · cases hc
  · rename_i q hk
    obtain rfl := Option.some.inj hc
    cases hp with
    | rest idle => rw [idle.1] at hk; cases hk
    | settled _ hq => rw [hq] at hk; cases hk
    | connecting _ hq => rw [hq] at hk; cases hk
    | calling q' hq hs hcon hcaller sound =>
        rw [hq, List.getElem?_singleton] at hk
        split at hk
        · rename_i hk₀
          obtain rfl := Option.some.inj hk
          refine phase_record (c := { p.service with calls := p.service.calls.eraseIdx k })
            ?_ hs hcon hcaller (Service.resume_sound sound)
          simp [hq, hk₀]
        · cases hk

/-- The caller of the call that has settled goes on. -/
theorem phase_deliver {p : Provider} (hp : Phase p) (hsole : Service.Sole p.service) {k : Nat}
    {r : Settled Caller} (hk : p.service.settled[k]? = some r) :
    Phase ({ p with service :=
      { p.service with settled := p.service.settled.eraseIdx k } }.deliver r) := by
  cases hp with
  | rest idle => rw [idle.2.1] at hk; cases hk
  | calling _ _ hs => rw [hs] at hk; cases hk
  | connecting _ _ hs => rw [hs] at hk; cases hk
  | settled r' hq hs hcon hcaller sound =>
      rw [hs, List.getElem?_singleton] at hk
      split at hk
      · rename_i hk₀
        obtain rfl := Option.some.inj hk
        have hnil : p.service.settled.eraseIdx k = [] := by simp [hs, hk₀]
        have hsole' : Service.Sole { p.service with settled := ([] : List (Settled Caller)) } :=
          hsole.congr rfl rfl rfl rfl
        obtain ⟨caller, request, outcome⟩ := r'
        rw [hnil]
        -- a rejection leaves no instance, and a resolution publishes a connected one
        cases caller with
        | cleanup => exact absurd rfl hcaller
        | connect =>
            cases outcome with
            | rejected message => exact phase_failed hsole' ⟨hq, rfl, hcon⟩ rfl sound
            | resolved value =>
                obtain ⟨inst, rfl, hi⟩ := sound
                exact .connecting inst hq rfl (by simp [Provider.deliver, hcon]) ⟨inst, rfl, hi⟩
        | changeEndpoint e =>
            cases outcome with
            | rejected message => exact phase_failed hsole' ⟨hq, rfl, hcon⟩ rfl sound
            | resolved value =>
                obtain ⟨inst, rfl, -, hc⟩ := sound
                exact .rest ⟨hq, rfl, hcon⟩ (fun _ => ⟨inst, rfl, hc⟩) (by intro h; cases h)
      · cases hk

/-- `connect` publishes the instance it got. -/
theorem phase_ready {p : Provider} (hp : Phase p) {k : Nat} {inst : ApiPromise}
    (hk : p.connecting[k]? = some inst) :
    Phase ({ p with connecting := p.connecting.eraseIdx k }.connected inst) := by
  cases hp with
  | rest idle => rw [idle.2.2] at hk; cases hk
  | calling _ _ _ hcon => rw [hcon] at hk; cases hk
  | settled _ _ _ hcon => rw [hcon] at hk; cases hk
  | connecting j hq hs hcon sound =>
      rw [hcon, List.getElem?_singleton] at hk
      split at hk
      · rename_i hk₀
        obtain rfl := Option.some.inj hk
        obtain ⟨_, ⟨⟩, -, hc⟩ := sound
        exact .rest ⟨hq, hs, by simp [Provider.connected, hcon, hk₀]⟩
          (fun _ => ⟨_, rfl, hc⟩) (by intro h; cases h)
      · cases hk

/-- A socket closes. -/
theorem phase_close {p p' : Provider} (hp : Phase p) {inst : ApiPromise}
    (hg : Tracked p (.close inst)) (h : step wsProviderError p (.close inst) = some p') :
    Phase p' := by
  obtain ⟨p₁, h₁, rfl⟩ := Option.map_eq_some_iff.mp h
  obtain ⟨c, hc, rfl⟩ := Option.map_eq_some_iff.mp h₁
  simp only [Service.step] at hc
  split at hc
  swap
  · cases hc
  obtain rfl := Option.some.inj hc
  obtain ⟨-, hrest, hbusy⟩ := hg
  cases hp with
  | rest idle ready notReady =>
      -- with the flag true, the handler runs for the published instance and for no other
      have hleft : ∀ i, i ∈ p.service.state.connected.erase inst →
          i ∈ p.service.state.connected := fun i => Finset.mem_of_mem_erase
      have hafter : ∀ i, p.api = some i → p.isApiReady = true → inst ∉ p.listeners →
          i ≠ inst := by
        intro i hi hr hl hii
        exact hl ((hrest idle hr).mpr (hii ▸ hi))
      by_cases hl : inst ∈ p.listeners
      · simp only [hl, if_true]
        refine .rest idle (by intro h; cases h) fun _ i hi hc => ?_
        cases hr : p.isApiReady with
        | true =>
            obtain rfl := Option.some.inj (hi.symm.trans ((hrest idle hr).mp hl))
            exact absurd rfl (Finset.ne_of_mem_erase hc)
        | false => exact notReady hr i hi (hleft i hc)
      · simp only [hl, if_false]
        refine .rest idle (fun hr => ?_) fun hr i hi hc => notReady hr i hi (hleft i hc)
        obtain ⟨i, hi, hc⟩ := ready hr
        exact ⟨i, hi, Finset.mem_erase.mpr ⟨hafter i hi hr hl, hc⟩⟩
  -- the flag is written again when the call ends
  | calling q hq hs hcon hcaller sound =>
      have hsound := sound.close fun hch => hbusy (.inr (.inr ⟨q, by simp [hq], hch⟩))
      split
      · exact .calling q hq hs hcon hcaller hsound
      · exact .calling q hq hs hcon hcaller hsound
  | settled r hq hs hcon hcaller sound =>
      have hsound := sound.close (hbusy (.inl (by simp [hs])))
      split
      · exact .settled r hq hs hcon hcaller hsound
      · exact .settled r hq hs hcon hcaller hsound
  | connecting i hq hs hcon sound =>
      have hsound := sound.close (hbusy (.inr (.inl (by simp [hcon]))))
      split
      · exact .connecting i hq hs hcon hsound
      · exact .connecting i hq hs hcon hsound

/-- A socket opens again. -/
theorem phase_reopen {p p' : Provider} (hp : Phase p) {inst : ApiPromise}
    (hg : Tracked p (.reopen inst)) (h : step wsProviderError p (.reopen inst) = some p') :
    Phase p' := by
  obtain ⟨c, hc, rfl⟩ := Option.map_eq_some_iff.mp h
  simp only [Service.step] at hc
  split at hc
  swap
  · cases hc
  obtain rfl := Option.some.inj hc
  cases hp with
  | rest idle ready notReady =>
      -- nothing sets the flag here, so it must not be the published instance that opens
      refine .rest idle (fun hr => ?_) fun hr i hi hc => ?_
      · obtain ⟨i, hi, hc⟩ := ready hr
        exact ⟨i, hi, Finset.mem_insert_of_mem hc⟩
      · rcases Finset.mem_insert.mp hc with rfl | hc
        · rcases hg.2 idle with hr' | hne
          · rw [hr] at hr'; cases hr'
          · exact absurd hi hne
        · exact notReady hr i hi hc
  | calling q hq hs hcon hcaller sound =>
      exact .calling q hq hs hcon hcaller (sound.connect inst)
  | settled r hq hs hcon hcaller sound =>
      exact .settled r hq hs hcon hcaller (sound.connect inst)
  | connecting i hq hs hcon sound => exact .connecting i hq hs hcon (sound.connect inst)

/-- A call that starts with none in flight is one that `Service.sole_step` admits. -/
theorem sole_serve {p p' : Provider} {e : Service.Event Caller} (hp : Service.Sole p.service)
    (hg : ∀ caller request, e = .call caller request → p.service.calls = [])
    (h : p.serve wsProviderError e = some p') : Service.Sole p'.service := by
  obtain ⟨c, hc, rfl⟩ := Option.map_eq_some_iff.mp h
  refine Service.sole_step hp ?_ hc
  cases e with
  | call caller request => exact .inl (by rw [hg _ _ rfl]; rfl)
  | resume | close | reopen => trivial

/-- **One step.** -/
theorem phase_step {p p' : Provider} {e : Event} (hp : Phase p) (hsole : Service.Sole p.service)
    (hg : Tracked p e) (h : step wsProviderError p e = some p') :
    Phase p' ∧ Service.Sole p'.service := by
  cases e with
  | connect =>
      refine ⟨phase_begin hg.1 (by simp) h, sole_serve (p := p.begin) hsole ?_ h⟩
      exact fun _ _ _ => hg.1.1
  | handleConnect e =>
      obtain ⟨-, hserve⟩ := step_handleConnect h
      refine ⟨phase_begin hg.1 (by simp) hserve, sole_serve (p := p.begin) hsole ?_ hserve⟩
      exact fun _ _ _ => hg.1.1
  | cleanup => exact hg.1.elim
  | resume k => exact ⟨phase_resume hp h, sole_serve hsole (by rintro _ _ ⟨⟩) h⟩
  | deliver k =>
      obtain ⟨r, hr, rfl⟩ := step_deliver h
      refine ⟨phase_deliver hp hsole hr, ?_⟩
      rw [deliver_service]
      exact hsole.congr rfl rfl rfl rfl
  | ready k =>
      obtain ⟨i, hi, rfl⟩ := step_ready h
      exact ⟨phase_ready hp hi, hsole⟩
  | close inst =>
      refine ⟨phase_close hp hg h, ?_⟩
      obtain ⟨p₁, hserve, hp'⟩ := step_close h
      have hsole₁ := sole_serve hsole (by rintro _ _ ⟨⟩) hserve
      rcases hp' with rfl | rfl
      · exact hsole₁
      · exact hsole₁
  | reopen inst => exact ⟨phase_reopen hp hg h, sole_serve hsole (by rintro _ _ ⟨⟩) h⟩
  | error inst message =>
      obtain rfl := step_error h
      refine ⟨?_, hsole⟩
      cases hp with
      | rest idle ready notReady => exact .rest idle ready notReady
      | calling q hq hs hcon hcaller sound => exact .calling q hq hs hcon hcaller sound
      | settled r hq hs hcon hcaller sound => exact .settled r hq hs hcon hcaller sound
      | connecting i hq hs hcon sound => exact .connecting i hq hs hcon sound

theorem Phase.readyTracks {p : Provider} (hp : Phase p) : ReadyTracks p := by
  intro hidle hdel
  cases hp with
  | calling q hq => rw [hidle.1] at hq; cases hq
  | settled r _ hs => rw [hidle.2.1] at hs; cases hs
  | connecting i _ _ hc => rw [hidle.2.2] at hc; cases hc
  | rest _ ready notReady =>
      refine ⟨ready, fun ⟨inst, hi, hc⟩ => ?_⟩
      cases hr : p.isApiReady with
      | true => rfl
      | false => exact absurd (hdel inst hc) (notReady hr inst hi hc)

/-- **`isApiReady` tracks the connection**, in a run whose socket events the one handler is right
about. -/
theorem ready_tracks {savedEndpoint env : Option String} {es : List Event} {p : Provider}
    (h : Run (step wsProviderError) Tracked (.load savedEndpoint env) es p) : ReadyTracks p :=
  (h.invariant (I := fun p => Phase p ∧ Service.Sole p.service)
    (fun _ _ _ hp hg hst => phase_step hp.1 hp.2 hg hst)
    ⟨phase_load savedEndpoint env, Service.sole_load savedEndpoint env⟩).1.readyTracks

end

/-- The mount, a drop, and a change of endpoint, during which the old instance reconnects and is
disconnected. -/
theorem ready_tracks_drop :
    ReadyTracks ((exec (step Service.schemeError) Tracked
      (.load (some "wss://rpc.polkadot.io") none)
      [.connect, .resume 0, .resume 0, .deliver 0, .ready 0, .close ⟨0, "wss://rpc.polkadot.io"⟩,
        .handleConnect "wss://kusama-rpc.polkadot.io", .resume 0, .resume 0, .resume 0,
        .deliver 0]).get (by decide)) :=
  ready_tracks (run_of_exec (Option.some_get _).symm)

/-- **One handler, on one instance, for one event.**  The mounted instance drops and reconnects, and
the flag stays false; an instance that a change of endpoint has put in its place drops, and the
flag stays true. -/
theorem ready_not_tracked :
    (∃ p, Run (step Service.schemeError) NonOverlapping (.load (some "wss://rpc.polkadot.io") none)
        [.connect, .resume 0, .resume 0, .deliver 0, .ready 0,
          .close ⟨0, "wss://rpc.polkadot.io"⟩, .reopen ⟨0, "wss://rpc.polkadot.io"⟩] p ∧
      p.isApiReady = false ∧ ¬ ReadyTracks p) ∧
    ∃ p, Run (step Service.schemeError) NonOverlapping (.load (some "wss://rpc.polkadot.io") none)
        [.connect, .resume 0, .resume 0, .deliver 0, .ready 0,
          .handleConnect "wss://kusama-rpc.polkadot.io", .close ⟨0, "wss://rpc.polkadot.io"⟩,
          .resume 0, .resume 0, .resume 0, .deliver 0,
          .close ⟨1, "wss://kusama-rpc.polkadot.io"⟩] p ∧
      p.isApiReady = true ∧ ¬ ReadyTracks p := by
  constructor
  · refine exists_run_of (P := fun p => p.Idle ∧ p.Delivered ∧ p.isApiReady = false ∧
      p.api = some ⟨0, "wss://rpc.polkadot.io"⟩ ∧
      (⟨0, "wss://rpc.polkadot.io"⟩ : ApiPromise) ∈ p.service.state.connected) (by decide) ?_
    intro p ⟨hidle, hdel, hr, ha, hc⟩
    refine ⟨hr, fun h => ?_⟩
    have hready := (h hidle hdel).mpr ⟨_, ha, hc⟩
    rw [hr] at hready
    cases hready
  · refine exists_run_of (P := fun p => p.Idle ∧ p.Delivered ∧ p.isApiReady = true ∧
      p.service.state.connected = ∅) (by decide) ?_
    intro p ⟨hidle, hdel, hr, hc⟩
    refine ⟨hr, fun h => ?_⟩
    obtain ⟨inst, -, hi⟩ := (h hidle hdel).mp hr
    rw [hc] at hi
    cases hi

end SubstrateDevTemplate.Context
