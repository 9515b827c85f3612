import SubstrateDevTemplate.App.Signing
import SubstrateDevTemplate.ChainState.Single
import SubstrateDevTemplate.EndpointSelector.Agreement
import SubstrateDevTemplate.Transfer.Token

/-!
# App — Steps

What one event of the app does to the provider, to the context of the page that is shown, and to the
submissions under way.

* `step_moves`: each way an event moves the app.
* `Moves.home`: to the provider and the selector, it is one of their events, or none.
* `Wired`: the page that is shown has the provider's context.
* `page_signings_step`, `signings_step`: what the submissions under way are for, stays, and a click
  adds what the page's state gives.
-/

namespace SubstrateDevTemplate.App
open Service (ApiPromise)
open EndpointSelector (Home)

variable {ρ : Type*} {chains : Chains}

/-! ### The page that is shown -/

namespace Screen

variable (chains ρ) in
/-- A page that is mounted has the context, and no submissions. -/
theorem mounted (api : Option ApiPromise) (isApiReady : Bool) (route : Route) :
    (mount chains api isApiReady route : Screen ρ).Synced api isApiReady ∧
    (mount chains api isApiReady route : Screen ρ).Paired ∧
    (mount chains api isApiReady route : Screen ρ).signings chains = [] := by
  cases route with
  | home => exact ⟨trivial, trivial, rfl⟩
  | chainState =>
      refine ⟨?_, trivial, rfl⟩
      simp only [mount, Synced, ChainState.Hosted.mount, ChainState.Hosted.hookEffect]
      split
      · exact ⟨rfl, rfl⟩
      · split
        · exact ⟨rfl, rfl⟩
        · exact ⟨rfl, rfl⟩
  | extrinsics =>
      obtain ⟨hapi, hready, hsubmissions, hapis⟩ :=
        Extrinsics.Hosted.mount_empty chains.extrinsics api isApiReady
      refine ⟨⟨hapi, hready⟩, ?_, ?_⟩
      · rw [mount, Paired, Extrinsics.Hosted.Paired, hsubmissions, hapis]
        rfl
      · rw [mount, signings, Extrinsics.Hosted.signings, hapis, List.zipWith_nil_right]
  | transfer =>
      obtain ⟨a, ha⟩ :=
        (Transfer.Page.init api isApiReady).runEffects_eq chains.transfer true true
      rw [mount, Transfer.Page.mount, ha]
      exact ⟨⟨rfl, rfl⟩, trivial, rfl⟩

variable (chains) in
/-- A page that is told of the context has it, and its submissions are for what they were for. -/
theorem told (api : Option ApiPromise) (isApiReady : Bool) (suffixes : List String) {s : Screen ρ}
    (hs : s.Paired) : (s.context chains api isApiReady suffixes).Synced api isApiReady ∧
      (s.context chains api isApiReady suffixes).Paired ∧
      (s.context chains api isApiReady suffixes).signings chains = s.signings chains := by
  cases s with
  | home => exact ⟨trivial, trivial, rfl⟩
  | chainState h =>
      refine ⟨?_, trivial, rfl⟩
      simp only [context, ChainState.Hosted.step, Option.map_some, Option.getD_some, Synced]
      split
      · unfold ChainState.Hosted.hookEffect
        dsimp only
        split
        · exact ⟨rfl, rfl⟩
        · split
          · exact ⟨rfl, rfl⟩
          · exact ⟨rfl, rfl⟩
      · exact ⟨rfl, rfl⟩
  | extrinsics h =>
      simp only [context, Extrinsics.Hosted.step, Option.map_some, Option.getD_some]
      obtain ⟨⟨hapi, hready, hapis⟩, -⟩ := Extrinsics.Hosted.flush_cases chains.extrinsics suffixes
        h { h with api := api, isApiReady := isApiReady }
      obtain ⟨hsubmissions, -⟩ := Extrinsics.Hosted.flush_submissions chains.extrinsics suffixes h
        { h with api := api, isApiReady := isApiReady }
      refine ⟨⟨hapi, hready⟩, ?_, ?_⟩
      · rw [Paired, Extrinsics.Hosted.Paired, hapis, hsubmissions]
        exact hs
      · rw [signings, Extrinsics.Hosted.signings, hapis, hsubmissions]
        rfl
  | transfer p =>
      obtain ⟨a, ha⟩ := Transfer.flush_eq chains.transfer p
        { p with api := api, isApiReady := isApiReady }
      simp only [context, Transfer.step, Transfer.handle, Option.map_some, Option.getD_some, ha]
      exact ⟨⟨rfl, rfl⟩, trivial, rfl⟩

/-- **An event of the page** leaves its context; what its submissions are for, stays, and a click
adds what the page's state gives. -/
theorem stepped {api : Option ApiPromise} {isApiReady : Bool} {s s' : Screen ρ} {e : PageEvent ρ}
    (hsync : s.Synced api isApiReady) (hp : s.Paired) (h : s.step chains e = some s') :
    s'.Synced api isApiReady ∧ s'.Paired ∧ ∀ x ∈ s'.signings chains, x ∈ s.signings chains ∨
      e.submits = true ∧ s.SubmitEnabled ∧ s.prepared chains = some x ∧ x.account ∈ s.accounts := by
  unfold step at h
  split at h
  · rename_i c e
    obtain ⟨c', hc, rfl⟩ := Option.map_eq_some_iff.mp h
    obtain ⟨-, hapi, hready⟩ := ChainState.Hosted.handle_context hc
    exact ⟨⟨hapi.trans hsync.1, hready.trans hsync.2⟩, trivial, by rintro x ⟨⟩⟩
  · rename_i c e
    obtain ⟨c', hc, rfl⟩ := Option.map_eq_some_iff.mp h
    obtain ⟨c₁, hh, rfl⟩ := Option.map_eq_some_iff.mp hc
    obtain ⟨⟨hapi, hready, hapis⟩, -⟩ :=
      Extrinsics.Hosted.flush_cases chains.extrinsics e.suffixes c c₁
    obtain ⟨hsubmissions, -⟩ :=
      Extrinsics.Hosted.flush_submissions chains.extrinsics e.suffixes c c₁
    have hpaired := Extrinsics.Hosted.paired_handle hp hh
    have hcontext : c₁.api = c.api ∧ c₁.isApiReady = c.isApiReady := by
      rcases Extrinsics.Hosted.handle_page hh with ⟨-, -, rfl⟩ |
          ⟨inst, p, -, ⟨-, rfl⟩ | ⟨a, -, -, rfl⟩⟩
      · exact ⟨rfl, rfl⟩
      · exact ⟨rfl, rfl⟩
      · exact ⟨rfl, rfl⟩
    refine ⟨⟨hapi.trans (hcontext.1.trans hsync.1), hready.trans (hcontext.2.trans hsync.2)⟩, ?_,
      fun x hx => ?_⟩
    · rw [Paired, Extrinsics.Hosted.Paired, hapis, hsubmissions]
      exact hpaired
    · rw [signings, Extrinsics.Hosted.signings, hapis, hsubmissions] at hx
      refine (Extrinsics.Hosted.signings_handle hp hh hx).imp id ?_
      rintro ⟨rfl, hen, hform, hx, haccount⟩
      exact ⟨rfl, ⟨hform, hen⟩, hx, haccount⟩
  · cases h
  · rename_i p e hcontext
    obtain ⟨p', hp', rfl⟩ := Option.map_eq_some_iff.mp h
    obtain ⟨p₁, hh, rfl⟩ := Option.map_eq_some_iff.mp hp'
    obtain ⟨a, ha⟩ := Transfer.flush_eq chains.transfer p p₁
    obtain ⟨hapi, hready, -⟩ :=
      Transfer.handle_token (fun inst ready he => hcontext inst ready he) hh
    rw [ha]
    refine ⟨⟨hapi.trans hsync.1, hready.trans hsync.2⟩, trivial, fun x hx => ?_⟩
    refine (Transfer.Page.signings_handle hh hx).imp id ?_
    rintro ⟨rfl, hen, hr, hx, haccount⟩
    exact ⟨rfl, ⟨hr, hen⟩, hx, haccount⟩
  · cases h

/-- **An event of a page that has been left** changes nothing of what its submissions are for. -/
theorem wentOn {s s' : Screen ρ} {e : PageEvent ρ} (hp : s.Paired)
    (h : s.goOn chains e = some s') :
    s'.Paired ∧ ∀ x ∈ s'.signings chains, x ∈ s.signings chains := by
  unfold goOn at h
  split at h
  · rename_i hgoes
    split at h
    · rename_i c e
      obtain ⟨c', hc, rfl⟩ := Option.map_eq_some_iff.mp h
      refine ⟨Extrinsics.Hosted.paired_handle hp hc, fun x hx => ?_⟩
      refine (Extrinsics.Hosted.signings_handle hp hc hx).resolve_right ?_
      rintro ⟨rfl, -⟩
      cases hgoes
    · rename_i p e
      obtain ⟨p', hp', rfl⟩ := Option.map_eq_some_iff.mp h
      refine ⟨trivial, fun x hx => ?_⟩
      refine (Transfer.Page.signings_handle hp' hx).resolve_right ?_
      rintro ⟨rfl, -⟩
      cases hgoes
    · cases h
  · cases h

/-! A page stays the page that it is. -/

variable (chains) in
theorem route_context (api : Option ApiPromise) (isApiReady : Bool) (suffixes : List String)
    (s : Screen ρ) : (s.context chains api isApiReady suffixes).route = s.route := by
  cases s with
  | home | chainState | extrinsics | transfer => rfl

theorem route_step {s s' : Screen ρ} {e : PageEvent ρ} (h : s.step chains e = some s') :
    s'.route = s.route := by
  unfold step at h
  split at h
  · obtain ⟨c, -, rfl⟩ := Option.map_eq_some_iff.mp h
    rfl
  · obtain ⟨c, -, rfl⟩ := Option.map_eq_some_iff.mp h
    rfl
  · cases h
  · obtain ⟨p, -, rfl⟩ := Option.map_eq_some_iff.mp h
    rfl
  · cases h

theorem route_goOn {s s' : Screen ρ} {e : PageEvent ρ} (h : s.goOn chains e = some s') :
    s'.route = s.route := by
  unfold goOn at h
  split at h
  · split at h
    · obtain ⟨c, -, rfl⟩ := Option.map_eq_some_iff.mp h
      rfl
    · obtain ⟨p, -, rfl⟩ := Option.map_eq_some_iff.mp h
      rfl
    · cases h
  · cases h

end Screen

/-! ### The app -/

/-- What the submissions under way are for, those of pages that have been left included. -/
def State.signings (chains : Chains) (a : State ρ) : List Signing :=
  a.screen.signings chains ++ a.left.flatMap (Screen.signings chains)

/-- What an event calls `signAndSend` for. -/
def State.signs (chains : Chains) (a : State ρ) : Event ρ → Option Signing
  | .page e => a.screen.signs chains e
  | .left k e => (a.left[k]?).bind fun s => if e.goesOn then s.signs chains e else none
  | .home _ _ | .navigate _ => none

section
variable {wsProviderError : String → Option String} {env : Option String} {a a' : State ρ}

/-- **Each way an event moves the app.** -/
inductive Moves (chains : Chains) (wsProviderError : String → Option String) (env : Option String)
    (a : State ρ) : Event ρ → State ρ → Prop where
  | told {e : EndpointSelector.Event} {home : Home} (suffixes : List String) (hr : e ≠ .reload)
      (h : EndpointSelector.step wsProviderError env a.home e = some home) :
      Moves chains wsProviderError env a (.home e suffixes)
        { a with
          home := home
          screen := a.screen.context chains home.provider.api home.provider.isApiReady suffixes }
  | reloaded {home : Home} (suffixes : List String)
      (h : EndpointSelector.step wsProviderError env a.home .reload = some home) :
      Moves chains wsProviderError env a (.home .reload suffixes)
        { home := home
          screen := .mount chains home.provider.api home.provider.isApiReady a.screen.route
          left := [] }
  | entered {home : Home} (route : Route) (hroute : route ≠ a.screen.route)
      (h : home = a.home ∨
        EndpointSelector.step wsProviderError env a.home .mount = some home) :
      Moves chains wsProviderError env a (.navigate route)
        { home := home
          screen := .mount chains home.provider.api home.provider.isApiReady route
          left := a.left ++ [a.screen] }
  | stepped {e : PageEvent ρ} {screen : Screen ρ} (h : a.screen.step chains e = some screen) :
      Moves chains wsProviderError env a (.page e) { a with screen := screen }
  | wentOn {k : Nat} {e : PageEvent ρ} {s s' : Screen ρ} (hk : a.left[k]? = some s)
      (h : s.goOn chains e = some s') :
      Moves chains wsProviderError env a (.left k e) { a with left := a.left.set k s' }

theorem step_moves {e : Event ρ} (h : step chains wsProviderError env a e = some a') :
    Moves chains wsProviderError env a e a' := by
  have htold : ∀ {e : EndpointSelector.Event} {suffixes : List String}, e ≠ .reload →
      a.homeStep chains wsProviderError env e suffixes = some a' →
      Moves chains wsProviderError env a (.home e suffixes) a' := by
    intro e suffixes hr hs
    obtain ⟨home, hh, rfl⟩ := Option.map_eq_some_iff.mp hs
    exact .told suffixes hr hh
  unfold step at h
  split at h
  · exact htold (by rintro ⟨⟩) h
  · obtain ⟨home, hh, rfl⟩ := Option.map_eq_some_iff.mp h
    exact .reloaded _ hh
  · cases h
  · rename_i e suffixes _ hr _
    split at h
    · exact htold hr h
    · cases h
  · rename_i route
    split at h
    · cases h
    · rename_i hroute
      obtain ⟨home, hh, rfl⟩ := Option.map_eq_some_iff.mp h
      refine .entered route hroute ?_
      split at hh
      · exact .inr hh
      · exact .inl (Option.some.inj hh).symm
  · obtain ⟨screen, hs, rfl⟩ := Option.map_eq_some_iff.mp h
    exact .stepped hs
  · obtain ⟨s, hk, h⟩ := Option.bind_eq_some_iff.mp h
    obtain ⟨s', hs, rfl⟩ := Option.map_eq_some_iff.mp h
    exact .wentOn hk hs

/-- What joins is alone, or joins the calls in flight: only the provider and the selector start
any. -/
def Joins (a : State ρ) : Event ρ → Prop
  | .home e _ => EndpointSelector.Joins a.home e
  | .navigate _ | .page _ | .left _ _ => True

instance (a : State ρ) : (e : Event ρ) → Decidable (Joins a e)
  | .home e _ => inferInstanceAs (Decidable (EndpointSelector.Joins a.home e))
  | .navigate _ | .page _ | .left _ _ => isTrue trivial

/-- **To the provider and the selector**, an event is one of theirs, or none. -/
theorem Moves.home {e : Event ρ} (hm : Moves chains wsProviderError env a e a') :
    a'.home = a.home ∨ ∃ e', EndpointSelector.step wsProviderError env a.home e' = some a'.home ∧
      (Joins a e → EndpointSelector.Joins a.home e') := by
  cases hm with
  | told suffixes hr h => exact .inr ⟨_, h, id⟩
  | reloaded suffixes h => exact .inr ⟨_, h, id⟩
  | entered route hroute h => exact h.imp id fun h => ⟨.mount, h, fun _ => trivial⟩
  | stepped h => exact .inl rfl
  | wentOn hk h => exact .inl rfl

/-- The page that is shown has the context of the provider; each submission has captured an
instance. -/
structure Wired (a : State ρ) : Prop where
  synced : a.screen.Synced a.home.provider.api a.home.provider.isApiReady
  paired : a.screen.Paired
  left : ∀ s ∈ a.left, s.Paired

theorem wired_load (savedEndpoint env : Option String) (route : Route) :
    Wired (State.load chains savedEndpoint env route : State ρ) := by
  obtain ⟨hsync, hpaired, -⟩ := Screen.mounted ρ chains none false route
  exact ⟨hsync, hpaired, by rintro s ⟨⟩⟩

theorem wired_step {e : Event ρ} (hw : Wired a)
    (h : step chains wsProviderError env a e = some a') : Wired a' := by
  cases step_moves h with
  | @told e home suffixes hr hs =>
      obtain ⟨hsync, hpaired, -⟩ := Screen.told chains home.provider.api
        home.provider.isApiReady suffixes hw.paired
      exact ⟨hsync, hpaired, hw.left⟩
  | @reloaded home suffixes hs =>
      obtain ⟨hsync, hpaired, -⟩ := Screen.mounted ρ chains home.provider.api
        home.provider.isApiReady a.screen.route
      exact ⟨hsync, hpaired, by rintro s ⟨⟩⟩
  | @entered home route hroute hs =>
      obtain ⟨hsync, hpaired, -⟩ := Screen.mounted ρ chains home.provider.api
        home.provider.isApiReady route
      refine ⟨hsync, hpaired, fun s hs => ?_⟩
      rcases List.mem_append.mp hs with hs | hs
      · exact hw.left s hs
      · rw [List.mem_singleton.mp hs]; exact hw.paired
  | stepped hs =>
      obtain ⟨hsync, hpaired, -⟩ := Screen.stepped hw.synced hw.paired hs
      exact ⟨hsync, hpaired, hw.left⟩
  | @wentOn k e s s' hk hs =>
      obtain ⟨hpaired, -⟩ := Screen.wentOn (hw.left s (List.mem_of_getElem? hk)) hs
      refine ⟨hw.synced, hw.paired, fun t ht => ?_⟩
      rcases List.mem_or_eq_of_mem_set ht with ht | rfl
      · exact hw.left t ht
      · exact hpaired

theorem mem_signings {x : Signing} :
    x ∈ a.signings chains ↔ ∃ s ∈ a.screen :: a.left, x ∈ s.signings chains := by
  rw [State.signings, List.mem_append, List.mem_flatMap, List.exists_mem_cons_iff]

/-- **What the submissions of a page are for, stays**; a click on a page of its kind adds what that
page's state gives. -/
theorem page_signings_step {e : Event ρ} (hw : Wired a)
    (h : step chains wsProviderError env a e = some a') {s' : Screen ρ}
    (hs' : s' ∈ a'.screen :: a'.left) {x : Signing} (hx : x ∈ s'.signings chains) :
    (∃ s ∈ a.screen :: a.left, s.route = s'.route ∧ x ∈ s.signings chains) ∨
    ∃ click, e = .page click ∧ click.submits = true ∧ a.screen.route = s'.route ∧
      a.screen.SubmitEnabled ∧ a.screen.prepared chains = some x ∧
      x.account ∈ a.screen.accounts := by
  cases step_moves h with
  | @told e home suffixes hr hs =>
      refine .inl ?_
      rcases List.mem_cons.mp hs' with rfl | hs'
      · obtain ⟨-, -, hsame⟩ := Screen.told chains home.provider.api
          home.provider.isApiReady suffixes hw.paired
        rw [hsame] at hx
        exact ⟨a.screen, List.mem_cons_self, (Screen.route_context chains _ _ _ _).symm, hx⟩
      · exact ⟨s', List.mem_cons_of_mem _ hs', rfl, hx⟩
  | @reloaded home suffixes hs =>
      obtain ⟨-, -, hnone⟩ := Screen.mounted ρ chains home.provider.api
        home.provider.isApiReady a.screen.route
      rw [List.mem_singleton.mp hs', hnone] at hx
      cases hx
  | @entered home route hroute hs =>
      refine .inl ?_
      rcases List.mem_cons.mp hs' with rfl | hs'
      · obtain ⟨-, -, hnone⟩ := Screen.mounted ρ chains home.provider.api
          home.provider.isApiReady route
        rw [hnone] at hx
        cases hx
      · rcases List.mem_append.mp hs' with hs' | hs'
        · exact ⟨s', List.mem_cons_of_mem _ hs', rfl, hx⟩
        · rw [List.mem_singleton.mp hs'] at hx ⊢
          exact ⟨a.screen, List.mem_cons_self, rfl, hx⟩
  | stepped hs =>
      rcases List.mem_cons.mp hs' with rfl | hs'
      · obtain ⟨-, -, hstays⟩ := Screen.stepped hw.synced hw.paired hs
        have hroute := (Screen.route_step hs).symm
        rcases hstays x hx with hx | ⟨hclick, hen, hprepared, haccount⟩
        · exact .inl ⟨a.screen, List.mem_cons_self, hroute, hx⟩
        · exact .inr ⟨_, rfl, hclick, hroute, hen, hprepared, haccount⟩
      · exact .inl ⟨s', List.mem_cons_of_mem _ hs', rfl, hx⟩
  | @wentOn k e s t hk hs =>
      refine .inl ?_
      have hmem : s ∈ a.screen :: a.left := List.mem_cons_of_mem _ (List.mem_of_getElem? hk)
      obtain ⟨-, hstays⟩ := Screen.wentOn (hw.left s (List.mem_of_getElem? hk)) hs
      rcases List.mem_cons.mp hs' with rfl | hs'
      · exact ⟨a.screen, List.mem_cons_self, rfl, hx⟩
      · rcases List.mem_or_eq_of_mem_set hs' with hs' | rfl
        · exact ⟨s', List.mem_cons_of_mem _ hs', rfl, hx⟩
        · exact ⟨s, hmem, (Screen.route_goOn hs).symm, hstays x hx⟩

/-- The same of all the pages. -/
theorem signings_step {e : Event ρ} (hw : Wired a)
    (h : step chains wsProviderError env a e = some a') {x : Signing}
    (hx : x ∈ a'.signings chains) :
    x ∈ a.signings chains ∨ ∃ click, e = .page click ∧ click.submits = true ∧
      a.screen.SubmitEnabled ∧ a.screen.prepared chains = some x ∧
      x.account ∈ a.screen.accounts := by
  obtain ⟨s', hs', hx⟩ := mem_signings.mp hx
  rcases page_signings_step hw h hs' hx with
    ⟨s, hs, -, hx⟩ | ⟨click, he, hclick, -, hprepared⟩
  · exact .inl (mem_signings.mpr ⟨s, hs, hx⟩)
  · exact .inr ⟨click, he, hclick, hprepared⟩

/-- What is signed is what a submission under way is for. -/
theorem signs_mem {e : Event ρ} {x : Signing} (h : a.signs chains e = some x) :
    x ∈ a.signings chains := by
  have hscreen : ∀ {s : Screen ρ} {e : PageEvent ρ}, s.signs chains e = some x →
      x ∈ s.signings chains := by
    intro s e hs
    unfold Screen.signs at hs
    split at hs
    · exact Extrinsics.Hosted.signs_mem hs
    · exact Transfer.Page.signs_mem hs
    · cases hs
  cases e with
  | home e suffixes => cases h
  | navigate route => cases h
  | page e => exact List.mem_append_left _ (hscreen h)
  | left k e =>
      obtain ⟨s, hk, h⟩ := Option.bind_eq_some_iff.mp h
      split at h
      · exact List.mem_append_right _
          (List.mem_flatMap.mpr ⟨s, List.mem_of_getElem? hk, hscreen h⟩)
      · cases h

end

end SubstrateDevTemplate.App
