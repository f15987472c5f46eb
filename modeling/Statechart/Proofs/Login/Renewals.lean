import Statechart.Proofs.Login.Outlines

/-!
# Renewals: what passes with time and cannot be told

When the clock runs, a session that shows an outline comes to the next: attempts are made and answered, and
renewals come and go. A renewal is a whole macrostep, with a save, a new generation and a timer that is set
anew, but it leaves the outline as it is (`posts_elapsed`). Since every renewal sets the timer to a later
time, a session settles (`settles`), and time passes for it however often it renews (`elapses`).
-/
namespace Statechart.Login

/-- A session whose activity has come to its end, before the outcome is delivered. -/
def Outline.bare (setup : Setup) (hidden : Hidden) (outline : Outline) : Site machine Desk :=
  .alone (outline.desk setup hidden) outline.now
    (.resting setup.chart setup.interpreter
      { outline.stage.core setup.interval hidden with activities := [] } outline.stage.registry)

section

variable {setup : Setup} {earlier : List Heard} {outline : Outline} {hidden : Hidden} {account : Account}

/-- A renewal changes only what is hidden. -/
theorem posts_elapsed (valid : setup.problem? = none) {span : Nat} (renews : setup.interval = some span)
    (stands : outline.stage = .signedIn account) (hidden : Hidden) :
    ∃ hidden',
      Site.Places host true (.post (.elapsed ⟨.authenticated,hidden.generation⟩)) 0 (outline.bare setup hidden)
        (.posted (.ok ())) (outline.site setup hidden') ∧
      hidden'.phase = .queued ∧ hidden'.heard = hidden.heard ++ [.view outline.stage.view] := by
  obtain ⟨stage,authenticator,now,loads,clears,told⟩ := outline
  obtain rfl : stage = _ := stands
  have placed : Site.Places host true (.post (.elapsed ⟨.authenticated,hidden.generation⟩)) 0
      (Outline.bare setup hidden ⟨.signedIn account,authenticator,now,loads,clears,told⟩) _ _ :=
    quiet.reacts rfl rfl (decide_eq_true rfl) (run_elapsed valid renews _) rfl
  exact ⟨⟨_,_,_,.queued,_⟩,placed,rfl,rfl⟩

/-- The verdict on an attempt brings a session to the stage that it leads to. -/
theorem posts_outcome {verdict : Verdict} {due : Nat} (stands : outline.stage = .awaiting account verdict due)
    (hidden : Hidden) :
    ∃ hidden',
      Site.Places host true (.post (.ofOutcome ⟨.processAuthentication,hidden.generation⟩ verdict)) 0
        (outline.bare setup hidden) (.posted (.ok ()))
        ((outline.become (.concluded account verdict)).site setup hidden') ∧
      hidden'.heard = hidden.heard ++ [.view (Stage.concluded account verdict).view] := by
  obtain ⟨stage,authenticator,now,loads,clears,told⟩ := outline
  obtain rfl : stage = _ := stands
  cases verdict with
  | ok user =>
    have placed : Site.Places host true (.post (.done ⟨.processAuthentication,hidden.generation⟩ user)) 0
        (Outline.bare setup hidden ⟨.awaiting account (.ok user) due,authenticator,now,loads,clears,told⟩) _ _ :=
      quiet.reacts rfl rfl (decide_eq_true rfl) (run_done _ user) rfl
    exact ⟨⟨_,_,_,.queued,_⟩,placed,rfl⟩
  | error rejection =>
    have placed : Site.Places host true (.post (.failed ⟨.processAuthentication,hidden.generation⟩ rejection)) 0
        (Outline.bare setup hidden ⟨.awaiting account (.error rejection) due,authenticator,now,loads,clears,told⟩) _ _ :=
      quiet.reacts rfl rfl (decide_eq_true rfl) (run_failed _ rejection _) rfl
    exact ⟨⟨_,_,_,.queued,_⟩,placed,rfl⟩

section

variable {origin : Origin machine} {job : Job machine} {due : Nat}

theorem ready?_of_idle (idle : outline.stage.activities setup.interval hidden = []) :
    (outline.site setup hidden).ready? = none :=
  Site.ready?_idle idle

theorem ready?_of_queued (sole : outline.stage.activities setup.interval hidden = [⟨origin,job,.queued⟩]) :
    (outline.site setup hidden).ready? = some (0,0,⟨origin,job,.queued⟩) :=
  Site.ready?_queued sole

theorem ready?_of_asleep (sole : outline.stage.activities setup.interval hidden = [⟨origin,job,.asleep due⟩]) :
    (outline.site setup hidden).ready? = if due ≤ outline.now then some (0,0,⟨origin,job,.asleep due⟩) else none :=
  Site.ready?_asleep sole

end

/-- The only activity comes to its end. -/
theorem setActivity_none {activity : Activity machine}
    (sole : outline.stage.activities setup.interval hidden = [activity]) :
    (outline.site setup hidden).setActivity 0 0 none = outline.bare setup hidden := by
  simp only [Outline.site,Site.setActivity_alone,Interpreter.setActivity,Interpreter.resting,Stage.core,sole]
  rfl

/-- A session settles, and then shows an outline. -/
def SettlesTo (setup : Setup) (earlier : List Heard) (site : Site machine Desk) (outline : Outline) : Prop :=
  ∃ hidden, Site.Settles host site (outline.site setup hidden) ∧ (outline.site setup hidden).ready? = none ∧
    Tells earlier hidden outline

theorem settles_still (tells : Tells earlier hidden outline) (still : (outline.site setup hidden).ready? = none) :
    SettlesTo setup earlier (outline.site setup hidden) outline :=
  ⟨hidden,.still still,still,tells⟩

/-- What follows once an activity has gone to sleep. -/
theorem SettlesTo.slept {before between : Site machine Desk} {number place : Nat} {activity : Activity machine}
    (settles : SettlesTo setup earlier between outline) (ready : before.ready? = some (number,place,activity))
    (goes : Site.advance host before number place activity = (between,none)) :
    SettlesTo setup earlier before outline := by
  obtain ⟨hidden,settled,still,tells⟩ := settles
  exact ⟨hidden,.slept ready goes settled,still,tells⟩

/-- What follows once the outcome of an activity has been delivered. -/
theorem SettlesTo.delivered {before between after : Site machine Desk} {number place : Nat} {activity : Activity machine}
    {event : Event machine} {reply : Reply machine} (settles : SettlesTo setup earlier after outline)
    (ready : before.ready? = some (number,place,activity))
    (goes : Site.advance host before number place activity = (between,some event))
    (placed : Site.Places host true (.post event) number between reply after) :
    SettlesTo setup earlier before outline := by
  obtain ⟨hidden,settled,still,tells⟩ := settles
  exact ⟨hidden,.delivered ready goes placed settled,still,tells⟩

theorem activities_signedIn (stands : outline.stage = .signedIn account) {span : Nat}
    (renews : setup.interval = some span) (hidden : Hidden) :
    outline.stage.activities setup.interval hidden =
      [⟨⟨.authenticated,hidden.generation⟩,.timer span,hidden.phase⟩] := by
  rw [stands,Stage.activities,renews]
  rfl

/-- A renewal timer that is queued goes to sleep. -/
theorem settles_queued (valid : setup.problem? = none) {span : Nat} (renews : setup.interval = some span)
    (stands : outline.stage = .signedIn account) (queued : hidden.phase = .queued)
    (tells : Tells earlier hidden outline) : SettlesTo setup earlier (outline.site setup hidden) outline := by
  have sole := activities_signedIn stands renews
  have goes : Site.advance host (outline.site setup hidden) 0 0
      ⟨⟨.authenticated,hidden.generation⟩,.timer span,.queued⟩ =
        (outline.site setup { hidden with phase := .asleep (outline.now + span) },none) := by
    simp only [Site.advance,Outline.site,Site.setActivity_alone,Interpreter.setActivity,Interpreter.resting,Stage.core,
      sole]
    rfl
  have awake : ¬ outline.now + span ≤ outline.now := by
    have positive := interval_pos valid renews
    omega
  have still : (outline.site setup { hidden with phase := .asleep (outline.now + span) }).ready? = none :=
    (ready?_of_asleep (sole _)).trans (if_neg awake)
  have later : Tells earlier { hidden with phase := .asleep (outline.now + span) } outline :=
    ⟨tells.heard,tells.current⟩
  refine (settles_still later still).slept (ready?_of_queued ?_) goes
  rw [sole,queued]

/-- Renewals settle, and nothing else does, where somebody is signed in. -/
theorem settles_signedIn (valid : setup.problem? = none) (stands : outline.stage = .signedIn account)
    (tells : Tells earlier hidden outline) : SettlesTo setup earlier (outline.site setup hidden) outline := by
  cases renews : setup.interval with
  | none =>
    refine settles_still tells (ready?_of_idle ?_)
    rw [stands,renews]
    rfl
  | some span =>
    cases phase : hidden.phase with
    | queued => exact settles_queued valid renews stands phase tells
    | asleep due =>
      have sole := activities_signedIn stands renews hidden
      rw [phase] at sole
      by_cases awakes : due ≤ outline.now
      · have goes : Site.advance host (outline.site setup hidden) 0 0
            ⟨⟨.authenticated,hidden.generation⟩,.timer span,.asleep due⟩ =
              (outline.bare setup hidden,some (.elapsed ⟨.authenticated,hidden.generation⟩)) :=
          congrArg (·,some _) (setActivity_none sole)
        obtain ⟨hidden',placed,queued,heard⟩ := posts_elapsed valid renews stands hidden
        have later := tells.again (by rw [stands]; rfl) heard
        exact (settles_queued valid renews stands queued later).delivered
          ((ready?_of_asleep sole).trans (if_pos awakes)) goes placed
      · exact settles_still tells ((ready?_of_asleep sole).trans (if_neg awakes))

/-- A session that nobody waits for settles without a change, but for renewals. -/
theorem settles_concluded (valid : setup.problem? = none) {verdict : Verdict}
    (stands : outline.stage = .concluded account verdict) (tells : Tells earlier hidden outline) :
    SettlesTo setup earlier (outline.site setup hidden) outline := by
  cases verdict with
  | ok user => exact settles_signedIn valid stands tells
  | error rejection =>
    refine settles_still tells (ready?_of_idle ?_)
    rw [stands]
    rfl

theorem activities_awaiting {verdict : Verdict} {due : Nat} (stands : outline.stage = .awaiting account verdict due)
    (interval : Option Nat) (hidden : Hidden) :
    outline.stage.activities interval hidden =
      [⟨⟨.processAuthentication,hidden.generation⟩,.service (.awaiting verdict),.asleep due⟩] := by
  rw [stands]
  rfl

theorem settles_awaiting (valid : setup.problem? = none) {verdict : Verdict} {due : Nat}
    (stands : outline.stage = .awaiting account verdict due) (tells : Tells earlier hidden outline) :
    SettlesTo setup earlier (outline.site setup hidden) outline.ripen := by
  have sole := activities_awaiting stands setup.interval hidden
  simp only [Outline.ripen,stands]
  by_cases ripe : due ≤ outline.now
  · rw [if_pos ripe]
    have goes : Site.advance host (outline.site setup hidden) 0 0
        ⟨⟨.processAuthentication,hidden.generation⟩,.service (.awaiting verdict),.asleep due⟩ =
          (outline.bare setup hidden,some (.ofOutcome ⟨.processAuthentication,hidden.generation⟩ verdict)) :=
      congrArg (·,some _) (setActivity_none sole)
    obtain ⟨hidden',placed,heard⟩ := posts_outcome stands hidden
    exact (settles_concluded valid rfl (tells.become _ heard rfl)).delivered
      ((ready?_of_asleep sole).trans (if_pos ripe)) goes placed
  · rw [if_neg ripe]
    exact settles_still tells ((ready?_of_asleep sole).trans (if_neg ripe))

theorem settles_asking (valid : setup.problem? = none) {credentials : Credentials}
    (stands : outline.stage = .asking account credentials) (tells : Tells earlier hidden outline) :
    SettlesTo setup earlier (outline.site setup hidden) outline.settle := by
  obtain ⟨stage,authenticator,now,loads,clears,told⟩ := outline
  obtain rfl : stage = _ := stands
  have ready :
      (Outline.site setup hidden ⟨.asking account credentials,authenticator,now,loads,clears,told⟩).ready? = _ :=
    ready?_of_queued rfl
  have later (verdict : Verdict) (due : Nat) (others : Authenticator) :
      Tells earlier hidden ⟨.awaiting account verdict due,others,now,loads,clears,told⟩ := ⟨tells.heard,tells.current⟩
  simp only [Outline.settle]
  rcases called : authenticator.call credentials with ⟨⟨_ | latency,verdict⟩,others⟩
  · have goes : Site.advance host
        (Outline.site setup hidden ⟨.asking account credentials,authenticator,now,loads,clears,told⟩) 0 0
        ⟨⟨.processAuthentication,hidden.generation⟩,.service (.fresh credentials),.queued⟩ =
          (Outline.bare setup hidden ⟨.awaiting account verdict now,others,now,loads,clears,told⟩,
            some (.ofOutcome ⟨.processAuthentication,hidden.generation⟩ verdict)) := by
      simp only [Site.advance,host,proceedAt,proceed,Outline.site,Site.alone,Outline.desk,called]
      rfl
    have waits : (Outline.mk (.awaiting account verdict now) others now loads clears told).stage = _ := rfl
    obtain ⟨hidden',placed,heard⟩ := posts_outcome waits hidden
    exact (settles_concluded valid rfl ((later verdict now others).become _ heard rfl)).delivered ready goes placed
  · have goes : Site.advance host
        (Outline.site setup hidden ⟨.asking account credentials,authenticator,now,loads,clears,told⟩) 0 0
        ⟨⟨.processAuthentication,hidden.generation⟩,.service (.fresh credentials),.queued⟩ =
          (Outline.site setup hidden ⟨.awaiting account verdict (now + latency),others,now,loads,clears,told⟩,none) := by
      simp only [Site.advance,host,proceedAt,proceed,Outline.site,Site.alone,Outline.desk,called]
      rfl
    exact (settles_awaiting valid rfl (later verdict (now + latency) others)).slept ready goes

/-- What is ready happens, and then an outline is shown in which nothing is. -/
theorem settles (valid : setup.problem? = none) (tells : Tells earlier hidden outline) :
    SettlesTo setup earlier (outline.site setup hidden) outline.settle := by
  cases stands : outline.stage with
  | asking account credentials => exact settles_asking valid stands tells
  | awaiting account verdict due =>
    have ripens := settles_awaiting valid stands tells
    rwa [show outline.settle = outline.ripen by simp only [Outline.settle,stands]]
  | signedIn account =>
    have stays := settles_signedIn valid stands tells
    rwa [show outline.settle = outline by simp only [Outline.settle,Outline.ripen,stands]]
  | _ =>
    rw [show outline.settle = outline by simp only [Outline.settle,Outline.ripen,stands]]
    exact settles_still tells (ready?_of_idle (by rw [stands]; rfl))

/-- What is not ready is due later. -/
theorem lt_of_not_ready {site : Site machine Desk} (still : site.ready? = none) {due : Nat}
    {found : Nat × Nat × Activity machine} (first : site.firstDue? = some (due,found)) : site.now < due := by
  simp only [Site.ready?,first] at still
  split at still
  · cases still
  · split at still
    · cases still
    · omega

/-- It makes no difference whether a session that asks nothing settles on the way. -/
theorem elapse_by_way {due target : Nat} (early : due ≤ target)
    (unasked : ∀ account credentials, outline.stage ≠ .asking account credentials) :
    Outline.elapse { outline with now := due } target = Outline.ripen { outline with now := target } := by
  obtain ⟨stage,authenticator,now,loads,clears,told⟩ := outline
  cases stage with
  | asking account credentials => exact absurd rfl (unasked account credentials)
  | awaiting account verdict ripe =>
    by_cases sooner : ripe ≤ due
    · simp only [Outline.elapse,Outline.settle,Outline.ripen,if_pos sooner,if_pos (Nat.le_trans sooner early)]
      cases verdict <;> rfl
    · simp only [Outline.elapse,Outline.settle,Outline.ripen,if_neg sooner]
  | _ => rfl

/-- Before its verdict is due a session stays where it is. -/
theorem ripen_unripe
    (unripe : ∀ account verdict due, outline.stage = .awaiting account verdict due → outline.now < due) :
    outline.ripen = outline := by
  cases stands : outline.stage with
  | awaiting account verdict due =>
    simp only [Outline.ripen,stands]
    exact if_neg (Nat.not_le.mpr (unripe account verdict due stands))
  | _ => simp only [Outline.ripen,stands]

theorem ripen_now : outline.ripen.now = outline.now := by
  rw [Outline.ripen]
  split
  · split <;> rfl
  · rfl

theorem settle_now : outline.settle.now = outline.now := by
  rw [Outline.settle]
  split
  · split
    · rfl
    · exact ripen_now
  · exact ripen_now

/-- Time leads from what shows an outline to what shows the next, however often the session renews. -/
theorem elapses (valid : setup.problem? = none) {target : Nat} (ahead : outline.now ≤ target)
    (tells : Tells earlier hidden outline) :
    ∃ hidden', Site.Elapses host target (outline.site setup hidden) ((outline.elapse target).site setup hidden') ∧
      Tells earlier hidden' (outline.elapse target) := by
  induction remaining : target - outline.now using Nat.strongRecOn generalizing outline hidden with
  | ind remaining ih =>
    subst remaining
    obtain ⟨between,settled,still,told⟩ := settles valid tells
    have unasked : ∀ account credentials, outline.settle.stage ≠ .asking account credentials := by
      intro account credentials stands
      rw [ready?_of_queued (by rw [stands]; rfl)] at still
      cases still
    by_cases more : ∃ due found, (outline.settle.site setup between).firstDue? = some (due,found) ∧ due ≤ target
    · obtain ⟨due,found,first,early⟩ := more
      have sooner : outline.settle.now < due := lt_of_not_ready still first
      rw [settle_now] at sooner
      have later : Tells earlier between { outline.settle with now := due } := ⟨told.heard,told.current⟩
      obtain ⟨hidden',elapsed,last⟩ := ih (target - due) (by omega) early later rfl
      rw [elapse_by_way early unasked] at elapsed last
      exact ⟨hidden',.awoken settled first early elapsed,last⟩
    · have late : ∀ due found, (outline.settle.site setup between).firstDue? = some (due,found) → target < due :=
        fun due found first => Nat.lt_of_not_le fun early => more ⟨due,found,first,early⟩
      have same : outline.elapse target = { outline.settle with now := target } := by
        refine ripen_unripe fun account verdict due stands => ?_
        have waits : outline.settle.stage = .awaiting account verdict due := stands
        exact late due _ (Site.firstDue?_asleep (activities_awaiting waits setup.interval between))
      rw [same]
      exact ⟨between,.last settled late,told.heard,told.current⟩

end

end Statechart.Login
