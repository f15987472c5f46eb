import Statechart.Proofs.Login.Renewals

/-!
# Transparency: what renewals do not change

A session renews between any two of its steps, and again and again while time passes. Nobody can tell from
what the steps come to: whatever the renewal interval is, and whether there is one, a session over a memory
store answers as its outline does (`follows_all`). So sessions that differ in it only answer the same, show
the same and keep the same user, and only the number of saves, the history and the repetition of snapshots
give the renewals away (`renewal_transparent`).
-/
namespace Statechart.Login

/-! ## What is compared -/

/-- A memory store without its number of saves, and with its other calls counted from given numbers on. -/
def Store.since (loads clears : Nat) : Store → Store
  | .memory current allLoads _ allClears unavailable =>
    .memory current (allLoads - loads) 0 (allClears - clears) unavailable
  | store => store

mutual

/-- What a step came to, without history, numbers of saves and snapshots heard. -/
def Outcome.plain (loads clears : Nat) : Outcome → Outcome
  | .several answers => .several (plains loads clears answers)
  | .history _ => .history .unbounded
  | .count _ => .count 0
  | outcome => outcome

def Answer.plain (loads clears : Nat) : Answer → Answer
  | .mk outcome _ view store => .mk (outcome.plain loads clears) [] view (store.since loads clears)

def plains (loads clears : Nat) : List Answer → List Answer
  | [] => []
  | answer :: rest => answer.plain loads clears :: plains loads clears rest

end

mutual

/-- All that the observer heard, in order. -/
def Outcome.transcript : Outcome → List Heard
  | .several answers => Login.transcript answers
  | _ => []

def Answer.transcript : Answer → List Heard
  | .mk outcome heard _ _ => outcome.transcript ++ heard

def transcript : List Answer → List Heard
  | [] => []
  | answer :: rest => answer.transcript ++ transcript rest

end

/-- The snapshots heard, without those that repeat the one before. -/
def retold (answers : List Answer) : List View := (transcript answers).foldl retell []

mutual

/-- Orders, the passing of time and questions, one after another or in batches. -/
def Step.isOrderly : Step → Bool
  | .batch steps => areOrderly steps
  | .setUnavailable _ => false
  | .setFile _ => false
  | .reopen => false
  | _ => true

def areOrderly : List Step → Bool
  | [] => true
  | step :: rest => step.isOrderly && areOrderly rest

end

/-- With enough fuel, a session comes to given answers. -/
def RunsTo (graph : Graph machine) (settings : Settings) (backend : Backend) (reactions : List Reaction)
    (steps : List Step) (answers : List Answer) : Prop :=
  let fresh := Interpreter.fresh graph settings.interpreter
  Comes (fun fuel => (Site.follow host fuel (openSession fresh >>= fun _ => performAll fresh steps)
    { env := { backend, credentials := settings.credentials, reactions } }).map Prod.fst) answers

/-- It comes to no others, and a run that comes to an end comes to these. -/
theorem RunsTo.run?_eq {graph : Graph machine} {settings : Settings} {backend : Backend} {reactions : List Reaction}
    {steps : List Step} {answers given : List Answer} (runs : RunsTo graph settings backend reactions steps answers)
    (ends : run? graph settings backend reactions steps = some given) : given = answers := by
  have comes : RunsTo graph settings backend reactions steps given :=
    .of_lasting (fun fuel => ((Site.lasting host fuel).follow _ _).map Prod.fst) ends
  exact comes.unique runs

/-! ## What outlines answer -/

namespace Outline

/-- What is to be reported, with nothing heard. -/
def report (outline : Outline) (outcome : Outcome) : Answer :=
  .mk outcome [] outline.stage.view (.memory outline.stage.kept outline.loads 0 outline.clears false)

mutual

/-- What a step comes to, in a session with a name and credentials of its own. -/
def perform (id : String) (own : Credentials) (outline : Outline) : Step → Outcome × Outline
  | .order order => (.order (outline.obey own order).1,(outline.obey own order).2)
  | .advance span => (.order .nothing,outline.elapse (outline.now + span))
  | .batch steps => (.several (outline.performBatch id own steps).1,(outline.performBatch id own steps).2)
  | .fault => (.fault none,outline)
  | .machineId => (.machineId id,outline)
  | .history => (.history .unbounded,outline)
  | .entries _ => (.count 0,outline)
  | .authenticator => (.authenticator outline.authenticator,outline)
  | _ => (.order .nothing,outline)

def performBatch (id : String) (own : Credentials) (outline : Outline) : List Step → List Answer × Outline
  | [] => ([],outline)
  | step :: rest =>
    let (outcome,next) := outline.perform id own step
    let (answers,last) := next.performBatch id own rest
    (next.report outcome :: answers,last)

end

def performAll (id : String) (own : Credentials) (outline : Outline) : List Step → List Answer × Outline
  | [] => ([],outline)
  | step :: rest =>
    let (outcome,next) := outline.perform id own step
    let (answers,last) := next.settle.performAll id own rest
    (next.settle.report outcome :: answers,last)

end Outline

/-! ## Sessions answer as their outlines -/

section

open Site (Follows)

variable {setup : Setup} {fresh : Interpreter machine} {earlier : List Heard} {site : Site machine Desk}
  {outline : Outline}

theorem follows_order (valid : setup.problem? = none) (shows : Shows setup earlier site outline) (order : Order) :
    ∃ after, Follows host order.perform site (outline.obey setup.credentials order).1 after ∧
      Shows setup earlier after (outline.obey setup.credentials order).2 := by
  obtain ⟨reply,after,placed,same,later⟩ := shows_obey valid shows order
  obtain ⟨hidden,rfl,tells⟩ := shows
  rw [← same]
  exact ⟨after,.ask .read (.ask (.call rfl placed) .done),later⟩

theorem follows_settle (valid : setup.problem? = none) (shows : Shows setup earlier site outline) :
    ∃ after, Site.Settles host site after ∧ Shows setup earlier after outline.settle := by
  obtain ⟨hidden,rfl,tells⟩ := shows
  obtain ⟨later,settled,_,told⟩ := settles valid tells
  exact ⟨_,settled,later,rfl,told⟩

theorem follows_elapse (valid : setup.problem? = none) (shows : Shows setup earlier site outline) (span : Nat) :
    ∃ after, Site.Elapses host (site.now + span) site after ∧
      Shows setup earlier after (outline.elapse (outline.now + span)) := by
  obtain ⟨hidden,rfl,tells⟩ := shows
  obtain ⟨later,elapsed,told⟩ := elapses valid (Nat.le_add_right outline.now span) tells
  exact ⟨_,elapsed,later,rfl,told⟩

theorem follows_look (shows : Shows setup earlier site outline) {α : Type} (f : Interpreter machine → α) :
    ∃ hidden, Follows host (session fresh >>= fun self => pure (f self)) site
      (f (.resting setup.chart setup.interpreter (outline.stage.core setup.interval hidden) outline.stage.registry))
      site := by
  obtain ⟨hidden,rfl,tells⟩ := shows
  exact ⟨hidden,.ask .look .done⟩

/-- A report tells what an outline tells, and what has been heard is then asked. -/
theorem follows_report {outcome : Outcome} (shows : Shows setup (earlier ++ outcome.transcript) site outline) :
    ∃ answer after, Follows host (report fresh outcome) site answer after ∧
      answer.plain setup.loads setup.clears = outline.report (outcome.plain setup.loads setup.clears) ∧
      Shows setup (earlier ++ answer.transcript) after outline ∧ after.env.heard = [] := by
  obtain ⟨hidden,rfl,tells⟩ := shows
  refine ⟨_,outline.site setup { hidden with heard := [] },.ask .read (.ask .read (.ask .write (.ask .look .done))),?_,
    ⟨_,rfl,?_,tells.current⟩,rfl⟩
  · have loads : setup.loads + outline.loads - setup.loads = outline.loads := Nat.add_sub_cancel_left _ _
    have clears : setup.clears + outline.clears - setup.clears = outline.clears :=
      Nat.add_sub_cancel_left _ _
    simp only [Answer.plain,Outline.report,Outline.site,Outline.desk,Site.alone,Store.since,loads,clears]
    rfl
  · have heard := tells.heard
    simp only [Answer.transcript,List.append_nil]
    rw [← List.append_assoc]
    exact heard

/-- A step on which no report is made on the way. -/
theorem Shows.silent {outcome : Outcome} (shows : Shows setup earlier site outline) (silent : outcome.transcript = []) :
    Shows setup (earlier ++ outcome.transcript) site outline := by
  rwa [silent,List.append_nil]

mutual

/-- A step comes to what its outline says. -/
theorem follows_step (valid : setup.problem? = none) (step : Step) (orderly : step.isOrderly = true)
    {earlier : List Heard} {site : Site machine Desk} {outline : Outline} (shows : Shows setup earlier site outline) :
    ∃ outcome after, Follows host (step.perform fresh) site outcome after ∧
      outcome.plain setup.loads setup.clears = (outline.perform setup.machineId setup.credentials step).1 ∧
      Shows setup (earlier ++ outcome.transcript) after (outline.perform setup.machineId setup.credentials step).2 := by
  cases step with
  | order order =>
    obtain ⟨after,followed,later⟩ := follows_order valid shows order
    exact ⟨_,after,followed.bind .done,rfl,later.silent rfl⟩
  | advance span =>
    obtain ⟨after,elapsed,later⟩ := follows_elapse valid shows span
    exact ⟨_,after,.ask (.elapse elapsed) .done,rfl,later.silent rfl⟩
  | batch steps =>
    obtain ⟨answers,after,followed,same,later⟩ := follows_batch valid steps orderly shows
    exact ⟨_,after,followed.bind .done,congrArg Outcome.several same,later⟩
  | fault =>
    obtain ⟨hidden,followed⟩ := follows_look shows fun self => Outcome.fault self.core.fault
    exact ⟨_,site,followed,rfl,shows.silent rfl⟩
  | machineId =>
    obtain ⟨hidden,followed⟩ := follows_look shows fun self => Outcome.machineId self.graph.id
    exact ⟨_,site,followed,rfl,shows.silent rfl⟩
  | history =>
    obtain ⟨hidden,followed⟩ := follows_look shows fun self => Outcome.history self.core.history
    exact ⟨_,site,followed,rfl,shows.silent rfl⟩
  | entries state =>
    obtain ⟨hidden,followed⟩ := follows_look shows fun self => Outcome.count (self.core.history.entries state)
    exact ⟨_,site,followed,rfl,shows.silent rfl⟩
  | authenticator =>
    have kept := shows
    obtain ⟨hidden,rfl,_⟩ := shows
    exact ⟨_,_,.ask .read .done,rfl,kept.silent rfl⟩
  | _ => cases orderly

/-- A batch comes to what its outlines say. -/
theorem follows_batch (valid : setup.problem? = none) (steps : List Step) (orderly : areOrderly steps = true)
    {earlier : List Heard} {site : Site machine Desk} {outline : Outline} (shows : Shows setup earlier site outline) :
    ∃ answers after, Follows host (performBatch fresh steps) site answers after ∧
      plains setup.loads setup.clears answers = (outline.performBatch setup.machineId setup.credentials steps).1 ∧
      Shows setup (earlier ++ transcript answers) after
        (outline.performBatch setup.machineId setup.credentials steps).2 := by
  cases steps with
  | nil => exact ⟨[],site,.done,rfl,by rwa [transcript,List.append_nil]⟩
  | cons step rest =>
    obtain ⟨first,others⟩ := Bool.and_eq_true_iff.mp orderly
    obtain ⟨outcome,between,stepped,same,showing⟩ := follows_step valid step first shows
    obtain ⟨answer,told,reported,plain,heard,_⟩ := follows_report showing
    obtain ⟨answers,after,followed,equal,later⟩ := follows_batch valid rest others heard
    refine ⟨answer :: answers,after,stepped.bind (reported.bind (followed.bind .done)),?_,?_⟩
    · simp only [plains,Outline.performBatch,plain,same,equal]
    · rw [transcript,← List.append_assoc]
      exact later

end

theorem follows_all (valid : setup.problem? = none) (steps : List Step) (orderly : areOrderly steps = true)
    (shows : Shows setup earlier site outline) (asked : site.env.heard = []) :
    ∃ answers after, Follows host (performAll fresh steps) site answers after ∧
      plains setup.loads setup.clears answers = (outline.performAll setup.machineId setup.credentials steps).1 ∧
      Shows setup (earlier ++ transcript answers) after
        (outline.performAll setup.machineId setup.credentials steps).2 ∧ after.env.heard = [] := by
  induction steps generalizing earlier site outline with
  | nil => exact ⟨[],site,.done,rfl,by rwa [transcript,List.append_nil],asked⟩
  | cons step rest ih =>
    obtain ⟨first,others⟩ := Bool.and_eq_true_iff.mp orderly
    obtain ⟨outcome,between,stepped,same,showing⟩ := follows_step valid step first shows
    obtain ⟨still,settled,settling⟩ := follows_settle valid showing
    obtain ⟨answer,told,reported,plain,heard,empty⟩ := follows_report settling
    obtain ⟨answers,after,followed,equal,later,last⟩ := ih others heard empty
    refine ⟨answer :: answers,after,
      stepped.bind (.ask (.settle settled) (reported.bind (followed.bind .done))),?_,?_,last⟩
    · simp only [plains,Outline.performAll,plain,same,equal]
    · rw [transcript,← List.append_assoc]
      exact later

end

/-- The outline of a session that has just been opened, over a store that keeps a user. -/
def Outline.opened (kept : Option Identity) (authenticator : Authenticator) : Outline where
  stage := .unstarted kept
  authenticator := authenticator
  now := 0
  loads := 0
  clears := 0
  told := []

/-- A session over a memory store that can be written answers as its outline, whether it renews or not. -/
theorem runsTo_outline {settings : Settings} (valid : settings.problem? = none) (kept : Option Identity)
    (loads saves clears : Nat) (authenticator : Authenticator) {steps : List Step} (orderly : areOrderly steps = true) :
    ∃ answers,
      RunsTo settings.chart settings ⟨.memory kept loads saves clears false,authenticator⟩ [] steps answers ∧
      plains loads clears answers =
        ((Outline.opened kept authenticator).performAll settings.machineId settings.credentials steps).1 ∧
      retold answers =
        ((Outline.opened kept authenticator).performAll settings.machineId settings.credentials steps).2.told := by
  let setup : Setup := { settings with loads, clears }
  let hidden : Hidden := ⟨saves,.first,.bounded settings.interpreter.historyLimit,.queued,[]⟩
  have opened : Site.Follows host (openSession (.fresh settings.chart settings.interpreter))
      { env := ⟨⟨.memory kept loads saves clears false,authenticator⟩,settings.credentials,[],[]⟩ } ()
      ((Outline.opened kept authenticator).site setup hidden) :=
    .ask .replace (.ask (.subscribe rfl rfl) .done)
  have shows : Shows setup [] ((Outline.opened kept authenticator).site setup hidden) (.opened kept authenticator) :=
    ⟨hidden,rfl,rfl,nofun⟩
  obtain ⟨answers,after,followed,same,⟨last,rfl,tells⟩,asked⟩ := follows_all valid steps orderly shows rfl
  have runs : Site.Follows host
      (openSession (.fresh settings.chart settings.interpreter) >>= fun _ =>
        performAll (.fresh settings.chart settings.interpreter) steps) _ answers _ := opened.bind followed
  have silent : last.heard = [] := asked
  have told := tells.heard
  rw [silent,List.append_nil,List.nil_append] at told
  exact ⟨answers,Comes.map runs Prod.fst,same,told⟩

/-- Renewals are transparent. Two sessions that differ in nothing but their renewal interval, over memory stores
that keep the same user and can be written, before the same authenticator and without reactions, come to an end
of the same orders, waits and questions, at the same times. They answer the same, show the same, and their stores
keep the same user at each of these times; and their observers are told the same, but for repetitions. -/
theorem renewal_transparent {settings other : Settings} (valid : settings.problem? = none)
    (sane : other.problem? = none)
    (alike : { settings with renewInterval := none } = { other with renewInterval := none })
    {graph renewing : Graph machine}
    (builds : Login.graph settings.machineId (settings.renewInterval.map UInt64.toNat) = .ok graph)
    (rebuilds : Login.graph other.machineId (other.renewInterval.map UInt64.toNat) = .ok renewing)
    (kept : Option Identity) (loads saves clears loads' saves' clears' : Nat) (authenticator : Authenticator)
    {steps : List Step} (orderly : areOrderly steps = true) :
    ∃ answers answers',
      RunsTo graph settings ⟨.memory kept loads saves clears false,authenticator⟩ [] steps answers ∧
      RunsTo renewing other ⟨.memory kept loads' saves' clears' false,authenticator⟩ [] steps answers' ∧
      plains loads clears answers = plains loads' clears' answers' ∧ retold answers = retold answers' := by
  obtain rfl : graph = settings.chart := eq_chart builds
  obtain rfl : renewing = other.chart := eq_chart rebuilds
  obtain ⟨names,owns,_⟩ := Settings.mk.inj alike
  obtain ⟨answers,runs,same,told⟩ := runsTo_outline valid kept loads saves clears authenticator orderly
  obtain ⟨answers',runs',same',told'⟩ := runsTo_outline sane kept loads' saves' clears' authenticator orderly
  rw [names,owns] at same told
  exact ⟨answers,answers',runs,runs',same.trans same'.symm,told.trans told'.symm⟩

/-- Settings of a session that renews every minute. -/
def minutely : Settings := { renewInterval := some 60000 }

/-- Somebody logs in, stays for some minutes, and logs out. -/
def visit : List Step := [
  .order .start, .order (.login none), .advance 5000, .order (.login none), .advance 150000,
  .batch [.order .logout,.order (.login none)], .advance 65000, .authenticator, .order .stop]

theorem visit_renewal_transparent :
    ∃ answers answers',
      RunsTo (chart "authentication" none) {} ⟨.memory none 0 0 0 false,.usual⟩ [] visit answers ∧
      RunsTo (chart "authentication" (some 60000)) minutely ⟨.memory none 0 0 0 false,.usual⟩ [] visit answers' ∧
      plains 0 0 answers = plains 0 0 answers' ∧ retold answers = retold answers' := by
  have valid : ({} : Settings).problem? = none := by decide
  have sane : minutely.problem? = none := by decide
  have orderly : areOrderly visit = true := by decide
  exact renewal_transparent valid sane rfl (graph_eq _ _) (graph_eq _ _) none 0 0 0 0 0 0 .usual orderly

end Statechart.Login
