import Mathlib.Data.List.Forall2
import Mathlib.Data.List.Perm.Basic
import Statechart.Proofs.Registrations
import Statechart.Proofs.Sites
import Statechart.Proofs.SnapshotOrder
import Statechart.Proofs.Trails

/-!
# Subscriptions: what interpreters do with their registries

Whatever happens to an interpreter, its listeners are registered and called as by acts on a registry: a snapshot that is
produced begins a notification, each call of a listener is a step of one, and the end of a farewell releases everyone.
So all that is true of registries is true of interpreters (`listeners_registered_and_called`).
-/
namespace Statechart

open Registry Notifier

variable {M : Machine} {graph : Graph M} {options : Options}

/-- What is done to the registry of an interpreter. -/
abbrev ListenerAct (M : Machine) : Type := Act M.Listener (Snapshot M.State M.Context)

/-- The registry of an interpreter with all notifications of snapshots. -/
abbrev SnapshotNotifier (M : Machine) : Type := Notifier M.Listener (Snapshot M.State M.Context)

/-- What an onlooker notes down of a notification. -/
def Registry.Report.note : Report M.Listener (Snapshot M.State M.Context) → Note M
  | .began snapshot entries => .produced snapshot (entries.map Prod.fst)
  | .called _ entry snapshot => .heard entry.1 snapshot

/-- Whether something is done to those who are registered. -/
def Registry.Act.isChange {α μ : Type} : Act α μ → Bool
  | .subscribe _ => true
  | .unsubscribe _ => true
  | .clear => true
  | _ => false

/-- What is done at a moment to those who are registered: somebody subscribes or unsubscribes, and at the end of a
farewell everyone is released. -/
def Moment.change? (moment : Moment M) : Option (ListenerAct M) :=
  match moment.deed, moment.here.self.stack with
  | .subscribe listener, _ => some (.subscribe listener)
  | .unsubscribe number, _ => some (.unsubscribe number)
  | .go, .publishing _ [] sequel :: _ => if sequel.isFarewell then some .clear else none
  | _, _ => none

theorem Moment.change?_cases {moment : Moment M} {act : ListenerAct M} (changes : moment.change? = some act) :
    (∃ listener, moment.deed = .subscribe listener ∧ act = .subscribe listener) ∨
    (∃ number, moment.deed = .unsubscribe number ∧ act = .unsubscribe number) ∨
    moment.deed = .go ∧ act = .clear ∧ ∃ snapshot sequel below,
      moment.here.self.stack = .publishing snapshot [] sequel :: below ∧ sequel.isFarewell = true := by
  rw [change?] at changes
  split at changes
  · rename_i deed
    cases changes
    exact .inl ⟨_,deed,rfl⟩
  · rename_i deed
    cases changes
    exact .inr (.inl ⟨_,deed,rfl⟩)
  · rename_i deed top
    obtain ⟨farewell,same⟩ := Option.ite_none_right_eq_some.mp changes
    cases same
    exact .inr (.inr ⟨deed,rfl,_,_,_,top,farewell⟩)
  · cases changes

/-- At any other moment nothing changes. -/
theorem Gathering.Moves.registry_kept {here next : Gathering M} {deed : Deed M} (moves : here.Moves deed next)
    (unchanged : (⟨here,deed⟩ : Moment M).change? = none) : next.self.registry = here.self.registry := by
  rcases moves.registry with enrolled | ⟨rfl,_,snapshot,sequel,below,top,farewell⟩
  · rw [enrolled]
    cases deed with
    | subscribe _ => cases unchanged
    | unsubscribe _ => cases unchanged
    | _ => rfl
  · simp [Moment.change?,top,farewell] at unchanged

/-! ## Notifications and deliveries -/

/-- A notification is on its way as a delivery, whose first listener has been called already. -/
def Notifier.Tracks (notifier : SnapshotNotifier M) (delivery : Delivery M) (place : Nat) : Prop :=
  notifier.notifications[place]? = some ⟨delivery.snapshot,delivery.unheard.tail⟩

/-- A registry is that of an interpreter, and the notifications that are not over are the deliveries in progress. -/
structure Notifier.Mirrors (notifier : SnapshotNotifier M) (circulation : Circulation M) (places : List Nat) :
    Prop where
  registry : notifier.registry = circulation.registry
  distinct : places.Nodup
  tracks : List.Forall₂ notifier.Tracks circulation.deliveries places
  complete : ∀ place told, notifier.notifications[place]? = some told → told.unheard ≠ [] → place ∈ places

namespace Notifier

variable {notifier later : SnapshotNotifier M} {deliveries : List (Delivery M)}
  {places : List Nat}

theorem tracks_kept (tracks : List.Forall₂ notifier.Tracks deliveries places)
    (kept : ∀ place ∈ places, later.notifications[place]? = notifier.notifications[place]?) :
    List.Forall₂ later.Tracks deliveries places := by
  induction tracks with
  | nil => exact .nil
  | cons first _ ih =>
    have later := ih fun place member => kept place (List.mem_cons_of_mem _ member)
    exact .cons ((kept _ List.mem_cons_self).trans first) later

theorem tracks_known (tracks : List.Forall₂ notifier.Tracks deliveries places) :
    ∀ place ∈ places, place < notifier.notifications.length := by
  induction tracks with
  | nil => exact fun _ member => by cases member
  | cons first _ ih =>
    intro place member
    rcases List.mem_cons.mp member with same | other
    · subst same
      exact (List.getElem?_eq_some_iff.mp first).1
    · exact ih place other

theorem tracks_exists (tracks : List.Forall₂ notifier.Tracks deliveries places) {place : Nat}
    (member : place ∈ places) : ∃ delivery ∈ deliveries, notifier.Tracks delivery place := by
  induction tracks with
  | nil => cases member
  | cons first _ ih =>
    rcases List.mem_cons.mp member with same | other
    · exact ⟨_,List.mem_cons_self,same ▸ first⟩
    · obtain ⟨delivery,among,further⟩ := ih other
      exact ⟨delivery,List.mem_cons_of_mem _ among,further⟩

end Notifier

namespace Notifier.Mirrors

variable {notifier : SnapshotNotifier M} {registry : Registry M.Listener}
  {before : Circulation M} {places : List Nat}

theorem fresh (graph : Graph M) (options : Options) :
    Mirrors {} (Gathering.fresh graph options).circulation [] :=
  ⟨rfl,List.nodup_nil,.nil,fun _ _ found => by cases found⟩

/-- It does not matter to the notifications who is registered. -/
theorem enrolled (mirrors : notifier.Mirrors before places) (change : Registry M.Listener → Registry M.Listener) :
    Mirrors { notifier with registry := change notifier.registry } { before with registry := change before.registry }
      places :=
  ⟨congrArg change mirrors.registry,mirrors.distinct,mirrors.tracks,mirrors.complete⟩

/-- The order of the deliveries does not matter. -/
theorem rearranged (mirrors : notifier.Mirrors before places) {deliveries : List (Delivery M)}
    (shuffled : deliveries.Perm before.deliveries) :
    ∃ others, notifier.Mirrors ⟨before.registry,deliveries⟩ others := by
  obtain ⟨others,tracks,perm⟩ := List.perm_comp_forall₂ shuffled mirrors.tracks
  refine ⟨others,mirrors.registry,perm.nodup_iff.mpr mirrors.distinct,tracks,?_⟩
  intro place told found left
  exact perm.mem_iff.mpr (mirrors.complete place told found left)

/-- A delivery that everybody has heard is over. -/
theorem ended {snapshot : Snapshot M.State M.Context} {sequel : Sequel} {rest : List (Delivery M)}
    (mirrors : notifier.Mirrors ⟨registry,⟨snapshot,[],sequel⟩ :: rest⟩ places) :
    ∃ others, notifier.Mirrors ⟨registry,rest⟩ others := by
  obtain ⟨registry,distinct,tracks,complete⟩ := mirrors
  cases tracks with
  | @cons _ place _ others first tracks =>
    refine ⟨others,registry,(List.nodup_cons.mp distinct).2,tracks,?_⟩
    intro other told found left
    rcases List.mem_cons.mp (complete other told found left) with same | member
    · rw [same,first] at found
      cases found
      exact absurd rfl left
    · exact member

/-- A notification goes on to its next listener. -/
theorem called {snapshot : Snapshot M.State M.Context} {unheard : List (Nat × M.Listener)} (sequel : Sequel)
    {rest : List (Delivery M)} {place : Nat} (same : notifier.registry = registry)
    (found : notifier.notifications[place]? = some ⟨snapshot,unheard⟩) (distinct : (place :: places).Nodup)
    (tracks : List.Forall₂ notifier.Tracks rest places)
    (complete : ∀ other told, notifier.notifications[other]? = some told → told.unheard ≠ [] →
      other ∈ place :: places) :
    (notifier.step (.call place)).Mirrors ⟨registry,⟨snapshot,unheard,sequel⟩ :: rest⟩ (place :: places) ∧
      (notifier.report? (.call place)).toList.map Report.note = calls snapshot unheard := by
  have apart := (List.nodup_cons.mp distinct).1
  refine ⟨⟨same,distinct,.cons (step_call_self found) (tracks_kept tracks ?_),?_⟩,?_⟩
  · intro other member
    apply step_call_of_ne
    rintro rfl
    exact apart member
  · intro other told later left
    by_cases equal : place = other
    · exact equal ▸ List.mem_cons_self
    · rw [step_call_of_ne equal] at later
      exact complete other told later left
  · cases unheard with
    | nil => simp [report?,found,calls]
    | cons next unheard => simp [report?,found,calls,Report.note]

/-- When a listener returns, the next one is called. -/
theorem told {snapshot : Snapshot M.State M.Context} {entry : Nat × M.Listener} {unheard : List (Nat × M.Listener)}
    {sequel : Sequel} {rest : List (Delivery M)}
    (mirrors : notifier.Mirrors ⟨registry,⟨snapshot,entry :: unheard,sequel⟩ :: rest⟩ places) :
    ∃ place, (notifier.step (.call place)).Mirrors ⟨registry,⟨snapshot,unheard,sequel⟩ :: rest⟩ places ∧
      (notifier.report? (.call place)).toList.map Report.note = calls snapshot unheard := by
  obtain ⟨registry,distinct,tracks,complete⟩ := mirrors
  cases tracks with
  -- whoever returns has been called before, so the notification has those behind it left
  | cons first tracks => exact ⟨_,called sequel registry first distinct tracks complete⟩

/-- When a snapshot is produced, a notification begins and calls its first listener. -/
theorem published (mirrors : notifier.Mirrors before places) (snapshot : Snapshot M.State M.Context) (sequel : Sequel) :
    ∃ place,
      (notifier.after [.notify snapshot,.call place]).Mirrors (before.publish snapshot sequel) (place :: places) ∧
      (notifier.reports [.notify snapshot,.call place]).map Report.note =
        .produced snapshot before.registry.numbers :: calls snapshot before.registry.entries := by
  obtain ⟨registry,distinct,tracks,complete⟩ := mirrors
  have known := tracks_known tracks
  have unknown : notifier.notifications.length ∉ places := fun member => Nat.lt_irrefl _ (known _ member)
  have begins : (notifier.step (.notify snapshot)).registry = before.registry := registry
  have found := notifier.step_notify_self snapshot
  rw [registry] at found
  have kept := tracks_kept tracks fun place member => step_notify_of_lt (known place member) snapshot
  have among : ∀ other told, (notifier.step (.notify snapshot)).notifications[other]? = some told → told.unheard ≠ [] →
      other ∈ notifier.notifications.length :: places := by
    intro other told later left
    by_cases old : other < notifier.notifications.length
    · rw [step_notify_of_lt old] at later
      exact List.mem_cons_of_mem _ (complete other told later left)
    · have below := (List.getElem?_eq_some_iff.mp later).1
      simp only [step,List.length_append,List.length_singleton] at below
      exact List.mem_cons.mpr (.inl (by omega))
  obtain ⟨mirrors,noted⟩ := called sequel begins found (List.nodup_cons.mpr ⟨unknown,distinct⟩) kept among
  refine ⟨_,mirrors,?_⟩
  rw [← noted,← registry]
  simp [reports,report?,Report.note,numbers]

end Notifier.Mirrors

/-! ## Deeds as acts -/

/-- The acts have led to the registry and the deliveries of an interpreter, and what is seen of them is what has been
noted down. -/
def Notifier.Follows (notifier : SnapshotNotifier M) (acts : List (ListenerAct M))
    (notes : List (Note M)) (circulation : Circulation M) : Prop :=
  (∃ places, (notifier.after acts).Mirrors circulation places) ∧ (notifier.reports acts).map Report.note = notes

namespace Notifier.Follows

variable {notifier : SnapshotNotifier M} {circulation : Circulation M}

theorem still {places : List Nat} (mirrors : notifier.Mirrors circulation places) :
    notifier.Follows [] [] circulation := ⟨⟨places,mirrors⟩,rfl⟩

theorem append {acts more : List (ListenerAct M)} {log notes : List (Note M)}
    (seen : (notifier.reports acts).map Report.note = log)
    (follows : (notifier.after acts).Follows more notes circulation) :
    notifier.Follows (acts ++ more) (log ++ notes) circulation := by
  obtain ⟨mirrors,noted⟩ := follows
  refine ⟨by rw [after_append]; exact mirrors,?_⟩
  rw [reports_append,List.map_append,seen,noted]

end Notifier.Follows

section
variable {notifier : SnapshotNotifier M} {places : List Nat}

/-- What happens to the deliveries, while nobody comes or goes, are calls of notifications. -/
theorem Circulation.Step.follows {before after : Circulation M} {notes : List (Note M)} (step : before.Step notes after)
    (mirrors : notifier.Mirrors before places) (kept : after.registry = before.registry) :
    ∃ acts, notifier.Follows acts notes after ∧ acts.filter Act.isChange = [] := by
  cases step with
  | still => exact ⟨[],.still mirrors,rfl⟩
  | @subscribe registry _ _ => exact absurd (congrArg Registry.next kept) (Nat.succ_ne_self registry.next)
  | unsubscribe _ =>
    simp only at kept
    rw [kept]
    exact ⟨[],.still mirrors,rfl⟩
  | told =>
    obtain ⟨place,mirrors,noted⟩ := mirrors.told
    exact ⟨[.call place],⟨⟨places,mirrors⟩,by simpa [Notifier.reports] using noted⟩,rfl⟩
  | done _ =>
    obtain ⟨others,mirrors⟩ := mirrors.ended
    exact ⟨[],.still mirrors,rfl⟩
  | released _ =>
    simp only at kept
    rw [kept]
    obtain ⟨others,mirrors⟩ := mirrors.ended
    exact ⟨[],.still mirrors,rfl⟩

/-- At the end of a farewell everyone is released. -/
theorem Interpreter.released_follows {self : Interpreter M} {others : List (Frame M)}
    (mirrors : notifier.Mirrors (self.circulation others) places) {snapshot : Snapshot M.State M.Context}
    {sequel : Sequel} {below : List (Frame M)} (top : self.stack = .publishing snapshot [] sequel :: below)
    (farewell : sequel.isFarewell = true) :
    notifier.Follows [.clear] (self.notes self.tick.1 .go) (self.tick.1.circulation others) := by
  have ticked : self.tick.1 = { self with registry := self.registry.clear, stack := below } := by
    rw [tick,top]
    cases sequel with
    | stopped => rfl
    | faulted => rfl
    | _ => cases farewell
  have quiet : self.notes self.tick.1 .go = [] := notes_eq_nil (by rw [ticked,top]; exact Nat.le_succ _) (by simp)
  rw [circulation,top] at mirrors
  obtain ⟨places,mirrors⟩ := Notifier.Mirrors.ended mirrors
  rw [quiet,circulation,ticked]
  exact ⟨⟨places,mirrors.enrolled Registry.clear⟩,rfl⟩

namespace Gathering

/-- Each deed stands for some acts: for what is done to those who are registered, or else for what happens to the
deliveries. -/
theorem Moves.follows {here next : Gathering M} {deed : Deed M} (moves : here.Moves deed next)
    (mirrors : notifier.Mirrors here.circulation places) :
    ∃ acts, notifier.Follows acts (here.self.notes next.self deed) next.circulation ∧
      acts.filter Act.isChange = (⟨here,deed⟩ : Moment M).change?.toList := by
  cases changes : (⟨here,deed⟩ : Moment M).change? with
  | some act =>
    rcases Moment.change?_cases changes with ⟨listener,now,rfl⟩ | ⟨number,now,rfl⟩ | ⟨now,rfl,_,_,_,top,farewell⟩
    · simp only at now
      subst now
      cases moves with | @turn self _ _ _ turn =>
      cases turn
      have quiet : self.notes (self.subscribe listener).2 (.subscribe listener) = [] :=
        Interpreter.notes_eq_nil (Nat.le_refl _) (by simp)
      refine ⟨[.subscribe listener],⟨⟨places,?_⟩,quiet.symm⟩,rfl⟩
      exact mirrors.enrolled fun registry => (registry.add listener).2
    · simp only at now
      subst now
      cases moves with | @turn self _ _ _ turn =>
      cases turn
      have quiet : self.notes (self.unsubscribe number).2 (.unsubscribe number) = [] :=
        Interpreter.notes_eq_nil (Nat.le_refl _) (by simp)
      refine ⟨[.unsubscribe number],⟨⟨places,?_⟩,quiet.symm⟩,rfl⟩
      exact mirrors.enrolled fun registry => registry.remove number
    · simp only at now
      subst now
      obtain rfl := moves.of_go
      exact ⟨[.clear],Interpreter.released_follows mirrors top farewell,rfl⟩
  | none =>
    -- nobody comes or goes, so what happens, if anything, concerns the deliveries
    have kept := moves.registry_kept changes
    cases moves with
    | @turn self next _ waiting turn =>
      rcases turn.circulates waiting.flatten with step | ⟨snapshot,sequel,_,same,noted,_⟩
      · exact step.follows mirrors kept
      · obtain ⟨place,mirrors,seen⟩ := mirrors.published snapshot sequel
        refine ⟨[.notify snapshot,.call place],⟨⟨place :: places,?_⟩,seen.trans noted.symm⟩,rfl⟩
        rw [circulation,same]
        exact mirrors
    | @back self stack before after =>
      have shuffled : (deliveries (stack ++ (before ++ self.stack :: after).flatten)).Perm
          (deliveries (self.stack ++ (before ++ stack :: after).flatten)) := (back_perm _ _ _ _).filterMap _
      obtain ⟨others,mirrors⟩ := mirrors.rearranged shuffled
      exact ⟨[],.still mirrors,rfl⟩
    | join => exact ⟨[],.still mirrors,rfl⟩

/-- As deeds follow one another, so do the acts that they stand for. -/
theorem Trail.mirrors {first last : Gathering M} {trail : List (Moment M)} (run : first.Trail trail last)
    (mirrors : notifier.Mirrors first.circulation places) :
    ∃ acts others, (notifier.after acts).Mirrors last.circulation others := by
  induction run with
  | here => exact ⟨[],places,mirrors⟩
  | onward _ moves ih =>
    obtain ⟨acts,others,mirrors⟩ := ih
    obtain ⟨more,⟨⟨further,mirrors⟩,_⟩,_⟩ := moves.follows mirrors
    exact ⟨acts ++ more,further,by rw [Notifier.after_append]; exact mirrors⟩

end Gathering

end

/-! ## Whole runs -/

namespace Gathering

variable {here last : Gathering M}

theorem Path.follows {deeds : List (Deed M)} {log : List (Note M)} (path : (fresh graph options).Path deeds log here) :
    ∃ trail acts, (fresh graph options).Trail trail here ∧ trail.map Moment.deed = deeds ∧
      Notifier.Follows {} acts log here.circulation ∧ acts.filter Act.isChange = trail.filterMap Moment.change? := by
  induction path with
  | here => exact ⟨[],[],.here,rfl,.still (.fresh graph options),rfl⟩
  | @onward _ _ deed here _ _ moves ih =>
    obtain ⟨trail,acts,run,rfl,⟨⟨places,mirrors⟩,seen⟩,changed⟩ := ih
    obtain ⟨more,follows,changes⟩ := moves.follows mirrors
    refine ⟨_,acts ++ more,run.onward moves,List.map_append,follows.append seen,?_⟩
    rw [List.filter_append,List.filterMap_append,changed,changes]
    cases change : (⟨here,deed⟩ : Moment M).change? <;> simp [change]

/-- Once somebody has unsubscribed or everyone has been released, nobody who has gone is told that it was still
registered. -/
theorem Trail.released {before after : List (Moment M)} {moment : Moment M}
    (run : (fresh graph options).Trail (before ++ moment :: after) last) {act : ListenerAct M} {number : Nat}
    (changes : moment.change? = some act) (releases : act.releases number = true)
    (known : number < moment.here.self.registry.next) : (last.self.unsubscribe number).1 = false := by
  obtain ⟨next,early,moves,late⟩ := run.split
  obtain ⟨acts,places,mirrors⟩ := early.mirrors (.fresh graph options)
  obtain ⟨now,⟨⟨others,mirrored⟩,_⟩,same⟩ := moves.follows mirrors
  obtain ⟨more,rest,ends⟩ := late.mirrors mirrored
  have among : act ∈ now := by
    apply List.mem_of_mem_filter
    rw [same,changes]
    exact List.mem_singleton.mpr rfl
  obtain ⟨front,back,rfl⟩ := List.append_of_mem among
  have counted : number < given (acts ++ front) := by
    have registry := mirrors.registry
    rw [Notifier.registry_after] at registry
    have numbers : given acts = moment.here.self.registry.next := congrArg Registry.next registry
    rw [given_append]
    omega
  have spent := (Notifier.exact ((acts ++ front) ++ act :: (back ++ more))).spent _ _ _ number rfl releases counted
  have whole : (acts ++ front) ++ act :: (back ++ more) = acts ++ (front ++ act :: back) ++ more := by simp
  rw [whole,Notifier.after_append,Notifier.after_append,ends.registry] at spent
  exact spent

end Gathering

/-- Whoever listens for still has a delivery. -/
theorem Notifier.Mirrors.unheard {acts before rest : List (ListenerAct M)} {snapshot : Snapshot M.State M.Context}
    {circulation : Circulation M} {places : List Nat} (mirrors : Mirrors (after {} acts) circulation places)
    (split : acts = before ++ .notify snapshot :: rest) :
    (standing 0 before).drop (rest.countP (Act.calls (begun before))) = [] ∨
      ∃ delivery ∈ circulation.deliveries, delivery.snapshot = snapshot ∧
        delivery.unheard.tail = (standing 0 before).drop (rest.countP (Act.calls (begun before))) := by
  subst split
  have found := (calledBy_notification before rest snapshot).2
  by_cases left : (standing 0 before).drop (rest.countP (Act.calls (begun before))) = []
  · exact .inl left
  · obtain ⟨delivery,member,tracks⟩ := tracks_exists mirrors.tracks (mirrors.complete _ _ found left)
    rw [Tracks,found,Option.some.injEq,Notification.mk.injEq] at tracks
    exact .inr ⟨delivery,member,tracks.1.symm,tracks.2.symm⟩

/-- A subscription is ended at its own interpreter, as long as this is there, and nowhere else. -/
theorem Site.grant_unsubscribe {Env : Type} (host : Host M Env) (fuel : Nat) (site : Site M Env)
    (subscription : Subscription) :
    ∃ (removed : Bool) (after : Site M Env),
      grant host (fuel + 1) (.unsubscribe subscription) site = some (removed,after) ∧
      (removed = true ↔ ∃ self, site.interpreter? subscription.interpreter = some self ∧
        self.registry.holds subscription.number = true) ∧
      ∀ number, after.interpreter? number = (site.interpreter? number).map fun self =>
        if number = subscription.interpreter then (self.unsubscribe subscription.number).2 else self := by
  cases found : site.interpreter? subscription.interpreter with
  | none =>
    refine ⟨false,site,by simp only [grant,found]; rfl,by simp,?_⟩
    intro number
    by_cases same : number = subscription.interpreter
    · rw [same,found]
      rfl
    · simp [same]
  | some self =>
    refine ⟨_,_,by simp only [grant,found]; rfl,by simp [Interpreter.unsubscribe],?_⟩
    intro number
    rw [interpreter?_update]
    by_cases same : number = subscription.interpreter
    · simp [same,found]
    · simp [same]

/-- Whatever is done to a registry, it holds those who have been added and neither removed nor released since, in order
and with distinct numbers; a notification calls those who stood when it began, each once and in order; and unsubscribing
removes a listener that is still registered, and no other. What an interpreter does with its listeners is of this kind:
they come and go as callers subscribe and unsubscribe and as farewells end, and a notification that is not over is a
delivery in progress. Whoever has unsubscribed or been released is not told once more that it was registered, and a
subscription is ended at its own interpreter only. -/
theorem listeners_registered_and_called :
    (∀ {α μ : Type} (acts : List (Act α μ)), Notifier.Exact acts) ∧
    (∀ {M : Machine} {graph : Graph M} {options : Options} {deeds : List (Deed M)} {log : List (Note M)}
      {here : Gathering M}, (Gathering.fresh graph options).Path deeds log here →
      ∃ trail acts, (Gathering.fresh graph options).Trail trail here ∧ trail.map Moment.deed = deeds ∧
        acts.filter Act.isChange = trail.filterMap Moment.change? ∧
        (Notifier.reports {} acts).map Report.note = log ∧
        here.self.registry = (Notifier.after {} acts).registry ∧
        ∀ before snapshot rest, acts = before ++ .notify snapshot :: rest →
          (standing 0 before).drop (rest.countP (Act.calls (begun before))) = [] ∨
          ∃ delivery ∈ here.circulation.deliveries, delivery.snapshot = snapshot ∧
            delivery.unheard.tail = (standing 0 before).drop (rest.countP (Act.calls (begun before)))) ∧
    (∀ {M : Machine} {graph : Graph M} {options : Options} {before after : List (Moment M)} {moment : Moment M}
      {last : Gathering M}, (Gathering.fresh graph options).Trail (before ++ moment :: after) last →
      ∀ act number, moment.change? = some act → act.releases number = true →
        number < moment.here.self.registry.next → (last.self.unsubscribe number).1 = false) ∧
    ∀ {M : Machine} {Env : Type} (host : Host M Env) (fuel : Nat) (site : Site M Env) (subscription : Subscription),
      ∃ (removed : Bool) (after : Site M Env),
        Site.grant host (fuel + 1) (.unsubscribe subscription) site = some (removed,after) ∧
        (removed = true ↔ ∃ self, site.interpreter? subscription.interpreter = some self ∧
          self.registry.holds subscription.number = true) ∧
        ∀ number, after.interpreter? number = (site.interpreter? number).map fun self =>
          if number = subscription.interpreter then (self.unsubscribe subscription.number).2 else self := by
  refine ⟨Notifier.exact,?_,fun run _ _ changes releases known => run.released changes releases known,
    Site.grant_unsubscribe⟩
  intro M graph options deeds log here path
  obtain ⟨trail,acts,run,same,⟨⟨places,mirrors⟩,seen⟩,changed⟩ := path.follows
  exact ⟨trail,acts,run,same,changed,seen,mirrors.registry.symm,fun _ _ _ split => mirrors.unheard split⟩

/-- A listener subscribes, hears that the lamp has been stopped, and is released: it cannot unsubscribe any more. -/
theorem lamp_listeners_registered_and_called :
    ∃ before moment last, (Gathering.fresh Gathering.lamp {}).Trail (before ++ [moment]) last ∧
      moment.change? = some .clear ∧ moment.here.self.registry.numbers = [0] ∧ (last.self.unsubscribe 0).1 = false := by
  have begun : (Gathering.fresh Gathering.lamp {}).Trail [] _ := .here
  have subscribed := begun.onward (.turn (.subscribe (Bench.Listener.mk 0 "p" {} [] 1)))
  have stopped := subscribed.onward (.turn .stop)
  have told := stopped.onward (.turn (.told rfl))
  have released := told.onward (.turn (.go rfl))
  obtain ⟨_,_,gone,_⟩ := listeners_registered_and_called
  exact ⟨_,_,_,released,rfl,rfl,gone released .clear 0 rfl rfl Nat.zero_lt_one⟩

end Statechart
