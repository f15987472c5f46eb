import Statechart.Site

/-!
# Fuel: what a plan comes to does not depend on it

The functions that carry out plans give up when they run out of fuel. Whatever they come to, they come to
with more fuel too (`Site.lasting`), so what a plan comes to with enough fuel is one thing (`Comes`), and
it is put together from what its parts come to.
-/
namespace Statechart

variable {M : Machine} {Env α β : Type}

/-- What a run comes to with enough fuel, however much more there is. -/
def Comes (run : Nat → Option α) (result : α) : Prop := ∃ enough, ∀ fuel, enough ≤ fuel → run fuel = some result

/-- What a run comes to with some fuel it comes to with one more. -/
def Lasts (fuel : Nat) (run : Nat → Option α) : Prop := ∀ result, run fuel = some result → run (fuel + 1) = some result

namespace Lasts

variable {fuel : Nat}

theorem const (result : Option α) : Lasts fuel fun _ => result := fun _ same => same

theorem bind {first : Nat → Option α} {second : α → Nat → Option β} (lasts : Lasts fuel first)
    (further : ∀ result, Lasts fuel (second result)) :
    Lasts fuel fun fuel => (first fuel).bind fun result => second result fuel := by
  intro last came
  obtain ⟨between,reached,rest⟩ := Option.bind_eq_some_iff.mp came
  exact Option.bind_eq_some_iff.mpr ⟨between,lasts between reached,further between last rest⟩

theorem map {first : Nat → Option α} (lasts : Lasts fuel first) (f : α → β) :
    Lasts fuel fun fuel => (first fuel).map f := by
  intro last came
  obtain ⟨between,reached,same⟩ := Option.map_eq_some_iff.mp came
  exact Option.map_eq_some_iff.mpr ⟨between,lasts between reached,same⟩

/-- A run that spends one unit first. -/
theorem spend {run next : Nat → Option α} (lasts : Lasts fuel run) (spends : ∀ fuel, next (fuel + 1) = run fuel) :
    Lasts (fuel + 1) next := by
  intro result came
  rw [spends] at came ⊢
  exact lasts result came

end Lasts

namespace Comes

theorem unique {run : Nat → Option α} {result other : α} (comes : Comes run result) (too : Comes run other) :
    result = other := by
  obtain ⟨enough,always⟩ := comes
  obtain ⟨plenty,again⟩ := too
  have same := (always _ (Nat.le_max_left enough plenty)).symm.trans (again _ (Nat.le_max_right enough plenty))
  exact Option.some.inj same

/-- What a lasting run comes to with some fuel it comes to. -/
theorem of_lasting {run : Nat → Option α} {result : α} {fuel : Nat} (lasting : ∀ fuel, Lasts fuel run)
    (came : run fuel = some result) : Comes run result := by
  refine ⟨fuel,fun more enough => ?_⟩
  induction enough with
  | refl => exact came
  | step _ ih => exact lasting _ result ih

theorem const {result : α} : Comes (fun _ => some result) result := ⟨0,fun _ _ => rfl⟩

/-- A run that spends one unit first. -/
theorem spend {run next : Nat → Option α} {result : α} (spends : ∀ fuel, next (fuel + 1) = run fuel)
    (comes : Comes run result) : Comes next result := by
  obtain ⟨enough,always⟩ := comes
  refine ⟨enough + 1,fun fuel much => ?_⟩
  obtain ⟨less,rfl⟩ : ∃ less, fuel = less + 1 := ⟨fuel - 1,by omega⟩
  rw [spends]
  exact always less (by omega)

/-- A run that spends one unit, comes to something on the way, and goes on from there. -/
theorem bind {first : Nat → Option α} {second : α → Nat → Option β} {run : Nat → Option β} {between : α} {result : β}
    (spends : ∀ fuel, run (fuel + 1) = (first fuel).bind fun between => second between fuel)
    (reached : Comes first between) (rest : Comes (second between) result) : Comes run result := by
  refine spend spends ?_
  obtain ⟨enough,always⟩ := reached
  obtain ⟨plenty,again⟩ := rest
  refine ⟨max enough plenty,fun fuel much => Option.bind_eq_some_iff.mpr ⟨between,?_,?_⟩⟩
  · exact always fuel (Nat.le_trans (Nat.le_max_left _ _) much)
  · exact again fuel (Nat.le_trans (Nat.le_max_right _ _) much)

theorem map {run : Nat → Option α} {result : α} (comes : Comes run result) (f : α → β) :
    Comes (fun fuel => (run fuel).map f) (f result) := by
  obtain ⟨enough,always⟩ := comes
  exact ⟨enough,fun fuel much => congrArg (Option.map f) (always fuel much)⟩

end Comes

namespace Site

/-! ## What the functions do with one unit of fuel -/

/-- What happens next at this time, if anything does. -/
def ready? (site : Site M Env) : Option (Nat × Nat × Activity M) :=
  match site.queued? with
  | some found => some found
  | none =>
    match site.firstDue? with
    | none => none
    | some (due,found) => if due ≤ site.now then some found else none

section

variable (host : Host M Env) (fuel : Nat) (clocked : Bool) (number : Nat) (site : Site M Env)

theorem follow_done (result : α) : follow host (fuel + 1) (.done result) site = some (result,site) := by
  rw [follow]

theorem follow_ask (demand : Demand M Env) (next : demand.Answer → Plan M Env α) :
    follow host (fuel + 1) (.ask demand next) site =
      (grant host fuel demand site).bind fun reached => follow host fuel (next reached.1) reached.2 := by
  rw [follow]
  cases grant host fuel demand site <;> rfl

theorem grant_call (call : Call M) :
    grant host (fuel + 1) (.call clocked call) site =
      match site.current with
      | none => some (none,site)
      | some number => (place host fuel clocked call number site).map fun reached => (some reached.1,reached.2) := by
  rw [grant]
  cases site.current with
  | none => rfl
  | some number => cases placed : place host fuel clocked call number site <;> simp [placed]

theorem grant_settle :
    grant host (fuel + 1) .settle site = (settle host fuel site).map fun after => (((),after) : Unit × Site M Env) := by
  rw [grant]
  cases settle host fuel site <;> rfl

theorem grant_elapse (span : Nat) :
    grant host (fuel + 1) (.elapse span) site =
      (elapse host fuel (site.now + span) site).map fun after => (((),after) : Unit × Site M Env) := by
  rw [grant]
  cases elapse host fuel (site.now + span) site <;> rfl

theorem place_eq (call : Call M) :
    place host (fuel + 1) clocked call number site =
      (site.interpreter? number).bind fun self =>
        match (self.enter call).2 with
        | some reply => some (reply,(site.update number (self.enter call).1).sweep)
        | none => attend host fuel clocked number (site.update number (self.enter call).1) := by
  rw [place]
  cases site.interpreter? number with
  | none => rfl
  | some self =>
    simp only [Option.bind_some]
    rcases self.enter call with ⟨next,reply⟩
    cases reply <;> rfl

theorem attend_eq :
    attend host (fuel + 1) clocked number site =
      (site.interpreter? number).bind fun self =>
        match self.prompt with
        | some (.query query next) =>
          (follow host fuel (host.answer clocked query) site).bind fun reached =>
            (reached.2.interpreter? number).bind fun later =>
              attend host fuel clocked number (reached.2.update number (later.resume (next reached.1)))
        | some (.notify listener snapshot) =>
          (follow host fuel (host.notify clocked listener snapshot) site).bind fun reached =>
            (reached.2.interpreter? number).bind fun later =>
              attend host fuel clocked number (reached.2.update number later.notified)
        | none =>
          match self.tick.2 with
          | some reply => some (reply,(site.update number self.tick.1).sweep)
          | none => attend host fuel clocked number (site.update number self.tick.1) := by
  rw [attend]
  cases site.interpreter? number with
  | none => rfl
  | some self =>
    simp only [Option.bind_some]
    rcases self.prompt with _ | ⟨query,next⟩ | ⟨listener,snapshot⟩
    · simp only
      rcases self.tick with ⟨next,reply⟩
      cases reply <;> rfl
    · simp only
      rcases follow host fuel (host.answer clocked query) site with _ | ⟨answer,between⟩
      · rfl
      · simp only [Option.bind_some]
        cases between.interpreter? number <;> rfl
    · simp only
      rcases follow host fuel (host.notify clocked listener snapshot) site with _ | ⟨told,between⟩
      · rfl
      · simp only [Option.bind_some]
        cases between.interpreter? number <;> rfl

theorem settle_eq :
    settle host (fuel + 1) site =
      match site.ready? with
      | none => some site
      | some (number,index,activity) =>
        match (advance host site number index activity).2 with
        | none => settle host fuel (advance host site number index activity).1
        | some event =>
          (place host fuel true (.post event) number (advance host site number index activity).1).bind fun reached =>
            settle host fuel reached.2 := by
  rw [settle]
  change (match site.ready? with
    | none => _
    | some (number,index,activity) => _) = _
  rcases site.ready? with _ | ⟨number,index,activity⟩
  · rfl
  · simp only
    rcases advance host site number index activity with ⟨between,event⟩
    cases event with
    | none => rfl
    | some event => cases placed : place host fuel true (.post event) number between <;> simp [placed]

theorem elapse_eq (target : Nat) :
    elapse host (fuel + 1) target site =
      (settle host fuel site).bind fun between =>
        match between.firstDue? with
        | none => some { between with now := target }
        | some (due,_) =>
          if due ≤ target then elapse host fuel target { between with now := due }
          else some { between with now := target } := by
  rw [elapse]
  cases settle host fuel site <;> rfl

end

/-! ## More fuel -/

/-- What the functions that carry out plans come to lasts. -/
structure Lasting (host : Host M Env) (fuel : Nat) : Prop where
  follow : ∀ {α : Type} (plan : Plan M Env α) (site : Site M Env), Lasts fuel fun fuel => follow host fuel plan site
  grant : ∀ (demand : Demand M Env) (site : Site M Env), Lasts fuel fun fuel => grant host fuel demand site
  place : ∀ (clocked : Bool) (call : Call M) (number : Nat) (site : Site M Env),
    Lasts fuel fun fuel => place host fuel clocked call number site
  attend : ∀ (clocked : Bool) (number : Nat) (site : Site M Env),
    Lasts fuel fun fuel => attend host fuel clocked number site
  settle : ∀ site : Site M Env, Lasts fuel fun fuel => settle host fuel site
  elapse : ∀ (target : Nat) (site : Site M Env), Lasts fuel fun fuel => elapse host fuel target site

namespace Lasting

variable {host : Host M Env} {fuel : Nat}

theorem zero (host : Host M Env) : Lasting host 0 := by
  refine ⟨?_,?_,?_,?_,?_,?_⟩
  · intro _ _ _ _ gone
    simp [Site.follow] at gone
  · intro _ _ _ gone
    simp [Site.grant] at gone
  · intro _ _ _ _ _ gone
    simp [Site.place] at gone
  · intro _ _ _ _ gone
    simp [Site.attend] at gone
  · intro _ _ gone
    simp [Site.settle] at gone
  · intro _ _ _ gone
    simp [Site.elapse] at gone

theorem follow_succ (lasting : Lasting host fuel) (plan : Plan M Env α) (site : Site M Env) :
    Lasts (fuel + 1) fun fuel => Site.follow host fuel plan site := by
  cases plan with
  | done result => exact (Lasts.const (some (result,site))).spend fun fuel => follow_done host fuel site result
  | ask demand next =>
    refine ((lasting.grant demand site).bind fun reached => ?_).spend fun fuel => follow_ask host fuel site demand next
    exact lasting.follow (next reached.1) reached.2

theorem grant_succ (lasting : Lasting host fuel) (demand : Demand M Env) (site : Site M Env) :
    Lasts (fuel + 1) fun fuel => Site.grant host fuel demand site := by
  cases demand with
  | call clocked call =>
    refine Lasts.spend ?_ fun fuel => grant_call host fuel clocked site call
    cases site.current with
    | none => exact .const _
    | some number => exact (lasting.place clocked call number site).map _
  | settle => exact ((lasting.settle site).map _).spend fun fuel => grant_settle host fuel site
  | elapse span =>
    exact ((lasting.elapse (site.now + span) site).map _).spend fun fuel => grant_elapse host fuel site span
  | _ =>
    intro result came
    simp only [Site.grant] at came ⊢
    exact came

theorem place_succ (lasting : Lasting host fuel) (clocked : Bool) (call : Call M) (number : Nat) (site : Site M Env) :
    Lasts (fuel + 1) fun fuel => Site.place host fuel clocked call number site := by
  refine Lasts.spend (.bind (.const _) fun self => ?_) fun fuel => place_eq host fuel clocked number site call
  cases (self.enter call).2 with
  | some reply => exact .const _
  | none => exact lasting.attend clocked number _

theorem attend_succ (lasting : Lasting host fuel) (clocked : Bool) (number : Nat) (site : Site M Env) :
    Lasts (fuel + 1) fun fuel => Site.attend host fuel clocked number site := by
  refine Lasts.spend (.bind (.const _) fun self => ?_) fun fuel => attend_eq host fuel clocked number site
  cases self.prompt with
  | none =>
    cases self.tick.2 with
    | some reply => exact .const _
    | none => exact lasting.attend clocked number _
  | some prompt =>
    cases prompt with
    | query query next =>
      exact (lasting.follow _ site).bind fun reached => .bind (.const _) fun later => lasting.attend clocked number _
    | notify listener snapshot =>
      exact (lasting.follow _ site).bind fun reached => .bind (.const _) fun later => lasting.attend clocked number _

theorem settle_succ (lasting : Lasting host fuel) (site : Site M Env) :
    Lasts (fuel + 1) fun fuel => Site.settle host fuel site := by
  refine Lasts.spend ?_ fun fuel => settle_eq host fuel site
  rcases site.ready? with _ | ⟨number,index,activity⟩
  · exact .const _
  · simp only
    cases (advance host site number index activity).2 with
    | none => exact lasting.settle _
    | some event => exact (lasting.place true (.post event) number _).bind fun reached => lasting.settle reached.2

theorem elapse_succ (lasting : Lasting host fuel) (target : Nat) (site : Site M Env) :
    Lasts (fuel + 1) fun fuel => Site.elapse host fuel target site := by
  refine ((lasting.settle site).bind fun between => ?_).spend fun fuel => elapse_eq host fuel site target
  rcases between.firstDue? with _ | ⟨due,_⟩
  · exact .const _
  · by_cases early : due ≤ target
    · simp only [if_pos early]
      exact lasting.elapse target _
    · simp only [if_neg early]
      exact .const _

end Lasting

theorem lasting (host : Host M Env) (fuel : Nat) : Lasting host fuel := by
  induction fuel with
  | zero => exact .zero host
  | succ fuel ih => exact ⟨ih.follow_succ,ih.grant_succ,ih.place_succ,ih.attend_succ,ih.settle_succ,ih.elapse_succ⟩

/-! ## What plans come to -/

/-- With enough fuel a plan comes to a result, and the site to what it is afterwards. -/
def Follows (host : Host M Env) (plan : Plan M Env α) (site : Site M Env) (result : α) (after : Site M Env) : Prop :=
  Comes (fun fuel => follow host fuel plan site) (result,after)

/-- With enough fuel a demand is met. -/
def Grants (host : Host M Env) (demand : Demand M Env) (site : Site M Env) (answer : demand.Answer)
    (after : Site M Env) : Prop :=
  Comes (fun fuel => grant host fuel demand site) (answer,after)

/-- With enough fuel a call is replied to. -/
def Places (host : Host M Env) (clocked : Bool) (call : Call M) (number : Nat) (site : Site M Env) (reply : Reply M)
    (after : Site M Env) : Prop :=
  Comes (fun fuel => place host fuel clocked call number site) (reply,after)

/-- With enough fuel the call on top of the stack of an interpreter returns. -/
def Attends (host : Host M Env) (clocked : Bool) (number : Nat) (site : Site M Env) (reply : Reply M)
    (after : Site M Env) : Prop :=
  Comes (fun fuel => attend host fuel clocked number site) (reply,after)

/-- With enough fuel everything happens that is ready. -/
def Settles (host : Host M Env) (site after : Site M Env) : Prop := Comes (fun fuel => settle host fuel site) after

/-- With enough fuel the clock comes to the given time. -/
def Elapses (host : Host M Env) (target : Nat) (site after : Site M Env) : Prop :=
  Comes (fun fuel => elapse host fuel target site) after

section

variable {host : Host M Env} {clocked : Bool} {number : Nat} {site between after : Site M Env}

theorem Follows.done {result : α} : Follows host (.done result) site result site :=
  Comes.spend (fun fuel => follow_done host fuel site result) .const

theorem Follows.ask {demand : Demand M Env} {next : demand.Answer → Plan M Env α} {answer : demand.Answer} {result : α}
    (granted : Grants host demand site answer between) (followed : Follows host (next answer) between result after) :
    Follows host (.ask demand next) site result after :=
  Comes.bind (fun fuel => follow_ask host fuel site demand next) granted followed

/-- What a plan comes to whose first demand is met, it comes to by way of what that is answered. -/
theorem Follows.asked {demand : Demand M Env} {next : demand.Answer → Plan M Env α} {result : α}
    (followed : Follows host (.ask demand next) site result after) :
    ∃ answer between, Grants host demand site answer between ∧ Follows host (next answer) between result after := by
  obtain ⟨enough,always⟩ := followed
  have came := (follow_ask host enough site demand next).symm.trans (always (enough + 1) (Nat.le_succ enough))
  obtain ⟨⟨answer,between⟩,granted,rest⟩ := Option.bind_eq_some_iff.mp came
  exact ⟨answer,between,.of_lasting (fun fuel => (lasting host fuel).grant demand site) granted,
    .of_lasting (fun fuel => (lasting host fuel).follow (next answer) between) rest⟩

theorem Follows.bind {plan : Plan M Env α} {sequel : α → Plan M Env β} {first : α} {result : β}
    (followed : Follows host plan site first between) (further : Follows host (sequel first) between result after) :
    Follows host (plan >>= sequel) site result after := by
  induction plan generalizing site with
  | done earlier =>
    cases Comes.unique followed Follows.done
    exact further
  | ask demand next ih =>
    obtain ⟨answer,_,granted,rest⟩ := followed.asked
    exact .ask granted (ih answer rest)

theorem Grants.read : Grants host .read site site.env site := Comes.spend (fun _ => rfl) .const

theorem Grants.write {env : Env} : Grants host (.write env) site () { site with env } :=
  Comes.spend (fun _ => rfl) .const

theorem Grants.look : Grants host .look site site.current? site := Comes.spend (fun _ => rfl) .const

theorem Grants.replace {interpreter : Option (Interpreter M)} :
    Grants host (.replace interpreter) site () (site.replace interpreter) :=
  Comes.spend (fun _ => rfl) .const

theorem Grants.subscribe {listener : M.Listener} {self : Interpreter M} (current : site.current = some number)
    (found : site.current? = some self) :
    Grants host (.subscribe listener) site (some ⟨number,(self.subscribe listener).1⟩)
      (site.update number (self.subscribe listener).2) :=
  Comes.spend (fun fuel => by simp only [grant,current,found]) .const

theorem Grants.call {call : Call M} {reply : Reply M} (current : site.current = some number)
    (placed : Places host clocked call number site reply after) :
    Grants host (.call clocked call) site (some reply) after := by
  refine Comes.spend (fun fuel => by rw [grant_call,current]) ?_
  exact Comes.map placed fun reached => (some reached.1,reached.2)

theorem Grants.settle (settled : Settles host site after) : Grants host .settle site () after :=
  Comes.spend (fun fuel => grant_settle host fuel site) (Comes.map settled fun after => (((),after) : Unit × Site M Env))

theorem Grants.elapse {span : Nat} (elapsed : Elapses host (site.now + span) site after) :
    Grants host (.elapse span) site () after :=
  Comes.spend (fun fuel => grant_elapse host fuel site span)
    (Comes.map elapsed fun after => (((),after) : Unit × Site M Env))

variable {call : Call M} {reply : Reply M} {self next later : Interpreter M}

/-- A call that returns at once. -/
theorem Places.at_once (found : site.interpreter? number = some self) (entered : self.enter call = (next,some reply)) :
    Places host clocked call number site reply (site.update number next).sweep :=
  Comes.spend (fun fuel => by rw [place_eq,found,Option.bind_some,entered]) .const

theorem Places.attended (found : site.interpreter? number = some self) (entered : self.enter call = (next,none))
    (attended : Attends host clocked number (site.update number next) reply after) :
    Places host clocked call number site reply after :=
  Comes.spend (fun fuel => by rw [place_eq,found,Option.bind_some,entered]) attended

theorem Attends.asked {query : Query M} {rest : query.Answer → Pending M} {answer : query.Answer}
    (found : site.interpreter? number = some self) (asked : self.prompt = some (.query query rest))
    (followed : Follows host (host.answer clocked query) site answer between)
    (there : between.interpreter? number = some later)
    (attended : Attends host clocked number (between.update number (later.resume (rest answer))) reply after) :
    Attends host clocked number site reply after := by
  refine Comes.bind (fun fuel => by rw [attend_eq,found,Option.bind_some,asked]) followed ?_
  simp only [there,Option.bind_some]
  exact attended

theorem Attends.told {listener : M.Listener} {snapshot : Snapshot M.State M.Context}
    (found : site.interpreter? number = some self) (asked : self.prompt = some (.notify listener snapshot))
    (followed : Follows host (host.notify clocked listener snapshot) site () between)
    (there : between.interpreter? number = some later)
    (attended : Attends host clocked number (between.update number later.notified) reply after) :
    Attends host clocked number site reply after := by
  refine Comes.bind (fun fuel => by rw [attend_eq,found,Option.bind_some,asked]) followed ?_
  simp only [there,Option.bind_some]
  exact attended

theorem Attends.onward (found : site.interpreter? number = some self) (free : self.prompt = none)
    (goes : self.tick = (next,none)) (attended : Attends host clocked number (site.update number next) reply after) :
    Attends host clocked number site reply after :=
  Comes.spend (fun fuel => by simp only [attend_eq,found,Option.bind_some,free,goes]) attended

theorem Attends.returned (found : site.interpreter? number = some self) (free : self.prompt = none)
    (goes : self.tick = (next,some reply)) : Attends host clocked number site reply (site.update number next).sweep :=
  Comes.spend (fun fuel => by simp only [attend_eq,found,Option.bind_some,free,goes]) .const

theorem Settles.still (still : site.ready? = none) : Settles host site site :=
  Comes.spend (fun fuel => by simp only [settle_eq,still]) .const

variable {index : Nat} {activity : Activity M} {event : Event M}

theorem Settles.slept (ready : site.ready? = some (number,index,activity))
    (goes : advance host site number index activity = (between,none)) (settled : Settles host between after) :
    Settles host site after :=
  Comes.spend (fun fuel => by simp only [settle_eq,ready,goes]) settled

theorem Settles.delivered {delivered : Site M Env} (ready : site.ready? = some (number,index,activity))
    (goes : advance host site number index activity = (between,some event))
    (placed : Places host true (.post event) number between reply delivered) (settled : Settles host delivered after) :
    Settles host site after := by
  have spends : ∀ fuel, settle host (fuel + 1) site =
      (place host fuel true (.post event) number between).bind fun reached => settle host fuel reached.2 :=
    fun fuel => by simp only [settle_eq,ready,goes]
  exact Comes.bind spends placed settled

variable {target : Nat}

/-- Nothing more is due before the time to come, or then. -/
theorem Elapses.last (settled : Settles host site between)
    (later : ∀ due found, between.firstDue? = some (due,found) → target < due) :
    Elapses host target site { between with now := target } := by
  refine Comes.bind (fun fuel => elapse_eq host fuel site target) settled ?_
  cases first : between.firstDue? with
  | none => exact .const
  | some found =>
    simp only [if_neg (Nat.not_le.mpr (later found.1 found.2 first))]
    exact .const

/-- The next thing is due before the time to come, or then. -/
theorem Elapses.awoken {due : Nat} {found : Nat × Nat × Activity M} (settled : Settles host site between)
    (first : between.firstDue? = some (due,found)) (early : due ≤ target)
    (elapsed : Elapses host target { between with now := due } after) : Elapses host target site after := by
  refine Comes.bind (fun fuel => elapse_eq host fuel site target) settled ?_
  simp only [first,if_pos early]
  exact elapsed

end

end Site

end Statechart
