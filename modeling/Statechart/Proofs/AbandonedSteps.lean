import Statechart.Bench.Vocabulary
import Statechart.Proofs.RunToCompletion

/-!
# Abandoned steps: nothing is left of them

A step is not committed when no transition may be taken, when its event belongs to an instance that
has been left, or when an action fails or the state does not settle while the event of a caller is
processed. Whatever the callbacks of such a step did, the core of the interpreter is as it was
before (`abandoned_inert`).
-/
namespace Statechart

variable {M : Machine} {graph : Graph M} {options : Options}

/-- An answer with which the body of an action fails. -/
def Query.Fails : (query : Query M) → query.Answer → Prop
  | .perform action context _, answer => ∃ cause, action.role.next context answer = .error cause
  | _, _ => False

/-- Deeds of the callbacks of a step and of the host that answers them: nobody stops the interpreter,
the clock does not move and no other caller has its turn. -/
def Deed.IsOwn : Deed M → Prop
  | .stop => False
  | .sleep _ _ => False
  | .deliver _ _ => False
  | .yield => False
  | _ => True

/-- Why the step of an event, for which these answers have been given, is abandoned. -/
inductive Interpreter.Abandons (self : Interpreter M) (event : Event M)
    (given : List ((query : Query M) × query.Answer)) : Prop where
  /-- Every transition for the event has a guard, and no guard passes. -/
  | unmatched
      (guarded : ∀ candidate ∈ self.graph.candidates self.core.state event, candidate.guard ≠ none)
      (refused : ∀ guard context shown, ⟨.check guard context shown,true⟩ ∉ given)
  /-- The event carries the origin of an instance that is not the live one. -/
  | late {origin : Origin M} (carried : event.origin = some origin) (left : origin ≠ self.core.origin)
  /-- An action fails while the event of a caller is processed. -/
  | failed {signal : M.Signal} {query : Query M} {answer : query.Answer} (external : event = .signal signal)
      (member : ⟨query,answer⟩ ∈ given) (fails : query.Fails answer)
  /-- Too many eventless transitions are taken while the event of a caller is processed. -/
  | unsettled {signal : M.Signal} {state : M.State} {limit : UInt64} (external : event = .signal signal)
      (exceeded : (self.graph.react self.options.maxMicrosteps self.core.state self.core.context event).run.Leads
        given (.done (.error (.microstepLimit state limit))))

/-! ## Conversations -/

namespace Dialogue

variable {Q : Type} {A : Q → Type} {α β : Type}

/-- Answers to a dialogue with a sequel are answers to the dialogue alone, or enough to end it and
answers to the sequel. -/
theorem Leads.of_bind {dialogue : Dialogue Q A α} {sequel : α → Dialogue Q A β} {rest : Dialogue Q A β}
    {given : List (Sigma A)} (leads : (dialogue >>= sequel).Leads given rest) :
    (∃ left, dialogue.Leads given left ∧ rest = left >>= sequel) ∨
    ∃ result before after, given = before ++ after ∧ dialogue.Leads before (.done result) ∧
      (sequel result).Leads after rest := by
  induction dialogue generalizing given with
  | done result => exact .inr ⟨result,[],given,rfl,.here _,leads⟩
  | ask question next ih =>
    rw [ask_bind] at leads
    cases leads with
    | here => exact .inl ⟨_,.here _,rfl⟩
    | answer further =>
      rcases ih _ further with ⟨left,within,same⟩ | ⟨result,before,after,split,ends,beyond⟩
      · exact .inl ⟨left,.answer within,same⟩
      · refine .inr ⟨result,_ :: before,after,?_,.answer ends,beyond⟩
        rw [split,List.cons_append]

/-- A dialogue with a sequel ends only once both have ended. -/
theorem Leads.ends_of_bind {dialogue : Dialogue Q A α} {sequel : α → Dialogue Q A β} {last : β}
    {given : List (Sigma A)} (leads : (dialogue >>= sequel).Leads given (.done last)) :
    ∃ result before after, given = before ++ after ∧ dialogue.Leads before (.done result) ∧
      (sequel result).Leads after (.done last) := by
  rcases leads.of_bind with ⟨left,within,same⟩ | both
  · cases left with
    | done result => exact ⟨result,given,[],by simp,within,same ▸ .here _⟩
    | ask question next => cases same
  · exact both

end Dialogue

/-! ## Failing actions

A script that runs actions is brittle: as soon as the body of an action fails, it is over. -/

/-- Once an answer is that an action failed, the script is over with a failure. -/
def Brittle {ε α : Type} (script : Script M (Except ε α)) : Prop :=
  ∀ given rest, script.Leads given rest → (∃ entry ∈ given, Query.Fails entry.1 entry.2) →
    ∃ failure, rest = .done (.error failure)

/-- No question of the script is for the body of an action. -/
def Careful {α : Type} (script : Script M α) : Prop :=
  ∀ given rest, script.Leads given rest → ∀ entry ∈ given, ¬ Query.Fails entry.1 entry.2

theorem Careful.done {α : Type} (result : α) : Careful (M := M) (.done result) := by
  intro given rest leads entry member
  cases leads
  cases member

theorem Careful.ask {α : Type} {query : Query M} {next : query.Answer → Script M α}
    (harmless : ∀ answer, ¬ query.Fails answer) (careful : ∀ answer, Careful (next answer)) :
    Careful (.ask query next) := by
  intro given rest leads entry member
  cases leads with
  | here => cases member
  | answer further =>
    rcases List.mem_cons.mp member with rfl | member
    · exact harmless _
    · exact careful _ _ _ further entry member

theorem Careful.bind {α β : Type} {script : Script M α} {sequel : α → Script M β} (careful : Careful script)
    (beyond : ∀ result, Careful (sequel result)) : Careful (script >>= sequel) := by
  intro given rest leads entry member
  rcases leads.of_bind with ⟨left,within,_⟩ | ⟨result,before,after,split,ends,further⟩
  · exact careful _ _ within entry member
  · rw [split] at member
    rcases List.mem_append.mp member with member | member
    · exact careful _ _ ends entry member
    · exact beyond result _ _ further entry member

namespace Brittle

variable {ε ε' α β : Type}

theorem done (result : Except ε α) : Brittle (M := M) (.done result) := by
  intro given rest leads failing
  obtain ⟨entry,member,_⟩ := failing
  cases leads
  cases member

/-- What comes after a script that has failed must not ask anything any more. -/
theorem bind {script : Script M (Except ε α)} {sequel : Except ε α → Script M (Except ε' β)}
    (brittle : Brittle script) (fails : ∀ failure, ∃ failure', sequel (.error failure) = .done (.error failure'))
    (beyond : ∀ result, Brittle (sequel (.ok result))) : Brittle (script >>= sequel) := by
  intro given rest leads failing
  rcases leads.of_bind with ⟨left,within,same⟩ | ⟨result,before,after,split,ends,further⟩
  · obtain ⟨failure,past⟩ := brittle _ _ within failing
    obtain ⟨failure',final⟩ := fails failure
    exact ⟨failure',by rw [same,past,Dialogue.done_bind,final]⟩
  · obtain ⟨entry,member,bad⟩ := failing
    rw [split] at member
    rcases List.mem_append.mp member with member | member
    · obtain ⟨failure,past⟩ := brittle _ _ ends ⟨entry,member,bad⟩
      obtain ⟨failure',final⟩ := fails failure
      cases past
      rw [final] at further
      cases further
      exact ⟨failure',rfl⟩
    · cases result with
      | ok value => exact beyond value _ _ further ⟨entry,member,bad⟩
      | error failure =>
        obtain ⟨failure',final⟩ := fails failure
        rw [final] at further
        cases further
        cases member

theorem lift {script : Script M α} {sequel : α → Script M (Except ε β)} (careful : Careful script)
    (beyond : ∀ result, Brittle (sequel result)) : Brittle (script >>= sequel) := by
  intro given rest leads failing
  obtain ⟨entry,member,bad⟩ := failing
  rcases leads.of_bind with ⟨left,within,_⟩ | ⟨result,before,after,split,ends,further⟩
  · exact absurd bad (careful _ _ within entry member)
  · rw [split] at member
    rcases List.mem_append.mp member with member | member
    · exact absurd bad (careful _ _ ends entry member)
    · exact beyond result _ _ further ⟨entry,member,bad⟩

end Brittle

theorem findEnabled_careful {α : Type} (transition : α → Transition M) (entries : List α)
    (context : M.Context) (event : Event M) : Careful (findEnabled transition entries context event) := by
  induction entries with
  | nil => exact .done _
  | cons entry rest ih =>
    unfold findEnabled Transition.isEnabled
    apply Careful.bind
    · cases (transition entry).guard with
      | none => exact .done _
      | some guard => exact .ask (fun _ fails => fails) fun _ => .done _
    · intro passes
      cases passes with
      | true => exact .done _
      | false => exact ih

theorem runActions_brittle (actions : List (Action M)) (context : M.Context) (event : Event M) :
    Brittle (runActions actions context event) := by
  induction actions generalizing context with
  | nil => exact .done _
  | cons action rest ih =>
    intro given rest' leads failing
    obtain ⟨entry,member,fails⟩ := failing
    cases leads with
    | here => cases member
    | @answer _ _ answer answers _ further =>
      -- what the first action answers decides whether any other one is asked
      cases outcome : action.role.next context answer with
      | error cause =>
        simp only [outcome] at further
        cases further
        exact ⟨_,rfl⟩
      | ok next =>
        simp only [outcome] at further
        rcases List.mem_cons.mp member with rfl | member
        · obtain ⟨cause,failed⟩ := fails
          rw [outcome] at failed
          cases failed
        · exact ih next _ _ further ⟨entry,member,fails⟩

namespace Graph

theorem runIn_brittle (state : M.State) (actions : List (Action M)) (context : M.Context) (event : Event M) :
    Brittle (runIn state actions context event).run := by
  unfold runIn
  apply (runActions_brittle actions context event).bind
  · intro failure
    exact ⟨_,rfl⟩
  · intro result
    exact .done _

end Graph

/-- A move goes on only where the one before it has not failed. -/
theorem Brittle.then {α β : Type} {move : Move M α} {sequel : α → Move M β} (brittle : Brittle move.run)
    (beyond : ∀ result, Brittle (sequel result).run) : Brittle (move >>= sequel).run := by
  rw [ExceptT.run_bind]
  apply brittle.bind
  · intro failure
    exact ⟨failure,rfl⟩
  · exact beyond

theorem Brittle.asking {α β : Type} {script : Script M α} {sequel : α → Move M β} (careful : Careful script)
    (beyond : ∀ result, Brittle (sequel result).run) : Brittle (ExceptT.lift script >>= sequel).run := by
  apply Brittle.then
  · exact .lift careful fun _ => .done _
  · exact beyond

namespace Graph

theorem makeService_careful (node : Node M) (context : M.Context) (event : Event M) :
    Careful (makeService node context event) := by
  unfold makeService
  cases node.service with
  | none => exact .done _
  | some service => exact .ask (fun _ fails => fails) fun _ => .done _

theorem enter_brittle (graph : Graph M) (step : Step M) (target : M.State) (event : Event M) :
    Brittle (graph.enter step target event).run := by
  unfold enter
  cases graph.node? target with
  | none => exact .done _
  | some node =>
    apply (runIn_brittle _ _ _ _).then
    intro context
    apply Brittle.asking (makeService_careful _ _ _)
    intro service
    exact .done _

theorem take_brittle (graph : Graph M) (step : Step M) (transition : Transition M) (event : Event M)
    (trigger : String) : Brittle (graph.take step transition event trigger).run := by
  unfold take
  cases transition.target with
  | none =>
    apply (runIn_brittle _ _ _ _).then
    intro context
    exact .done _
  | some target =>
    apply (runIn_brittle _ _ _ _).then
    intro context
    apply (runIn_brittle _ _ _ _).then
    intro context
    exact graph.enter_brittle _ _ _

theorem selectAlways_careful (graph : Graph M) (step : Step M) (event : Event M) :
    Careful (graph.selectAlways step event) := by
  unfold selectAlways
  cases graph.node? step.state with
  | none => exact .done _
  | some node => exact findEnabled_careful _ _ _ _

theorem settle_brittle (graph : Graph M) (limit : UInt64) (event : Event M) (remaining : Nat) (step : Step M) :
    Brittle (graph.settle limit event remaining step).run := by
  induction remaining generalizing step with
  | zero =>
    unfold settle
    apply Brittle.asking (graph.selectAlways_careful _ _)
    intro chosen
    cases chosen with
    | none => exact .done _
    | some transition => exact .done _
  | succ remaining ih =>
    unfold settle
    apply Brittle.asking (graph.selectAlways_careful _ _)
    intro chosen
    cases chosen with
    | none => exact .done _
    | some transition =>
      apply (graph.take_brittle _ _ _ _).then
      intro taken
      exact ih taken

/-- Wherever in the macrostep of an event an action fails, the macrostep is over with a failure. -/
theorem react_brittle (graph : Graph M) (limit : UInt64) (state : M.State) (context : M.Context)
    (event : Event M) : Brittle (graph.react limit state context event).run := by
  unfold react
  apply Brittle.asking (findEnabled_careful _ _ _ _)
  intro chosen
  cases chosen with
  | none => exact .done _
  | some transition =>
    apply (graph.take_brittle _ _ _ _).then
    intro taken
    exact graph.settle_brittle _ _ _ _

end Graph

/-! ## Guards that do not pass -/

theorem findEnabled_refused {α : Type} {transition : α → Transition M} {entries : List α} {context : M.Context}
    {event : Event M} {given : List ((query : Query M) × query.Answer)} {chosen : Option α}
    (leads : (findEnabled transition entries context event).Leads given (.done chosen))
    (guarded : ∀ entry ∈ entries, (transition entry).guard ≠ none)
    (refused : ∀ guard context shown, ⟨.check guard context shown,true⟩ ∉ given) : chosen = none := by
  induction entries generalizing given with
  | nil => cases leads; rfl
  | cons entry rest ih =>
    unfold findEnabled Transition.isEnabled at leads
    cases found : (transition entry).guard with
    | none => exact absurd found (guarded entry List.mem_cons_self)
    | some guard =>
      simp only [found,Dialogue.ask_bind] at leads
      cases leads with
      | @answer _ _ passes answers _ further =>
        cases passes with
        | true => exact absurd List.mem_cons_self (refused guard context event)
        | false =>
          apply ih further
          · intro other member
            exact guarded other (List.mem_cons_of_mem _ member)
          · intro guard context shown member
            exact refused guard context shown (List.mem_cons_of_mem _ member)

/-- Where no guard passes, the macrostep of an event is the step that does nothing. -/
theorem Graph.react_refused {graph : Graph M} {limit : UInt64} {state : M.State} {context : M.Context}
    {event : Event M} {given : List ((query : Query M) × query.Answer)} {result : Except (Failure M.State) (Step M)}
    (leads : (graph.react limit state context event).run.Leads given (.done result))
    (guarded : ∀ candidate ∈ graph.candidates state event, candidate.guard ≠ none)
    (refused : ∀ guard context shown, ⟨.check guard context shown,true⟩ ∉ given) :
    result = .ok (.unchanged state context) := by
  unfold react at leads
  rw [ExceptT.run_bind] at leads
  obtain ⟨chosen,before,after,split,selects,further⟩ := leads.ends_of_bind
  obtain ⟨transition,asked,silent,parts,finds,lifts⟩ := Dialogue.Leads.ends_of_bind selects
  have unmatched : transition = none := by
    apply findEnabled_refused finds guarded
    intro guard context shown member
    apply refused guard context shown
    rw [split,parts]
    simp [member]
  subst unmatched
  cases lifts
  cases further
  rfl

/-! ## The course of a step -/

/-- An interpreter in whose mailbox the rest of the mail is left, and everything that callbacks have
done since. -/
def Interpreter.meanwhile (self : Interpreter M) (rest : List (Event M)) (deeds : List (Deed M))
    (stack : List (Frame M)) : Interpreter M :=
  { self with
    mailbox := rest ++ sent deeds
    registry := deeds.foldl Deed.enrol self.registry
    stack }

theorem Interpreter.meanwhile_append (self : Interpreter M) (rest : List (Event M)) (deeds more : List (Deed M))
    (stack stack' : List (Frame M)) :
    (self.meanwhile rest deeds stack).meanwhile (rest ++ sent deeds) more stack' =
      self.meanwhile rest (deeds ++ more) stack' := by
  simp [meanwhile,sent]

/-- A deed of a step's own, while its macrostep is computed, takes the macrostep on or ends it. -/
theorem Turn.own {self next : Interpreter M} {deed : Deed M} {drainer : Drainer M}
    {firstError : Option (Failure M.State)} {event : Event M} {pending : Pending M} {below : List (Frame M)}
    (turn : Turn self deed next) (own : deed.IsOwn) (running : self.core.status = .running)
    (held : self.draining = true) (top : self.stack = .reacting drainer firstError event pending :: below) :
    (∃ later, pending.Leads (answers [deed]) later ∧ self.notes next deed = [] ∧
      next = self.meanwhile self.mailbox [deed] (.reacting drainer firstError event later :: below)) ∨
    (deed = .go ∧ ∃ result, pending = .done result) := by
  have same : self = { self with stack := .reacting drainer firstError event pending :: below } := by
    rw [← top]
  cases turn with
  | start clocked =>
    rcases self.start_cases clocked with ⟨_,result⟩ | ⟨unstarted,_⟩ | ⟨unstarted,_⟩
    · refine .inl ⟨pending,.here _,?_,?_⟩
      · rw [result]; simp [Interpreter.notes,top]
      · rw [result]; simpa [Interpreter.meanwhile,sent,Deed.enrol] using same
    · rw [running] at unstarted; cases unstarted
    · rw [running] at unstarted; cases unstarted
  | send signal =>
    rcases self.post_cases (.signal signal) with ⟨unstarted,_⟩ | ⟨idle,_⟩ | ⟨_,_,result⟩ | ⟨_,released,_⟩
    · rw [running] at unstarted; cases unstarted
    · exact absurd running idle
    · refine .inl ⟨pending,.here _,?_,?_⟩
      · rw [result]; simp [Interpreter.notes,top]
      · rw [result]; simp [Interpreter.meanwhile,sent,Deed.enrol,top]
    · rw [held] at released; cases released
  | stop => cases own
  | subscribe listener =>
    refine .inl ⟨pending,.here _,?_,?_⟩
    · simp [Interpreter.notes,Interpreter.subscribe,top]
    · simp [Interpreter.meanwhile,Interpreter.subscribe,sent,Deed.enrol,top]
  | unsubscribe number =>
    refine .inl ⟨pending,.here _,?_,?_⟩
    · simp [Interpreter.notes,Interpreter.unsubscribe,top]
    · simp [Interpreter.meanwhile,Interpreter.unsubscribe,sent,Deed.enrol,top]
  | answer asked given =>
    rcases Interpreter.resume_cases asked with ⟨_,starts,_⟩ | ⟨drainer',firstError',event',below',reacts,resumed⟩
    · rw [top] at starts; cases starts
    · rw [top] at reacts
      cases reacts
      refine .inl ⟨_,.answer (.here _),?_,?_⟩
      · rw [resumed]; simp [Interpreter.notes]
      · rw [resumed]; simp [Interpreter.meanwhile,sent,Deed.enrol]
  | told tells => rw [top] at tells; cases tells
  | go free =>
    cases pending with
    | done result => exact .inr ⟨rfl,result,rfl⟩
    | ask query further => simp [Interpreter.prompt,top] at free
  | sleep _ _ => cases own
  | deliver _ _ => cases own

namespace Sound

variable {self : Interpreter M} {others : List (Frame M)}

/-- With the end of its computation a macrostep is over, whatever it has come to. -/
theorem settled (sound : Sound graph options self others) {drainer : Drainer M}
    {firstError : Option (Failure M.State)} {event : Event M} {result : Except (Failure M.State) (Step M)}
    {below : List (Frame M)} (top : self.stack = .reacting drainer firstError event (.done result) :: below) :
    (self.tick.1.stack ++ others).filter Frame.isMacrostep = [] := by
  have none := sound.no_other top rfl
  have ticks := self.ticks
  generalize self.tick.1 = next at ticks ⊢
  cases ticks with
  | startCommitted other _ => rw [top] at other; cases other
  | startOverruled other _ => rw [top] at other; cases other
  | startFailed other => rw [top] at other; cases other
  | drained other _ => rw [top] at other; cases other
  | taken other _ _ _ => rw [top] at other; cases other
  | dropped other _ _ => rw [top] at other; cases other
  | stepCommitted same _ => rw [top] at same; cases same; exact none
  | stepOverruled same _ => rw [top] at same; cases same; exact none
  | faulted same _ _ => rw [top] at same; cases same; exact none
  | stepFailed same _ => rw [top] at same; cases same; exact none
  | released other _ => rw [top] at other; cases other
  | heard other _ => rw [top] at other; cases other
  | idle still => simp [Interpreter.prompt,top] at still

end Sound

namespace Gathering

/-- The moment while the macrostep of the event at the head of the mailbox is computed, from which
the deeds so far have come. -/
def inStep (first : Gathering M) (drainer : Drainer M) (firstError : Option (Failure M.State)) (event : Event M)
    (rest : List (Event M)) (below : List (Frame M)) (deeds : List (Deed M)) (pending : Pending M) : Gathering M :=
  ⟨first.self.meanwhile rest deeds (.reacting drainer firstError event pending :: below),first.waiting⟩

variable {first here next : Gathering M} {deeds : List (Deed M)} {log : List (Note M)} {drainer : Drainer M}
  {firstError : Option (Failure M.State)} {event : Event M} {rest : List (Event M)} {below : List (Frame M)}

theorem Moves.of_own {deed : Deed M} (moves : here.Moves deed next) (own : deed.IsOwn) :
    Turn here.self deed next.self ∧ next.waiting = here.waiting := by
  cases moves with
  | turn turn => exact ⟨turn,rfl⟩
  | back => cases own
  | join => cases own

theorem Moves.inStep {deed : Deed M} {pending : Pending M}
    (moves : (first.inStep drainer firstError event rest below deeds pending).Moves deed next)
    (own : deed.IsOwn) (sound : Sound graph options first.self first.waiting.flatten)
    (top : first.self.stack = .draining drainer firstError :: below) (running : first.self.core.status = .running) :
    (next.macrosteps ≠ [] ∧
      (first.inStep drainer firstError event rest below deeds pending).self.notes next.self deed = [] ∧
      ∃ later, pending.Leads (answers [deed]) later ∧
        next = first.inStep drainer firstError event rest below (deeds ++ [deed]) later) ∨
    (deed = .go ∧ ∃ result, pending = .done result) := by
  obtain ⟨nextSelf,nextWaiting⟩ := next
  obtain ⟨turn,waiting⟩ := moves.of_own own
  rcases turn.own own running (sound.held top rfl) rfl with ⟨later,leads,unnoted,goes⟩ | ended
  · simp only at goes waiting
    refine .inl ⟨?_,unnoted,later,leads,?_⟩
    · simp [macrosteps,frames,goes,Interpreter.meanwhile,Frame.isMacrostep]
    · rw [goes,waiting]
      simp only [Gathering.inStep,Gathering.mk.injEq,and_true]
      exact first.self.meanwhile_append _ _ _ _ _
  · exact .inr ended

/-- As long as its macrostep is computed, a step changes nothing but what its callbacks change. -/
theorem Underway.inStep (underway : first.Underway .go deeds log here)
    (sound : Sound graph options first.self first.waiting.flatten)
    (top : first.self.stack = .draining drainer firstError :: below) (mail : first.self.mailbox = event :: rest)
    (running : first.self.core.status = .running) (own : ∀ deed ∈ deeds, deed.IsOwn) :
    log = [] ∧ first.self.core.accepts event = true ∧
      ∃ pending, (first.self.graph.react first.self.options.maxMicrosteps first.self.core.state
          first.self.core.context event).run.Leads (answers deeds) pending ∧
        here = first.inStep drainer firstError event rest below deeds pending := by
  induction underway with
  | begun idle moves busy =>
    cases moves.of_go
    by_cases accepted : first.self.core.accepts event = true
    · have taken : first.self.tick.1 = first.self.meanwhile rest [] (.reacting drainer firstError event
          (first.self.graph.react first.self.options.maxMicrosteps first.self.core.state
            first.self.core.context event).run :: below) := by
        simp [Interpreter.tick,Interpreter.processNext,top,mail,running,accepted,Interpreter.meanwhile,sent]
      refine ⟨?_,accepted,_,.here _,?_⟩
      · rw [taken]; simp [Interpreter.notes,Interpreter.meanwhile]
      · rw [taken]; rfl
    · have dropped : first.self.tick.1.stack = first.self.stack := by
        simp [Interpreter.tick,Interpreter.processNext,top,mail,accepted]
      exact absurd (by simpa [macrosteps,frames,dropped] using idle) busy
  | @onward deeds log deed here next underway moves busy ih =>
    obtain ⟨silent,accepted,pending,leads,same⟩ := ih fun deed member => own deed (by simp [member])
    subst same
    rcases moves.inStep (own deed (by simp)) sound top running with ⟨_,unnoted,later,further,goes⟩ | ⟨go,result,ended⟩
    · refine ⟨by rw [silent,unnoted]; rfl,accepted,later,?_,goes⟩
      rw [answers_append]
      exact leads.trans further
    · subst go ended
      have none := (underway.path.sound sound).settled rfl
      cases moves.of_go
      exact absurd none busy

/-- A step whose event is taken ends when the computation of its macrostep has ended. -/
theorem Episode.ends (episode : first.Episode .go deeds log next)
    (sound : Sound graph options first.self first.waiting.flatten)
    (top : first.self.stack = .draining drainer firstError :: below) (mail : first.self.mailbox = event :: rest)
    (running : first.self.core.status = .running) (accepted : first.self.core.accepts event = true)
    (own : ∀ deed ∈ deeds, deed.IsOwn) :
    ∃ before result last, deeds = before ++ [.go] ∧
      (first.self.graph.react first.self.options.maxMicrosteps first.self.core.state
        first.self.core.context event).run.Leads (answers before) (.done result) ∧
      last = first.inStep drainer firstError event rest below before (.done result) ∧
      next = ⟨last.self.tick.1,last.waiting⟩ ∧ log = last.self.notes last.self.tick.1 .go := by
  cases episode with
  | atOnce _ moves past =>
    cases moves.of_go
    have begun : (first.self.tick.1.stack ++ first.waiting.flatten).filter Frame.isMacrostep ≠ [] := by
      simp [Interpreter.tick,Interpreter.processNext,top,mail,running,accepted,Frame.isMacrostep]
    exact absurd past begun
  | @later before log deed here _ underway moves past =>
    have earlier : ∀ deed ∈ before, deed.IsOwn := fun deed member => own deed (by simp [member])
    obtain ⟨silent,_,pending,leads,same⟩ := underway.inStep sound top mail running earlier
    subst same
    rcases moves.inStep (own deed (by simp)) sound top running with ⟨busy,_⟩ | ⟨go,result,ended⟩
    · exact absurd past busy
    · subst go ended
      refine ⟨before,result,_,rfl,leads,rfl,moves.of_go,?_⟩
      rw [silent,List.nil_append,moves.of_go]

end Gathering

/-! ## Abandoning a step -/

/-- A step that is abandoned has come to nothing, or to a failure for which a caller is to blame. -/
theorem Interpreter.Abandons.comes_to {self : Interpreter M} {event : Event M}
    {given : List ((query : Query M) × query.Answer)} {result : Except (Failure M.State) (Step M)}
    (abandons : self.Abandons event given) (accepted : self.core.accepts event = true)
    (leads : (self.graph.react self.options.maxMicrosteps self.core.state self.core.context event).run.Leads
      given (.done result)) :
    result = .ok (.unchanged self.core.state self.core.context) ∨
      event.origin = none ∧ ∃ failure, result = .error failure := by
  cases abandons with
  | unmatched guarded refused => exact .inl (Graph.react_refused leads guarded refused)
  | late carried left =>
    simp only [Core.accepts,carried,decide_eq_true_eq] at accepted
    exact absurd accepted left
  | failed external member fails =>
    subst external
    obtain ⟨failure,past⟩ := self.graph.react_brittle _ _ _ _ _ _ leads ⟨_,member,fails⟩
    cases past
    exact .inr ⟨rfl,failure,rfl⟩
  | unsettled external exceeded =>
    subst external
    cases exceeded.unique leads
    exact .inr ⟨rfl,_,rfl⟩

/-- Such a step leaves only its failure behind, for the caller whose drain it is. -/
theorem Interpreter.tick_abandoned {self : Interpreter M} {drainer : Drainer M}
    {firstError : Option (Failure M.State)} {event : Event M} {result : Except (Failure M.State) (Step M)}
    {below : List (Frame M)} {state : M.State} {context : M.Context}
    (top : self.stack = .reacting drainer firstError event (.done result) :: below)
    (nothing : result = .ok (.unchanged state context) ∨ event.origin = none ∧ ∃ failure, result = .error failure) :
    ∃ noted, self.tick.1 = { self with stack := .draining drainer noted :: below } := by
  rcases nothing with unchanged | ⟨external,failure,failed⟩
  · refine ⟨firstError,?_⟩
    simp [tick,top,unchanged,finishStep,Core.admits,Step.unchanged]
  · refine ⟨some (firstError.getD failure),?_⟩
    simp [tick,top,failed,abandonStep,external]

namespace Gathering

variable {first next : Gathering M} {deeds : List (Deed M)} {log : List (Note M)} {drainer : Drainer M}
  {firstError : Option (Failure M.State)} {event : Event M} {rest : List (Event M)} {below : List (Frame M)}

/-- An event that nobody takes is over at once. -/
theorem Episode.dropped (episode : first.Episode .go deeds log next)
    (sound : Sound graph options first.self first.waiting.flatten)
    (top : first.self.stack = .draining drainer firstError :: below) (mail : first.self.mailbox = event :: rest)
    (running : first.self.core.status = .running) (refused : first.self.core.accepts event = false)
    (own : ∀ deed ∈ deeds, deed.IsOwn) :
    log = [] ∧ deeds = [] ∧ next = ⟨{ first.self with mailbox := rest },first.waiting⟩ := by
  have goes : first.self.tick.1 = { first.self with mailbox := rest } := by
    simp [Interpreter.tick,Interpreter.processNext,top,mail,refused]
  cases episode with
  | atOnce _ moves _ =>
    refine ⟨?_,rfl,?_⟩
    · rw [moves.of_go,goes]; simp [Interpreter.notes,top]
    · rw [moves.of_go,goes]
  | later underway _ _ =>
    obtain ⟨_,accepted,_⟩ := underway.inStep sound top mail running fun deed member => own deed (by simp [member])
    rw [accepted] at refused
    cases refused

/-- When the step of an event is abandoned, its callbacks may have sent events and may have subscribed
or unsubscribed listeners. Everything else about the interpreter is as it was before, and nobody has
been told anything. -/
theorem abandoned_inert (reachable : first.Reachable graph options)
    (running : first.self.core.status = .running)
    (top : first.self.stack = .draining drainer firstError :: below) (mail : first.self.mailbox = event :: rest)
    (episode : first.Episode .go deeds log next) (own : ∀ deed ∈ deeds, deed.IsOwn)
    (abandons : first.self.Abandons event (answers deeds)) :
    log = [] ∧ ∃ noted, next.waiting = first.waiting ∧ next.self = { first.self with
      mailbox := rest ++ sent deeds
      registry := deeds.foldl Deed.enrol first.self.registry
      stack := .draining drainer noted :: below } := by
  have sound := reachable.sound
  by_cases accepted : first.self.core.accepts event = true
  · obtain ⟨before,result,last,split,leads,same,goes,noted⟩ :=
      episode.ends sound top mail running accepted own
    have given : answers deeds = answers before := by rw [split,answers_append]; simp [answers]
    have mailed : sent deeds = sent before := by rw [split]; simp [sent]
    have enrolled : deeds.foldl Deed.enrol first.self.registry = before.foldl Deed.enrol first.self.registry := by
      rw [split]; simp [Deed.enrol]
    rw [given] at abandons
    have stack : last.self.stack = .reacting drainer firstError event (.done result) :: below := by rw [same]; rfl
    obtain ⟨kept,ticked⟩ := Interpreter.tick_abandoned stack (abandons.comes_to accepted leads)
    refine ⟨?_,kept,?_,?_⟩
    · rw [noted,ticked]; simp [Interpreter.notes]
    · rw [goes,same]; rfl
    · rw [goes,mailed,enrolled,ticked,same]; rfl
  · have refused : first.self.core.accepts event = false := by simpa using accepted
    obtain ⟨silent,none,goes⟩ := episode.dropped sound top mail running refused own
    refine ⟨silent,firstError,by rw [goes],?_⟩
    rw [goes,none]
    simp [sent,top]

/-- A chart that moves on by itself, into an action that fails. -/
def trap : Graph Bench.machine where
  id := "trap"
  initial := .a
  context := {}
  nodes := [
    { Node.empty (M := Bench.machine) .a with on := [(.go,[⟨none,[⟨"step",.effect,.gate⟩],some .b⟩])] },
    { Node.empty (M := Bench.machine) .b with always := [⟨none,[⟨"snap",.effect,.fail "broken"⟩],some .c⟩] },
    .empty .c]

/-- The moment before the trap takes a signal out of its mailbox. -/
def trapSet : Gathering Bench.machine where
  self := {
    graph := trap
    options := {}
    core := {
      status := .running, state := .a, context := {}, generation := ⟨1⟩, history := ⟨[],some 128⟩
      clocked := true, fault := none, activities := [] }
    mailbox := [.signal ⟨.go,0⟩]
    draining := true
    registry := {}
    stack := [.draining .poster none] }
  waiting := []

/-- The first action sends a signal and subscribes a listener; the second one fails. -/
def trapDeeds : List (Deed Bench.machine) := [
  .send ⟨.back,0⟩,
  .subscribe ⟨0,"p",{},[],1⟩,
  .answer (.perform ⟨"step",.effect,.gate⟩ {} (.signal ⟨.go,0⟩)) (.ok ()),
  .answer (.perform ⟨"snap",.effect,.fail "broken"⟩ {} (.signal ⟨.go,0⟩)) (.error ⟨"broken"⟩),
  .go]

theorem trap_reached : trapSet.Reachable trap {} := by
  have made : Path (.fresh trap {}) [] [] _ := .here
  have started := made.onward (.turn (.start true))
  have committed := started.onward (.turn (.go rfl))
  have told := committed.onward (.turn (.go rfl))
  have drained := told.onward (.turn (.go rfl))
  have sent := drained.onward (.turn (.send (Bench.Signal.mk .go 0)))
  exact ⟨_,_,sent⟩

theorem trap_sprung : ∃ log next, trapSet.Episode .go trapDeeds log next := by
  have taken : Underway trapSet .go [] _ _ := .begun rfl (.turn (.go rfl)) (List.cons_ne_nil _ _)
  have sent := taken.onward (.turn (.send (Bench.Signal.mk .back 0))) (List.cons_ne_nil _ _)
  have joined := sent.onward (.turn (.subscribe (Bench.Listener.mk 0 "p" {} [] 1))) (List.cons_ne_nil _ _)
  have stepped := joined.onward (.turn (.answer rfl (by exact Except.ok ()))) (List.cons_ne_nil _ _)
  have snapped := stepped.onward (.turn (.answer rfl (by exact Except.error (ActionError.mk "broken"))))
    (List.cons_ne_nil _ _)
  have past := Episode.later snapped (.turn (.go rfl)) rfl
  exact ⟨_,_,past⟩

theorem trap_abandoned_inert :
    trapSet.Reachable trap {} ∧ ∃ next, trapSet.Episode .go trapDeeds [] next ∧
      next.self.core = trapSet.self.core ∧ next.self.mailbox = [.signal ⟨.back,0⟩] ∧
      next.self.registry.numbers = [0] := by
  obtain ⟨log,next,episode⟩ := trap_sprung
  have own : ∀ deed ∈ trapDeeds, deed.IsOwn := by simp [trapDeeds,Deed.IsOwn]
  have fails : trapSet.self.Abandons (.signal ⟨.go,0⟩) (answers trapDeeds) :=
    .failed rfl (List.mem_cons_of_mem _ (List.mem_singleton_self _)) ⟨⟨"broken"⟩,rfl⟩
  obtain ⟨silent,noted,_,same⟩ := abandoned_inert trap_reached rfl rfl rfl episode own fails
  subst silent
  refine ⟨trap_reached,next,episode,?_,?_,?_⟩
  · rw [same]
  · rw [same]; rfl
  · rw [same]; rfl

end Gathering

end Statechart
