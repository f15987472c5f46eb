import Statechart.Proofs.Promises

/-!
# Reactions: from the moment an event is taken to the end of its macrostep

Whatever others do in the meantime, the macrostep of an event is computed from what had been committed
when the event was taken, and it comes to its end (`Underway.reacting`, `Episode.reacted`). It can be
carried to its end, whatever the callbacks answer (`Takes.carried_out`).
-/
namespace Statechart

variable {M : Machine} {graph : Graph M} {options : Options}

namespace Gathering

variable {first here next : Gathering M} {deed : Deed M} {deeds : List (Deed M)} {log : List (Note M)}
  {drainer : Drainer M} {firstError : Option (Failure M.State)} {event : Event M}

/-- An event is about to be taken out of the mailbox. -/
structure Takes (here : Gathering M) (drainer : Drainer M) (firstError : Option (Failure M.State)) (event : Event M) :
    Prop where
  top : ∃ below, here.self.stack = .draining drainer firstError :: below
  mail : ∃ rest, here.self.mailbox = event :: rest
  running : here.self.core.status = .running
  accepted : here.self.core.accepts event = true

/-- Then the computation of its macrostep begins. -/
theorem Takes.begins (takes : here.Takes drainer firstError event)
    (sound : Sound graph options here.self here.waiting.flatten) (moves : here.Moves .go next) :
    next.macrosteps = [.reacting drainer firstError event
      (graph.react options.maxMicrosteps here.self.core.state here.self.core.context event).run] ∧
    next.self.core = here.self.core := by
  obtain ⟨⟨below,top⟩,⟨rest,mail⟩,running,accepted⟩ := takes
  have goes : here.self.tick.1 = { here.self with
      mailbox := rest
      stack := .reacting drainer firstError event (graph.react options.maxMicrosteps here.self.core.state
        here.self.core.context event).run :: below } := by
    simp [Interpreter.tick,Interpreter.processNext,top,mail,running,accepted,sound.graph_eq,sound.options_eq]
  rw [moves.of_go,goes]
  exact ⟨congrArg (List.cons _) (sound.no_other top rfl),rfl⟩

/-- Nobody is left running by a stop. -/
theorem Moves.stops (moves : here.Moves .stop next)
    (alive : here.self.core.status = .running ∨ here.self.core.status = .stopped) : next.self.core.status = .stopped := by
  cases moves with
  | @turn self _ _ _ turn =>
    cases turn with
    | stop =>
      rcases self.stop_cases with ⟨past,result⟩ | ⟨_,_,result⟩
      · rw [result]
        rcases alive with running | stopped
        · rw [show self.core.status = .running from running] at past
          simp at past
        · exact stopped
      · rw [result]
        rfl

/-- While the macrostep of an event is in progress, it is that of the event, computed from what had been
committed when the event was taken. The interpreter is running unless somebody has stopped it since. -/
theorem Underway.reacting (underway : first.Underway .go deeds log here) (reachable : first.Reachable graph options)
    (takes : first.Takes drainer firstError event) :
    ∃ pending, here.macrosteps = [.reacting drainer firstError event pending] ∧
      (graph.react options.maxMicrosteps first.self.core.state first.self.core.context event).run.Leads (answers deeds)
        pending ∧
      here.self.core.committed = first.self.core.committed ∧
      (here.self.core.status = .running ∨ .stop ∈ deeds ∧ here.self.core.status = .stopped) := by
  have soundly : ∀ {deeds log here}, first.Underway .go deeds log here →
      Sound graph options here.self here.waiting.flatten := fun underway => underway.path.sound reachable.sound
  induction underway with
  | begun _ moves _ =>
    obtain ⟨one,same⟩ := takes.begins reachable.sound moves
    refine ⟨_,one,.here _,by rw [same],.inl ?_⟩
    rw [same]
    exact takes.running
  | @onward deeds _ deed here next underway moves busy ih =>
    obtain ⟨pending,one,leads,same,alive⟩ := ih
    have sound := soundly underway
    have still : here.macrosteps ≠ [] := by simp [one]
    obtain ⟨later,further,goes⟩ : ∃ later, next.macrosteps = [.reacting drainer firstError event later] ∧
        pending.Leads (answers [deed]) later := by
      rcases moves.course sound with ⟨none,_⟩ | ⟨none,_⟩ | ⟨frame,_,now,then_,advances⟩ | ⟨_,_,none,_⟩
      · exact absurd none still
      · exact absurd none still
      · rw [one] at now
        cases now
        cases advances with
        | reacting goes => exact ⟨_,then_,goes⟩
      · exact absurd none busy
    refine ⟨later,further,?_,?_,?_⟩
    · rw [answers_append]
      exact leads.trans goes
    · rcases moves.committed with kept | ⟨step,go,commits⟩
      · rw [kept,same]
      · subst go
        exact absurd (moves.commit commits sound).2 busy
    · by_cases stops : deed = .stop
      · subst stops
        exact .inr ⟨by simp,moves.stops (alive.imp_right And.right)⟩
      · rw [moves.core_in_step sound still busy stops]
        exact alive.imp_right fun ⟨stopped,status⟩ => ⟨List.mem_append_left _ stopped,status⟩

/-- An event that has been taken is done with once its macrostep has come to a result and the call goes on. -/
theorem Episode.reacted (episode : first.Episode .go deeds log next) (reachable : first.Reachable graph options)
    (takes : first.Takes drainer firstError event) :
    ∃ (before : List (Deed M)) (here : Gathering M) (result : Except (Failure M.State) (Step M)) (below : List (Frame M)),
      deeds = before ++ [.go] ∧
      here.self.stack = .reacting drainer firstError event (.done result) :: below ∧ here.Moves .go next ∧
      (graph.react options.maxMicrosteps first.self.core.state first.self.core.context event).run.Leads (answers before)
        (.done result) ∧
      here.self.core.committed = first.self.core.committed ∧
      (here.self.core.status = .running ∨ .stop ∈ deeds ∧ here.self.core.status = .stopped) := by
  cases episode with
  | atOnce _ moves none =>
    rw [(takes.begins reachable.sound moves).1] at none
    cases none
  | @later before _ deed here _ underway moves none =>
    obtain ⟨pending,one,leads,same,alive⟩ := underway.reacting reachable takes
    have sound := underway.path.sound reachable.sound
    rcases moves.course sound with ⟨empty,_⟩ | ⟨empty,_⟩ | ⟨_,_,_,one',_⟩ | ⟨frame,now,_,finishes⟩
    · rw [one] at empty; cases empty
    · rw [one] at empty; cases empty
    · rw [none] at one'; cases one'
    · rw [one] at now
      cases now
      cases finishes with
      | react top =>
        exact ⟨before,here,_,_,rfl,top,moves,leads,same,
          alive.imp_right fun ⟨stopped,status⟩ => ⟨List.mem_append_left _ stopped,status⟩⟩

/-- What becomes of the core once a macrostep has come to its result. -/
theorem Moves.core_of_reaction (moves : here.Moves .go next) {result : Except (Failure M.State) (Step M)}
    {below : List (Frame M)} (top : here.self.stack = .reacting drainer firstError event (.done result) :: below) :
    next.self.core =
      match result with
      | .ok step => if here.self.core.admits step then here.self.core.commit step else here.self.core
      | .error failure =>
        if event.origin.isSome && here.self.core.status = .running then here.self.core.close .failed (some failure)
        else here.self.core := by
  rw [moves.of_go]
  cases result with
  | ok step =>
    simp only [Interpreter.tick,top,Interpreter.finishStep]
    split <;> rfl
  | error failure =>
    simp only [Interpreter.tick,top,Interpreter.abandonStep]
    split <;> rfl

/-! ## Carrying a reaction out -/

/-- A macrostep that has come to its result is over once the call goes on. -/
theorem Moves.over (moves : here.Moves .go next) (sound : Sound graph options here.self here.waiting.flatten)
    {result : Except (Failure M.State) (Step M)} {below : List (Frame M)}
    (top : here.self.stack = .reacting drainer firstError event (.done result) :: below) : next.macrosteps = [] := by
  have none := sound.no_other top rfl
  rw [moves.of_go]
  simp only [macrosteps,frames,Interpreter.tick,top]
  cases result with
  | ok step =>
    simp only [Interpreter.finishStep]
    split
    · exact none
    · exact none
  | error failure =>
    simp only [Interpreter.abandonStep]
    split
    · exact none
    · exact none

/-- Whatever the callbacks answer, the macrostep on top of the stack can be carried to its end. -/
theorem Underway.carried_out (host : (query : Query M) → query.Answer) (reachable : first.Reachable graph options)
    {pending : Pending M} {below : List (Frame M)} (underway : first.Underway .go deeds log here)
    (top : here.self.stack = .reacting drainer firstError event pending :: below) :
    ∃ more log next, first.Episode .go (deeds ++ more) log next ∧
      ∀ deed ∈ more, deed = .go ∨ ∃ query, deed = .answer query (host query) := by
  have sound := underway.path.sound reachable.sound
  induction pending generalizing here deeds log with
  | done result =>
    have moves : here.Moves .go ⟨here.self.tick.1,here.waiting⟩ := .turn (.go (by simp [Interpreter.prompt,top]))
    refine ⟨[.go],_,_,.later underway moves (moves.over sound top),?_⟩
    intro deed member
    exact .inl (List.mem_singleton.mp member)
  | ask query next ih =>
    have asked : here.self.prompt = some (.query query next) := by simp [Interpreter.prompt,top]
    have moves : here.Moves (.answer query (host query)) ⟨here.self.resume (next (host query)),here.waiting⟩ :=
      .turn (.answer asked (host query))
    have goes : (here.self.resume (next (host query))).stack =
        .reacting drainer firstError event (next (host query)) :: below := by simp [Interpreter.resume,top]
    have busy : Gathering.macrosteps ⟨here.self.resume (next (host query)),here.waiting⟩ ≠ [] := by
      simp [macrosteps,frames,goes,Frame.isMacrostep]
    have onward := underway.onward moves busy
    obtain ⟨more,log,last,episode,own⟩ := ih (host query) onward goes (onward.path.sound reachable.sound)
    refine ⟨.answer query (host query) :: more,log,last,by simpa using episode,?_⟩
    intro deed member
    rcases List.mem_cons.mp member with now | later
    · exact .inr ⟨query,now⟩
    · exact own deed later

theorem Takes.carried_out (takes : here.Takes drainer firstError event) (reachable : here.Reachable graph options)
    (idle : here.macrosteps = []) (host : (query : Query M) → query.Answer) :
    ∃ deeds log next, here.Episode .go deeds log next ∧
      ∀ deed ∈ deeds, deed = .go ∨ ∃ query, deed = .answer query (host query) := by
  obtain ⟨⟨below,top⟩,⟨rest,mail⟩,running,accepted⟩ := takes
  have moves : here.Moves .go ⟨here.self.tick.1,here.waiting⟩ := .turn (.go (by simp [Interpreter.prompt,top]))
  have stack : here.self.tick.1.stack = .reacting drainer firstError event (here.self.graph.react
      here.self.options.maxMicrosteps here.self.core.state here.self.core.context event).run :: below := by
    simp [Interpreter.tick,Interpreter.processNext,top,mail,running,accepted]
  have busy : Gathering.macrosteps ⟨here.self.tick.1,here.waiting⟩ ≠ [] := by
    simp [macrosteps,frames,stack,Frame.isMacrostep]
  obtain ⟨more,log,next,episode,own⟩ := (Underway.begun idle moves busy).carried_out host reachable stack
  exact ⟨more,log,next,episode,own⟩

end Gathering

end Statechart
