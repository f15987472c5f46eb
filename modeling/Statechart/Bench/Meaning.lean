import Statechart.Bench.Vocabulary

/-!
# What expressions, conditions and updates mean
-/
namespace Statechart.Bench

/-- The value of an expression. -/
def Expr.eval (context : Context) (event : Event machine) : Expr → Int64
  | .constant value => value
  | .n => context.n
  | .m => context.m
  | .signalValue => (event.signal?.map Signal.value).getD 0
  | .output => event.output?.getD 0
  | .generation => (event.origin.map fun origin => origin.generation.value.toInt64).getD 0
  | .logSize => Int64.ofNat context.log.length
  | .add left right => left.eval context event + right.eval context event
  | .sub left right => left.eval context event - right.eval context event
  | .mul left right => left.eval context event * right.eval context event

/-- Whether two numbers compare as stated. -/
def Comparison.holds (comparison : Comparison) (left right : Int64) : Bool :=
  match comparison with
  | .lt => left < right
  | .le => left ≤ right
  | .eq => left = right
  | .ne => left ≠ right
  | .gt => right < left
  | .ge => right ≤ left

/-- The context after an update. -/
def Update.apply (context : Context) (event : Event machine) : Update → Context
  | .setN value => { context with n := value.eval context event }
  | .setM value => { context with m := value.eval context event }
  | .log text => { context with log := context.log ++ [text] }
  | .logLabel => { context with log := context.log ++ [event.label] }
  | .logEvent => { context with log := context.log ++ [describe event] }
  | .takeError => { context with text := event.error?.getD "" }

/-! ## Conditions

A condition comes with the marks that its evaluation leaves: the identifier of a traced condition
and the value it had. Of several conditions the later ones are not evaluated once the earlier ones
settle the matter. -/

mutual

/-- The value of a condition and the marks of its evaluation. -/
def Condition.eval (context : Context) (event : Event machine) :
    Condition → Bool × List (String × Bool)
  | .constant value => (value, [])
  | .compare left comparison right =>
    (comparison.holds (left.eval context event) (right.eval context event), [])
  | .label text => (event.label == text, [])
  | .kind kind => (event.kind? == some kind, [])
  | .error text => (event.error? == some text, [])
  | .text value => (context.text == value, [])
  | .negation condition =>
    let (value, marks) := condition.eval context event
    (!value, marks)
  | .conjunction conditions => evalAll context event conditions
  | .disjunction conditions => evalAny context event conditions
  | .traced id condition =>
    let (value, marks) := condition.eval context event
    (value, marks ++ [(id, value)])

/-- Whether all conditions hold. -/
def evalAll (context : Context) (event : Event machine) :
    List Condition → Bool × List (String × Bool)
  | [] => (true, [])
  | condition :: rest =>
    let (value, marks) := condition.eval context event
    if value then
      let (all, later) := evalAll context event rest
      (all, marks ++ later)
    else (false, marks)

/-- Whether any condition holds. -/
def evalAny (context : Context) (event : Event machine) :
    List Condition → Bool × List (String × Bool)
  | [] => (false, [])
  | condition :: rest =>
    let (value, marks) := condition.eval context event
    if value then (true, marks)
    else
      let (any, later) := evalAny context event rest
      (any, marks ++ later)

end

/-- The value of a guard and the marks of its evaluation. -/
def Guard.eval (guard : Guard) (context : Context) (event : Event machine) :
    Bool × List (String × Bool) :=
  guard.condition.eval context (if guard.contextOnly then .init else event)

/-! ## Services -/

/-- How a service made from a form ends. -/
def ServiceForm.ending (form : ServiceForm) (context : Context) (event : Event machine) : Ending :=
  match form.error, form.cell with
  | some error, _ => .failure error
  | none, some key => .cell key
  | none, none => .value ((form.ok.map fun value => value.eval context event).getD 0)

/-- The service made from a form: without latency it is instant, unless it needs a cell. -/
def ServiceForm.make (form : ServiceForm) (context : Context) (event : Event machine) : Task :=
  match form.latency, form.ending context event with
  | none, .failure error => .instant (.error error)
  | none, .value output => .instant (.ok output)
  | latency, ending => .waiting form.id latency ending

end Statechart.Bench
