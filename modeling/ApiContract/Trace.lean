import ApiContract.Error

/-!
# Computations that leave a trace

A traced computation has a result and the list of what it did on the way: events for the log, calls
of the evaluator, calls of the hook. What was done before an error stays in the trace.
-/

namespace ApiContract

/-- How much an event matters. -/
inductive Level where
  | trace
  | debug
  | info
  | warn
  deriving DecidableEq, Repr

/-- The name of a level. -/
def Level.name : Level → String
  | .trace => "TRACE"
  | .debug => "DEBUG"
  | .info => "INFO"
  | .warn => "WARN"

/-- The order of levels, the most detailed first. -/
def Level.rank : Level → Nat
  | .trace => 0
  | .debug => 1
  | .info => 2
  | .warn => 3

/-- An entry of the log. -/
structure Event where
  level : Level
  message : String
  fields : List (String × String)
  deriving DecidableEq, Repr

/-- A call of the evaluator: the expression and the shared definitions. -/
structure EvaluatorCall where
  expression : String
  definitions : Option String
  deriving DecidableEq, Repr

/-- Something done on the way. -/
inductive Step (η : Type) where
  | event (e : Event)
  | evaluated (c : EvaluatorCall)
  | hooked (call : η)

/-- A computation with a trace; `η` is the type of the calls of the hook. -/
structure Traced (η α : Type) where
  steps : List (Step η)
  result : Except Error α

namespace Traced

variable {η α β : Type}

/-- A result without a step. -/
def pure (a : α) : Traced η α := ⟨[], .ok a⟩

/-- One computation after another; an error ends both. -/
def bind (x : Traced η α) (f : α → Traced η β) : Traced η β :=
  match x.result with
  | .ok a => ⟨x.steps ++ (f a).steps, (f a).result⟩
  | .error e => ⟨x.steps, .error e⟩

instance : Monad (Traced η) where
  pure := pure
  bind := bind

/-- An error without a step. -/
def fail (e : Error) : Traced η α := ⟨[], .error e⟩

/-- A result that leaves no trace. -/
def lift (x : Except Error α) : Traced η α := ⟨[], x⟩

/-- One step. -/
def step (s : Step η) : Traced η Unit := ⟨[s], .ok ()⟩

/-- One entry of the log. -/
def log (level : Level) (message : String) (fields : List (String × String)) : Traced η Unit :=
  step (.event ⟨level, message, fields⟩)

/-- Several entries of the log. -/
def logAll (events : List Event) : Traced η Unit := ⟨events.map .event, .ok ()⟩

/-- The log of a computation, from a level on. -/
def events (least : Level) (x : Traced η α) : List Event :=
  x.steps.filterMap fun
    | .event e => if least.rank ≤ e.level.rank then some e else none
    | _ => none

/-- The calls of the evaluator, in order. -/
def calls (x : Traced η α) : List EvaluatorCall :=
  x.steps.filterMap fun
    | .evaluated c => some c
    | _ => none

/-- The calls of the hook, in order. -/
def hookCalls (x : Traced η α) : List η :=
  x.steps.filterMap fun
    | .hooked c => some c
    | _ => none

/-! ### Results -/

@[simp] theorem result_pure (a : α) : (Pure.pure a : Traced η α).result = .ok a := rfl

/-- The result of one computation after another is that of the second on the result of the first. -/
@[simp] theorem result_bind (x : Traced η α) (f : α → Traced η β) :
    (x >>= f).result = x.result >>= fun a => (f a).result := by
  show (bind x f).result = _
  unfold bind
  cases x.result <;> rfl

@[simp] theorem result_lift (x : Except Error α) : (lift x : Traced η α).result = x := rfl

@[simp] theorem result_step (s : Step η) : (step s).result = .ok () := rfl

@[simp] theorem result_log (level : Level) (message : String) (fields : List (String × String)) :
    (log level message fields : Traced η Unit).result = .ok () := rfl

@[simp] theorem result_logAll (events : List Event) :
    (logAll events : Traced η Unit).result = .ok () := rfl

/-- The result of a computation for each of several items is that of their results in order. -/
theorem result_forM (f : α → Traced η Unit) (xs : List α) :
    (xs.forM f).result = xs.forM fun x => (f x).result := by
  induction xs with
  | nil => rfl
  | cons x rest ih =>
    show (f x >>= fun _ => rest.forM f).result = _
    rw [result_bind, ih]
    rfl

end Traced

end ApiContract
