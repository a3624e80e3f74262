import ApiContract.Proofs.Client.Placement
import ApiContract.Proofs.OpenApi.BuiltPaths
import ApiContract.Proofs.Trace

/-!
# The order of evaluation

A build evaluates the inputs of all operations, one operation after another, and passes over the
internal ones. This file says what it does on the way: which calls of the evaluator it makes, in
which order, where it stops, and which operations a hook has seen by then.

A build of two lists of operations is a build of the first and then of the second
(`buildAll_append`), and the same holds of the inputs of an operation (`evaluateAll_append`). So it
is enough to know what is done for one input and for one operation, and a build that stops is one
that has finished everything before the input at which it stops (`stopsOrFinishes_build`).
-/

namespace ApiContract

/-! ### Evaluated inputs -/

/-- The inputs of an operation that are evaluated: all but the internal ones. -/
def OperationDef.evaluated (op : OperationDef) : List Selector :=
  op.selectors.filter fun s => s.source ≠ .internal

/-- The inputs of operations that are evaluated, in order, each with the name of its operation. -/
def evaluatedInputs (ops : List OperationDef) : List (String × Selector) :=
  ops.flatMap fun op => op.evaluated.map (op.name, ·)

/-- The schema of an input, or why it has none: its source is not known, or its expression cannot be
evaluated. -/
def inputSchema (evaluator : Evaluator) (definitions : Option String) (i : String × Selector) :
    Except Error Json :=
  if i.2.source.isKnown then (evaluator (Evaluator.prepare i.2.expression) definitions).schema
  else .error (OperationDef.unknownSource i.2 i.1)

/-- The call of the evaluator for an input. -/
def inputCall (definitions : Option String) (i : String × Selector) : EvaluatorCall :=
  ⟨Evaluator.prepare i.2.expression, definitions⟩

/-- What a hook gets to see of an operation besides its object. -/
def OperationDef.shown (op : OperationDef) : String × Method × String :=
  (op.sourceFile, op.method, op.path)

/-- The same of a call of the hook. -/
def HookCall.shown (call : HookCall) : String × Method × String :=
  (call.sourceFile, call.method, call.path)

/-! ### Inputs of one operation -/

section

variable {evaluator : Evaluator} {definitions : Option String}

namespace Inputs

/-- Inputs are evaluated one list after another. -/
theorem evaluateAll_append (operation : String) (inputs : Inputs) (xs ys : List Selector) :
    evaluateAll evaluator definitions operation inputs (xs ++ ys) =
      evaluateAll evaluator definitions operation inputs xs >>= fun next =>
        evaluateAll evaluator definitions operation next ys := by
  induction xs generalizing inputs with
  | nil => exact (Traced.pure_bind _ _).symm
  | cons s rest ih =>
    rw [List.cons_append, evaluateAll, evaluateAll]
    cases s.source.binding with
    | excluded => exact ih inputs
    | unknown raw => rfl
    | location l => simp only [ih, Traced.bind_assoc]
    | body => simp only [ih, Traced.bind_assoc]

/-- Internal inputs are passed over. -/
lemma evaluateAll_evaluated (op : OperationDef) (inputs : Inputs) :
    evaluateAll evaluator definitions op.name inputs op.selectors =
      evaluateAll evaluator definitions op.name inputs op.evaluated := by
  unfold OperationDef.evaluated
  induction op.selectors generalizing inputs with
  | nil => rfl
  | cons s rest ih =>
    by_cases hinternal : s.source = .internal
    · have hbinding : s.source.binding = .excluded := by rw [hinternal]; rfl
      rw [List.filter_cons_of_neg (by simpa using hinternal), ← ih, evaluateAll, hbinding]
    · rw [List.filter_cons_of_pos (by simpa using hinternal), evaluateAll, evaluateAll]
      simp only [ih]

/-- Evaluating inputs calls no hook. -/
lemma hookCalls_evaluateAll (operation : String) (inputs : Inputs) (selectors : List Selector) :
    (evaluateAll evaluator definitions operation inputs selectors).hookCalls = [] := by
  have hevaluate : ∀ expression,
      (evaluate evaluator definitions expression).hookCalls = [] := by
    intro expression
    refine Traced.hookCalls_bind_eq_nil rfl fun _ _ => ?_
    exact Traced.hookCalls_bind_eq_nil (Traced.hookCalls_logAll _) fun _ _ => rfl
  induction selectors generalizing inputs with
  | nil => rfl
  | cons s rest ih =>
    rw [evaluateAll]
    cases s.source.binding with
    | excluded => exact ih inputs
    | unknown raw => rfl
    | location l => exact Traced.hookCalls_bind_eq_nil (hevaluate _) fun _ _ => ih _
    | body => exact Traced.hookCalls_bind_eq_nil (hevaluate _) fun _ _ => ih _

/-- An expression is handed to the evaluator once. -/
lemma calls_evaluate (evaluator : Evaluator) (definitions : Option String) (expression : String) :
    (evaluate evaluator definitions expression).calls =
      [⟨Evaluator.prepare expression, definitions⟩] := by
  set answer := evaluator (Evaluator.prepare expression) definitions with hanswer
  have hlog : (Traced.logAll answer.events >>= fun _ =>
      (Traced.lift answer.schema : Traced HookCall Json)).calls = [] :=
    Traced.calls_bind_eq_nil (Traced.calls_logAll _) fun _ _ => rfl
  have hsteps := Traced.calls_bind_of_ok
    (x := (Traced.step (.evaluated ⟨Evaluator.prepare expression, definitions⟩) :
      Traced HookCall Unit)) rfl fun _ => Traced.logAll answer.events >>= fun _ =>
        (Traced.lift answer.schema : Traced HookCall Json)
  rw [hlog, List.append_nil] at hsteps
  exact hsteps

/-- One input that is not internal is added with its schema, if it has one. -/
lemma result_evaluateAll_singleton {s : Selector} (hs : s.source ≠ .internal) (operation : String)
    (inputs : Inputs) :
    (evaluateAll evaluator definitions operation inputs [s]).result =
      (inputSchema evaluator definitions (operation, s)).map (inputs.add s) := by
  have hevaluate : (evaluate evaluator definitions s.expression).result =
      (evaluator (Evaluator.prepare s.expression) definitions).schema := by
    simp [evaluate]
  have hadd : ∀ x : Except Error Json, (x >>= fun schema => .ok (inputs.add s schema)) =
      x.map (inputs.add s) := by
    intro x
    cases x <;> rfl
  rw [evaluateAll, inputSchema]
  cases hsource : s.source with
  | internal => exact absurd hsource hs
  | other raw => rfl
  | _ =>
    simp only [InputSource.binding, InputSource.isKnown, if_true, Traced.result_bind, hevaluate]
    exact hadd _

/-- The evaluator is called for one input that is not internal when its source is known. -/
lemma calls_evaluateAll_singleton {s : Selector} (hs : s.source ≠ .internal) (operation : String)
    (inputs : Inputs) :
    (evaluateAll evaluator definitions operation inputs [s]).calls =
      if s.source.isKnown then [inputCall definitions (operation, s)] else [] := by
  have hknown : (evaluate evaluator definitions s.expression >>= fun schema =>
      evaluateAll evaluator definitions operation (inputs.add s schema) []).calls =
        [inputCall definitions (operation, s)] := by
    have hcalls := calls_evaluate evaluator definitions s.expression
    cases hresult : (evaluate evaluator definitions s.expression).result with
    | error e => rw [Traced.calls_bind_of_error hresult, hcalls]; rfl
    | ok schema => rw [Traced.calls_bind_of_ok hresult, hcalls]; rfl
  rw [evaluateAll]
  cases hsource : s.source with
  | internal => exact absurd hsource hs
  | other raw => rfl
  | _ => exact hknown

/-- Inputs that have a schema are evaluated, each by one call. -/
lemma exists_evaluateAll {operation : String} {selectors : List Selector}
    (hs : ∀ s ∈ selectors, s.source ≠ .internal)
    (hschemas : ∀ s ∈ selectors, ∃ schema,
      inputSchema evaluator definitions (operation, s) = .ok schema) (inputs : Inputs) :
    (∃ next, (evaluateAll evaluator definitions operation inputs selectors).result = .ok next) ∧
      (evaluateAll evaluator definitions operation inputs selectors).calls =
        selectors.map fun s => inputCall definitions (operation, s) := by
  induction selectors generalizing inputs with
  | nil => exact ⟨⟨inputs, rfl⟩, rfl⟩
  | cons s rest ih =>
    obtain ⟨hs, hrest⟩ := List.forall_mem_cons.mp hs
    obtain ⟨⟨schema, hschema⟩, hschemas⟩ := List.forall_mem_cons.mp hschemas
    have hfirst : (evaluateAll evaluator definitions operation inputs [s]).result =
        .ok (inputs.add s schema) := by
      rw [result_evaluateAll_singleton hs, hschema]
      rfl
    have hknown : s.source.isKnown = true := by
      by_contra hunknown
      rw [inputSchema, if_neg hunknown] at hschema
      cases hschema
    obtain ⟨⟨next, hnext⟩, hcalls⟩ := ih hrest hschemas (inputs.add s schema)
    rw [← List.singleton_append, evaluateAll_append]
    refine ⟨⟨next, ?_⟩, ?_⟩
    · rw [Traced.result_bind, hfirst, ok_bind, hnext]
    · rw [Traced.calls_bind_of_ok hfirst, hcalls, calls_evaluateAll_singleton hs, if_pos hknown,
        List.map_append]
      rfl

/-- The first input without a schema ends the evaluation. It is still handed to the evaluator when
its source is known. -/
lemma evaluateAll_eq_error {operation : String} {earlier later : List Selector} {s : Selector}
    {e : Error} (hs : ∀ t ∈ earlier ++ s :: later, t.source ≠ .internal)
    (hearlier : ∀ t ∈ earlier, ∃ schema,
      inputSchema evaluator definitions (operation, t) = .ok schema)
    (hschema : inputSchema evaluator definitions (operation, s) = .error e) (inputs : Inputs) :
    (evaluateAll evaluator definitions operation inputs (earlier ++ s :: later)).result =
        .error e ∧
      (evaluateAll evaluator definitions operation inputs (earlier ++ s :: later)).calls =
        (earlier.map fun t => inputCall definitions (operation, t)) ++
          if s.source.isKnown then [inputCall definitions (operation, s)] else [] := by
  have hexternal : s.source ≠ .internal := hs s (by simp)
  obtain ⟨⟨next, hnext⟩, hcalls⟩ := exists_evaluateAll
    (fun t ht => hs t (List.mem_append_left _ ht)) hearlier inputs
  have hstop : (evaluateAll evaluator definitions operation next [s]).result = .error e := by
    rw [result_evaluateAll_singleton hexternal, hschema]
    rfl
  have hrest : ∀ next, evaluateAll evaluator definitions operation next (s :: later) =
      evaluateAll evaluator definitions operation next [s] >>= fun next =>
        evaluateAll evaluator definitions operation next later := fun next =>
    evaluateAll_append operation next [s] later
  have hends : (evaluateAll evaluator definitions operation next (s :: later)) =
      ⟨(evaluateAll evaluator definitions operation next [s]).steps, .error e⟩ := by
    rw [hrest, Traced.bind_of_eq_error hstop]
  rw [evaluateAll_append]
  constructor
  · rw [Traced.result_bind, hnext, ok_bind, hends]
  · rw [Traced.calls_bind_of_ok hnext, hcalls, hrest, Traced.calls_bind_of_error hstop,
      calls_evaluateAll_singleton hexternal]

end Inputs

end

namespace PathsBuilder

variable {evaluator : Evaluator} {definitions : Option String} {hook : Option Hook}

/-! ### One operation -/

/-- The call of the hook for an operation whose inputs are evaluated. -/
def callFor (p : Progress) (op : OperationDef) (inputs : Inputs) : HookCall :=
  ⟨op.sourceFile, op.method, op.path, operationJson op inputs (takeResponses op p).1⟩

/-- The build with an operation whose inputs are evaluated. -/
def withInputs (hook : Option Hook) (p : Progress) (op : OperationDef) (inputs : Inputs) :
    Progress :=
  ⟨placeCall p.paths (callFor p op inputs), (takeResponses op p).2,
    p.hook.next hook (callFor p op inputs)⟩

/-- What is done with an operation whose inputs are evaluated. -/
def finish (hook : Option Hook) (p : Progress) (op : OperationDef) (inputs : Inputs) :
    Traced HookCall Progress := do
  Traced.log .debug "built operation"
    [("operation", op.name), ("path", op.path), ("method", op.method.pathKey)]
  let state ← callHook hook p.hook (callFor p op inputs)
  return ⟨placeCall p.paths (callFor p op inputs), (takeResponses op p).2, state⟩

/-- An operation is built by evaluating its inputs and finishing it. -/
lemma buildOne_eq (p : Progress) (op : OperationDef) :
    buildOne evaluator definitions hook p op =
      Inputs.evaluateAll evaluator definitions op.name .empty op.evaluated >>=
        finish hook p op := by
  rw [← Inputs.evaluateAll_evaluated]
  rfl

lemma result_finish (p : Progress) (op : OperationDef) (inputs : Inputs) :
    (finish hook p op inputs).result = .ok (withInputs hook p op inputs) := by
  simp only [finish, Traced.result_bind, Traced.result_log, ok_bind, result_callHook,
    Traced.result_pure]
  rfl

lemma calls_finish (p : Progress) (op : OperationDef) (inputs : Inputs) :
    (finish hook p op inputs).calls = [] := by
  cases hook <;> rfl

/-- A hook is called once for a finished operation. -/
lemma hookCalls_finish (p : Progress) (op : OperationDef) (inputs : Inputs) :
    (finish hook p op inputs).hookCalls =
      if hook.isSome then [callFor p op inputs] else [] := by
  cases hook <;> rfl

/-! ### Operations in order -/

/-- Operations are built one list after another. -/
theorem buildAll_append (p : Progress) (xs ys : List OperationDef) :
    buildAll evaluator definitions hook p (xs ++ ys) =
      buildAll evaluator definitions hook p xs >>= fun next =>
        buildAll evaluator definitions hook next ys := by
  induction xs generalizing p with
  | nil => exact (Traced.pure_bind _ _).symm
  | cons op rest ih =>
    rw [List.cons_append, buildAll, buildAll]
    simp only [ih, Traced.bind_assoc]

/-- An operation that is built has evaluated inputs, and a hook is shown it once. -/
lemma exists_inputs_of_buildOne {p next : Progress} {op : OperationDef}
    (h : (buildOne evaluator definitions hook p op).result = .ok next) :
    ∃ inputs, next = withInputs hook p op inputs ∧
      (buildOne evaluator definitions hook p op).hookCalls =
        if hook.isSome then [callFor p op inputs] else [] := by
  rw [buildOne_eq] at h ⊢
  rw [Traced.result_bind] at h
  obtain ⟨inputs, hinputs, hfinish⟩ := bind_eq_ok_iff.mp h
  rw [result_finish] at hfinish
  refine ⟨inputs, (Except.ok.inj hfinish).symm, ?_⟩
  rw [Traced.hookCalls_bind_of_ok hinputs, Inputs.hookCalls_evaluateAll, hookCalls_finish,
    List.nil_append]

/-- Operations that are built are shown to a hook once each, in order. -/
theorem shown_of_buildAll {p next : Progress} {ops : List OperationDef}
    (h : (buildAll evaluator definitions hook p ops).result = .ok next) :
    (buildAll evaluator definitions hook p ops).hookCalls.map HookCall.shown =
      if hook.isSome then ops.map OperationDef.shown else [] := by
  induction ops generalizing p with
  | nil => cases hook <;> rfl
  | cons op rest ih =>
    rw [buildAll] at h ⊢
    rw [Traced.result_bind] at h
    obtain ⟨middle, hone, hrest⟩ := bind_eq_ok_iff.mp h
    obtain ⟨inputs, _, hcall⟩ := exists_inputs_of_buildOne hone
    rw [Traced.hookCalls_bind_of_ok hone, List.map_append, hcall, ih hrest]
    cases hook <;> rfl

/-- An operation whose inputs have schemas is built, and its inputs are evaluated in order. -/
lemma exists_buildOne (hook : Option Hook) {op : OperationDef}
    (hschemas : ∀ s ∈ op.evaluated, ∃ schema,
      inputSchema evaluator definitions (op.name, s) = .ok schema) (p : Progress) :
    (∃ next, (buildOne evaluator definitions hook p op).result = .ok next) ∧
      (buildOne evaluator definitions hook p op).calls =
        op.evaluated.map fun s => inputCall definitions (op.name, s) := by
  have hexternal : ∀ s ∈ op.evaluated, s.source ≠ .internal := fun s hs => by
    simpa using List.of_mem_filter hs
  obtain ⟨⟨inputs, hinputs⟩, hcalls⟩ := Inputs.exists_evaluateAll hexternal hschemas .empty
  rw [buildOne_eq]
  refine ⟨⟨withInputs hook p op inputs, ?_⟩, ?_⟩
  · rw [Traced.result_bind, hinputs, ok_bind, result_finish]
  · rw [Traced.calls_bind_of_ok hinputs, hcalls, calls_finish, List.append_nil]

/-- An operation with an input without a schema is not built, and no hook is shown it. -/
lemma buildOne_eq_error (hook : Option Hook) {op : OperationDef} {earlier later : List Selector}
    {s : Selector} {e : Error} (hsplit : op.evaluated = earlier ++ s :: later)
    (hearlier : ∀ t ∈ earlier, ∃ schema,
      inputSchema evaluator definitions (op.name, t) = .ok schema)
    (hschema : inputSchema evaluator definitions (op.name, s) = .error e) (p : Progress) :
    (buildOne evaluator definitions hook p op).result = .error e ∧
      (buildOne evaluator definitions hook p op).calls =
        (earlier.map fun t => inputCall definitions (op.name, t)) ++
          (if s.source.isKnown then [inputCall definitions (op.name, s)] else []) ∧
      (buildOne evaluator definitions hook p op).hookCalls = [] := by
  have hexternal : ∀ t ∈ earlier ++ s :: later, t.source ≠ .internal := fun t ht => by
    rw [← hsplit] at ht
    simpa using List.of_mem_filter ht
  obtain ⟨hresult, hcalls⟩ := Inputs.evaluateAll_eq_error hexternal hearlier hschema .empty
  rw [← hsplit] at hresult hcalls
  refine ⟨?_, ?_, ?_⟩
  · rw [buildOne_eq, Traced.result_bind, hresult, error_bind]
  · rw [buildOne_eq, Traced.calls_bind_of_error hresult, hcalls]
  · rw [buildOne_eq, Traced.hookCalls_bind_of_error hresult, Inputs.hookCalls_evaluateAll]

/-- Operations whose inputs have schemas are built, and their inputs are evaluated in order. -/
lemma exists_buildAll (hook : Option Hook) {ops : List OperationDef}
    (hschemas : ∀ i ∈ evaluatedInputs ops, ∃ schema,
      inputSchema evaluator definitions i = .ok schema) (p : Progress) :
    (∃ next, (buildAll evaluator definitions hook p ops).result = .ok next) ∧
      (buildAll evaluator definitions hook p ops).calls =
        (evaluatedInputs ops).map (inputCall definitions) := by
  induction ops generalizing p with
  | nil => exact ⟨⟨p, rfl⟩, rfl⟩
  | cons op rest ih =>
    have hinputs : evaluatedInputs (op :: rest) =
        op.evaluated.map (op.name, ·) ++ evaluatedInputs rest := List.flatMap_cons
    rw [hinputs, List.forall_mem_append, List.forall_mem_map] at hschemas
    obtain ⟨⟨middle, hone⟩, hcalls⟩ := exists_buildOne hook hschemas.1 p
    obtain ⟨⟨next, hnext⟩, hrest⟩ := ih hschemas.2 middle
    rw [buildAll]
    refine ⟨⟨next, ?_⟩, ?_⟩
    · rw [Traced.result_bind, hone, ok_bind, hnext]
    · rw [Traced.calls_bind_of_ok hone, hcalls, hrest, hinputs, List.map_append, List.map_map]
      rfl

/-- The first operation with an input without a schema ends the build of operations. -/
lemma buildAll_eq_error (hook : Option Hook) {before after : List OperationDef} {op : OperationDef}
    {earlier later : List Selector} {s : Selector} {e : Error}
    (hsplit : op.evaluated = earlier ++ s :: later)
    (hbefore : ∀ i ∈ evaluatedInputs before, ∃ schema,
      inputSchema evaluator definitions i = .ok schema)
    (hearlier : ∀ t ∈ earlier, ∃ schema,
      inputSchema evaluator definitions (op.name, t) = .ok schema)
    (hschema : inputSchema evaluator definitions (op.name, s) = .error e) (p : Progress) :
    (buildAll evaluator definitions hook p (before ++ op :: after)).result = .error e ∧
      (buildAll evaluator definitions hook p (before ++ op :: after)).calls =
        (evaluatedInputs before ++ earlier.map (op.name, ·)).map (inputCall definitions) ++
          (if s.source.isKnown then [inputCall definitions (op.name, s)] else []) ∧
      (buildAll evaluator definitions hook p (before ++ op :: after)).hookCalls.map
          HookCall.shown = if hook.isSome then before.map OperationDef.shown else [] := by
  obtain ⟨⟨next, hnext⟩, hcalls⟩ := exists_buildAll hook hbefore p
  obtain ⟨hresult, hown, hhook⟩ := buildOne_eq_error hook hsplit hearlier hschema next
  rw [buildAll_append]
  refine ⟨?_, ?_, ?_⟩
  · rw [Traced.result_bind, hnext, ok_bind, buildAll, Traced.result_bind, hresult, error_bind]
  · rw [Traced.calls_bind_of_ok hnext, hcalls, buildAll, Traced.calls_bind_of_error hresult, hown,
      List.map_append, List.map_map, List.append_assoc]
    rfl
  · rw [Traced.hookCalls_bind_of_ok hnext, buildAll, Traced.hookCalls_bind_of_error hresult, hhook,
      List.append_nil, shown_of_buildAll hnext]

/-! ### Builds -/

/-- Where a build starts. -/
def start (b : PathsBuilder) : Progress := ⟨[], b.responses, ⟨[], []⟩⟩

/-- Laying the fragments over the paths at the end is no step. -/
lemma steps_build (b : PathsBuilder) :
    (b.build evaluator definitions hook).steps =
      (buildAll evaluator definitions hook b.start b.operations).steps := by
  change (buildAll evaluator definitions hook b.start b.operations >>= _).steps = _
  cases hresult : (buildAll evaluator definitions hook b.start b.operations).result with
  | error e => rw [Traced.bind_of_eq_error hresult]
  | ok p =>
    rw [Traced.bind_of_ok hresult]
    exact List.append_nil _

lemma calls_build (b : PathsBuilder) :
    (b.build evaluator definitions hook).calls =
      (buildAll evaluator definitions hook b.start b.operations).calls := by
  rw [Traced.calls, steps_build]
  rfl

lemma hookCalls_build (b : PathsBuilder) :
    (b.build evaluator definitions hook).hookCalls =
      (buildAll evaluator definitions hook b.start b.operations).hookCalls := by
  rw [Traced.hookCalls, steps_build]
  rfl

lemma result_build (b : PathsBuilder) :
    (b.build evaluator definitions hook).result =
      (buildAll evaluator definitions hook b.start b.operations).result >>= fun p =>
        .ok (p.hook.fragments.foldl overlay p.paths) :=
  Traced.result_bind _ _

/-- A build evaluates in order all inputs of all operations that are not internal, unless there is
one whose source is not known or whose expression cannot be evaluated. The first such input ends the
build with its error; then the inputs before it have been evaluated, itself only when its source is
known, and a hook has been shown the operations before its own and no other. -/
theorem stopsOrFinishes_build (evaluator : Evaluator) (definitions : Option String)
    (hook : Option Hook) (b : PathsBuilder) :
    ((∀ i ∈ evaluatedInputs b.operations, ∃ schema,
        inputSchema evaluator definitions i = .ok schema) ∧
      (∃ paths, (b.build evaluator definitions hook).result = .ok paths) ∧
      (b.build evaluator definitions hook).calls =
        (evaluatedInputs b.operations).map (inputCall definitions) ∧
      (b.build evaluator definitions hook).hookCalls.map HookCall.shown =
        if hook.isSome then b.operations.map OperationDef.shown else []) ∨
    ∃ before op after earlier s later e, b.operations = before ++ op :: after ∧
      op.evaluated = earlier ++ s :: later ∧
      (∀ i ∈ evaluatedInputs before ++ earlier.map (op.name, ·), ∃ schema,
        inputSchema evaluator definitions i = .ok schema) ∧
      inputSchema evaluator definitions (op.name, s) = .error e ∧
      (b.build evaluator definitions hook).result = .error e ∧
      (b.build evaluator definitions hook).calls =
        (evaluatedInputs before ++ earlier.map (op.name, ·)).map (inputCall definitions) ++
          (if s.source.isKnown then [inputCall definitions (op.name, s)] else []) ∧
      (b.build evaluator definitions hook).hookCalls.map HookCall.shown =
        if hook.isSome then before.map OperationDef.shown else [] := by
  rw [result_build, calls_build, hookCalls_build]
  by_cases hall : ∀ op ∈ b.operations, ∀ s ∈ op.evaluated, ∃ schema,
      inputSchema evaluator definitions (op.name, s) = .ok schema
  · left
    have hschemas : ∀ i ∈ evaluatedInputs b.operations, ∃ schema,
        inputSchema evaluator definitions i = .ok schema := by
      intro i hi
      obtain ⟨op, hop, hi⟩ := List.mem_flatMap.mp hi
      obtain ⟨s, hs, rfl⟩ := List.mem_map.mp hi
      exact hall op hop s hs
    obtain ⟨⟨p, hp⟩, hevaluated⟩ := exists_buildAll hook hschemas b.start
    have hshown := shown_of_buildAll hp
    rw [hp]
    exact ⟨hschemas, ⟨_, rfl⟩, hevaluated, hshown⟩
  · right
    -- The first operation with a failing input, and the first failing input of that operation.
    obtain ⟨before, op, after, hops, hbefore, hop⟩ := exists_first_not hall
    obtain ⟨earlier, s, later, hsplit, hearlier, hs⟩ := exists_first_not hop
    obtain ⟨e, he⟩ : ∃ e, inputSchema evaluator definitions (op.name, s) = .error e := by
      cases hschema : inputSchema evaluator definitions (op.name, s) with
      | error e => exact ⟨e, rfl⟩
      | ok schema => exact absurd ⟨schema, hschema⟩ hs
    have hinputs : ∀ i ∈ evaluatedInputs before, ∃ schema,
        inputSchema evaluator definitions i = .ok schema := by
      intro i hi
      obtain ⟨other, hother, hi⟩ := List.mem_flatMap.mp hi
      obtain ⟨t, ht, rfl⟩ := List.mem_map.mp hi
      exact hbefore other hother t ht
    obtain ⟨hresult, hbuilt⟩ :=
      buildAll_eq_error hook hsplit hinputs hearlier he b.start
    rw [← hops] at hresult hbuilt
    refine ⟨before, op, after, earlier, s, later, e, hops, hsplit, ?_, he, ?_, hbuilt⟩
    · rw [List.forall_mem_append, List.forall_mem_map]
      exact ⟨hinputs, hearlier⟩
    · rw [hresult, error_bind]

/-- An input of an unknown source ends the build. The inputs before it have been evaluated, equal
expressions each time, and an internal one has not. -/
example :
    ((⟨[{ petOperation "list" [] with
          selectors := [⟨"page", "z.int()", .query, false, true⟩,
            ⟨"session", "z.any()", .internal, false, true⟩,
            ⟨"size", "z.int()", .query, false, true⟩] },
        { petOperation "read" [] with
          selectors := [⟨"token", "z.text()", .other "cookie", false, true⟩,
            ⟨"id", "z.text()", .params, false, true⟩] }], []⟩ : PathsBuilder).build
      (fun _ _ => ⟨[], .ok .null⟩) (some "defs") none).calls =
        [⟨"z.int()", some "defs"⟩, ⟨"z.int()", some "defs"⟩] := by
  rfl

end PathsBuilder

end ApiContract
