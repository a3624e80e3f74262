import ApiContract.Proofs.OpenApi.EvaluationOrder

/-!
# Builds with a hook

A hook is shown every operation of a build and may answer with a fragment. Fragments are kept apart
until all operations are built, and then laid over the paths. This file says that a hook does not
disturb the build: what is built, and what the hook is shown, is what is built without it.

Two things are needed for this. A build with a hook and a build without one go through the same
progress, up to what became of the hook (`result_buildAll_withoutHook`); and what became of the hook
is made of its calls alone (`hook_of_buildAll`). The rest is about tables: fragments that are laid
over paths leave everything where it is, and each object they name is that of the last fragment that
names it (`isOverlay_foldl`).
-/

namespace ApiContract

/-! ### Fragments over paths -/

namespace Paths

/-- The methods of a path, none when there is no such path. -/
def methodsAt (path : String) (paths : Paths) : Table String Json :=
  (Table.find? path paths).getD []

/-- What a fragment gives to a path: methods with their objects, in order. -/
def entriesAt (path : String) (fragment : Paths) : Table String Json :=
  (fragment.filter fun e => e.1 = path).flatMap Prod.snd

/-- The object that a fragment gives to a path and the key of a method, if it names them: the last
one, should it do so more than once. -/
def given? (path key : String) (fragment : Paths) : Option Json :=
  Table.find? key (fragment.entriesAt path).reverse

/-- The object of a path and the key of a method is looked up among the methods of the path. -/
lemma objectAt?_eq_find? (path key : String) (paths : Paths) :
    paths.objectAt? path key = Table.find? key (paths.methodsAt path) := by
  rw [objectAt?, methodsAt]
  cases Table.find? path paths <;> rfl

end Paths

/-- Paths with fragments laid over them. Paths and methods that are there keep their places, and new
ones come behind them. An object that fragments name is that of the last fragment that names it; any
other object is left as it is. -/
structure IsOverlay (plain : Paths) (fragments : List Paths) (overlaid : Paths) : Prop where
  paths : overlaid.keys =
    plain.keys ++ Table.newKeys plain.keys (fragments.flatMap Table.keys)
  methods : ∀ path, (overlaid.methodsAt path).keys = (plain.methodsAt path).keys ++
    Table.newKeys (plain.methodsAt path).keys
      (fragments.flatMap fun fragment => (fragment.entriesAt path).keys)
  objects : ∀ path key, overlaid.objectAt? path key =
    (fragments.reverse.findSome? (Paths.given? path key)).or (plain.objectAt? path key)

namespace PathsBuilder

/-- Fragments are laid over paths entry by entry. -/
lemma foldl_overlay (fragments : List Paths) (paths : Paths) :
    fragments.foldl overlay paths = fragments.flatten.foldl (fun paths e =>
      paths.alter e.1 fun methods => Table.insertAll e.2 (methods.getD [])) paths :=
  List.foldl_flatten.symm

/-- What fragments give to a path is written into its methods. -/
lemma methodsAt_foldl_overlay (path : String) (fragments : List Paths) (paths : Paths) :
    (fragments.foldl overlay paths).methodsAt path =
      (paths.methodsAt path).insertAll (fragments.flatMap (Paths.entriesAt path)) := by
  have hwritten : ∀ (entries : Paths) (methods : Option (Table String Json)),
      (entries.foldl (fun v e => some (Table.insertAll e.2 (v.getD []))) methods).getD [] =
        (methods.getD []).insertAll (entries.flatMap Prod.snd) := by
    intro entries
    induction entries with
    | nil => exact fun methods => rfl
    | cons e rest ih =>
      intro methods
      rw [List.foldl_cons, ih, List.flatMap_cons, Table.insertAll, Table.insertAll,
        Table.insertAll, List.foldl_append]
      rfl
  have hentries : (fragments.flatten.filter fun e => e.1 = path).flatMap Prod.snd =
      fragments.flatMap (Paths.entriesAt path) := by
    induction fragments with
    | nil => rfl
    | cons fragment rest ih =>
      rw [List.flatten_cons, List.filter_append, List.flatMap_append, ih]
      rfl
  rw [Paths.methodsAt, foldl_overlay, Table.find?_foldl_alter, hwritten, hentries]
  rfl

/-- Of the fragments that name a method of a path, the last one is found first from the end. -/
lemma find?_reverse_flatMap_entriesAt (path key : String) (fragments : List Paths) :
    Table.find? key (fragments.flatMap (Paths.entriesAt path)).reverse =
      fragments.reverse.findSome? (Paths.given? path key) := by
  induction fragments using List.reverseRecOn with
  | nil => rfl
  | append_singleton fragments fragment ih =>
    rw [List.flatMap_append, List.flatMap_singleton, List.reverse_append, Table.find?_append, ih,
      List.reverse_append, List.reverse_singleton, List.singleton_append, List.findSome?_cons,
      Paths.given?]
    cases Table.find? key (Paths.entriesAt path fragment).reverse <;> rfl

/-- Laying fragments over paths one after another is laying over the last of each. -/
theorem isOverlay_foldl (plain : Paths) (fragments : List Paths) :
    IsOverlay plain fragments (fragments.foldl overlay plain) where
  paths := by
    have hkeys : fragments.flatten.map Prod.fst = fragments.flatMap Table.keys :=
      List.map_flatten
    rw [foldl_overlay, Table.keys_foldl_alter, hkeys]
  methods path := by
    have hkeys : (fragments.flatMap (Paths.entriesAt path)).map Prod.fst =
        fragments.flatMap fun fragment => (fragment.entriesAt path).keys := List.map_flatMap
    rw [methodsAt_foldl_overlay, Table.keys_insertAll, hkeys]
  objects path key := by
    rw [Paths.objectAt?_eq_find?, Paths.objectAt?_eq_find?, methodsAt_foldl_overlay,
      Table.find?_insertAll, find?_reverse_flatMap_entriesAt]

/-! ### Progress without a hook -/

/-- What a build has come to apart from the hook. -/
def Progress.withoutHook (p : Progress) : Progress := { p with hook := ⟨[], []⟩ }

section

variable (evaluator : Evaluator) (definitions : Option String) (hook : Option Hook)

/-- Without a hook, an operation is built in the same way. -/
lemma result_buildOne_withoutHook (p : Progress) (op : OperationDef) :
    (buildOne evaluator definitions none p.withoutHook op).result =
      (buildOne evaluator definitions hook p op).result.map Progress.withoutHook := by
  rw [buildOne_eq, buildOne_eq, Traced.result_bind, Traced.result_bind]
  cases (Inputs.evaluateAll evaluator definitions op.name .empty op.evaluated).result with
  | error e => rfl
  | ok inputs =>
    rw [ok_bind, ok_bind, result_finish, result_finish]
    rfl

/-- Without a hook, operations are built in the same way. -/
theorem result_buildAll_withoutHook (p : Progress) (ops : List OperationDef) :
    (buildAll evaluator definitions none p.withoutHook ops).result =
      (buildAll evaluator definitions hook p ops).result.map Progress.withoutHook := by
  -- The two builds are compared step by step: after each operation they differ in the hook only.
  induction ops generalizing p with
  | nil => rfl
  | cons op rest ih =>
    rw [buildAll, buildAll, Traced.result_bind, Traced.result_bind,
      result_buildOne_withoutHook evaluator definitions hook]
    cases (buildOne evaluator definitions hook p op).result with
    | error e => rfl
    | ok next => exact ih next

/-- What is built without a hook is what a hook would be shown, before any fragment. -/
lemma result_build_none (b : PathsBuilder) :
    (b.build evaluator definitions none).result =
      (buildAll evaluator definitions hook b.start b.operations).result.map Progress.paths := by
  have hplain := result_buildAll_withoutHook evaluator definitions hook b.start b.operations
  have hstart : b.start.withoutHook = b.start := rfl
  rw [hstart] at hplain
  rw [result_build, hplain]
  cases (buildAll evaluator definitions hook b.start b.operations).result <;> rfl

end

/-! ### What becomes of a hook -/

section

variable {evaluator : Evaluator} {definitions : Option String} {hook : Hook}

/-- The fragments that a hook returns for calls, given the calls before them. -/
def returned (hook : Hook) (earlier : List HookCall) : List HookCall → List Paths
  | [] => []
  | call :: rest => (hook earlier call).toList ++ returned hook (earlier ++ [call]) rest

/-- A hook that is called again and again collects its calls and the fragments it returns. -/
lemma foldl_next_some (state : HookState) (calls : List HookCall) :
    calls.foldl (HookState.next (some hook)) state =
      ⟨state.calls ++ calls, state.fragments ++ returned hook state.calls calls⟩ := by
  induction calls generalizing state with
  | nil => rw [List.append_nil, returned, List.append_nil, List.foldl_nil]
  | cons call rest ih =>
    rw [List.foldl_cons, ih]
    simp only [HookState.next, returned, List.append_assoc, List.singleton_append]

/-- What becomes of a hook in a build is made of the calls of it. -/
theorem hook_of_buildAll {p next : Progress} {ops : List OperationDef}
    (h : (buildAll evaluator definitions (some hook) p ops).result = .ok next) :
    next.hook = (buildAll evaluator definitions (some hook) p ops).hookCalls.foldl
      (HookState.next (some hook)) p.hook := by
  induction ops generalizing p with
  | nil =>
    cases h
    rfl
  | cons op rest ih =>
    rw [buildAll] at h ⊢
    rw [Traced.result_bind] at h
    obtain ⟨middle, hone, hrest⟩ := bind_eq_ok_iff.mp h
    obtain ⟨inputs, hmiddle, hcall⟩ := exists_inputs_of_buildOne hone
    have hstate : middle.hook = p.hook.next (some hook) (callFor p op inputs) := by
      rw [hmiddle]
      rfl
    have hown : (buildOne evaluator definitions (some hook) p op).hookCalls =
        [callFor p op inputs] := hcall
    rw [Traced.hookCalls_bind_of_ok hone, List.foldl_append, hown, ih hrest, hstate]
    rfl

/-- Each operation is shown to a hook as it is found right after it was placed. -/
lemma exists_call_of_buildAll {p next : Progress} {before after : List OperationDef}
    {op : OperationDef}
    (h : (buildAll evaluator definitions (some hook) p (before ++ op :: after)).result =
      .ok next) :
    ∃ object placed,
      (buildAll evaluator definitions (some hook) p (before ++ op :: after)).hookCalls[
        before.length]? = some ⟨op.sourceFile, op.method, op.path, object⟩ ∧
      (buildAll evaluator definitions (some hook) p (before ++ [op])).result = .ok placed ∧
      placed.paths.objectAt? op.path op.method.pathKey = some object := by
  rw [buildAll_append] at h ⊢
  rw [Traced.result_bind] at h
  obtain ⟨middle, hbefore, hrest⟩ := bind_eq_ok_iff.mp h
  rw [buildAll, Traced.result_bind] at hrest
  obtain ⟨placed, hone, _⟩ := bind_eq_ok_iff.mp hrest
  obtain ⟨inputs, hplaced, hcall⟩ := exists_inputs_of_buildOne hone
  have hown : (buildOne evaluator definitions (some hook) middle op).hookCalls =
      [callFor middle op inputs] := hcall
  have hlength : (buildAll evaluator definitions (some hook) p before).hookCalls.length =
      before.length := by
    have hshown := congrArg List.length (shown_of_buildAll hbefore)
    rw [List.length_map] at hshown
    exact hshown.trans (List.length_map _)
  refine ⟨(callFor middle op inputs).operation, placed, ?_, ?_, ?_⟩
  · rw [Traced.hookCalls_bind_of_ok hbefore, buildAll, Traced.hookCalls_bind_of_ok hone, hown,
      List.getElem?_append_right (Nat.le_of_eq hlength), hlength, Nat.sub_self]
    rfl
  · rw [buildAll_append, Traced.result_bind, hbefore, ok_bind, buildAll, Traced.result_bind, hone]
    rfl
  · rw [hplaced]
    exact (objectAt?_placeCall _ _ _ _).trans (if_pos rfl)

end

/-! ### Builds with a hook and without -/

section

variable (evaluator : Evaluator) (definitions : Option String) (hook : Hook) (b : PathsBuilder)

/-- A build with a hook fails where one without it does, and otherwise lays the fragments that the
hook has returned over the paths of the other. -/
lemma result_build_some :
    (b.build evaluator definitions (some hook)).result =
      (b.build evaluator definitions none).result.map
        ((returned hook [] (b.build evaluator definitions (some hook)).hookCalls).foldl
          overlay) := by
  rw [result_build, result_build_none evaluator definitions (some hook), hookCalls_build]
  cases hp : (buildAll evaluator definitions (some hook) b.start b.operations).result with
  | error e => rfl
  | ok p =>
    have hfragments : p.hook.fragments = returned hook []
        (buildAll evaluator definitions (some hook) b.start b.operations).hookCalls := by
      rw [hook_of_buildAll hp, foldl_next_some]
      rfl
    rw [ok_bind, hfragments]
    rfl

/-- A hook does not disturb a build. With a hook, a build fails exactly when it fails without one,
and with the same error. When it succeeds, the hook was called once for each operation, in order,
and was shown the object that the operation has, without a hook, in a build that ends with it; and
the paths are those without a hook, with the fragments that the hook has returned laid over them. -/
theorem overlaid_build :
    (∀ e, (b.build evaluator definitions (some hook)).result = .error e ↔
      (b.build evaluator definitions none).result = .error e) ∧
    ∀ plain, (b.build evaluator definitions none).result = .ok plain →
      (b.build evaluator definitions (some hook)).hookCalls.length = b.operations.length ∧
      (∀ before op after, b.operations = before ++ op :: after → ∃ object paths,
        (b.build evaluator definitions (some hook)).hookCalls[before.length]? =
          some ⟨op.sourceFile, op.method, op.path, object⟩ ∧
        (({ b with operations := before ++ [op] } : PathsBuilder).build evaluator definitions
          none).result = .ok paths ∧
        paths.objectAt? op.path op.method.pathKey = some object) ∧
      ∃ overlaid, (b.build evaluator definitions (some hook)).result = .ok overlaid ∧
        IsOverlay plain
          (returned hook [] (b.build evaluator definitions (some hook)).hookCalls) overlaid := by
  have hresult := result_build_some evaluator definitions hook b
  constructor
  · intro e
    rw [hresult]
    cases (b.build evaluator definitions none).result with
    | error e' => exact Iff.rfl
    | ok plain => exact ⟨fun h => (nomatch h), fun h => (nomatch h)⟩
  · intro plain hplain
    have hbuilt := hplain
    rw [result_build_none evaluator definitions (some hook)] at hbuilt
    obtain ⟨next, hnext⟩ : ∃ next,
        (buildAll evaluator definitions (some hook) b.start b.operations).result = .ok next := by
      cases h : (buildAll evaluator definitions (some hook) b.start b.operations).result with
      | error e =>
        rw [h] at hbuilt
        cases hbuilt
      | ok next => exact ⟨next, rfl⟩
    refine ⟨?_, ?_, ?_⟩
    · have hshown := congrArg List.length (shown_of_buildAll hnext)
      rw [List.length_map] at hshown
      rw [hookCalls_build, hshown]
      exact List.length_map _
    · intro before op after hsplit
      rw [hsplit] at hnext
      obtain ⟨object, placed, hcall, hplaced, hobject⟩ := exists_call_of_buildAll hnext
      refine ⟨object, placed.paths, ?_, ?_, hobject⟩
      · rw [hookCalls_build, hsplit]
        exact hcall
      · rw [result_build_none evaluator definitions (some hook)]
        exact congrArg (Except.map Progress.paths) hplaced
    · rw [hplain] at hresult
      exact ⟨_, hresult, isOverlay_foldl plain _⟩

end

/-- A pair of path and method with two operations and a response. -/
def petsTwice : PathsBuilder :=
  ⟨[petOperation "first" [], petOperation "second" []], [(("/pets", .get), [("200", .null)])]⟩

/-- A hook that answers the first call by replacing what it was shown, and later ones with a path of
their own. -/
def replaceFirst : Hook := fun earlier call =>
  if earlier.isEmpty then some [(call.path, [("get", .null), ("post", .bool true)])]
  else some [("/stores", [("get", call.operation)])]

theorem overlaid_petsTwice : ∃ plain overlaid second,
    (petsTwice.build (fun _ _ => ⟨[], .ok .null⟩) none none).result = .ok plain ∧
    (petsTwice.build (fun _ _ => ⟨[], .ok .null⟩) none (some replaceFirst)).result =
      .ok overlaid ∧
    (petsTwice.build (fun _ _ => ⟨[], .ok .null⟩) none (some replaceFirst)).hookCalls[1]? =
      some ⟨"pets.ts", .get, "/pets", second⟩ ∧
    plain.objectAt? "/pets" "get" = some second ∧
    overlaid.keys = ["/pets", "/stores"] ∧
    (overlaid.methodsAt "/pets").keys = ["get", "post"] ∧
    overlaid.objectAt? "/pets" "get" = some .null ∧
    overlaid.objectAt? "/stores" "get" = some second := by
  obtain ⟨_, h⟩ := overlaid_build (fun _ _ => ⟨[], .ok .null⟩) none replaceFirst petsTwice
  obtain ⟨_, hcalls, overlaid, hoverlaid, hover⟩ := h _ rfl
  obtain ⟨second, paths, hcall, hpaths, hsecond⟩ :=
    hcalls [petOperation "first" []] (petOperation "second" []) [] rfl
  cases hpaths
  cases hcall
  exact ⟨_, overlaid, _, rfl, hoverlaid, rfl, hsecond, hover.paths, hover.methods "/pets",
    hover.objects "/pets" "get", hover.objects "/stores" "get"⟩

end PathsBuilder

end ApiContract
