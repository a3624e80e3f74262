import ApiContract.Client.Request
import ApiContract.Proofs.Results

/-!
# Missing path parameters

Building a request goes through the path parameters first, in order, and is the only step that can
find one missing: the others fail only on values that cannot be sent (`IsUnsupported`). So a missing
parameter is one that the object does not have, all before it being there with values that have a
text (`build_eq_missingPathParam_iff`).
-/

namespace ApiContract.Client

/-- The error of a value that cannot be sent where it belongs. -/
def InputError.IsUnsupported (e : InputError) : Prop :=
  ∃ field location, e = .unsupported field location

lemma failsOnly_scalar (field location : String) (v : Json) :
    FailsOnly InputError.IsUnsupported (scalar field location v) := by
  unfold scalar
  split
  · exact failsOnly_ok _
  · exact failsOnly_ok _
  · exact failsOnly_ok _
  · exact failsOnly_error ⟨_, _, rfl⟩

namespace RequestPlan

variable {fields : Table String Json} {names : List String}

lemma failsOnly_headerFields (fields : Table String Json) (names : List String) :
    FailsOnly InputError.IsUnsupported (headerFields fields names) := by
  induction names with
  | nil => exact failsOnly_ok _
  | cons name rest ih =>
    rw [headerFields]
    split
    · exact ih
    · exact (failsOnly_scalar _ _ _).bind fun _ _ => ih.bind fun _ _ => failsOnly_ok _

lemma failsOnly_queryTexts (name : String) (v : Json) :
    FailsOnly InputError.IsUnsupported (queryTexts name v) := by
  unfold queryTexts
  split
  · exact failsOnly_mapM fun _ _ => failsOnly_scalar _ _ _
  · exact (failsOnly_scalar _ _ _).bind fun _ _ => failsOnly_ok _

lemma failsOnly_queryFields (fields : Table String Json) (names : List String) :
    FailsOnly InputError.IsUnsupported (queryFields fields names) := by
  induction names with
  | nil => exact failsOnly_ok _
  | cons name rest ih =>
    rw [queryFields]
    split
    · exact ih
    · exact (failsOnly_queryTexts _ _).bind fun _ _ => ih.bind fun _ _ => failsOnly_ok _

lemma failsOnly_encodeBody (encoding : Encoding) (fields : Table String Json) :
    FailsOnly InputError.IsUnsupported (encodeBody encoding fields) := by
  cases encoding with
  | form =>
    refine FailsOnly.bind (failsOnly_mapM fun f _ => ?_) fun _ _ => failsOnly_ok _
    exact (failsOnly_scalar _ _ _).bind fun _ _ => failsOnly_ok _
  | _ => exact failsOnly_ok _

/-- An object has a member that has a text in a path. -/
def HasSegment (fields : Table String Json) (name : String) : Prop :=
  ∃ v text, present fields name = some v ∧ scalar name "path" v = .ok text

/-- A path misses the first of its parameters that is not there, unless one before it has a value
without a text. -/
lemma fillPath_eq_missingPathParam_iff (path : String) {name : String} :
    fillPath fields names path = .error (.missingPathParam name) ↔
      present fields name = none ∧
        ∃ before after, names = before ++ name :: after ∧ ∀ n ∈ before, HasSegment fields n := by
  induction names generalizing path with
  | nil => simp [fillPath]
  | cons first rest ih =>
    rw [exists_split_cons_iff, fillPath]
    cases hpresent : present fields first with
    | none =>
      have hnot : ¬ HasSegment fields first := by
        rintro ⟨v, _, hv, _⟩
        cases hpresent.symm.trans hv
      simp only [hnot, false_and, or_false]
      constructor
      · intro h
        cases h
        exact ⟨hpresent, rfl⟩
      · rintro ⟨_, rfl⟩
        rfl
    | some v =>
      have hne : present fields name = none → first ≠ name := by
        rintro hmissing rfl
        cases hpresent.symm.trans hmissing
      dsimp only
      cases hscalar : scalar first "path" v with
      | error e =>
        have hnot : ¬ HasSegment fields first := by
          rintro ⟨v', text, hv, htext⟩
          cases hpresent.symm.trans hv
          cases hscalar.symm.trans htext
        simp only [hnot, false_and, or_false]
        constructor
        · intro h
          cases h
          obtain ⟨_, _, hunsupported⟩ := failsOnly_scalar _ _ _ _ hscalar
          cases hunsupported
        · rintro ⟨hmissing, hfirst⟩
          exact absurd hfirst (hne hmissing)
      | ok text =>
        have hfirst : HasSegment fields first := ⟨v, text, hpresent, hscalar⟩
        rw [ok_bind, ih]
        refine and_congr_right fun hmissing => ?_
        simp only [hne hmissing, hfirst, true_and, false_or]

/-- A request misses the first path parameter that is not there, unless one before it has a value
without a text. -/
theorem build_eq_missingPathParam_iff {plan : RequestPlan} {context : RequestContext}
    {name : String} :
    plan.build context (.object fields) = .error (.missingPathParam name) ↔
      present fields name = none ∧ ∃ before after, plan.params = before ++ name :: after ∧
        ∀ n ∈ before, HasSegment fields n := by
  rw [← fillPath_eq_missingPathParam_iff plan.path]
  refine bind_eq_error_iff_of_ne fun path _ h => ?_
  have hrest : FailsOnly InputError.IsUnsupported (do
      let headers ← headerFields fields plan.headers
      let query ← queryFields fields plan.query
      let body ← (
        if plan.body.isEmpty then .ok none
        else (encodeBody plan.encoding (bodyFields fields plan.body)).map some)
      return (⟨plan.method, dropSlashes context.baseUrl ++ path, context.headers ++ headers, query,
        body⟩ : HttpRequest)) := by
    refine (failsOnly_headerFields _ _).bind fun _ _ => (failsOnly_queryFields _ _).bind
      fun _ _ => FailsOnly.bind ?_ fun _ _ => failsOnly_ok _
    split
    · exact failsOnly_ok _
    · exact (failsOnly_encodeBody _ _).map some
  obtain ⟨_, _, hunsupported⟩ := hrest _ h
  cases hunsupported

end RequestPlan

end ApiContract.Client
