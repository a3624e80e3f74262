import ApiContract.Proofs.Client.SentRequest

/-!
# Faults of an input

A request writes some members of its input as text: the path parameters, the headers, the query and,
in the form encoding, the body. These are the uses of a plan, in the order in which the parts of a
request are built. What can be wrong with a use is said without the functions that write texts
(`IsFault`): a path parameter is not there, or a member has no text where it belongs.

Building fails like the check of the uses one after another (`outcome_build`), part by part by
induction over the names of the part. A form body is built from a table of members, which has a
repeated name once, while the plan uses it again; there the second check can only pass
(`forM_eraseDups`). So the error is that of the first use with a fault, and without a fault there is
a request (`failsWith_build_iff`).
-/

namespace ApiContract

variable {ε α : Type}

/-- To check an item again changes nothing. -/
theorem forM_eraseDups [BEq α] [LawfulBEq α] (f : α → Except ε Unit) (xs : List α) :
    xs.eraseDups.forM f = xs.forM f := by
  classical
  induction xs using List.reverseRecOn with
  | nil => rfl
  | append_singleton xs x ih =>
    rw [eraseDups_concat, forM_append, forM_singleton]
    split
    · rename_i hmem
      rw [ih]
      cases hall : xs.forM f with
      | error e => rfl
      | ok _ => exact ((forM_eq_ok_iff f xs).mp hall x hmem).symm
    · rw [forM_append, forM_singleton, ih]

/-- A value made of other values: a list or an object. -/
inductive Json.IsStructured : Json → Prop where
  | array (items : List Json) : IsStructured (.array items)
  | object (members : List (String × Json)) : IsStructured (.object members)

namespace Client

/-! ### Uses and their faults -/

/-- Where a request writes a member of its input as text. -/
inductive Site where
  | path
  | header
  | query
  | form
  deriving DecidableEq, Repr

/-- The site as errors name it. -/
def Site.location : Site → String
  | .path => "path"
  | .header => "header"
  | .query => "query"
  | .form => "form body"

/-- A value has no text at a site: only in the query a list has one, if all its items have, and
there null is an item like any other. -/
inductive LacksText : Site → Json → Prop where
  | structured {site : Site} {v : Json} (hsite : site ≠ .query) (hv : v.IsStructured) :
      LacksText site v
  | queryObject (members : List (String × Json)) : LacksText .query (.object members)
  | queryItem {items : List Json} {item : Json} (hmem : item ∈ items)
      (hitem : item = .null ∨ item.IsStructured) : LacksText .query (.array items)

/-- What is wrong with the member of an object that a request writes at a site. Only a path
parameter has to be there, and null counts as absent. -/
inductive IsFault (fields : Table String Json) : Site → String → InputError → Prop where
  | missing {name : String} (h : fields.find? name = none ∨ fields.find? name = some .null) :
      IsFault fields .path name (.missingPathParam name)
  | withoutText {site : Site} {name : String} {v : Json} (h : fields.find? name = some v)
      (hv : LacksText site v) : IsFault fields site name (.unsupported name site.location)

namespace RequestPlan

/-- The members that a request writes as text, in the order in which it does. -/
def uses (plan : RequestPlan) : List (Site × String) :=
  plan.params.map (.path, ·) ++ plan.headers.map (.header, ·) ++ plan.query.map (.query, ·) ++
    if plan.encoding = .form then plan.body.map (.form, ·) else []

/-- The errors of a plan: that of an input that is no object, or the first fault of an object. -/
inductive FailsWith (plan : RequestPlan) : Json → InputError → Prop where
  | notAnObject {input : Json} (h : ∀ fields, input ≠ .object fields) :
      FailsWith plan input .notAnObject
  | firstFault {fields : Table String Json} {before after : List (Site × String)}
      {use : Site × String} {e : InputError} (hsplit : plan.uses = before ++ use :: after)
      (hbefore : ∀ u ∈ before, ¬ ∃ e', IsFault fields u.1 u.2 e')
      (hfault : IsFault fields use.1 use.2 e) : FailsWith plan (.object fields) e

end RequestPlan

/-! ### The check of a use -/

lemma present_eq_none_iff {fields : Table String Json} {name : String} :
    present fields name = none ↔ fields.find? name = none ∨ fields.find? name = some .null := by
  unfold present
  split
  · rename_i h
    simp [h]
  · rename_i h
    simp [h]
  · rename_i hne h
    simp only [h, reduceCtorEq, Option.some.injEq, false_or, false_iff]
    exact hne

lemma present_eq_some_iff {fields : Table String Json} {name : String} {v : Json} :
    present fields name = some v ↔ fields.find? name = some v ∧ v ≠ .null := by
  unfold present
  split
  · rename_i h
    simp only [h, reduceCtorEq, Option.some.injEq, false_iff, not_and, not_not]
    exact fun hv => hv.symm
  · rename_i h
    simp [h]
  · rename_i w hne h
    simp only [h, Option.some.injEq]
    exact ⟨fun hw => ⟨hw, fun hnull => hne (hw.trans hnull)⟩, fun hw => hw.1⟩

lemma LacksText.ne_null {site : Site} {v : Json} (h : LacksText site v) : v ≠ .null := by
  cases h with
  | structured _ hv => cases hv <;> exact nofun
  | queryObject members => exact nofun
  | queryItem _ _ => exact nofun

/-- A fault is that of a member that is not there or that of one that is. -/
lemma isFault_iff {fields : Table String Json} {site : Site} {name : String} {e : InputError} :
    IsFault fields site name e ↔
      (present fields name = none ∧ site = .path ∧ e = .missingPathParam name) ∨
      ∃ v, present fields name = some v ∧ LacksText site v ∧
        e = .unsupported name site.location := by
  constructor
  · rintro (⟨h⟩ | ⟨h, hv⟩)
    · exact .inl ⟨present_eq_none_iff.mpr h, rfl, rfl⟩
    · exact .inr ⟨_, present_eq_some_iff.mpr ⟨h, hv.ne_null⟩, hv, rfl⟩
  · rintro (⟨h, rfl, rfl⟩ | ⟨v, h, hv, rfl⟩)
    · exact .missing (present_eq_none_iff.mp h)
    · exact .withoutText (present_eq_some_iff.mp h).1 hv

/-- A value has no text when it is null or made of other values. -/
lemma scalar_eq_error_iff {field location : String} {v : Json} {e : InputError} :
    scalar field location v = .error e ↔
      (v = .null ∨ v.IsStructured) ∧ e = .unsupported field location := by
  have hstructured : ∀ w : Json, w.IsStructured ↔
      (∃ items, w = .array items) ∨ ∃ members, w = .object members := by
    intro w
    constructor
    · rintro (⟨items⟩ | ⟨members⟩)
      · exact .inl ⟨items, rfl⟩
      · exact .inr ⟨members, rfl⟩
    · rintro (⟨items, rfl⟩ | ⟨members, rfl⟩)
      · exact .array items
      · exact .object members
  rw [hstructured, eq_comm (a := e)]
  cases v <;> simp [scalar]

/-- A member of the query has no texts when one of its values has none. -/
lemma queryTexts_eq_error_iff {name : String} {v : Json} {e : InputError} :
    RequestPlan.queryTexts name v = .error e ↔
      (∃ item ∈ queryValues v, item = .null ∨ item.IsStructured) ∧
        e = .unsupported name "query" := by
  rw [RequestPlan.queryTexts_eq_mapM, ← outcome_eq_error_iff, outcome_mapM, forM_eq_error_iff]
  constructor
  · rintro ⟨before, item, after, hsplit, _, hitem⟩
    rw [outcome_eq_error_iff, scalar_eq_error_iff] at hitem
    refine ⟨⟨item, ?_, hitem.1⟩, hitem.2⟩
    rw [hsplit]
    exact List.mem_append_right before List.mem_cons_self
  · rintro ⟨⟨item, hmem, hitem⟩, rfl⟩
    have hnot : ¬ ∀ w ∈ queryValues v, outcome (scalar name "query" w) = .ok () := by
      intro hall
      have hfailed : scalar name "query" item = .error (.unsupported name "query") :=
        scalar_eq_error_iff.mpr ⟨hitem, rfl⟩
      have hok := hall item hmem
      rw [hfailed, outcome_error] at hok
      cases hok
    obtain ⟨before, w, after, hsplit, hbefore, hw⟩ := exists_first_not hnot
    refine ⟨before, w, after, hsplit, hbefore, ?_⟩
    cases hscalar : scalar name "query" w with
    | ok text => exact absurd (by rw [hscalar, outcome_ok]) hw
    | error e => rw [outcome_error, (scalar_eq_error_iff.mp hscalar).2]

/-- The check of a value that is written at a site. -/
def checkValue (site : Site) (name : String) (v : Json) : Except InputError Unit :=
  if site = .query then outcome (RequestPlan.queryTexts name v)
  else outcome (scalar name site.location v)

lemma checkValue_eq_error_iff {site : Site} {name : String} {v : Json} (hv : v ≠ .null)
    {e : InputError} :
    checkValue site name v = .error e ↔ LacksText site v ∧ e = .unsupported name site.location := by
  unfold checkValue
  split
  · rename_i hsite
    subst hsite
    rw [outcome_eq_error_iff, queryTexts_eq_error_iff]
    refine and_congr_left fun _ => ⟨?_, ?_⟩
    · rintro ⟨item, hmem, hitem⟩
      cases v with
      | array items => exact .queryItem hmem hitem
      | object members => exact .queryObject members
      | null => exact absurd rfl hv
      | _ =>
        obtain rfl := List.mem_singleton.mp hmem
        rcases hitem with hnull | hstructured
        · cases hnull
        · cases hstructured
    · rintro (⟨hsite, _⟩ | ⟨members⟩ | ⟨hmem, hitem⟩)
      · exact absurd rfl hsite
      · exact ⟨_, List.mem_singleton_self _, .inr (.object members)⟩
      · exact ⟨_, hmem, hitem⟩
  · rename_i hsite
    rw [outcome_eq_error_iff, scalar_eq_error_iff]
    refine and_congr_left fun _ => ⟨fun h => .structured hsite (h.resolve_left hv), ?_⟩
    rintro (⟨_, hstructured⟩ | _ | _)
    · exact .inr hstructured
    · exact absurd rfl hsite
    · exact absurd rfl hsite

/-- The check of a use: a path parameter has to be there, and what is there has to have a text. -/
def checkUse (fields : Table String Json) (use : Site × String) : Except InputError Unit :=
  match present fields use.2 with
  | none => if use.1 = .path then .error (.missingPathParam use.2) else .ok ()
  | some v => checkValue use.1 use.2 v

/-- The check of a use gives its fault. -/
theorem checkUse_eq_error_iff {fields : Table String Json} {use : Site × String} {e : InputError} :
    checkUse fields use = .error e ↔ IsFault fields use.1 use.2 e := by
  rw [isFault_iff, checkUse]
  cases hpresent : present fields use.2 with
  | none =>
    by_cases hsite : use.1 = .path
    · simp [hsite, eq_comm]
    · simp [hsite]
  | some v =>
    have hv : v ≠ .null := (present_eq_some_iff.mp hpresent).2
    simp [checkValue_eq_error_iff hv]

lemma checkUse_eq_ok_iff {fields : Table String Json} {use : Site × String} :
    checkUse fields use = .ok () ↔ ¬ ∃ e, IsFault fields use.1 use.2 e := by
  simp only [← checkUse_eq_error_iff]
  cases checkUse fields use <;> simp

/-! ### The parts of a request -/

namespace RequestPlan

variable {fields : Table String Json}

lemma checkUse_of_none {site : Site} {name : String} (h : present fields name = none)
    (hsite : site ≠ .path) : checkUse fields (site, name) = .ok () := by
  simp only [checkUse, h, if_neg hsite]

lemma checkUse_of_some {site : Site} {name : String} {v : Json} (h : present fields name = some v)
    (hsite : site ≠ .query) :
    checkUse fields (site, name) = outcome (scalar name site.location v) := by
  simp only [checkUse, h, checkValue, if_neg hsite]

lemma outcome_fillPath (names : List String) (path : String) :
    outcome (fillPath fields names path) = (names.map (Site.path, ·)).forM (checkUse fields) := by
  induction names generalizing path with
  | nil => rfl
  | cons name rest ih =>
    rw [List.map_cons, forM_cons_eq_bind, fillPath]
    cases hpresent : present fields name with
    | none => simp [checkUse, hpresent]
    | some v =>
      rw [checkUse_of_some hpresent (by decide)]
      exact outcome_bind fun segment => ih _

lemma outcome_headerFields (names : List String) :
    outcome (headerFields fields names) = (names.map (Site.header, ·)).forM (checkUse fields) := by
  induction names with
  | nil => rfl
  | cons name rest ih =>
    rw [List.map_cons, forM_cons_eq_bind, headerFields]
    cases hpresent : present fields name with
    | none =>
      rw [checkUse_of_none hpresent (by decide), ok_bind]
      exact ih
    | some v =>
      rw [checkUse_of_some hpresent (by decide)]
      exact outcome_bind fun text => (outcome_bind_ok _ _).trans ih

lemma outcome_queryFields (names : List String) :
    outcome (queryFields fields names) = (names.map (Site.query, ·)).forM (checkUse fields) := by
  induction names with
  | nil => rfl
  | cons name rest ih =>
    rw [List.map_cons, forM_cons_eq_bind, queryFields]
    cases hpresent : present fields name with
    | none =>
      rw [checkUse_of_none hpresent (by decide), ok_bind]
      exact ih
    | some v =>
      have hcheck : checkUse fields (Site.query, name) = outcome (queryTexts name v) := by
        simp [checkUse, hpresent, checkValue]
      rw [hcheck]
      exact outcome_bind fun texts => (outcome_bind_ok _ _).trans ih

/-- The members of a body are those that are present under its names, each once. -/
lemma bodyFields_eq_eraseDups (fields : Table String Json) (names : List String) :
    bodyFields fields names = presentMembers fields names.eraseDups := by
  induction names using List.reverseRecOn with
  | nil => rfl
  | append_singleton names name ih =>
    have hmember : presentMembers fields [name] =
        ((present fields name).map (name, ·)).toList := by
      cases hpresent : present fields name <;> simp [presentMembers, hpresent]
    have hconcat : ∀ names, presentMembers fields (names ++ [name]) =
        presentMembers fields names ++ ((present fields name).map (name, ·)).toList := by
      intro names
      rw [← hmember]
      exact List.filterMap_append
    have hstep : bodyFields fields (names ++ [name]) =
        (presentMembers fields names.eraseDups).insertAll
          ((present fields name).map (name, ·)).toList := by
      rw [← ih]
      change Table.insertAll (presentMembers fields (names ++ [name])) [] = _
      rw [hconcat, Table.insertAll, List.foldl_append]
      rfl
    rw [hstep, eraseDups_concat]
    cases hpresent : present fields name with
    | none =>
      split
      · rfl
      · rw [hconcat, hpresent]
        exact (List.append_nil _).symm
    | some v =>
      split
      · rename_i hmem
        refine Table.insert_of_find?_eq_some (Table.find?_of_mem ?_ ?_)
        · exact (nodup_eraseDups names).sublist (sublist_keys_presentMembers fields _)
        · refine List.mem_filterMap.mpr ⟨name, List.mem_eraseDups.mpr hmem, ?_⟩
          rw [hpresent, Option.map_some]
      · rename_i hnew
        rw [hconcat, hpresent]
        refine Table.insert_of_not_mem (fun hmem => hnew ?_) v
        exact List.mem_eraseDups.mp ((sublist_keys_presentMembers fields _).subset hmem)

/-- A form is encoded when all members of the body have a text. -/
lemma outcome_encodeForm (names : List String) :
    outcome (encodeBody .form (bodyFields fields names)) =
      (names.map (Site.form, ·)).forM (checkUse fields) := by
  have hmembers : ∀ names : List String,
      ((presentMembers fields names).forM fun m => outcome (scalar m.1 "form body" m.2)) =
        names.forM fun name => checkUse fields (Site.form, name) := by
    intro names
    induction names with
    | nil => rfl
    | cons name rest ih =>
      rw [forM_cons_eq_bind]
      cases hpresent : present fields name with
      | none => rw [presentMembers_cons_of_none hpresent, ih,
          checkUse_of_none hpresent (by decide), ok_bind]
      | some v => rw [presentMembers_cons_of_some hpresent, forM_cons_eq_bind, ih,
          checkUse_of_some hpresent (by decide), Site.location]
  have hmap : (names.map (Site.form, ·)).forM (checkUse fields) =
      names.forM fun name => checkUse fields (Site.form, name) := by
    simp only [List.forM_eq_forM, List.forM_map]
  rw [hmap, ← forM_eraseDups, ← hmembers, ← bodyFields_eq_eraseDups, encodeBody]
  refine (outcome_bind_ok _ _).trans ((outcome_mapM _ _).trans ?_)
  refine congrArg _ (funext fun m => outcome_bind_ok _ _)

/-- Building a request from an object fails like the check of its uses one after another. -/
theorem outcome_build (plan : RequestPlan) (context : RequestContext) (fields : Table String Json) :
    outcome (plan.build context (.object fields)) = plan.uses.forM (checkUse fields) := by
  have hbody : outcome (if plan.body.isEmpty then .ok none
      else (encodeBody plan.encoding (bodyFields fields plan.body)).map some) =
      (if plan.encoding = .form then plan.body.map (Site.form, ·) else []).forM
        (checkUse fields) := by
    split
    · rename_i hempty
      rw [List.isEmpty_iff.mp hempty]
      split <;> rfl
    · rw [outcome_map]
      split
      · rename_i hform
        rw [hform, outcome_encodeForm]
      · rename_i hform
        cases hencoding : plan.encoding with
        | form => exact absurd hencoding hform
        | _ => rfl
  rw [uses, List.append_assoc, List.append_assoc, forM_append, forM_append, forM_append,
    ← outcome_fillPath plan.params plan.path, ← outcome_headerFields, ← outcome_queryFields,
    ← hbody]
  exact outcome_bind fun path => outcome_bind fun headers => outcome_bind fun query =>
    outcome_bind_ok _ _

/-- A request fails with the first fault of its input in the order of its uses, and in no other
case: there is a request when the input is an object without a fault. -/
theorem failsWith_build_iff (plan : RequestPlan) (context : RequestContext) (input : Json) :
    (∀ e, plan.build context input = .error e ↔ plan.FailsWith input e) ∧
    ((∃ r, plan.build context input = .ok r) ↔
      ∃ fields, input = .object fields ∧
        ∀ use ∈ plan.uses, ¬ ∃ e, IsFault fields use.1 use.2 e) := by
  cases input with
  | object fields =>
    have hcheck := outcome_build plan context fields
    constructor
    · intro e
      rw [← outcome_eq_error_iff, hcheck, forM_eq_error_iff]
      simp only [checkUse_eq_ok_iff, checkUse_eq_error_iff]
      constructor
      · rintro ⟨before, use, after, hsplit, hbefore, hfault⟩
        exact .firstFault hsplit hbefore hfault
      · intro h
        cases h with
        | notAnObject h => exact absurd rfl (h fields)
        | firstFault hsplit hbefore hfault => exact ⟨_, _, _, hsplit, hbefore, hfault⟩
    · have hok : (∃ r, plan.build context (.object fields) = .ok r) ↔
          outcome (plan.build context (.object fields)) = .ok () := by
        cases plan.build context (.object fields) <;> simp
      rw [hok, hcheck, forM_eq_ok_iff]
      simp only [checkUse_eq_ok_iff, Json.object.injEq, exists_eq_left']
  | _ =>
    constructor
    · intro e
      constructor
      · intro h
        cases h
        exact .notAnObject nofun
      · intro h
        cases h
        rfl
    · constructor
      · rintro ⟨r, hr⟩
        cases hr
      · rintro ⟨fields, hinput, _⟩
        cases hinput

end RequestPlan

end Client

end ApiContract
