import ApiContract.Client.Registry
import ApiContract.Proofs.Client.Placement
import ApiContract.Proofs.Table

/-!
# What a request sends

A request plan made from the placement of the inputs of an operation sends the members of an input
object where the inputs are bound, and nothing else. The headers, the query and the body are each
described by the members that are present under the names with one binding (`sentMembers`), and
since building looks at an object through these names only, objects that agree on them give the same
answer, be it a request or an error (`build_congr`). Both are put together in
`sendsInputs_of_placement`.
-/

namespace ApiContract.Client

/-! ### Members -/

/-- The members of an object under some names, in the order of the names: those that are there and
not null. -/
def presentMembers (fields : Table String Json) (names : List String) : Table String Json :=
  names.filterMap fun name => (present fields name).map (name, ·)

/-- The members of an object that inputs with a binding have, in order of declaration. -/
def sentMembers (binding : Binding) (inputs : Table String InputField)
    (fields : Table String Json) : Table String Json :=
  presentMembers fields (namesBound binding inputs)

lemma presentMembers_cons_of_none {fields : Table String Json} {name : String}
    (h : present fields name = none) (names : List String) :
    presentMembers fields (name :: names) = presentMembers fields names := by
  simp [presentMembers, h]

lemma presentMembers_cons_of_some {fields : Table String Json} {name : String} {v : Json}
    (h : present fields name = some v) (names : List String) :
    presentMembers fields (name :: names) = (name, v) :: presentMembers fields names := by
  simp [presentMembers, h]

/-- The names of present members are among the given names, in their order. -/
lemma sublist_keys_presentMembers (fields : Table String Json) (names : List String) :
    (presentMembers fields names).keys.Sublist names := by
  induction names with
  | nil => exact List.Sublist.refl _
  | cons name rest ih =>
    cases hpresent : present fields name with
    | none =>
      rw [presentMembers_cons_of_none hpresent]
      exact ih.cons _
    | some v =>
      rw [presentMembers_cons_of_some hpresent]
      exact ih.cons_cons _

/-! ### Rendered values -/

/-- The text of a string, number or Boolean. -/
def rendered? : Json → Option String
  | .string s => some s
  | .number n => some n.text
  | .bool b => some (if b then "true" else "false")
  | _ => none

/-- A text under the name of a member that renders its value. -/
def Renders (m : String × Json) (t : String × String) : Prop :=
  t.1 = m.1 ∧ rendered? m.2 = some t.2

/-- The values of a member of the query: the items of a list, or else the value itself. -/
def queryValues : Json → List Json
  | .array items => items
  | v => [v]

/-- The members of the query with their values one by one. -/
def spread (members : Table String Json) : List (String × Json) :=
  members.flatMap fun m => (queryValues m.2).map (m.1, ·)

lemma scalar_eq_ok_iff {field location : String} {v : Json} {t : String} :
    scalar field location v = .ok t ↔ rendered? v = some t := by
  cases v with
  | bool b => cases b <;> simp [scalar, rendered?, Json.boolText]
  | _ => simp [scalar, rendered?]

namespace RequestPlan

/-- The plan for an operation whose inputs are placed. -/
def ofPlacement (op : Operation) (placement : Placement) (encoding : Encoding) : RequestPlan :=
  ⟨op.method.name, op.path, placement.headers, placement.query, placement.body, placement.params,
    encoding⟩

/-- The plan of an endpoint is that for its operation and placement. -/
lemma requestPlan_eq_ofPlacement (e : Endpoint) :
    requestPlan e = ofPlacement e.operation e.placement e.encoding := rfl

/-! ### Parts of a request -/

/-- The headers render the members that are present. -/
lemma forall₂_renders_of_headerFields {fields : Table String Json} {names : List String}
    {headers : List (String × String)} (h : headerFields fields names = .ok headers) :
    List.Forall₂ Renders (presentMembers fields names) headers := by
  induction names generalizing headers with
  | nil =>
    cases h
    exact .nil
  | cons name rest ih =>
    rw [headerFields] at h
    cases hpresent : present fields name with
    | none =>
      rw [hpresent] at h
      rw [presentMembers_cons_of_none hpresent]
      exact ih h
    | some v =>
      rw [hpresent] at h
      obtain ⟨text, htext, h⟩ := bind_eq_ok_iff.mp h
      obtain ⟨others, hothers, h⟩ := bind_eq_ok_iff.mp h
      cases h
      rw [presentMembers_cons_of_some hpresent]
      exact .cons ⟨rfl, scalar_eq_ok_iff.mp htext⟩ (ih hothers)

/-- The values of a member of the query are rendered one after another. -/
lemma queryTexts_eq_mapM (name : String) (v : Json) :
    queryTexts name v = (queryValues v).mapM (scalar name "query") := by
  cases v <;> rfl

/-- The query renders the values of the members that are present. -/
lemma forall₂_renders_of_queryFields {fields : Table String Json} {names : List String}
    {query : List (String × String)} (h : queryFields fields names = .ok query) :
    List.Forall₂ Renders (spread (presentMembers fields names)) query := by
  induction names generalizing query with
  | nil =>
    cases h
    exact .nil
  | cons name rest ih =>
    rw [queryFields] at h
    cases hpresent : present fields name with
    | none =>
      rw [hpresent] at h
      rw [presentMembers_cons_of_none hpresent]
      exact ih h
    | some v =>
      rw [hpresent] at h
      obtain ⟨texts, htexts, h⟩ := bind_eq_ok_iff.mp h
      obtain ⟨others, hothers, h⟩ := bind_eq_ok_iff.mp h
      cases h
      have hown : List.Forall₂ Renders ((queryValues v).map (name, ·)) (texts.map (name, ·)) := by
        rw [queryTexts_eq_mapM, mapM_eq_ok_iff] at htexts
        rw [List.forall₂_map_left_iff, List.forall₂_map_right_iff]
        exact htexts.imp fun _ _ ht => ⟨rfl, scalar_eq_ok_iff.mp ht⟩
      rw [presentMembers_cons_of_some hpresent, spread, List.flatMap_cons]
      exact List.rel_append hown (ih hothers)

/-- A body that carries members in the form of an encoding. -/
inductive Carries (members : Table String Json) : Encoding → RequestBody → Prop where
  | json : Carries members .json (.json (.object members))
  | form {texts : List (String × String)} (h : List.Forall₂ Renders members texts) :
      Carries members .form (.form texts)
  | multipart : Carries members .multipart (.multipart members)
  | raw (contentType : String) : Carries members (.raw contentType) (.raw contentType members)

lemma carries_of_encodeBody {encoding : Encoding} {members : Table String Json} {body : RequestBody}
    (h : encodeBody encoding members = .ok body) : Carries members encoding body := by
  cases encoding with
  | json =>
    cases h
    exact .json
  | form =>
    obtain ⟨texts, htexts, h⟩ := bind_eq_ok_iff.mp h
    cases h
    refine .form (((mapM_eq_ok_iff _ _ _).mp htexts).imp fun m t ht => ?_)
    obtain ⟨text, htext, ht⟩ := bind_eq_ok_iff.mp ht
    cases ht
    exact ⟨rfl, scalar_eq_ok_iff.mp htext⟩
  | multipart =>
    cases h
    exact .multipart
  | raw contentType =>
    cases h
    exact .raw contentType

/-- The members of a body are those that are present when its names are distinct. -/
lemma bodyFields_eq_presentMembers (fields : Table String Json) {names : List String}
    (h : names.Nodup) : bodyFields fields names = presentMembers fields names :=
  Table.ofList_of_nodup (h.sublist (sublist_keys_presentMembers fields names))

/-- What the parts of a request are built from. -/
lemma parts_of_build {plan : RequestPlan} {context : RequestContext} {fields : Table String Json}
    {r : HttpRequest} (h : plan.build context (.object fields) = .ok r) :
    (∃ own, headerFields fields plan.headers = .ok own ∧ r.headers = context.headers ++ own) ∧
    queryFields fields plan.query = .ok r.query ∧
    (plan.body = [] ∧ r.body = none ∨ plan.body ≠ [] ∧
      ∃ body, encodeBody plan.encoding (bodyFields fields plan.body) = .ok body ∧
        r.body = some body) := by
  unfold build at h
  obtain ⟨path, _, h⟩ := bind_eq_ok_iff.mp h
  obtain ⟨own, hown, h⟩ := bind_eq_ok_iff.mp h
  obtain ⟨query, hquery, h⟩ := bind_eq_ok_iff.mp h
  obtain ⟨body, hbody, h⟩ := bind_eq_ok_iff.mp h
  cases h
  refine ⟨⟨own, hown, rfl⟩, hquery, ?_⟩
  by_cases hnone : plan.body = []
  · rw [if_pos (by simp [hnone])] at hbody
    cases hbody
    exact Or.inl ⟨hnone, rfl⟩
  · rw [if_neg (by simpa using hnone)] at hbody
    obtain ⟨encoded, hencoded, rfl⟩ := map_eq_ok_iff.mp hbody
    exact Or.inr ⟨hnone, encoded, hencoded, rfl⟩

/-! ### Objects that agree -/

/-- Two objects have the same members present under some names. -/
def AgreeOn (names : List String) (fields fields' : Table String Json) : Prop :=
  ∀ name ∈ names, present fields name = present fields' name

lemma fillPath_congr {names : List String} {fields fields' : Table String Json}
    (h : AgreeOn names fields fields') (path : String) :
    fillPath fields names path = fillPath fields' names path := by
  induction names generalizing path with
  | nil => rfl
  | cons name rest ih =>
    obtain ⟨hname, hrest⟩ := List.forall_mem_cons.mp h
    simp only [fillPath, hname, ih hrest]

lemma headerFields_congr {names : List String} {fields fields' : Table String Json}
    (h : AgreeOn names fields fields') :
    headerFields fields names = headerFields fields' names := by
  induction names with
  | nil => rfl
  | cons name rest ih =>
    obtain ⟨hname, hrest⟩ := List.forall_mem_cons.mp h
    simp only [headerFields, hname, ih hrest]

lemma queryFields_congr {names : List String} {fields fields' : Table String Json}
    (h : AgreeOn names fields fields') : queryFields fields names = queryFields fields' names := by
  induction names with
  | nil => rfl
  | cons name rest ih =>
    obtain ⟨hname, hrest⟩ := List.forall_mem_cons.mp h
    simp only [queryFields, hname, ih hrest]

lemma bodyFields_congr {names : List String} {fields fields' : Table String Json}
    (h : AgreeOn names fields fields') : bodyFields fields names = bodyFields fields' names := by
  have hmembers : (names.filterMap fun name => (present fields name).map (name, ·)) =
      names.filterMap fun name => (present fields' name).map (name, ·) :=
    List.filterMap_congr fun name hname => by rw [h name hname]
  rw [bodyFields, bodyFields, hmembers]

/-- A plan builds the same, requests and errors alike, from objects that agree on its names. -/
theorem build_congr {plan : RequestPlan} {fields fields' : Table String Json}
    (hparams : AgreeOn plan.params fields fields') (hheaders : AgreeOn plan.headers fields fields')
    (hquery : AgreeOn plan.query fields fields') (hbody : AgreeOn plan.body fields fields')
    (context : RequestContext) :
    plan.build context (.object fields) = plan.build context (.object fields') := by
  unfold build
  simp only [fillPath_congr hparams, headerFields_congr hheaders, queryFields_congr hquery,
    bodyFields_congr hbody]

end RequestPlan

/-! ### Requests of an operation -/

/-- A request sends the members of an object where the inputs of an operation are bound: headers
behind those of the context, the query, and a body when the operation has inputs for it. -/
structure SendsInputs (op : Operation) (encoding : Encoding) (context : RequestContext)
    (fields : Table String Json) (r : HttpRequest) : Prop where
  headers : ∃ own, r.headers = context.headers ++ own ∧
    List.Forall₂ Renders (sentMembers (.location .header) op.inputs fields) own
  query : List.Forall₂ Renders (spread (sentMembers (.location .query) op.inputs fields)) r.query
  noBody : r.body = none ↔ ∀ e ∈ op.inputs, e.2.source ≠ .body
  body : ∀ body, r.body = some body →
    RequestPlan.Carries (sentMembers .body op.inputs fields) encoding body

lemma namesBound_body_eq_nil_iff {inputs : Table String InputField} :
    namesBound .body inputs = [] ↔ ∀ e ∈ inputs, e.2.source ≠ .body := by
  rw [namesBound, List.map_eq_nil_iff, List.filter_eq_nil_iff]
  simp only [decide_eq_true_eq, binding_eq_body_iff]

/-- Objects that agree on the inputs that are not internal agree on the names of every binding but
that of internal inputs. -/
lemma agreeOn_namesBound {inputs : Table String InputField} {fields fields' : Table String Json}
    (h : ∀ e ∈ inputs, e.2.source ≠ .internal → present fields e.1 = present fields' e.1)
    {binding : Binding} (hbinding : binding ≠ .excluded) :
    RequestPlan.AgreeOn (namesBound binding inputs) fields fields' := by
  intro name hname
  obtain ⟨field, hfield, hbound⟩ := mem_namesBound_iff.mp hname
  refine h (name, field) hfield fun hinternal => hbinding ?_
  rw [← hbound, show field.source = .internal from hinternal]
  rfl

/-- Whatever the encoding and the context are, the plan of an operation sends the members of an
object where the inputs are bound, and objects that agree on the inputs that are not internal give
the same request or the same error. The names of the inputs are the keys of a table that has each
key once. -/
theorem sendsInputs_of_placement {op : Operation} {placement : Placement}
    (hinputs : op.inputs.keys.Nodup) (hplacement : Placement.ofOperation op = .ok placement)
    (encoding : Encoding) (context : RequestContext) :
    (∀ fields r,
      (RequestPlan.ofPlacement op placement encoding).build context (.object fields) = .ok r →
        SendsInputs op encoding context fields r) ∧
    ∀ fields fields',
      (∀ e ∈ op.inputs, e.2.source ≠ .internal → present fields e.1 = present fields' e.1) →
        (RequestPlan.ofPlacement op placement encoding).build context (.object fields) =
          (RequestPlan.ofPlacement op placement encoding).build context (.object fields') := by
  obtain ⟨_, rfl⟩ := (Placement.ofInputs_eq_ok_iff _ _ _).mp hplacement
  constructor
  · intro fields r hr
    obtain ⟨⟨own, hown, hheaders⟩, hquery, hbody⟩ := RequestPlan.parts_of_build hr
    refine ⟨⟨own, hheaders, RequestPlan.forall₂_renders_of_headerFields hown⟩,
      RequestPlan.forall₂_renders_of_queryFields hquery, ?_, ?_⟩
    · rw [← namesBound_body_eq_nil_iff]
      rcases hbody with ⟨hnone, hr⟩ | ⟨hsome, body, _, hr⟩
      · exact ⟨fun _ => hnone, fun _ => hr⟩
      · rw [hr]
        exact ⟨nofun, fun hnone => absurd hnone hsome⟩
    · intro body hsome
      rcases hbody with ⟨_, hr⟩ | ⟨_, encoded, hencoded, hr⟩
      · cases hr.symm.trans hsome
      · cases hr.symm.trans hsome
        have hnames : (namesBound .body op.inputs).Nodup := nodup_namesBound hinputs .body
        have hcarries := RequestPlan.carries_of_encodeBody hencoded
        rw [show (RequestPlan.ofPlacement op (.ofBindings op.inputs) encoding).body =
          namesBound .body op.inputs from rfl, RequestPlan.bodyFields_eq_presentMembers _ hnames]
          at hcarries
        exact hcarries
  · intro fields fields' hagree
    have hnames : ∀ binding ≠ .excluded,
        RequestPlan.AgreeOn (namesBound binding op.inputs) fields fields' :=
      fun _ => agreeOn_namesBound hagree
    exact RequestPlan.build_congr (hnames (.location .path) nofun)
      (hnames (.location .header) nofun) (hnames (.location .query) nofun) (hnames .body nofun)
      context

/-- An operation with inputs of every known source, in and out of the body by turns. -/
def searchPets : Operation :=
  { Operation.new "searchPets" .post "/pets/{kind}" with
    inputs := [
      ("text", ⟨.body, "z.string()", true, false⟩), ("page", ⟨.query, "z.number()", false, true⟩),
      ("session", ⟨.internal, "z.any()", true, false⟩),
      ("trace", ⟨.headers, "z.uuid()", true, false⟩),
      ("near", ⟨.body, "z.array()", false, true⟩), ("kind", ⟨.params, "z.string()", true, false⟩),
      ("tags", ⟨.queries, "z.array()", true, false⟩), ("exact", ⟨.body, "z.bool()", false, true⟩)] }

/-- An input with a member for each of the inputs but one. -/
def searchInput : Table String Json := [
  ("tags", .array [.string "small", .bool true]), ("text", .string "cat"), ("page", .null),
  ("session", .string "secret"), ("trace", .string "t1"), ("kind", .string "a b"),
  ("near", .array [])]

/-- The same input without the internal member and null, in another order and with a member that is
not declared. -/
def otherInput : Table String Json := [
  ("near", .array []), ("trace", .string "t1"), ("other", .string "x"), ("kind", .string "a b"),
  ("text", .string "cat"), ("tags", .array [.string "small", .bool true])]

/-- Where the inputs of the operation are placed. -/
def searchPlacement : Placement :=
  ⟨["trace"], ["page", "tags"], ["text", "near", "exact"], ["kind"]⟩

theorem sendsInputs_searchPets : ∃ e r, Endpoint.ofOperation "pets" searchPets = .ok [e] ∧
    (requestPlan e).build ⟨"https://pets/", [("agent", "lean")]⟩ (.object searchInput) = .ok r ∧
    (requestPlan e).build ⟨"https://pets/", [("agent", "lean")]⟩ (.object otherInput) = .ok r ∧
    SendsInputs searchPets .json ⟨"https://pets/", [("agent", "lean")]⟩ searchInput r ∧
    r.url = "https://pets/pets/a%20b" ∧ r.headers = [("agent", "lean"), ("trace", "t1")] ∧
    r.query = [("tags", "small"), ("tags", "true")] := by
  have hplacement : Placement.ofOperation searchPets = .ok searchPlacement := rfl
  obtain ⟨hsends, hagree⟩ := sendsInputs_of_placement (by decide) hplacement .json
    ⟨"https://pets/", [("agent", "lean")]⟩
  have hsame : ∀ e ∈ searchPets.inputs, e.2.source ≠ .internal →
      present searchInput e.1 = present otherInput e.1 := by
    simp only [searchPets, List.forall_mem_cons]
    exact ⟨fun _ => rfl, fun _ => rfl, fun h => absurd rfl h, fun _ => rfl, fun _ => rfl,
      fun _ => rfl, fun _ => rfl, fun _ => rfl, fun _ he => absurd he List.not_mem_nil⟩
  have hplan : requestPlan (.ofSingle "pets" searchPets searchPlacement) =
      .ofPlacement searchPets searchPlacement .json :=
    RequestPlan.requestPlan_eq_ofPlacement _
  rw [← hplan] at hsends hagree
  obtain ⟨r, hr⟩ : ∃ r, (requestPlan (.ofSingle "pets" searchPets searchPlacement)).build
      ⟨"https://pets/", [("agent", "lean")]⟩ (.object searchInput) = .ok r :=
    exists_eq_ok (by decide +kernel)
  refine ⟨_, r, rfl, hr, (hagree _ _ hsame).symm.trans hr, hsends _ _ hr, ?_⟩
  cases hr
  decide +kernel

end ApiContract.Client
