import ApiContract.Proofs.Client.Collision
import ApiContract.Proofs.Client.Endpoint

/-!
# The first collision

Validation of planned endpoints either passes or reports one collision. It passes exactly when no
register has a name twice and no error has the name of a type or of the variant for failed
validation; and what it reports is the first collision in the order of the namings, followed by the
errors of the endpoints that answer once (`result_validate_iff`).

The order of namings is that of `Naming.IsFirstMeeting`, which the check of names follows
(`checkNames_eq_bind`); the errors are checked only when all names are distinct, so the types they
are compared with are those of all endpoints.
-/

namespace ApiContract.Client

/-! ### Placeholders -/

/-- Reports on placeholders do not fail once endpoints are planned, since the inputs of every
operation are placed then. -/
lemma result_reportPlaceholders {η : Type} {groups : Groups} {es : List Endpoint}
    (hes : Endpoint.ofGroups groups = .ok es) :
    (reportPlaceholders groups : Traced η Unit).result = .ok () := by
  unfold reportPlaceholders
  simp only [Traced.result_forM]
  rw [forM_eq_ok_iff]
  intro g hg
  rw [forM_eq_ok_iff]
  intro op hop
  obtain ⟨placement, hplacement⟩ := Endpoint.exists_placement hes hg hop
  simp [hplacement]

/-! ### Errors -/

/-- A name that an error may have beside endpoints: neither that of the variant for failed
validation nor that of a type. -/
def IsFreeError (es : List Endpoint) (name : String) : Prop :=
  name ≠ invalidInput ∧ name ∉ supportTypes ++ es.flatMap Endpoint.typeNames

lemma checkError_eq_ok_iff {types : Owners} {e : Endpoint} {name : String} :
    checkError types e name = .ok () ↔ name ≠ invalidInput ∧ name ∉ types.keys := by
  unfold checkError
  rw [← Table.find?_eq_none_iff]
  by_cases hname : name = invalidInput
  · simp [hname]
  · cases Table.find? name types <;> simp [hname]

lemma checkError_eq_error_iff {types : Owners} {e : Endpoint} {name : String} {err : Error} :
    checkError types e name = .error err ↔
      (name = invalidInput ∧ err = .collision .errorVariant name "input validation" e.origin) ∨
      (name ≠ invalidInput ∧ ∃ first, types.find? name = some first ∧
        err = .collision .typeName name first ("error identifier of " ++ e.origin)) := by
  unfold checkError
  by_cases hname : name = invalidInput
  · simp [hname, eq_comm (a := err)]
  · cases Table.find? name types <;> simp [hname, eq_comm (a := err)]

lemma forall_mem_errorUses {es : List Endpoint} {P : String → Prop} :
    (∀ u ∈ errorUses es, P u.2) ↔ ∀ e ∈ es, e.isStream = false → ∀ name ∈ e.errors, P name := by
  simp only [errorUses, Endpoint.standard, List.mem_flatMap, List.mem_filter, List.mem_map,
    Bool.not_eq_true']
  constructor
  · intro h e he hstream name hname
    exact h (e, name) ⟨e, ⟨he, hstream⟩, name, hname, rfl⟩
  · rintro h _ ⟨e, ⟨he, hstream⟩, name, hname, rfl⟩
    exact h e he hstream name hname

/-! ### Validation -/

/-- The first collision of groups and their endpoints, as it is reported. -/
inductive FirstCollision (groups : Groups) (es : List Endpoint) : Error → Prop where
  /-- A name is claimed that has an owner in the register. -/
  | naming {earlier later : Naming}
      (hmeeting : Naming.IsFirstMeeting supportNamings (namings groups es) earlier later) :
      FirstCollision groups es
        (.collision later.register.kind later.name earlier.owner later.owner)
  /-- All names are distinct, and the first error that is not free is that of failed validation. -/
  | invalidInput {before after : List (Endpoint × String)} {e : Endpoint}
      (hdistinct : DistinctNames groups es)
      (huses : errorUses es = before ++ (e, invalidInput) :: after)
      (hbefore : ∀ u ∈ before, IsFreeError es u.2) :
      FirstCollision groups es
        (.collision .errorVariant invalidInput "input validation" e.origin)
  /-- All names are distinct, and the first error that is not free has the name of a type. -/
  | typeName {before after : List (Endpoint × String)} {e : Endpoint} {n : Naming}
      (hdistinct : DistinctNames groups es)
      (huses : errorUses es = before ++ (e, n.name) :: after)
      (hbefore : ∀ u ∈ before, IsFreeError es u.2)
      (hn : n ∈ supportNamings ++ namings groups es) (htype : n.register = .types)
      (hname : n.name ≠ Client.invalidInput) :
      FirstCollision groups es
        (.collision .typeName n.name n.owner ("error identifier of " ++ e.origin))

/-- Validation of planned endpoints is the check of their names. -/
lemma result_validate {η : Type} {groups : Groups} {es : List Endpoint}
    (hes : Endpoint.ofGroups groups = .ok es) :
    (validate groups es : Traced η Unit).result = checkNames groups es := by
  unfold validate
  rw [Traced.result_bind, Traced.result_lift]
  cases checkNames groups es with
  | error e => rfl
  | ok _ => exact result_reportPlaceholders hes

/-- An error passes among the types of groups and endpoints when it is free. -/
lemma checkError_owners_eq_ok_iff {groups : Groups} {es : List Endpoint} {e : Endpoint}
    {name : String} :
    checkError (Naming.owners .types (supportNamings ++ namings groups es)) e name = .ok () ↔
      IsFreeError es name := by
  rw [checkError_eq_ok_iff, keys_owners_types]
  rfl

/-- The names pass exactly when they are distinct and every error is free. -/
theorem checkNames_eq_ok_iff (groups : Groups) (es : List Endpoint) :
    checkNames groups es = .ok () ↔
      DistinctNames groups es ∧ ∀ u ∈ errorUses es, IsFreeError es u.2 := by
  rw [checkNames_eq_bind, bind_eq_ok_iff, ← nodup_places_iff_distinctNames]
  simp only [Naming.foldlM_accept_eq_ok_iff nodup_supportNamings, forM_eq_ok_iff]
  constructor
  · rintro ⟨_, ⟨hnodup, rfl⟩, herrors⟩
    exact ⟨hnodup, fun u hu => checkError_owners_eq_ok_iff.mp (herrors u hu)⟩
  · rintro ⟨hnodup, hfree⟩
    exact ⟨_, ⟨hnodup, rfl⟩, fun u hu => checkError_owners_eq_ok_iff.mpr (hfree u hu)⟩

/-- The names do not pass exactly when there is a first collision, and then it is reported. -/
theorem checkNames_eq_error_iff (groups : Groups) (es : List Endpoint) (err : Error) :
    checkNames groups es = .error err ↔ FirstCollision groups es err := by
  have herror := Naming.foldlM_accept_eq_error_iff nodup_supportNamings (namings groups es)
  have hok := Naming.foldlM_accept_eq_ok_iff nodup_supportNamings (namings groups es)
  rw [checkNames_eq_bind]
  cases hrun : (namings groups es).foldlM Naming.accept supportNamings with
  | error e =>
    rw [error_bind, Except.error.injEq]
    -- The run determines its first meeting, and with a meeting the names are not distinct.
    have hmeet : ¬ DistinctNames groups es := by
      intro hdistinct
      have hall := (hok _).mpr ⟨(nodup_places_iff_distinctNames groups es).mpr hdistinct, rfl⟩
      cases hrun.symm.trans hall
    constructor
    · rintro rfl
      obtain ⟨earlier, later, hmeeting, rfl⟩ := (herror e).mp hrun
      exact .naming hmeeting
    · intro h
      cases h with
      | naming hmeeting =>
        have hsame := (herror _).mpr ⟨_, _, hmeeting, rfl⟩
        exact Except.error.inj (hrun.symm.trans hsame)
      | invalidInput hdistinct => exact absurd hdistinct hmeet
      | typeName hdistinct => exact absurd hdistinct hmeet
  | ok all =>
    obtain ⟨hnodup, rfl⟩ := (hok all).mp hrun
    have hdistinct := (nodup_places_iff_distinctNames groups es).mp hnodup
    rw [ok_bind, forM_eq_error_iff]
    simp only [checkError_owners_eq_ok_iff]
    constructor
    · rintro ⟨before, ⟨e, name⟩, after, huses, hbefore, hlast⟩
      rcases checkError_eq_error_iff.mp hlast with ⟨rfl, rfl⟩ | ⟨hne, first, hfirst, rfl⟩
      · exact .invalidInput hdistinct huses hbefore
      · obtain ⟨n, hn, htype, rfl, rfl⟩ := (Naming.find?_owners_eq_some_iff hnodup).mp hfirst
        exact .typeName hdistinct huses hbefore hn htype hne
    · intro h
      cases h with
      | naming hmeeting =>
        have hfail := (herror _).mpr ⟨_, _, hmeeting, rfl⟩
        cases hrun.symm.trans hfail
      | invalidInput _ huses hbefore =>
        exact ⟨_, _, _, huses, hbefore, checkError_eq_error_iff.mpr (.inl ⟨rfl, rfl⟩)⟩
      | @typeName _ _ e n _ huses hbefore hn htype hname =>
        have hfirst := (Naming.find?_owners_eq_some_iff hnodup).mpr ⟨n, hn, htype, rfl, rfl⟩
        exact ⟨_, _, _, huses, hbefore,
          checkError_eq_error_iff.mpr (.inr ⟨hname, n.owner, hfirst, rfl⟩)⟩

/-- Validation of planned endpoints passes exactly when no register has a name twice and every error
of an endpoint that answers once is free; else it reports the first collision. -/
theorem result_validate_iff {η : Type} {groups : Groups} {es : List Endpoint}
    (hes : Endpoint.ofGroups groups = .ok es) :
    ((validate groups es : Traced η Unit).result = .ok () ↔ DistinctNames groups es ∧
      ∀ e ∈ es, e.isStream = false → ∀ name ∈ e.errors, IsFreeError es name) ∧
    ∀ err, (validate groups es : Traced η Unit).result = .error err ↔
      FirstCollision groups es err := by
  rw [result_validate hes]
  refine ⟨?_, checkNames_eq_error_iff groups es⟩
  rw [checkNames_eq_ok_iff, forall_mem_errorUses]

/-- A group with two errors that are not free, the first of them named like the union of another
endpoint, and a stream whose errors are not looked at. -/
def shadowingGroups : Groups :=
  [("items", [
    { Operation.new "watchItems" .get "/items" with kind := .stream, errors := ["InvalidInput"] },
    { Operation.new "listItems" .get "/items" with errors := ["NotFound", "GetItemError"] },
    { Operation.new "getItem" .get "/items/\x7bid\x7d" with errors := ["InvalidInput"] }])]

theorem firstCollision_of_shadowingGroups : ∃ es, Endpoint.ofGroups shadowingGroups = .ok es ∧
    ¬ (DistinctNames shadowingGroups es ∧
      ∀ e ∈ es, e.isStream = false → ∀ name ∈ e.errors, IsFreeError es name) ∧
    FirstCollision shadowingGroups es (.collision .typeName "GetItemError"
      "error union of items.getItem" "error identifier of items.listItems") := by
  obtain ⟨es, hes⟩ : ∃ es, Endpoint.ofGroups shadowingGroups = .ok es := exists_eq_ok rfl
  obtain ⟨hpass, hfail⟩ := result_validate_iff (η := Unit) hes
  have hresult : (validate shadowingGroups es : Traced Unit Unit).result =
      .error (.collision .typeName "GetItemError" "error union of items.getItem"
        "error identifier of items.listItems") := by
    cases hes
    rfl
  refine ⟨es, hes, fun h => ?_, (hfail _).mp hresult⟩
  cases hresult.symm.trans (hpass.mpr h)

end ApiContract.Client
