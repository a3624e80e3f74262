import ApiContract.Client.Registry
import ApiContract.Proofs.Results
import ApiContract.Proofs.Table
import Mathlib.Data.List.Nodup

/-!
# Names that endpoints claim

Names are claimed one after another, each in the register of its kind. A `Naming` is one such claim,
`Naming.accept` sets it against the namings before it, and the tables of owners are what the
accepted namings have in each register (`Naming.owners`). So the check of names is one run through
the namings of groups and endpoints (`checkNames_eq_bind`): it goes through when no name stands
twice in a register (`foldlM_accept_eq_ok_iff`), and else it ends at the first naming that meets an
earlier one (`foldlM_accept_eq_error_iff`).
-/

namespace ApiContract.Client

/-! ### Namings -/

/-- The registers in which a name has one owner. -/
inductive Register where
  | modules
  | types
  | schemas
  | keys
  | streamKeys
  deriving DecidableEq, Repr

/-- The kind of the names in a register. -/
def Register.kind : Register → NameKind
  | .modules => .schemaModule
  | .types => .typeName
  | .schemas => .schemaConstant
  | .keys | .streamKeys => .endpointKey

/-- A name that is claimed for an owner. -/
structure Naming where
  register : Register
  name : String
  owner : String

namespace Naming

/-- What a naming takes: two namings of one place meet. -/
def place (n : Naming) : Register × String := (n.register, n.name)

/-- The report of a naming that meets an earlier one. -/
def meeting (earlier later : Naming) : Error :=
  .collision later.register.kind later.name earlier.owner later.owner

/-- Namings with one more, unless it meets one of them. -/
def accept (ns : List Naming) (n : Naming) : Except Error (List Naming) :=
  match ns.find? fun m => m.place = n.place with
  | some m => .error (meeting m n)
  | none => .ok (ns ++ [n])

/-- The names of a register with their owners. -/
def owners (r : Register) (ns : List Naming) : Owners :=
  (ns.filter fun n => n.register = r).map fun n => (n.name, n.owner)

/-- The names of a register. -/
def names (r : Register) (ns : List Naming) : List String :=
  (ns.filter fun n => n.register = r).map Naming.name

lemma keys_owners (r : Register) (ns : List Naming) : (owners r ns).keys = names r ns := by
  rw [Table.keys, owners, names, List.map_map]
  rfl

lemma owners_append (r : Register) (ms ns : List Naming) :
    owners r (ms ++ ns) = owners r ms ++ owners r ns := by
  rw [owners, List.filter_append, List.map_append]
  rfl

lemma names_cons (r : Register) (n : Naming) (ns : List Naming) :
    names r (n :: ns) = (if n.register = r then [n.name] else []) ++ names r ns := by
  by_cases h : n.register = r <;> simp [names, h]

lemma names_append (r : Register) (ms ns : List Naming) :
    names r (ms ++ ns) = names r ms ++ names r ns := by
  rw [names, List.filter_append, List.map_append]
  rfl

/-- The owner of a name in a register is that of the first naming of the place. -/
lemma find?_owners (r : Register) (name : String) (ns : List Naming) :
    Table.find? name (owners r ns) =
      (ns.find? fun m => m.place = (r, name)).map Naming.owner := by
  induction ns with
  | nil => rfl
  | cons n rest ih =>
    by_cases hr : n.register = r
    · by_cases hname : n.name = name
      · simp [owners, place, hr, hname]
      · simpa [owners, place, hr, hname] using ih
    · simpa [owners, place, hr] using ih

/-- When no two namings meet, a name has an owner in a register when there is such a naming. -/
lemma find?_owners_eq_some_iff {ns : List Naming} (hns : (ns.map place).Nodup) {r : Register}
    {name owner : String} : Table.find? name (owners r ns) = some owner ↔
      ∃ n ∈ ns, n.register = r ∧ n.name = name ∧ n.owner = owner := by
  rw [find?_owners, Option.map_eq_some_iff]
  constructor
  · rintro ⟨n, hn, rfl⟩
    obtain ⟨rfl, rfl⟩ : n.register = r ∧ n.name = name := by
      simpa [place] using List.find?_some hn
    exact ⟨n, List.mem_of_find?_eq_some hn, rfl, rfl, rfl⟩
  · rintro ⟨n, hn, rfl, rfl, rfl⟩
    obtain ⟨i, hi⟩ := List.mem_iff_getElem?.mp hn
    exact ⟨n, (find?_key_of_nodup place hns hi).1, rfl⟩

/-! ### One naming -/

/-- A naming is accepted exactly when its place is free. -/
lemma accept_eq_ok_iff {ns all : List Naming} {n : Naming} :
    accept ns n = .ok all ↔ n.place ∉ ns.map place ∧ all = ns ++ [n] := by
  have hfree : (ns.find? fun m => m.place = n.place) = none ↔ n.place ∉ ns.map place := by
    simp [List.find?_eq_none]
  unfold accept
  rw [← hfree]
  cases ns.find? fun m => m.place = n.place with
  | some m => simp
  | none => simp [eq_comm]

/-- A naming that is not accepted meets an earlier one. -/
lemma exists_of_accept_eq_error {ns : List Naming} {n : Naming} {e : Error}
    (h : accept ns n = .error e) : ∃ m ∈ ns, m.place = n.place ∧ e = meeting m n := by
  unfold accept at h
  cases hfind : ns.find? fun m => m.place = n.place with
  | some m =>
    rw [hfind] at h
    cases h
    exact ⟨m, List.mem_of_find?_eq_some hfind, by simpa using List.find?_some hfind, rfl⟩
  | none =>
    rw [hfind] at h
    cases h

/-- To claim a name in the table of its register is to accept its naming. -/
lemma claim_owners (ns : List Naming) (n : Naming) :
    claim n.register.kind n.name n.owner (owners n.register ns) =
      (accept ns n >>= fun all => .ok (owners n.register all)) := by
  unfold claim accept
  rw [find?_owners, show (n.register, n.name) = n.place from rfl]
  cases hfind : ns.find? fun m => m.place = n.place with
  | some m => rfl
  | none =>
    have hnew : n.name ∉ (owners n.register ns).keys := by
      rw [← Table.find?_eq_none_iff, find?_owners, show (n.register, n.name) = n.place from rfl,
        hfind]
      rfl
    rw [Option.map_none, ok_bind, Table.insert_of_not_mem hnew, owners_append]
    simp [owners]

/-! ### A run of namings -/

lemma nodup_places_concat_iff {ns : List Naming} {n : Naming} :
    ((ns ++ [n]).map place).Nodup ↔ (ns.map place).Nodup ∧ n.place ∉ ns.map place := by
  rw [List.map_append, List.map_singleton, ← List.concat_eq_append, List.nodup_concat]
  exact and_comm

/-- Namings are accepted exactly when no two of them meet. -/
theorem foldlM_accept_eq_ok_iff {ms : List Naming} (hms : (ms.map place).Nodup)
    (ns all : List Naming) :
    ns.foldlM accept ms = .ok all ↔ ((ms ++ ns).map place).Nodup ∧ all = ms ++ ns := by
  induction ns generalizing ms with
  | nil =>
    rw [List.append_nil, List.foldlM_nil]
    simp [pure, Except.pure, hms, eq_comm]
  | cons n rest ih =>
    have hsplit : ms ++ n :: rest = (ms ++ [n]) ++ rest := by simp
    rw [List.foldlM_cons, bind_eq_ok_iff, hsplit]
    constructor
    · rintro ⟨next, hnext, hrest⟩
      obtain ⟨hfree, rfl⟩ := accept_eq_ok_iff.mp hnext
      exact (ih (nodup_places_concat_iff.mpr ⟨hms, hfree⟩)).mp hrest
    · intro hall
      have hnext : ((ms ++ [n]).map place).Nodup := by
        rw [List.map_append] at hall
        exact hall.1.of_append_left
      exact ⟨ms ++ [n], accept_eq_ok_iff.mpr ⟨(nodup_places_concat_iff.mp hnext).2, rfl⟩,
        (ih hnext).mpr hall⟩

/-- After the namings `ms`, `later` is the first of `ns` that meets one before it, and `earlier` is
the one that it meets. -/
def IsFirstMeeting (ms ns : List Naming) (earlier later : Naming) : Prop :=
  ∃ before after, ns = before ++ later :: after ∧ ((ms ++ before).map place).Nodup ∧
    earlier ∈ ms ++ before ∧ earlier.place = later.place

/-- A free naming in front does not change which naming is the first to meet one. -/
lemma isFirstMeeting_cons_iff {ms ns : List Naming} {n earlier later : Naming}
    (hfree : n.place ∉ ms.map place) :
    IsFirstMeeting ms (n :: ns) earlier later ↔ IsFirstMeeting (ms ++ [n]) ns earlier later := by
  constructor
  · rintro ⟨before, after, hsplit, hnodup, hmem, hplace⟩
    cases before with
    | nil =>
      obtain ⟨rfl, rfl⟩ : n = later ∧ ns = after := by simpa using hsplit
      rw [List.append_nil] at hmem
      exact absurd (List.mem_map.mpr ⟨earlier, hmem, hplace⟩) hfree
    | cons m before =>
      obtain ⟨rfl, hns⟩ : n = m ∧ ns = before ++ later :: after := by simpa using hsplit
      rw [show ms ++ n :: before = (ms ++ [n]) ++ before by simp] at hnodup hmem
      exact ⟨before, after, hns, hnodup, hmem, hplace⟩
  · rintro ⟨before, after, rfl, hnodup, hmem, hplace⟩
    rw [show (ms ++ [n]) ++ before = ms ++ n :: before by simp] at hnodup hmem
    exact ⟨n :: before, after, rfl, hnodup, hmem, hplace⟩

/-- Namings that are not accepted end with the first that meets an earlier one. -/
theorem foldlM_accept_eq_error_iff {ms : List Naming} (hms : (ms.map place).Nodup)
    (ns : List Naming) (e : Error) :
    ns.foldlM accept ms = .error e ↔
      ∃ earlier later, IsFirstMeeting ms ns earlier later ∧ e = meeting earlier later := by
  induction ns generalizing ms with
  | nil =>
    constructor
    · intro h
      cases h
    · rintro ⟨_, _, ⟨before, after, hsplit, _⟩, _⟩
      simp at hsplit
  | cons n rest ih =>
    rw [List.foldlM_cons]
    cases hnext : accept ms n with
    | ok next =>
      obtain ⟨hfree, rfl⟩ := accept_eq_ok_iff.mp hnext
      simp only [ok_bind, isFirstMeeting_cons_iff hfree]
      exact ih (nodup_places_concat_iff.mpr ⟨hms, hfree⟩)
    | error err =>
      obtain ⟨m, hm, hplace, rfl⟩ := exists_of_accept_eq_error hnext
      rw [error_bind, Except.error.injEq]
      constructor
      · rintro rfl
        exact ⟨m, n, ⟨[], rest, rfl, by simpa using hms, by simpa using hm, hplace⟩, rfl⟩
      · rintro ⟨earlier, later, ⟨before, after, hsplit, hnodup, hmem, hsame⟩, rfl⟩
        cases before with
        | nil =>
          obtain ⟨rfl, _⟩ : n = later ∧ rest = after := by simpa using hsplit
          rw [List.append_nil] at hmem
          rw [List.inj_on_of_nodup_map hms hm hmem (hplace.trans hsame.symm)]
        | cons other before =>
          -- The naming `n` itself would stand among accepted ones, but it meets `m`.
          obtain ⟨rfl, _⟩ : n = other ∧ rest = before ++ later :: after := by simpa using hsplit
          rw [List.map_append, List.nodup_append] at hnodup
          exact absurd hplace (hnodup.2.2 _ (List.mem_map_of_mem hm) _ (by simp))

/-- Namings do not meet exactly when no register has a name twice. -/
theorem nodup_places_iff (ns : List Naming) :
    (ns.map place).Nodup ↔ ∀ r, (names r ns).Nodup := by
  induction ns using List.reverseRecOn with
  | nil => simp [names]
  | append_singleton ns n ih =>
    rw [nodup_places_concat_iff, ih]
    have hplace : n.place ∉ ns.map place ↔ n.name ∉ names n.register ns := by
      simp [names, place, eq_comm]
    have hsame : names n.register (ns ++ [n]) = names n.register ns ++ [n.name] := by
      simp [names]
    have hother : ∀ r, n.register ≠ r → names r (ns ++ [n]) = names r ns := by
      intro r hr
      simp [names, hr]
    rw [hplace]
    constructor
    · rintro ⟨hall, hfree⟩ r
      by_cases hr : n.register = r
      · subst hr
        rw [hsame, ← List.concat_eq_append]
        exact (hall _).concat hfree
      · rw [hother r hr]
        exact hall r
    · intro hall
      have hown := hall n.register
      rw [hsame, ← List.concat_eq_append, List.nodup_concat] at hown
      refine ⟨fun r => ?_, hown.1⟩
      by_cases hr : n.register = r
      · exact hr ▸ hown.2
      · exact hother r hr ▸ hall r

end Naming

/-! ### The namings of endpoints -/

/-- The types that every client has. -/
def supportNamings : List Naming := supportTypes.map fun t => ⟨.types, t, supportOwner⟩

/-- The module of a group. -/
def groupNaming (group : String) : Naming := ⟨.modules, moduleName group, group⟩

namespace Endpoint

/-- What an endpoint claims: its marker, its error union unless it is a stream, its schema and its
key. -/
def namings (e : Endpoint) : List Naming :=
  ⟨.types, e.marker, e.origin⟩ ::
    (if e.isStream then [] else [⟨.types, e.unionName, "error union of " ++ e.origin⟩]) ++
    [⟨.schemas, e.schema.text, e.origin⟩,
      ⟨if e.isStream then .streamKeys else .keys, e.key.text, e.origin⟩]

/-- The names of types that an endpoint brings along: its marker, and its error union unless it is a
stream. -/
def typeNames (e : Endpoint) : List String :=
  if e.isStream then [e.marker] else [e.marker, e.unionName]

end Endpoint

/-- What groups and their endpoints claim, in order. -/
def namings (groups : Groups) (es : List Endpoint) : List Naming :=
  groups.keys.map groupNaming ++ es.flatMap Endpoint.namings

namespace Claims

/-- The tables that hold accepted namings. -/
def ofNamings (ns : List Naming) : Claims :=
  ⟨Naming.owners .types ns, Naming.owners .schemas ns, Naming.owners .keys ns,
    Naming.owners .streamKeys ns⟩

/-- A claim in the table that namings have in its register, and what follows it, when what follows
is known for the namings with the new one. -/
lemma claim_bind_eq {α : Type} {ns : List Naming} (n : Naming) {owners : Owners}
    (howners : owners = Naming.owners n.register ns) {f : Owners → Except Error α}
    {g : List Naming → Except Error α}
    (h : f (Naming.owners n.register (ns ++ [n])) = g (ns ++ [n])) :
    (claim n.register.kind n.name n.owner owners >>= f) = (Naming.accept ns n >>= g) := by
  rw [howners, Naming.claim_owners]
  cases hall : Naming.accept ns n with
  | error e => rfl
  | ok all =>
    obtain ⟨_, rfl⟩ := Naming.accept_eq_ok_iff.mp hall
    exact h

/-- An endpoint is added by accepting its namings. -/
lemma add_ofNamings (ns : List Naming) (e : Endpoint) :
    (ofNamings ns).add e =
      (e.namings.foldlM Naming.accept ns >>= fun all => .ok (ofNamings all)) := by
  unfold add Endpoint.namings ofNamings
  -- Each claim is made in a table that the namings of other registers have left alone.
  cases hstream : e.isStream with
  | true =>
    simp only [if_true, List.cons_append, List.nil_append, List.foldlM_cons, List.foldlM_nil,
      bind_assoc]
    refine claim_bind_eq ⟨.types, e.marker, e.origin⟩ rfl ?_
    refine claim_bind_eq ⟨.schemas, e.schema.text, e.origin⟩ (by simp [Naming.owners]) ?_
    refine claim_bind_eq ⟨.streamKeys, e.key.text, e.origin⟩ (by simp [Naming.owners]) ?_
    simp [Naming.owners, pure, Except.pure]
  | false =>
    simp only [Bool.false_eq_true, if_false, List.cons_append, List.nil_append, List.foldlM_cons,
      List.foldlM_nil, bind_assoc]
    refine claim_bind_eq ⟨.types, e.marker, e.origin⟩ rfl ?_
    refine claim_bind_eq ⟨.types, e.unionName, "error union of " ++ e.origin⟩ rfl ?_
    refine claim_bind_eq ⟨.schemas, e.schema.text, e.origin⟩ (by simp [Naming.owners]) ?_
    refine claim_bind_eq ⟨.keys, e.key.text, e.origin⟩ (by simp [Naming.owners]) ?_
    simp [Naming.owners, pure, Except.pure]

/-- Endpoints are added by accepting their namings. -/
lemma foldlM_add_ofNamings (ns : List Naming) (es : List Endpoint) :
    es.foldlM Claims.add (ofNamings ns) =
      ((es.flatMap Endpoint.namings).foldlM Naming.accept ns >>= fun all =>
        .ok (ofNamings all)) := by
  induction es generalizing ns with
  | nil => rfl
  | cons e rest ih =>
    rw [List.foldlM_cons, add_ofNamings, List.flatMap_cons, List.foldlM_append]
    cases e.namings.foldlM Naming.accept ns with
    | error _ => rfl
    | ok all => exact ih all

end Claims

/-- The modules of groups are claimed by accepting their namings. -/
lemma foldlM_claim_modules (ns : List Naming) (groups : List String) :
    (groups.foldlM (fun owners g => claim .schemaModule (moduleName g) g owners)
        (Naming.owners .modules ns)) =
      ((groups.map groupNaming).foldlM Naming.accept ns >>= fun all =>
        .ok (Naming.owners .modules all)) := by
  induction groups generalizing ns with
  | nil => rfl
  | cons g rest ih =>
    rw [List.foldlM_cons, List.map_cons, List.foldlM_cons, bind_assoc]
    exact Claims.claim_bind_eq (groupNaming g) rfl (ih _)

/-! ### The check of names -/

/-- The errors of endpoints that answer once, in order. -/
def errorUses (es : List Endpoint) : List (Endpoint × String) :=
  (Endpoint.standard es).flatMap fun e => e.errors.map (e, ·)

lemma nodup_supportNamings : (supportNamings.map Naming.place).Nodup := by decide

lemma ofNamings_support (groups : List String) :
    Claims.ofNamings (supportNamings ++ groups.map groupNaming) = Claims.initial := by
  have hnone : ∀ r, r ≠ .modules → Naming.owners r (groups.map groupNaming) = [] := by
    intro r hr
    have hne : ¬ Register.modules = r := fun h => hr h.symm
    simp [Naming.owners, groupNaming, hne]
  simp only [Claims.ofNamings, Naming.owners_append, hnone _ (show Register.types ≠ _ by decide),
    hnone _ (show Register.schemas ≠ _ by decide), hnone _ (show Register.keys ≠ _ by decide),
    hnone _ (show Register.streamKeys ≠ _ by decide), List.append_nil]
  rfl

/-- The check of names accepts the namings of groups and endpoints, and then checks the errors
against the names of types. -/
theorem checkNames_eq_bind (groups : Groups) (es : List Endpoint) :
    checkNames groups es =
      ((namings groups es).foldlM Naming.accept supportNamings >>= fun all =>
        (errorUses es).forM fun u => checkError (Naming.owners .types all) u.1 u.2) := by
  have hmodules := foldlM_claim_modules supportNamings groups.keys
  unfold checkNames claimModules namings errorUses
  rw [List.foldlM_append, show ([] : Owners) = Naming.owners .modules supportNamings from rfl,
    hmodules]
  cases hns : (groups.keys.map groupNaming).foldlM Naming.accept supportNamings with
  | error e => rfl
  | ok ns =>
    obtain ⟨_, rfl⟩ := (Naming.foldlM_accept_eq_ok_iff nodup_supportNamings _ _).mp hns
    simp only [ok_bind]
    rw [← ofNamings_support groups.keys, Claims.foldlM_add_ofNamings, bind_assoc]
    simp only [ok_bind, forM_forM]
    rfl

/-! ### Names by register -/

lemma names_support (r : Register) :
    Naming.names r supportNamings = if r = .types then supportTypes else [] := by
  cases r <;> rfl

lemma names_groupNamings (r : Register) (groups : List String) :
    Naming.names r (groups.map groupNaming) =
      if r = .modules then groups.map moduleName else [] := by
  induction groups with
  | nil => cases r <;> rfl
  | cons g rest ih =>
    rw [List.map_cons, Naming.names_cons, ih]
    cases r <;> rfl

lemma names_namings (r : Register) (e : Endpoint) :
    Naming.names r e.namings =
      match r with
      | .modules => []
      | .types => e.typeNames
      | .schemas => [e.schema.text]
      | .keys => if e.isStream then [] else [e.key.text]
      | .streamKeys => if e.isStream then [e.key.text] else [] := by
  unfold Endpoint.namings Endpoint.typeNames
  cases e.isStream <;> cases r <;> rfl

lemma names_flatMap_namings (r : Register) (es : List Endpoint) :
    Naming.names r (es.flatMap Endpoint.namings) =
      match r with
      | .modules => []
      | .types => es.flatMap Endpoint.typeNames
      | .schemas => es.map fun e => e.schema.text
      | .keys => keyTexts (Endpoint.standard es)
      | .streamKeys => keyTexts (Endpoint.streams es) := by
  induction es with
  | nil => cases r <;> rfl
  | cons e rest ih =>
    rw [List.flatMap_cons, Naming.names_append, ih, names_namings]
    cases r with
    | modules => rfl
    | types => rfl
    | schemas => rfl
    | keys => cases h : e.isStream <;> simp [keyTexts, Endpoint.standard, h]
    | streamKeys => cases h : e.isStream <;> simp [keyTexts, Endpoint.streams, h]

/-- No register has a name twice. -/
structure DistinctNames (groups : Groups) (es : List Endpoint) : Prop where
  modules : (groups.keys.map moduleName).Nodup
  types : (supportTypes ++ es.flatMap Endpoint.typeNames).Nodup
  schemas : (es.map fun e => e.schema.text).Nodup
  keys : (keyTexts (Endpoint.standard es)).Nodup
  streamKeys : (keyTexts (Endpoint.streams es)).Nodup

/-- The names of types, those that every client has in front. -/
lemma keys_owners_types (groups : Groups) (es : List Endpoint) :
    (Naming.owners .types (supportNamings ++ namings groups es)).keys =
      supportTypes ++ es.flatMap Endpoint.typeNames := by
  rw [Naming.keys_owners, Naming.names_append, namings, Naming.names_append, names_support,
    names_groupNamings, names_flatMap_namings]
  rfl

/-- The namings of groups and endpoints do not meet exactly when the names are distinct. -/
lemma nodup_places_iff_distinctNames (groups : Groups) (es : List Endpoint) :
    ((supportNamings ++ namings groups es).map Naming.place).Nodup ↔ DistinctNames groups es := by
  rw [Naming.nodup_places_iff]
  simp only [Naming.names_append, namings, names_support, names_groupNamings,
    names_flatMap_namings]
  constructor
  · intro h
    exact ⟨by simpa using h .modules, h .types, h .schemas, h .keys, h .streamKeys⟩
  · intro h r
    cases r with
    | modules => simpa using h.modules
    | types => exact h.types
    | schemas => exact h.schemas
    | keys => exact h.keys
    | streamKeys => exact h.streamKeys

/-! ### Accepted endpoints -/

/-- Validation that succeeds has passed the check of names. -/
lemma checkNames_of_validate {η : Type} {groups : Groups} {es : List Endpoint}
    (h : (validate groups es : Traced η Unit).result = .ok ()) : checkNames groups es = .ok () := by
  unfold validate at h
  rw [Traced.result_bind, Traced.result_lift] at h
  obtain ⟨_, hcheck, _⟩ := bind_eq_ok_iff.mp h
  exact hcheck

/-- Endpoints that pass validation claim no name twice. -/
theorem distinct_of_validate {η : Type} {groups : Groups} {es : List Endpoint}
    (h : (validate groups es : Traced η Unit).result = .ok ()) : DistinctNames groups es := by
  have hcheck := checkNames_of_validate h
  rw [checkNames_eq_bind] at hcheck
  obtain ⟨all, hall, _⟩ := bind_eq_ok_iff.mp hcheck
  exact (nodup_places_iff_distinctNames groups es).mp
    ((Naming.foldlM_accept_eq_ok_iff nodup_supportNamings _ _).mp hall).1

end ApiContract.Client
