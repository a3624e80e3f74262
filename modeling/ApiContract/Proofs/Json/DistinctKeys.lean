import ApiContract.Json.Draft
import ApiContract.Proofs.Results
import ApiContract.Proofs.Table
import ApiContract.Proofs.Throughout

/-!
# Objects without repeated keys

An object is a list of members, so it could have a key twice. No value that is read from a JSON text
has such an object in it, at any depth (`Json.hasDistinctKeys_parse`): the members of an object go into
a table one after another, where the last one of a key takes the place of those before it.
-/

namespace ApiContract.Json

/-! ### Below a value -/

/-- The values directly below a value. -/
def parts : Json → List Json
  | .array items => items
  | .object members => Table.values members
  | _ => []

/-- Every object in a value has each of its keys once. -/
def HasDistinctKeys (v : Json) : Prop :=
  Throughout parts (fun w => ∀ members, w = .object members → (Table.keys members).Nodup) v

lemma sizeOf_lt_of_mem_parts {v w : Json} (h : w ∈ v.parts) : sizeOf w < sizeOf v := by
  cases v with
  | array items =>
    have hlt : sizeOf w < sizeOf items := List.sizeOf_lt_of_mem h
    simp only [array.sizeOf_spec]
    omega
  | object members =>
    obtain ⟨e, he, rfl⟩ := List.mem_map.mp h
    have hlt : sizeOf e < sizeOf members := List.sizeOf_lt_of_mem he
    have hpair : sizeOf e = 1 + sizeOf e.1 + sizeOf e.2 := rfl
    simp only [object.sizeOf_spec]
    omega
  | _ => cases h

/-- What holds of a value when it holds of the values directly below it holds of every value. -/
theorem induction_parts {P : Json → Prop} (h : ∀ v, (∀ w ∈ v.parts, P w) → P v) (v : Json) : P v :=
  h v fun w hw =>
    have := sizeOf_lt_of_mem_parts hw
    induction_parts h w
termination_by sizeOf v

/-! ### Values without repeated keys -/

lemma hasDistinctKeys_of_parts_eq_nil {v : Json} (hparts : v.parts = [])
    (hmembers : v.members? = none) : v.HasDistinctKeys := by
  refine throughout_of_below_eq_nil hparts ?_
  rintro members rfl
  cases hmembers

lemma hasDistinctKeys_array {items : List Json} (h : ∀ v ∈ items, v.HasDistinctKeys) :
    (array items).HasDistinctKeys := by
  refine throughout_iff.mpr ⟨fun members hmembers => ?_, h⟩
  cases hmembers

lemma hasDistinctKeys_ofList {members : List (String × Json)}
    (h : ∀ e ∈ members, e.2.HasDistinctKeys) :
    (object (Table.ofList members)).HasDistinctKeys := by
  refine throughout_iff.mpr ⟨?_, fun v hv => ?_⟩
  · rintro _ ⟨⟩
    exact Table.nodup_keys_ofList members
  · obtain ⟨e, he, rfl⟩ := List.mem_map.mp hv
    exact h e (Table.mem_of_mem_ofList he)

/-! ### Values that are read -/

namespace Draft

-- A node, its items and its members are read by functions that call each other; so go the proofs.
mutual

/-- A node that is read has a value with distinct keys. -/
theorem hasDistinctKeys_value {d : Draft} {v : Json} (h : d.value = .ok v) : v.HasDistinctKeys := by
  cases d with
  | null | bool =>
    cases h
    exact hasDistinctKeys_of_parts_eq_nil rfl rfl
  | number n =>
    cases n <;> cases h
    exact hasDistinctKeys_of_parts_eq_nil rfl rfl
  | string s =>
    cases s <;> cases h
    exact hasDistinctKeys_of_parts_eq_nil rfl rfl
  | broken => cases h
  | array level items tail =>
    rw [value] at h
    split at h
    · cases h
    · split at h
      · cases h
      · rename_i vs hvs
        cases tail <;> cases h
        exact hasDistinctKeys_array (hasDistinctKeys_values hvs)
  | object level members tail =>
    rw [value] at h
    split at h
    · cases h
    · split at h
      · cases h
      · rename_i vs hvs
        cases tail <;> cases h
        exact hasDistinctKeys_ofList (hasDistinctKeys_memberValues hvs)

lemma hasDistinctKeys_values {ds : List Draft} {vs : List Json} (h : values ds = .ok vs) :
    ∀ v ∈ vs, v.HasDistinctKeys := by
  cases ds with
  | nil =>
    cases h
    exact List.forall_mem_nil _
  | cons d ds =>
    rw [values] at h
    split at h
    · cases h
    · rename_i v hv
      obtain ⟨rest, hrest, rfl⟩ := map_eq_ok_iff.mp h
      exact List.forall_mem_cons.mpr ⟨hasDistinctKeys_value hv, hasDistinctKeys_values hrest⟩

lemma hasDistinctKeys_memberValues {ds : List (Member Draft)} {vs : List (String × Json)}
    (h : memberValues ds = .ok vs) : ∀ e ∈ vs, e.2.HasDistinctKeys := by
  match ds with
  | [] =>
    cases h
    exact List.forall_mem_nil _
  | ⟨key, _, _, d, _⟩ :: ds =>
    cases key with
    | error e => cases h
    | ok key =>
      rw [memberValues] at h
      split at h
      · cases h
      · rename_i v hv
        obtain ⟨rest, hrest, rfl⟩ := map_eq_ok_iff.mp h
        exact List.forall_mem_cons.mpr
          ⟨hasDistinctKeys_value hv, hasDistinctKeys_memberValues hrest⟩

end

end Draft

/-- What a decoder makes of a text it makes of a node. -/
lemma exists_of_decodeText_eq_ok {α : Type} {decode : Draft → Except Fault α} {s : String} {a : α}
    (h : decodeText decode s = .ok a) : ∃ d, decode d = .ok a := by
  rw [decodeText] at h
  obtain ⟨a', ha', h⟩ := bind_eq_ok_iff.mp h
  split at h
  · cases h
  · cases h
    exact ⟨_, ha'⟩

/-- Every value that is read from a JSON text has distinct keys. -/
theorem hasDistinctKeys_parse {s : String} {v : Json} (h : parse s = .ok v) :
    v.HasDistinctKeys := by
  obtain ⟨d, hd⟩ := exists_of_decodeText_eq_ok h
  exact d.hasDistinctKeys_value hd

end ApiContract.Json
