import ApiContract.Proofs.Json.DistinctKeys

/-!
# Values up to the order of members

Values are compared by looking up the members of one object in the other (`Json.same`). What this is
meant to decide is said apart from any look-up: a value is a reordering of another
(`Json.IsReordering`) when the items of arrays stand at the same places, objects have the same keys
in some order, and what is below them differs no more than that. Where every object has each of its
keys once, as in a value that is read from a text, the comparison decides just this
(`Json.same_iff`), and so it is an equivalence there (`Json.equivalence_same`).

Both values are taken apart along the first one (`Json.induction_parts`), since an item or a member
is compared with one of the other value that is found by its place or its key.
-/

namespace ApiContract.Json

/-! ### Reorderings -/

/-- A value differs from another in nothing but the order of members. Numbers of one kind are equal,
where the two zeros count as one. -/
inductive IsReordering : Json → Json → Prop where
  | null : IsReordering .null .null
  | bool (b : Bool) : IsReordering (.bool b) (.bool b)
  | integer (n : Int) : IsReordering (.number (.integer n)) (.number (.integer n))
  | real {x y : Binary64} (h : x = y ∨ x.significand = 0 ∧ y.significand = 0) :
    IsReordering (.number (.real x)) (.number (.real y))
  | string (s : String) : IsReordering (.string s) (.string s)
  | array {items others : List Json} (hlength : items.length = others.length)
    (hitems : ∀ (i : Nat) v w, items[i]? = some v → others[i]? = some w → IsReordering v w) :
    IsReordering (.array items) (.array others)
  | object {members others : List (String × Json)}
    (hkeys : (Table.keys members).Perm (Table.keys others))
    (hmembers : ∀ key v w, (key, v) ∈ members → (key, w) ∈ others → IsReordering v w) :
    IsReordering (.object members) (.object others)

namespace IsReordering

theorem symm {v w : Json} (h : v.IsReordering w) : w.IsReordering v := by
  induction h with
  | null => exact .null
  | bool b => exact .bool b
  | integer n => exact .integer n
  | real h => exact .real (h.imp Eq.symm And.symm)
  | string s => exact .string s
  | array hlength _ ih => exact .array hlength.symm fun i v w hv hw => ih i w v hw hv
  | object hkeys _ ih => exact .object hkeys.symm fun key v w hv hw => ih key w v hw hv

theorem trans {u v w : Json} (h : u.IsReordering v) (h' : v.IsReordering w) : u.IsReordering w := by
  induction h generalizing w with
  | null | bool | integer | string => exact h'
  | real h =>
    cases h' with
    | real h' =>
      rcases h with rfl | ⟨hx, hy⟩
      · exact .real h'
      · refine .real (.inr ⟨hx, ?_⟩)
        rcases h' with rfl | ⟨_, hz⟩
        · exact hy
        · exact hz
  | array hlength _ ih =>
    cases h' with
    | array hlength' hitems =>
      refine .array (hlength.trans hlength') fun i u w hu hw => ?_
      obtain ⟨hi, _⟩ := List.getElem?_eq_some_iff.mp hu
      have hv := List.getElem?_eq_getElem (hlength ▸ hi)
      exact ih i u _ hu hv (hitems i _ w hv hw)
  | object hkeys _ ih =>
    cases h' with
    | object hkeys' hmembers =>
      refine .object (hkeys.trans hkeys') fun key u w hu hw => ?_
      have hkey := hkeys.mem_iff.mp (List.mem_map_of_mem hu)
      obtain ⟨⟨_, v⟩, hv, rfl⟩ := List.mem_map.mp hkey
      exact ih _ u v hu hv (hmembers _ v w hv hw)

/-- A value with distinct keys is a reordering of itself. -/
theorem refl {v : Json} (h : v.HasDistinctKeys) : v.IsReordering v := by
  induction v using induction_parts with
  | h v ih =>
    obtain ⟨hkeys, hparts⟩ := throughout_iff.mp h
    cases v with
    | null => exact .null
    | bool b => exact .bool b
    | number n =>
      cases n with
      | integer n => exact .integer n
      | real x => exact .real (.inl rfl)
    | string s => exact .string s
    | array items =>
      refine .array rfl fun i v w hv hw => ?_
      obtain rfl : v = w := Option.some.inj (hv.symm.trans hw)
      have hmem := List.mem_of_getElem? hv
      exact ih v hmem (hparts v hmem)
    | object members =>
      refine .object (.refl _) fun key v w hv hw => ?_
      have hnodup := hkeys members rfl
      obtain rfl : v = w := congrArg Prod.snd (List.inj_on_of_nodup_map hnodup hv hw rfl)
      have hmem : v ∈ Table.values members := List.mem_map_of_mem hv
      exact ih v hmem (hparts v hmem)

end IsReordering

/-! ### The comparison -/

lemma same_number_iff {a b : Number} :
    (number a).same (number b) = true ↔ (number a).IsReordering (number b) := by
  rw [same]
  constructor
  · intro h
    fun_cases Number.same a b with
    | case1 m n =>
      obtain rfl : m = n := by simpa [Number.same] using h
      exact .integer m
    | case2 x y => exact .real ((Binary64.same_iff x y).mp h)
    | case3 =>
      rw [Number.same] at h
      · cases h
      all_goals assumption
  · intro h
    cases h with
    | integer n => simp [Number.same]
    | real h => exact (Binary64.same_iff _ _).mpr h

lemma sameItems_iff {items others : List Json} :
    sameItems items others = true ↔ items.length = others.length ∧
      ∀ (i : Nat) v w, items[i]? = some v → others[i]? = some w → v.same w = true := by
  induction items generalizing others with
  | nil => cases others <;> simp [sameItems]
  | cons v rest ih =>
    cases others with
    | nil => simp [sameItems]
    | cons w others =>
      rw [sameItems, Bool.and_eq_true, ih, List.length_cons, List.length_cons, Nat.succ_inj]
      constructor
      · rintro ⟨hfirst, hlength, hrest⟩
        refine ⟨hlength, fun i => ?_⟩
        cases i with
        | zero => simpa using hfirst
        | succ i => exact hrest i
      · rintro ⟨hlength, hall⟩
        exact ⟨hall 0 v w rfl rfl, hlength, fun i => hall (i + 1)⟩

lemma sameMembers_iff {members others : List (String × Json)} :
    sameMembers members others = true ↔
      ∀ e ∈ members, ∃ w, Table.find? e.1 others = some w ∧ e.2.same w = true := by
  induction members with
  | nil => simp [sameMembers]
  | cons e rest ih =>
    obtain ⟨key, v⟩ := e
    rw [sameMembers, Bool.and_eq_true, ih, List.forall_mem_cons]
    cases Table.find? key others <;> simp

lemma same_array_iff {items others : List Json} :
    (array items).same (array others) = true ↔ items.length = others.length ∧
      ∀ (i : Nat) v w, items[i]? = some v → others[i]? = some w → v.same w = true := by
  rw [same, sameItems_iff]

lemma same_object_iff {members others : List (String × Json)} (h : (Table.keys members).Nodup)
    (h' : (Table.keys others).Nodup) :
    (object members).same (object others) = true ↔
      (Table.keys members).Perm (Table.keys others) ∧
        ∀ key v w, (key, v) ∈ members → (key, w) ∈ others → v.same w = true := by
  rw [Table.perm_keys_iff_forall_find? h h' fun v w => v.same w = true, same, Bool.and_eq_true,
    beq_iff_eq, sameMembers_iff]

/-- Values with distinct keys are the same when they differ in the order of members at most. -/
theorem same_iff {v w : Json} (hv : v.HasDistinctKeys) (hw : w.HasDistinctKeys) :
    v.same w = true ↔ v.IsReordering w := by
  induction v using induction_parts generalizing w with
  | h v ih =>
    obtain ⟨hkeys, hparts⟩ := throughout_iff.mp hv
    obtain ⟨hkeys', hparts'⟩ := throughout_iff.mp hw
    have hbelow : ∀ a ∈ v.parts, ∀ b ∈ w.parts, (a.same b = true ↔ a.IsReordering b) :=
      fun a ha b hb => ih a ha (hparts a ha) (hparts' b hb)
    constructor
    · intro h
      fun_cases same v w with
      | case1 => exact .null
      | case2 a b =>
        obtain rfl : a = b := by simpa [same] using h
        exact .bool a
      | case3 a b => exact same_number_iff.mp h
      | case4 a b =>
        obtain rfl : a = b := by simpa [same] using h
        exact .string a
      | case5 items others =>
        obtain ⟨hlength, hitems⟩ := same_array_iff.mp h
        refine .array hlength fun i a b ha hb => ?_
        exact (hbelow a (List.mem_of_getElem? ha) b (List.mem_of_getElem? hb)).mp
          (hitems i a b ha hb)
      | case6 members others =>
        obtain ⟨hperm, hmembers⟩ := (same_object_iff (hkeys _ rfl) (hkeys' _ rfl)).mp h
        refine .object hperm fun key a b ha hb => ?_
        exact (hbelow a (List.mem_map_of_mem ha) b (List.mem_map_of_mem hb)).mp
          (hmembers key a b ha hb)
      | case7 =>
        rw [same] at h
        · cases h
        all_goals assumption
    · intro h
      cases h with
      | null => rfl
      | bool b => simp [same]
      | integer n => exact same_number_iff.mpr (.integer n)
      | real h => exact same_number_iff.mpr (.real h)
      | string s => simp [same]
      | array hlength hitems =>
        refine same_array_iff.mpr ⟨hlength, fun i a b ha hb => ?_⟩
        exact (hbelow a (List.mem_of_getElem? ha) b (List.mem_of_getElem? hb)).mpr
          (hitems i a b ha hb)
      | object hperm hmembers =>
        refine (same_object_iff (hkeys _ rfl) (hkeys' _ rfl)).mpr ⟨hperm, fun key a b ha hb => ?_⟩
        exact (hbelow a (List.mem_map_of_mem ha) b (List.mem_map_of_mem hb)).mpr
          (hmembers key a b ha hb)

/-- A value with distinct keys is the same as itself. -/
theorem same_self (v : Json) (h : v.HasDistinctKeys) : v.same v = true :=
  (same_iff h h).mpr (.refl h)

/-- With a repeated key it may not be, since only one of the two members is found. -/
example : (object [("a", .null), ("a", .bool true)]).same
    (object [("a", .null), ("a", .bool true)]) = false := by decide

/-- To be the same is an equivalence of values with distinct keys. -/
theorem equivalence_same :
    Equivalence fun v w : { v : Json // v.HasDistinctKeys } => v.1.same w.1 = true where
  refl v := same_self v.1 v.2
  symm {v w} h := (same_iff w.2 v.2).mpr ((same_iff v.2 w.2).mp h).symm
  trans {u v w} h h' :=
    (same_iff u.2 w.2).mpr (((same_iff u.2 v.2).mp h).trans ((same_iff v.2 w.2).mp h'))

end ApiContract.Json
