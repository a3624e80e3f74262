import ApiContract.Json.Source
import ApiContract.Proofs.Results
import ApiContract.Proofs.Table
import ApiContract.Spec.Basic

/-!
# Records that are read

A record is read member by member, and what all its fields keep is kept by the whole
(`record_preserves`).

A record that is written as an object has a member for each of its fields, in order, save for those
that are left out because they have their default. `Writes` describes such members by what each
field makes of the record so far; an object that is described so is read as the record at the end
(`record_eq_ok_of_writes`).
-/

namespace ApiContract.Decode

open Json

/-! ### What reading keeps -/

section Preserves

variable {ν ε α β : Type} {Inv : α → Prop}

/-- A field that keeps a property of the records it is read into. -/
def Field.Preserves (Inv : α → Prop) (field : Field ν ε α) : Prop :=
  ∀ v r r', Inv r → field.read v r = .ok r' → Inv r'

/-- A field that writes what is read keeps what writing keeps. -/
lemma preserves_of_set {name : String} {required : Bool} {read : ν → Except ε β} {set : β → α → α}
    (h : ∀ v x r, read v = .ok x → Inv r → Inv (set x r)) :
    Field.Preserves Inv ⟨name, required, fun v r => do return set (← read v) r⟩ := by
  intro v r r' hr hread
  obtain ⟨x, hx, hset⟩ := bind_eq_ok_iff.mp hread
  cases hset
  exact h v x r hx hr

lemma readItems_preserves {fields : List (Field ν ε α)}
    (h : ∀ field ∈ fields, field.Preserves Inv) {whole : String} {blame : Problem → ε}
    {index : Nat} {r result : α} (hr : Inv r) {items : List ν} {fault : Option ε}
    (hread : readItems whole blame index r fields items fault = .ok result) : Inv result := by
  induction fields generalizing index r items with
  | nil =>
    cases hread
    exact hr
  | cons field fields ih =>
    obtain ⟨hfield, hfields⟩ := List.forall_mem_cons.mp h
    cases items with
    | nil =>
      rw [readItems] at hread
      obtain ⟨_, _, hread⟩ := bind_eq_ok_iff.mp hread
      dsimp only at hread
      split at hread
      · cases hread
      · exact ih hfields hr hread
    | cons v rest =>
      rw [readItems] at hread
      obtain ⟨next, hnext, hread⟩ := bind_eq_ok_iff.mp hread
      exact ih hfields (hfield v r next hr hnext) hread

variable [Source ν ε]

lemma readMembers_preserves {fields : List (Field ν ε α)}
    (h : ∀ field ∈ fields, field.Preserves Inv) {members : List (Entry ν ε)}
    {state result : List String × α} (hstate : Inv state.2)
    (hread : readMembers fields state members = .ok result) : Inv result.2 := by
  induction members generalizing state with
  | nil =>
    cases hread
    exact hstate
  | cons m rest ih =>
    rw [readMembers] at hread
    obtain ⟨next, hnext, hrest⟩ := bind_eq_ok_iff.mp hread
    refine ih ?_ hrest
    rw [readMember] at hnext
    obtain ⟨key, _, hnext⟩ := bind_eq_ok_iff.mp hnext
    cases hfield : fields.find? (·.name == key) with
    | none =>
      rw [hfield] at hnext
      obtain ⟨_, _, hnext⟩ := bind_eq_ok_iff.mp hnext
      cases hnext
      exact hstate
    | some field =>
      rw [hfield] at hnext
      dsimp only at hnext
      split at hnext
      · cases hnext
      obtain ⟨r, hr, hnext⟩ := bind_eq_ok_iff.mp hnext
      cases hnext
      exact h field (List.mem_of_find?_eq_some hfield) _ _ _ hstate hr

/-- A record that is read has every property of the blank one that all fields keep. -/
theorem record_preserves {kind : String} {fields : List (Field ν ε α)}
    (h : ∀ field ∈ fields, field.Preserves Inv) {blank r : α} (hblank : Inv blank) {v : ν}
    (hread : record kind fields blank v = .ok r) : Inv r := by
  rw [record] at hread
  obtain ⟨layout, _, hread⟩ := bind_eq_ok_iff.mp hread
  cases layout with
  | table all =>
    obtain ⟨⟨seen, result⟩, hmembers, hread⟩ := bind_eq_ok_iff.mp hread
    obtain ⟨_, _, hread⟩ := bind_eq_ok_iff.mp hread
    have hresult : Inv result := readMembers_preserves h hblank hmembers
    split at hread
    · cases hread
    · cases hread
      exact hresult
  | list items =>
    obtain ⟨result, hitems, hread⟩ := bind_eq_ok_iff.mp hread
    obtain ⟨_, _, hread⟩ := bind_eq_ok_iff.mp hread
    cases hread
    exact readItems_preserves h hblank hitems

/-- A list that is read holds what its items are read as. -/
lemma forall_of_list_eq_ok {read : ν → Except ε β} {P : β → Prop}
    (h : ∀ v x, read v = .ok x → P x) {v : ν} {xs : List β} (hread : list read v = .ok xs) :
    ∀ x ∈ xs, P x := by
  obtain ⟨items, _, hread⟩ := bind_eq_ok_iff.mp hread
  obtain ⟨values, hvalues, hread⟩ := bind_eq_ok_iff.mp hread
  obtain ⟨_, _, hread⟩ := bind_eq_ok_iff.mp hread
  cases hread
  intro x hx
  obtain ⟨w, _, hw⟩ := exists_of_mem_mapM hvalues hx
  exact h w x hw

/-- A table that is read has its keys once and holds what its values are read as. -/
lemma nodup_and_forall_of_table_eq_ok {read : ν → Except ε β} {P : β → Prop}
    (h : ∀ v x, read v = .ok x → P x) {v : ν} {t : Table String β}
    (hread : table read v = .ok t) : t.keys.Nodup ∧ ∀ e ∈ t, P e.2 := by
  obtain ⟨values, hvalues, hread⟩ := bind_eq_ok_iff.mp hread
  cases hread
  refine ⟨Table.nodup_keys_ofList values, fun e he => ?_⟩
  obtain ⟨all, _, hvalues⟩ := bind_eq_ok_iff.mp hvalues
  obtain ⟨entries, hentries, hvalues⟩ := bind_eq_ok_iff.mp hvalues
  obtain ⟨_, _, hvalues⟩ := bind_eq_ok_iff.mp hvalues
  cases hvalues
  obtain ⟨m, _, hm⟩ := exists_of_mem_mapM hentries (Table.mem_of_mem_ofList he)
  obtain ⟨key, _, hm⟩ := bind_eq_ok_iff.mp hm
  obtain ⟨x, hx, hm⟩ := bind_eq_ok_iff.mp hm
  cases hm
  exact h _ _ hx

end Preserves

/-! ### Values of a program -/

section Values

variable {α β γ : Type}

@[simp] lemma text_string (s : String) : Source.text (Json.string s) = (.ok s : Except Problem _) :=
  rfl

/-- A value other than null is there. -/
lemma optional_eq_ok {read : Json → Except Problem α} {v : Json} {x : α} (hv : v ≠ .null)
    (hread : read v = .ok x) : optional read v = .ok (some x) := by
  have hnull : Source.isNull v = (.ok false : Except Problem Bool) := by
    cases v with
    | null => exact absurd rfl hv
    | _ => rfl
  rw [optional, hnull, ok_bind, if_neg Bool.false_ne_true, hread]
  rfl

/-- A list of written items is read item by item. -/
lemma list_map_eq_ok {read : Json → Except Problem β} {write : α → Json} {back : α → β}
    {items : List α} (h : ∀ x ∈ items, read (write x) = .ok (back x)) :
    list read (.array (items.map write)) = .ok (items.map back) := by
  have hitems : (items.map write).mapM read = .ok (items.map back) := by
    rw [List.mapM_map]
    exact mapM_eq_ok_of_forall h
  have hlist : Source.list (Json.array (items.map write)) = .ok (itemsOf (items.map write)) := rfl
  rw [list, hlist, ok_bind]
  simp only [itemsOf, hitems]
  rfl

/-- A table of written values is read value by value. -/
lemma table_map_eq_ok {read : Json → Except Problem β} (write : α → Json) (back : α → β)
    {t : Table String α} (ht : t.keys.Nodup) (h : ∀ e ∈ t, read (write e.2) = .ok (back e.2)) :
    table read (.object (t.map fun e => (e.1, write e.2))) =
      .ok (t.map fun e => (e.1, back e.2)) := by
  have hmembers : (t.map fun e => ((⟨.ok e.1, write e.2, id⟩ : Entry Json Problem))).mapM
      (fun m => do return ((← m.key), (← read m.value))) =
        .ok (t.map fun e => (e.1, back e.2)) := by
    rw [List.mapM_map]
    refine mapM_eq_ok_of_forall fun e he => ?_
    rw [Function.comp_apply, h e he]
    rfl
  have hkeys : (Table.keys (t.map fun e => (e.1, back e.2))).Nodup := by
    rw [Table.keys, List.map_map]
    exact ht
  have htable : Source.table (Json.object (t.map fun e => (e.1, write e.2))) =
    .ok (entriesOf (t.map fun e => (e.1, write e.2))) := rfl
  rw [table, entries, htable, ok_bind]
  simp only [entriesOf, List.map_map, Function.comp_def, hmembers, ok_bind, raise?]
  exact congrArg Except.ok (Table.ofList_of_nodup hkeys)

end Values

/-! ### Members written for fields -/

section Writes

variable {α : Type}

/-- Members written for fields in order take one record to another: a field has its member and is
read from it, or it need not be there and is left out. -/
inductive Writes : List (Field Json Problem α) → α → List (String × Json) → α → Prop
  | nil (r : α) : Writes [] r [] r
  | present {field : Field Json Problem α} {fields : List (Field Json Problem α)} {v : Json}
      {r next last : α} {members : List (String × Json)} (hread : field.read v r = .ok next)
      (hrest : Writes fields next members last) :
      Writes (field :: fields) r ((field.name, v) :: members) last
  | absent {field : Field Json Problem α} {fields : List (Field Json Problem α)} {r last : α}
      {members : List (String × Json)} (hoptional : field.required = false)
      (hrest : Writes fields r members last) : Writes (field :: fields) r members last

section Set

variable {β γ : Type} {name : String} {fields : List (Field Json Problem α)} {r last : α}
  {members : List (String × Json)}

/-- A member from which the value of a field is read. -/
lemma Writes.set {required : Bool} {read : Json → Except Problem β} {set : β → α → α} {v : Json}
    {x : β} (hread : read v = .ok x) (hrest : Writes fields (set x r) members last) :
    Writes (⟨name, required, fun v r => do return set (← read v) r⟩ :: fields) r
      ((name, v) :: members) last := by
  have hset : (do return set (← read v) r : Except Problem α) = .ok (set x r) := by
    rw [hread]
    rfl
  exact .present hset hrest

/-- A member that is left out when a field has no value, as in the record so far. -/
lemma Writes.setIfSome {read : Json → Except Problem β} {set : Option β → α → α} {o : Option γ}
    {write : γ → Json} {back : γ → β}
    (hread : ∀ x, write x ≠ .null ∧ read (write x) = .ok (back x)) (hnone : set none r = r)
    (hrest : Writes fields (set (o.map back) r) members last) :
    Writes (⟨name, false, fun v r => do return set (← optional read v) r⟩ :: fields) r
      (memberIfSome name (o.map write) ++ members) last := by
  cases o with
  | none =>
    rw [Option.map_none, hnone] at hrest
    exact .absent rfl hrest
  | some x =>
    obtain ⟨hnull, hx⟩ := hread x
    exact .set (optional_eq_ok hnull hx) hrest

/-- A member that is left out when the list of a field is empty, as in the record so far. -/
lemma Writes.setIfAny {read : Json → Except Problem β} {set : List β → α → α} {items : List γ}
    {write : γ → Json} {back : γ → β} (hread : ∀ x ∈ items, read (write x) = .ok (back x))
    (hnil : set [] r = r) (hrest : Writes fields (set (items.map back) r) members last) :
    Writes (⟨name, false, fun v r => do return set (← list read v) r⟩ :: fields) r
      ((if items.isEmpty then [] else [(name, .array (items.map write))]) ++ members) last := by
  cases items with
  | nil =>
    rw [List.map_nil, hnil] at hrest
    exact .absent rfl hrest
  | cons x rest => exact .set (list_map_eq_ok hread) hrest

/-- The same for the last member. -/
lemma Writes.setIfAnyLast {read : Json → Except Problem β} {set : List β → α → α} {items : List γ}
    {write : γ → Json} {back : γ → β} (hread : ∀ x ∈ items, read (write x) = .ok (back x))
    (hnil : set [] r = r) (hlast : set (items.map back) r = last) :
    Writes [⟨name, false, fun v r => do return set (← list read v) r⟩] r
      (if items.isEmpty then [] else [(name, .array (items.map write))]) last := by
  have hmembers : (if items.isEmpty then [] else [(name, Json.array (items.map write))]) =
      (if items.isEmpty then [] else [(name, Json.array (items.map write))]) ++ [] :=
    (List.append_nil _).symm
  rw [hmembers]
  exact .setIfAny hread hnil (hlast ▸ .nil _)

end Set

/-- Among fields of different names, the one of a name is found. -/
lemma find?_name {fields : List (Field Json Problem α)} (h : (fields.map Field.name).Nodup)
    {field : Field Json Problem α} (hfield : field ∈ fields) :
    fields.find? (·.name == field.name) = some field := by
  obtain ⟨n, hn⟩ := List.mem_iff_getElem?.mp hfield
  have hfound := (find?_key_of_nodup Field.name h hn).1
  rw [← hfound]
  rfl

/-- Reading the members of an object that are written for fields not read before. -/
lemma readMembers_of_writes {all fields : List (Field Json Problem α)} {r last : α}
    {members : List (String × Json)} (h : Writes fields r members last)
    (hall : (all.map Field.name).Nodup) (hfields : fields <:+ all) (seen : List String)
    (hseen : ∀ field ∈ fields, field.name ∉ seen) :
    ∃ seen', readMembers all (seen, r) (entriesOf members).members = .ok (seen', last) ∧
      seen ⊆ seen' ∧ ∀ field ∈ fields, field.required = true → field.name ∈ seen' := by
  induction h generalizing seen with
  | nil r => exact ⟨seen, rfl, List.Subset.refl _, fun _ h => absurd h List.not_mem_nil⟩
  | @present field fields v r next last members hread hrest ih =>
    have hnames : ((field :: fields).map Field.name).Nodup :=
      hall.sublist (hfields.sublist.map Field.name)
    obtain ⟨hnew, _⟩ := List.nodup_cons.mp hnames
    have hmember : readMember all seen r ⟨.ok field.name, v, id⟩ =
        .ok (field.name :: seen, next) := by
      have hfind := find?_name hall (hfields.subset List.mem_cons_self)
      have hnot : seen.contains field.name = false := by
        simpa using hseen field List.mem_cons_self
      simp only [readMember, ok_bind, hfind, hnot, hread]
      rfl
    have hseen' : ∀ other ∈ fields, other.name ∉ field.name :: seen := by
      intro other hother hmem
      rcases List.mem_cons.mp hmem with heq | hmem
      · exact hnew (heq ▸ List.mem_map_of_mem hother)
      · exact hseen other (List.mem_cons_of_mem _ hother) hmem
    obtain ⟨seen', hmembers, hsubset, hrequired⟩ :=
      ih ((List.suffix_cons _ _).trans hfields) (field.name :: seen) hseen'
    refine ⟨seen', ?_, fun name hname => hsubset (List.mem_cons_of_mem _ hname), ?_⟩
    · rw [entriesOf, List.map_cons, readMembers, hmember]
      exact hmembers
    · refine List.forall_mem_cons.mpr ⟨fun _ => hsubset List.mem_cons_self, hrequired⟩
  | @absent field fields r last members hoptional hrest ih =>
    obtain ⟨seen', hmembers, hsubset, hrequired⟩ :=
      ih ((List.suffix_cons _ _).trans hfields) seen
        fun other hother => hseen other (List.mem_cons_of_mem _ hother)
    refine ⟨seen', hmembers, hsubset, List.forall_mem_cons.mpr ⟨fun h => ?_, hrequired⟩⟩
    rw [hoptional] at h
    cases h

/-- An object with the members of its fields is read as the record that they make. -/
theorem record_eq_ok_of_writes {kind : String} {fields : List (Field Json Problem α)}
    {blank r : α} {members : List (String × Json)} (hnames : (fields.map Field.name).Nodup)
    (h : Writes fields blank members r) : record kind fields blank (.object members) = .ok r := by
  obtain ⟨seen, hmembers, _, hrequired⟩ := readMembers_of_writes h hnames (List.suffix_refl _) []
    fun _ _ => List.not_mem_nil
  have hnone : (fields.find? fun f => f.required && !seen.contains f.name) = none := by
    rw [List.find?_eq_none]
    intro field hfield
    cases hreq : field.required with
    | false => simp
    | true => simpa using hrequired field hfield hreq
  have hrecord : Source.record ("struct " ++ kind) (Json.object members) =
    .ok (.table (entriesOf members)) := rfl
  rw [record, hrecord, ok_bind]
  simp only [hmembers, ok_bind, hnone]
  rfl

end Writes

end ApiContract.Decode
