import ApiContract.Table
import Mathlib.Data.List.Induction
import Mathlib.Data.List.Nodup
import Mathlib.Data.List.Perm.Subperm

/-!
# Tables that group items

A table that is written one item at a time can be described by its items: its keys stand in order of
first use, and the value of a key is made of the items of that key alone. `Table.groupBy` is that
description and `Table.groupBy_concat` says what one more item does to it. A table that is there
already and is changed one item at a time keeps its keys in place and gets the new ones behind them
(`Table.keys_foldl_alter`, `Table.find?_foldl_alter`).

The order of first use is `List.eraseDups`; what one more item does to such a list is
`eraseDupsBy_concat`.
-/

namespace ApiContract

/-! ### First occurrences -/

section FirstOccurrences

variable {α : Type}

/-- One more item is looked up among those that were kept. -/
lemma eraseDupsBy_loop_concat (r : α → α → Bool) (as kept : List α) (a : α) :
    List.eraseDupsBy.loop r (as ++ [a]) kept =
      if (List.eraseDupsBy.loop r as kept).any (r a) then List.eraseDupsBy.loop r as kept
      else List.eraseDupsBy.loop r as kept ++ [a] := by
  induction as generalizing kept with
  | nil =>
    simp only [List.nil_append, List.eraseDupsBy.loop, List.any_reverse]
    cases kept.any (r a) <;> simp
  | cons b rest ih =>
    rw [List.cons_append, List.eraseDupsBy.loop, List.eraseDupsBy.loop]
    cases kept.any (r b) with
    | true => exact ih kept
    | false => exact ih (b :: kept)

/-- One more item is kept unless it repeats an earlier one. -/
theorem eraseDupsBy_concat (r : α → α → Bool) (as : List α) (a : α) :
    (as ++ [a]).eraseDupsBy r =
      if (as.eraseDupsBy r).any (r a) then as.eraseDupsBy r else as.eraseDupsBy r ++ [a] :=
  eraseDupsBy_loop_concat r as [] a

variable [BEq α]

lemma eraseDups_eq_nil_iff (as : List α) : as.eraseDups = [] ↔ as = [] := by
  cases as with
  | nil => simp
  | cons a rest => simp [List.eraseDups_cons]

variable [LawfulBEq α]

/-- The same for equality, where an item repeats an earlier one when it is among them. -/
theorem eraseDups_concat (as : List α) (a : α) [Decidable (a ∈ as)] :
    (as ++ [a]).eraseDups = if a ∈ as then as.eraseDups else as.eraseDups ++ [a] := by
  have hany : (as.eraseDups.any fun b => a == b) = true ↔ a ∈ as := by
    rw [List.any_eq_true]
    constructor
    · rintro ⟨b, hb, hab⟩
      rw [eq_of_beq hab]
      exact List.mem_eraseDups.mp hb
    · intro h
      exact ⟨a, List.mem_eraseDups.mpr h, beq_self_eq_true a⟩
  rw [List.eraseDups, eraseDupsBy_concat]
  by_cases h : a ∈ as
  · rw [if_pos h]
    exact if_pos (hany.mpr h)
  · rw [if_neg h]
    exact if_neg fun hc => h (hany.mp hc)

theorem nodup_eraseDups (as : List α) : as.eraseDups.Nodup := by
  classical
  induction as using List.reverseRecOn with
  | nil => exact List.nodup_nil
  | append_singleton as a ih =>
    rw [eraseDups_concat]
    split
    · exact ih
    · rename_i h
      rw [← List.concat_eq_append]
      exact ih.concat fun hc => h (List.mem_eraseDups.mp hc)

end FirstOccurrences

namespace Table

variable {ι κ α β : Type} [DecidableEq κ]

/-! ### Look-ups -/

@[simp] theorem find?_cons (key other : κ) (v : α) (t : Table κ α) :
    find? key ((other, v) :: t) = if other = key then some v else find? key t := rfl

/-- A key is found exactly when it is one of the keys. -/
theorem find?_eq_none_iff (key : κ) (t : Table κ α) : t.find? key = none ↔ key ∉ t.keys := by
  induction t with
  | nil => simp [keys]
  | cons e rest ih =>
    obtain ⟨k, v⟩ := e
    have hrest : find? key rest = none ↔ key ∉ List.map Prod.fst rest := ih
    by_cases h : k = key
    · simp [keys, h]
    · have hne : ¬ key = k := fun he => h he.symm
      simp [keys, h, hne, hrest]

/-- Without repeated keys, what stands in a table is found. -/
theorem find?_of_mem {key : κ} {v : α} {t : Table κ α} (ht : t.keys.Nodup) (h : (key, v) ∈ t) :
    t.find? key = some v := by
  induction t with
  | nil => cases h
  | cons e rest ih =>
    obtain ⟨k, w⟩ := e
    obtain ⟨hk, hrest⟩ := List.nodup_cons.mp (show (k :: keys rest).Nodup from ht)
    rw [find?_cons]
    rcases List.mem_cons.mp h with he | he
    · cases he
      exact if_pos rfl
    · have hne : k ≠ key := fun hkk => hk (hkk ▸ List.mem_map_of_mem he)
      rw [if_neg hne]
      exact ih hrest he

/-- What is found stands in the table. -/
theorem mem_of_find?_eq_some {key : κ} {v : α} {t : Table κ α} (h : t.find? key = some v) :
    (key, v) ∈ t := by
  induction t with
  | nil => cases h
  | cons e rest ih =>
    obtain ⟨k, w⟩ := e
    rw [find?_cons] at h
    split at h
    · rename_i hk
      cases h
      exact hk ▸ List.mem_cons_self
    · exact List.mem_cons_of_mem _ (ih h)

/-- Without repeated keys, an entry is the only one of its key. -/
theorem filter_of_mem {key : κ} {v : α} {t : Table κ α} (ht : t.keys.Nodup) (h : (key, v) ∈ t) :
    t.filter (fun e => e.1 = key) = [(key, v)] := by
  induction t with
  | nil => cases h
  | cons e rest ih =>
    obtain ⟨k, w⟩ := e
    obtain ⟨hk, hrest⟩ := List.nodup_cons.mp (show (k :: keys rest).Nodup from ht)
    rcases List.mem_cons.mp h with he | he
    · cases he
      have hnone : rest.filter (fun e => e.1 = key) = [] := by
        refine List.filter_eq_nil_iff.mpr fun e hmem => ?_
        have hne : e.1 ≠ key := fun hek => hk (hek ▸ List.mem_map_of_mem hmem)
        simpa using hne
      simp [hnone]
    · have hne : k ≠ key := fun hkk => hk (hkk ▸ List.mem_map_of_mem he)
      simpa [hne] using ih hrest he

/-- Tables without repeated keys are equal when their keys are and all look-ups agree. -/
theorem ext_find? {s t : Table κ α} (hs : s.keys.Nodup) (hk : s.keys = t.keys)
    (hf : ∀ key ∈ s.keys, s.find? key = t.find? key) : s = t := by
  induction s generalizing t with
  | nil => exact (List.map_eq_nil_iff.mp hk.symm).symm
  | cons e rest ih =>
    obtain ⟨k, v⟩ := e
    cases t with
    | nil => cases hk
    | cons e' rest' =>
      obtain ⟨k', v'⟩ := e'
      obtain ⟨hkk, hrest⟩ : k = k' ∧ keys rest = keys rest' := by simpa [keys] using hk
      subst hkk
      obtain ⟨hnot, hnodup⟩ := List.nodup_cons.mp (show (k :: keys rest).Nodup from hs)
      have hv : v = v' := by simpa using hf k List.mem_cons_self
      subst hv
      have htail : rest = rest' := by
        refine ih hnodup hrest fun key hkey => ?_
        have hne : k ≠ key := fun he => hnot (he ▸ hkey)
        simpa [hne] using hf key (List.mem_cons_of_mem _ hkey)
      rw [htail]

/-- Tables without repeated keys have the same keys, and related values for each of them, when they
are of one length and each entry of the first is found in the second with a related value. -/
theorem perm_keys_iff_forall_find? {s : Table κ α} {t : Table κ β} (hs : s.keys.Nodup)
    (ht : t.keys.Nodup) (R : α → β → Prop) :
    (s.keys.Perm t.keys ∧ ∀ key v w, (key, v) ∈ s → (key, w) ∈ t → R v w) ↔
      s.length = t.length ∧ ∀ e ∈ s, ∃ w, t.find? e.1 = some w ∧ R e.2 w := by
  constructor
  · rintro ⟨hkeys, hrelated⟩
    refine ⟨by simpa [keys] using hkeys.length_eq, fun e he => ?_⟩
    have hkey : e.1 ∈ t.keys := hkeys.mem_iff.mp (List.mem_map_of_mem he)
    obtain ⟨⟨_, w⟩, hw, rfl⟩ := List.mem_map.mp hkey
    exact ⟨w, find?_of_mem ht hw, hrelated e.1 e.2 w he hw⟩
  · rintro ⟨hlength, hfound⟩
    have hsubset : s.keys ⊆ t.keys := fun key hkey => by
      obtain ⟨e, he, rfl⟩ := List.mem_map.mp hkey
      obtain ⟨w, hw, _⟩ := hfound e he
      exact List.mem_map_of_mem (mem_of_find?_eq_some hw)
    refine ⟨(hs.subperm hsubset).perm_of_length_le (by simp [keys, hlength]), ?_⟩
    intro key v w hv hw
    obtain ⟨w', hw', hR⟩ := hfound _ hv
    obtain rfl : w = w' := Option.some.inj ((find?_of_mem ht hw).symm.trans hw')
    exact hR

/-- Changing a value is writing what it is changed to. -/
theorem alter_eq_insert (key : κ) (f : Option α → α) (t : Table κ α) :
    t.alter key f = t.insert key (f (t.find? key)) := by
  induction t with
  | nil => rfl
  | cons e rest ih =>
    obtain ⟨k, v⟩ := e
    by_cases h : k = key
    · simp [alter, insert, h]
    · have ih' : alter key f rest = alter key (fun _ => f (find? key rest)) rest := ih
      simp [alter, insert, h, ih']

/-- Writing a new key puts it last. -/
theorem insert_of_not_mem {key : κ} {t : Table κ α} (h : key ∉ t.keys) (v : α) :
    t.insert key v = t ++ [(key, v)] := by
  induction t with
  | nil => rfl
  | cons e rest ih =>
    obtain ⟨k, w⟩ := e
    obtain ⟨hne, hrest⟩ : key ≠ k ∧ key ∉ keys rest := by simpa [keys] using h
    have hkk : k ≠ key := fun he => hne he.symm
    have ih' : alter key (fun _ => v) rest = rest ++ [(key, v)] := ih hrest
    simp [insert, alter, hkk, ih']

/-- To write the value that a key has changes nothing. -/
theorem insert_of_find?_eq_some {key : κ} {v : α} {t : Table κ α} (h : t.find? key = some v) :
    t.insert key v = t := by
  induction t with
  | nil => cases h
  | cons e rest ih =>
    obtain ⟨k, w⟩ := e
    rw [find?_cons] at h
    by_cases hk : k = key
    · rw [if_pos hk] at h
      cases h
      simp [insert, alter, hk]
    · rw [if_neg hk] at h
      have hrest : alter key (fun _ => v) rest = rest := ih h
      simp [insert, alter, hk, hrest]

/-- A table gets longer by an entry of a new key only. -/
theorem length_insert (key : κ) (v : α) (t : Table κ α) :
    (t.insert key v).length = if (t.find? key).isSome then t.length else t.length + 1 := by
  have hlength : ∀ s : Table κ α, s.length = s.keys.length := fun s => (List.length_map _).symm
  rw [hlength, hlength, keys_insert]
  by_cases h : key ∈ t.keys
  · rw [if_pos h, if_pos]
    exact Option.isSome_iff_ne_none.mpr fun hnone => (find?_eq_none_iff key t).mp hnone h
  · rw [if_neg h, (find?_eq_none_iff key t).mpr h]
    simp

/-- Entries of new keys without repetition are written behind the others. -/
theorem insertAll_of_nodup {entries : List (κ × α)} {t : Table κ α}
    (h : (t ++ entries).keys.Nodup) : t.insertAll entries = t ++ entries := by
  induction entries generalizing t with
  | nil => exact (List.append_nil t).symm
  | cons e rest ih =>
    have hnew : e.1 ∉ t.keys := by
      rw [keys, List.map_append, List.nodup_append] at h
      exact fun hmem => h.2.2 e.1 hmem e.1 (by simp) rfl
    have hsplit : t ++ e :: rest = (t ++ [e]) ++ rest := by simp
    rw [hsplit] at h ⊢
    rw [← ih h, insertAll, List.foldl_cons, insert_of_not_mem hnew]
    rfl

/-- No key is there twice after entries were written. -/
theorem nodup_keys_insertAll {t : Table κ α} (h : t.keys.Nodup) (entries : List (κ × α)) :
    (t.insertAll entries).keys.Nodup := by
  induction entries generalizing t with
  | nil => exact h
  | cons e rest ih => exact ih (nodup_keys_alter h)

/-- The table of entries has each of its keys once. -/
theorem nodup_keys_ofList (entries : List (κ × α)) : (ofList entries).keys.Nodup :=
  nodup_keys_insertAll (t := []) List.nodup_nil entries

/-- The table of entries without a repeated key is the entries. -/
theorem ofList_of_nodup {entries : List (κ × α)} (h : (keys entries).Nodup) :
    ofList entries = entries :=
  insertAll_of_nodup (t := []) h

/-- Nothing but the written entry is new. -/
lemma eq_or_mem_of_mem_insert {key : κ} {v : α} {t : Table κ α} {e : κ × α}
    (h : e ∈ t.insert key v) : e = (key, v) ∨ e ∈ t := by
  induction t with
  | nil => exact Or.inl (List.mem_singleton.mp h)
  | cons first rest ih =>
    obtain ⟨k, w⟩ := first
    rw [insert, alter] at h
    split at h
    · rename_i hk
      rcases List.mem_cons.mp h with rfl | h
      · exact Or.inl (by rw [hk])
      · exact Or.inr (List.mem_cons_of_mem _ h)
    · rcases List.mem_cons.mp h with rfl | h
      · exact Or.inr List.mem_cons_self
      · exact (ih h).imp_right (List.mem_cons_of_mem _)

lemma mem_or_mem_of_mem_insertAll {entries : List (κ × α)} {t : Table κ α} {e : κ × α}
    (h : e ∈ t.insertAll entries) : e ∈ t ∨ e ∈ entries := by
  induction entries generalizing t with
  | nil => exact Or.inl h
  | cons first rest ih =>
    rcases ih h with h | h
    · rcases eq_or_mem_of_mem_insert h with rfl | h
      · exact Or.inr List.mem_cons_self
      · exact Or.inl h
    · exact Or.inr (List.mem_cons_of_mem _ h)

/-- A table holds nothing but its entries. -/
theorem mem_of_mem_ofList {entries : List (κ × α)} {e : κ × α} (h : e ∈ ofList entries) :
    e ∈ entries :=
  (mem_or_mem_of_mem_insertAll h).resolve_left List.not_mem_nil

/-- A key that was taken out is not found any more, and other keys keep their values. -/
theorem find?_erase (key other : κ) (t : Table κ α) :
    (t.erase key).find? other = if key = other then none else t.find? other := by
  induction t with
  | nil => simp [erase]
  | cons e rest ih =>
    obtain ⟨k, v⟩ := e
    simp only [erase] at ih ⊢
    by_cases hk : k = key
    · subst hk
      by_cases h : k = other
      · simpa [h] using ih
      · simpa [h] using ih
    · by_cases h : k = other
      · subst h
        have hne : ¬ key = k := fun he => hk he.symm
        simp [hk, hne]
      · simpa [hk, h] using ih

/-- A key is looked up in the second of two tables when the first does not have it. -/
theorem find?_append (key : κ) (s t : Table κ α) :
    find? key (s ++ t) = (find? key s).or (find? key t) := by
  induction s with
  | nil => rfl
  | cons e rest ih =>
    obtain ⟨k, v⟩ := e
    rw [List.cons_append, find?_cons, find?_cons, ih]
    split <;> rfl

/-- Changing every value changes the one that is found. -/
theorem find?_map_value (f : α → β) (key : κ) (t : Table κ α) :
    find? key (t.map fun e => (e.1, f e.2)) = (t.find? key).map f := by
  induction t with
  | nil => rfl
  | cons e rest ih =>
    obtain ⟨k, v⟩ := e
    rw [List.map_cons, find?_cons, find?_cons, ih]
    split <;> rfl

/-- Taking out a key that is not there changes nothing. -/
theorem erase_of_find?_eq_none {key : κ} {t : Table κ α} (h : t.find? key = none) :
    t.erase key = t := by
  rw [find?_eq_none_iff] at h
  refine List.filter_eq_self.mpr fun e he => decide_eq_true fun hk => ?_
  exact h (hk ▸ List.mem_map_of_mem he)

/-! ### Changes one after another -/

/-- The keys that are not known yet, each at its first place. -/
def newKeys (known keys : List κ) : List κ := (keys.filter fun k => k ∉ known).eraseDups

/-- One more key is new when it is neither known nor among those before it. -/
lemma newKeys_concat (known keys : List κ) (k : κ) :
    newKeys known (keys ++ [k]) =
      if k ∈ known ++ newKeys known keys then newKeys known keys
      else newKeys known keys ++ [k] := by
  rw [newKeys, List.filter_append]
  by_cases hknown : k ∈ known
  · have hnone : [k].filter (fun k => k ∉ known) = [] :=
      List.filter_cons_of_neg (by simpa using hknown)
    rw [hnone, List.append_nil, if_pos (List.mem_append_left _ hknown)]
    rfl
  · have hsome : [k].filter (fun k => k ∉ known) = [k] :=
      List.filter_cons_of_pos (by simpa using hknown)
    have hmem : k ∈ known ++ newKeys known keys ↔ k ∈ keys.filter fun k => k ∉ known := by
      rw [List.mem_append, newKeys, List.mem_eraseDups]
      exact or_iff_right hknown
    rw [hsome, eraseDups_concat]
    exact if_congr hmem.symm rfl rfl

section

variable (key : ι → κ) (change : ι → Option α → α)

/-- Changes keep the keys in order and put the new ones last. -/
theorem keys_foldl_alter (items : List ι) (t : Table κ α) :
    (items.foldl (fun t i => t.alter (key i) (change i)) t).keys =
      t.keys ++ newKeys t.keys (items.map key) := by
  induction items using List.reverseRecOn with
  | nil => exact (List.append_nil _).symm
  | append_singleton items i ih =>
    rw [List.foldl_append, List.foldl_cons, List.foldl_nil, keys_alter, ih, List.map_append,
      List.map_singleton, newKeys_concat]
    split
    · rfl
    · exact List.append_assoc _ _ _

/-- The value of a key is changed by the items of that key, in order. -/
theorem find?_foldl_alter (k : κ) (items : List ι) (t : Table κ α) :
    (items.foldl (fun t i => t.alter (key i) (change i)) t).find? k =
      (items.filter fun i => key i = k).foldl (fun v i => some (change i v)) (t.find? k) := by
  induction items generalizing t with
  | nil => rfl
  | cons i rest ih =>
    rw [List.foldl_cons, ih, find?_alter]
    by_cases hk : key i = k
    · rw [if_pos hk, List.filter_cons_of_pos (by simpa using hk), List.foldl_cons, hk]
    · rw [if_neg hk, List.filter_cons_of_neg (by simpa using hk)]

end

/-- Written entries keep the keys in order and put the new ones last. -/
theorem keys_insertAll (entries : List (κ × α)) (t : Table κ α) :
    (t.insertAll entries).keys = t.keys ++ newKeys t.keys (entries.map Prod.fst) :=
  keys_foldl_alter Prod.fst (fun e _ => e.2) entries t

/-- Of the entries written for a key, the last one is found. -/
theorem find?_insertAll (k : κ) (entries : List (κ × α)) (t : Table κ α) :
    (t.insertAll entries).find? k = (find? k entries.reverse).or (t.find? k) := by
  induction entries using List.reverseRecOn with
  | nil => rfl
  | append_singleton entries e ih =>
    obtain ⟨other, v⟩ := e
    rw [insertAll, List.foldl_append, List.foldl_cons, List.foldl_nil, find?_insert,
      List.reverse_append, List.reverse_singleton, List.singleton_append, find?_cons]
    by_cases hk : other = k
    · rw [if_pos hk, if_pos hk, Option.some_or]
    · rw [if_neg hk, if_neg hk]
      exact ih

/-! ### Grouping -/

/-- The keys of items in order of first use, each with a value made of the items of that key. -/
def groupBy (key : ι → κ) (value : κ → List ι → α) (items : List ι) : Table κ α :=
  (items.map key).eraseDups.map fun k => (k, value k (items.filter fun i => key i = k))

variable (key : ι → κ) (value : κ → List ι → α)

@[simp] theorem keys_groupBy (items : List ι) :
    (groupBy key value items).keys = (items.map key).eraseDups := by
  simp [groupBy, keys, Function.comp_def]

theorem nodup_keys_groupBy (items : List ι) : (groupBy key value items).keys.Nodup := by
  rw [keys_groupBy]
  exact nodup_eraseDups _

lemma groupBy_eq_nil_iff (items : List ι) : groupBy key value items = [] ↔ items = [] := by
  rw [groupBy, List.map_eq_nil_iff, eraseDups_eq_nil_iff, List.map_eq_nil_iff]

/-- The value of a key is made of its own items; a key that no item has is not found. -/
theorem find?_groupBy (items : List ι) (k : κ) [Decidable (k ∈ items.map key)] :
    (groupBy key value items).find? k =
      if k ∈ items.map key then some (value k (items.filter fun i => key i = k)) else none := by
  split
  · rename_i h
    refine find?_of_mem (nodup_keys_groupBy key value items) ?_
    exact List.mem_map.mpr ⟨k, List.mem_eraseDups.mpr h, rfl⟩
  · rename_i h
    rw [find?_eq_none_iff, keys_groupBy, List.mem_eraseDups]
    exact h

/-- One more item writes the value made of it and of the earlier items of its key. -/
theorem groupBy_concat (items : List ι) (i : ι) :
    groupBy key value (items ++ [i]) =
      (groupBy key value items).insert (key i)
        (value (key i) ((items.filter fun j => key j = key i) ++ [i])) := by
  refine ext_find? (nodup_keys_groupBy key value _) ?_ fun k _ => ?_
  · rw [keys_insert, keys_groupBy, keys_groupBy, List.map_append, List.map_singleton,
      eraseDups_concat]
    simp only [List.mem_eraseDups]
  · rw [find?_insert, find?_groupBy, find?_groupBy]
    by_cases hk : key i = k
    · simp [hk]
    · have hne : ¬ k = key i := fun h => hk h.symm
      simp [hk, hne]

end Table

end ApiContract
