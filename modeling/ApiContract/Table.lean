/-!
# Tables

A table is a list of keys with values, in the order in which the keys were first written. Writing a
key that is there already replaces its value and keeps its place.
-/

namespace ApiContract

/-- Keys with values, in order of first insertion. -/
abbrev Table (κ : Type) (α : Type) := List (κ × α)

namespace Table

variable {κ α β : Type} [DecidableEq κ]

/-- The value of a key. -/
def find? (key : κ) : Table κ α → Option α
  | [] => none
  | (k, v) :: rest => if k = key then some v else find? key rest

/-- Whether a table has a key. -/
def has (key : κ) (t : Table κ α) : Bool := (t.find? key).isSome

/-- The keys in order. -/
def keys (t : Table κ α) : List κ := t.map Prod.fst

/-- The values in order. -/
def values (t : Table κ α) : List α := t.map Prod.snd

/-- Gives a key the value computed from the one it had; a new key comes last. -/
def alter (key : κ) (f : Option α → α) : Table κ α → Table κ α
  | [] => [(key, f none)]
  | (k, v) :: rest => if k = key then (k, f (some v)) :: rest else (k, v) :: alter key f rest

/-- Writes a value. -/
def insert (key : κ) (value : α) (t : Table κ α) : Table κ α := t.alter key fun _ => value

/-- Takes a key out. -/
def erase (key : κ) (t : Table κ α) : Table κ α := t.filter fun e => e.1 ≠ key

/-- Writes a list of entries one after another. -/
def insertAll (entries : List (κ × α)) (t : Table κ α) : Table κ α :=
  entries.foldl (fun t e => t.insert e.1 e.2) t

/-- The table of a list of entries: first places, last values. -/
def ofList (entries : List (κ × α)) : Table κ α := insertAll entries []

/-! ### How the operations look to a reader -/

@[simp] theorem find?_nil (key : κ) : find? key ([] : Table κ α) = none := rfl

theorem find?_alter (key other : κ) (f : Option α → α) (t : Table κ α) :
    (t.alter key f).find? other =
      if key = other then some (f (t.find? key)) else t.find? other := by
  induction t with
  | nil => by_cases h : key = other <;> simp [alter, find?, h]
  | cons e rest ih =>
    obtain ⟨k, v⟩ := e
    by_cases hk : k = key
    · subst hk
      by_cases h : k = other <;> simp [alter, find?, h]
    · by_cases ho : k = other
      · subst ho
        have hne : ¬ key = k := fun h => hk h.symm
        simp [alter, find?, hk, hne]
      · simp [alter, find?, hk, ho, ih]

/-- A written value is read back, and other keys keep theirs. -/
theorem find?_insert (key other : κ) (value : α) (t : Table κ α) :
    (t.insert key value).find? other = if key = other then some value else t.find? other := by
  simp [insert, find?_alter]

theorem keys_alter (key : κ) (f : Option α → α) (t : Table κ α) :
    (t.alter key f).keys = if key ∈ t.keys then t.keys else t.keys ++ [key] := by
  induction t with
  | nil => simp [alter, keys]
  | cons e rest ih =>
    obtain ⟨k, v⟩ := e
    simp only [keys] at ih ⊢
    by_cases hk : k = key
    · subst hk; simp [alter]
    · have hne : ¬ key = k := fun h => hk h.symm
      by_cases hm : key ∈ List.map Prod.fst rest <;> simp_all [alter]

/-- Writing keeps the keys in order and puts a new one last. -/
theorem keys_insert (key : κ) (value : α) (t : Table κ α) :
    (t.insert key value).keys = if key ∈ t.keys then t.keys else t.keys ++ [key] :=
  keys_alter key _ t

/-- No key is written twice. -/
theorem nodup_keys_alter {key : κ} {f : Option α → α} {t : Table κ α} (h : t.keys.Nodup) :
    (t.alter key f).keys.Nodup := by
  rw [keys_alter]
  split
  · exact h
  · rename_i hn
    exact List.nodup_append.mpr
      ⟨h, by simp, fun a ha b hb => by
        simp only [List.mem_singleton] at hb
        subst hb
        exact fun he => hn (he ▸ ha)⟩

end Table

end ApiContract
