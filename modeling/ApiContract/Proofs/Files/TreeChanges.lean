import ApiContract.Proofs.Files.Tree

/-!
# Changes of directory trees

A path leads to a directory, or to a place right below one under a proper name (`locate_cases`). So
each operation keeps a directory tree one (`IsTree.insert`, `IsTree.erase`), and so does whatever is
written as a whole, also when it fails halfway (`keepsTree_writeAtomically`).
-/

namespace ApiContract.Files

/-! ### Names in a path -/

lemma mem_of_mem_partsAux {p : Part} {name cs : List Char} {place : Nat}
    (hp : p ∈ partsAux name place cs) {c : Char} (hc : c ∈ p.name) : c ∈ name ∨ c ∈ cs := by
  induction cs generalizing name place with
  | nil =>
    obtain rfl := List.mem_singleton.mp hp
    exact .inl (List.mem_reverse.mp hc)
  | cons d rest ih =>
    rw [partsAux] at hp
    split at hp
    · rcases List.mem_cons.mp hp with rfl | hrest
      · exact .inl (List.mem_reverse.mp hc)
      · exact .inr (List.mem_cons_of_mem d ((ih hrest).resolve_left List.not_mem_nil))
    · rcases ih hp with hname | hrest
      · rcases List.mem_cons.mp hname with rfl | hname
        · exact .inr List.mem_cons_self
        · exact .inl hname
      · exact .inr (List.mem_cons_of_mem d hrest)

/-- A path has every character of its names. -/
lemma mem_toList_of_mem_names {path name : String} (h : name ∈ names path) :
    ∀ c ∈ name.toList, c ∈ path.toList := by
  intro c hc
  obtain ⟨first, rest, hparts⟩ := List.exists_cons_of_ne_nil (partsAux_ne_nil [] 0 path.toList)
  rw [names_of_partsAux hparts] at h
  obtain ⟨p, hp, rfl⟩ := List.mem_map.mp h
  rw [String.toList_ofList] at hc
  have hmem : p ∈ partsAux [] 0 path.toList := by
    rw [hparts]
    rcases List.mem_append.mp hp with hp | hp
    · split at hp
      · exact absurd hp List.not_mem_nil
      · rw [List.mem_singleton.mp hp]
        exact List.mem_cons_self
    · exact List.mem_cons_of_mem _ (List.mem_filter.mp hp).1
  exact (mem_of_mem_partsAux hmem hc).resolve_left List.not_mem_nil

/-- The first part goes on with the characters that it has so far. -/
lemma name_ne_nil_of_partsAux {name cs : List Char} {place : Nat} {first : Part} {rest : List Part}
    (hname : name ≠ []) (h : partsAux name place cs = first :: rest) : first.name ≠ [] := by
  induction cs generalizing name place with
  | nil =>
    cases h
    simpa using hname
  | cons c cs ih =>
    rw [partsAux] at h
    split at h
    · cases h
      simpa using hname
    · exact ih (List.cons_ne_nil c name) h

/-- A path that does not start at the root has a name. -/
lemma names_ne_nil {path : String} (hne : path ≠ "") (hrelative : isAbsolute path = false) :
    names path ≠ [] := by
  obtain ⟨first, rest, hparts⟩ := List.exists_cons_of_ne_nil (partsAux_ne_nil [] 0 path.toList)
  have hfirst : first.name ≠ [] := by
    obtain ⟨c, cs, hchars⟩ := List.exists_cons_of_ne_nil (l := path.toList) fun h =>
      hne (String.toList_inj.mp h)
    have hslash : c ≠ '/' := by
      rintro rfl
      rw [isAbsolute, hchars] at hrelative
      cases hrelative
    rw [hchars, partsAux, if_neg hslash] at hparts
    exact name_ne_nil_of_partsAux (List.cons_ne_nil c []) hparts
  rw [names_of_partsAux hparts, if_neg hfirst]
  exact List.cons_ne_nil _ _

namespace System.IsTree

variable {s : System} (hs : s.IsTree)
include hs

/-! ### Where paths lead -/

lemma hasDirectory_dropLast {place : Place} (h : s.entry? place ≠ none) :
    s.entry? place.dropLast = some .directory := by
  rcases List.eq_nil_or_concat place with rfl | ⟨above, name, rfl⟩
  · rfl
  · rw [List.concat_eq_append] at h ⊢
    rw [List.dropLast_concat]
    exact (hs.of_ne_none h).1

/-- A path leads to a directory, or to what is or may be in one. -/
theorem locate_cases {path : String} {place : Place} (h : s.locate path = .ok place) :
    s.entry? place = some .directory ∨
      ∃ above name, place = above ++ [name] ∧ s.entry? above = some .directory ∧
        IsEntryName name := by
  obtain ⟨hnul, hne, hsteps⟩ := locate_eq_ok_iff.mp h
  rcases List.eq_nil_or_concat (names path) with hnames | ⟨before, name, hnames⟩
  · -- Only the path of the root has no names.
    cases habsolute : isAbsolute path with
    | false => exact absurd hnames (names_ne_nil hne habsolute)
    | true =>
      rw [hnames, habsolute] at hsteps
      cases hsteps
      exact .inl rfl
  · rw [List.concat_eq_append] at hnames
    have hmem : name ∈ names path := by simp [hnames]
    rw [hnames, List.foldlM_append] at hsteps
    obtain ⟨above, _, hlast⟩ := bind_eq_ok_iff.mp hsteps
    rw [List.foldlM_cons] at hlast
    obtain ⟨last, hfollow, hlast⟩ := bind_eq_ok_iff.mp hlast
    cases hlast
    obtain ⟨hdirectory, hsize, rfl⟩ := follow_eq_ok_iff.mp hfollow
    unfold Place.advance
    split_ifs with hdot hdots
    · exact .inl hdirectory
    · exact .inl (hs.hasDirectory_dropLast (by rw [hdirectory]; exact nofun))
    · have hway := isWay_names path
      refine .inr ⟨above, name, rfl, hdirectory, ⟨?_, fun hmem' => ?_, hsize⟩⟩
      · exact ⟨hway.ne_empty name hmem, hdot, hdots, hway.not_mem_slash name hmem⟩
      · exact hnul (mem_toList_of_mem_names hmem _ hmem')

/-! ### Steps -/

/-- Anything may be put in a directory, except in the place of a directory. -/
theorem insert {above : Place} {name : String} (habove : s.entry? above = some .directory)
    (hname : IsEntryName name) (hplace : s.entry? (above ++ [name]) ≠ some .directory)
    (e : Entry) : IsTree ⟨s.entries.insert (above ++ [name]) e, s.home⟩ := by
  have hkeys : ∀ place ∈ (s.entries.insert (above ++ [name]) e).keys,
      s.entry? place.dropLast = some .directory ∧
        ∀ last ∈ place.getLast?, IsEntryName last := by
    intro place hmem
    have hcases : place ∈ s.entries.keys ∨ place = above ++ [name] := by
      rw [Table.keys_insert] at hmem
      split at hmem
      · exact .inl hmem
      · simpa using hmem
    rcases hcases with hold | rfl
    · exact ⟨hasDirectory_iff.mp (hs.hasDirectory_above place hold), hs.isEntryName place hold⟩
    · rw [List.dropLast_concat, List.getLast?_concat]
      refine ⟨habove, fun last hlast => ?_⟩
      rwa [← Option.mem_some.mp hlast]
  refine ⟨Table.nodup_keys_alter hs.nodup, fun place hmem => ?_, fun place hmem =>
    (hkeys place hmem).2⟩
  have hdirectory := (hkeys place hmem).1
  have hother : place.dropLast ≠ above ++ [name] := fun heq => hplace (heq ▸ hdirectory)
  rw [hasDirectory_iff, entry?_insert s (by simp), Function.update_of_ne hother, hdirectory]

/-- A file may be taken away. -/
theorem erase {place : Place} {bytes : ByteArray} (h : s.entry? place = some (.file bytes)) :
    IsTree ⟨s.entries.erase place, s.home⟩ := by
  have hne : place ≠ [] := ne_nil_of_entry?_ne (by rw [h]; exact nofun)
  have hkeys : (s.entries.erase place).keys.Sublist s.entries.keys := List.filter_sublist.map _
  refine ⟨hs.nodup.sublist hkeys, fun other hmem => ?_, fun other hmem =>
    hs.isEntryName other (hkeys.subset hmem)⟩
  have hdirectory := hasDirectory_iff.mp (hs.hasDirectory_above other (hkeys.subset hmem))
  have hother : other.dropLast ≠ place := by
    rintro rfl
    rw [h] at hdirectory
    cases hdirectory
  rw [hasDirectory_iff, entry?_erase s hne, Function.update_of_ne hother, hdirectory]

lemma insert_of_locate {path : String} {place : Place} (hlocate : s.locate path = .ok place)
    (hplace : s.entry? place ≠ some .directory) (e : Entry) :
    IsTree ⟨s.entries.insert place e, s.home⟩ := by
  obtain ⟨above, name, rfl, habove, hname⟩ := (hs.locate_cases hlocate).resolve_left hplace
  exact hs.insert habove hname hplace e

lemma makeDirectory {s' : System} {path : String} (h : s.makeDirectory path = .ok s') :
    s'.IsTree := by
  obtain ⟨place, hplace, hnone, rfl⟩ := eq_of_makeDirectory h
  exact hs.insert_of_locate hplace (by rw [hnone]; exact nofun) _

lemma write {s' : System} {path : String} {bytes : ByteArray} (h : s.write path bytes = .ok s') :
    s'.IsTree := by
  obtain ⟨place, hplace, hentry, _, rfl⟩ := eq_of_write h
  exact hs.insert_of_locate hplace hentry _

lemma rename {s' : System} {source target : String} (h : s.rename source target = .ok s') :
    s'.IsTree := by
  obtain ⟨old, place, bytes, _, hfile, hplace, hentry, rfl⟩ := eq_of_rename h
  have hne : old ≠ [] := ne_nil_of_entry?_ne (by rw [hfile]; exact nofun)
  obtain ⟨above, name, rfl, habove, hname⟩ := (hs.locate_cases hplace).resolve_left hentry
  have hold : above ≠ old := by
    rintro rfl
    rw [hfile] at habove
    cases habove
  -- The directory is still there when the file is taken away, and still none is in the way.
  have herased : entry? ⟨s.entries.erase old, s.home⟩ = Function.update s.entry? old none :=
    entry?_erase s hne
  have habove' : entry? ⟨s.entries.erase old, s.home⟩ above = some .directory := by
    rw [herased, Function.update_of_ne hold, habove]
  have hentry' : entry? ⟨s.entries.erase old, s.home⟩ (above ++ [name]) ≠ some .directory := by
    rw [herased, Function.update_apply]
    split
    · exact nofun
    · exact hentry
  exact (hs.erase hfile).insert habove' hname hentry' _

end System.IsTree

/-! ### Runs -/

/-- An action leaves a directory tree behind, whether it succeeds or not. -/
def KeepsTree {ε α : Type} (x : Action ε α) : Prop := ∀ s : System, s.IsTree → (x.run s).2.IsTree

section KeepsTree

variable {ε α β : Type}

lemma KeepsTree.pure (a : α) : KeepsTree (pure a : Action ε α) := fun _ hs => hs

lemma KeepsTree.throw (e : ε) : KeepsTree (throw e : Action ε α) := fun _ hs => hs

lemma KeepsTree.set {s : System} (hs : s.IsTree) : KeepsTree (set s : Action ε Unit) :=
  fun _ _ => hs

lemma KeepsTree.get_bind {f : System → Action ε β} (h : ∀ s : System, s.IsTree → KeepsTree (f s)) :
    KeepsTree (get >>= f) := fun s hs => h s hs s hs

lemma KeepsTree.bind {x : Action ε α} {f : α → Action ε β} (hx : KeepsTree x)
    (hf : ∀ a, KeepsTree (f a)) : KeepsTree (x >>= f) := by
  intro s hs
  have hfirst := hx s hs
  rw [run_bind]
  rcases hrun : x.run s with ⟨e | a, s₁⟩
  · rwa [hrun] at hfirst
  · rw [hrun] at hfirst
    exact hf a s₁ hfirst

lemma KeepsTree.forM {f : α → Action ε Unit} (hf : ∀ a, KeepsTree (f a)) (xs : List α) :
    KeepsTree (xs.forM f) := by
  induction xs with
  | nil => exact .pure ()
  | cons x rest ih => exact (hf x).bind fun _ => ih

lemma KeepsTree.change (wrap : FileError → ε) {f : System → Except FileError System}
    (hf : ∀ s s', s.IsTree → f s = .ok s' → s'.IsTree) : KeepsTree (change wrap f) := by
  intro s hs
  rw [run_change]
  cases hstep : f s with
  | error e => exact hs
  | ok s' => exact hf s s' hs hstep

lemma KeepsTree.adapt {ε' : Type} {x : Action ε α} (hx : KeepsTree x) (wrap : ε → ε') :
    KeepsTree (x.adapt wrap) := hx

end KeepsTree

lemma keepsTree_makeNames (isFromRoot : Bool) (ns : List String) :
    KeepsTree (makeNames isFromRoot ns) := by
  induction ns with
  | nil => exact .pure ()
  | cons name above ih =>
    have hcheck : ∀ (isThere : System → Bool) (e : FileError),
        KeepsTree (do unless isThere (← get) do throw e : Action FileError Unit) := by
      intro isThere e
      refine .get_bind fun s _ => ?_
      split
      · exact .pure ()
      · exact .throw e
    unfold makeNames
    dsimp only
    refine .get_bind fun s hs => ?_
    split
    · rename_i s' hmade
      exact .set (hs.makeDirectory hmade)
    · refine ih.bind fun _ => .get_bind fun s hs => ?_
      split
      · rename_i s' hmade
        exact .set (hs.makeDirectory hmade)
      · exact hcheck _ _
    · exact hcheck _ _

lemma keepsTree_makeParent (path : String) : KeepsTree (makeParent path) := by
  unfold makeParent
  split
  · split
    · exact .pure ()
    · exact (keepsTree_makeNames _ _).adapt _
  · exact .pure ()

/-- Writing a file as a whole leaves a directory tree behind. -/
theorem keepsTree_writeAtomically (path text : String) : KeepsTree (writeAtomically path text) :=
  (keepsTree_makeParent path).bind fun _ =>
    (KeepsTree.change _ fun _ _ hs h => hs.write h).bind fun _ =>
      KeepsTree.change _ fun _ _ hs h => hs.rename h

end ApiContract.Files
