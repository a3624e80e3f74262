import Mathlib.Data.Set.Basic
import Mathlib.Logic.Function.Basic
import ApiContract.Proofs.Files.Path
import ApiContract.Proofs.Results
import ApiContract.Proofs.Table

/-!
# What operations do to files

Of a file system we look at the bytes of the file at each place (`System.file?`). Making the
directories above a file makes directories on the way to it and changes nothing else, so no file
(`makeParent_addsDirectories`). Writing changes one place and moving two, and where these are
depends on the path alone, since a path that leads somewhere leads where its names say
(`locate_eq_place`).
So a file that is written as a whole is there with its text, there is no file at the temporary place
beside it, and every other file is as it was (`file?_of_writeAtomically`).
-/

namespace ApiContract.Files

/-! ### Places and the files there -/

/-- The place that a name leads to from a directory, if it leads somewhere. -/
def Place.advance (place : Place) (name : String) : Place :=
  if name = "." then place else if name = ".." then place.dropLast else place ++ [name]

lemma IsName.advance_eq {name : String} (h : IsName name) (place : Place) :
    place.advance name = place ++ [name] := by
  rw [Place.advance, if_neg h.ne_dot, if_neg h.ne_dots]

namespace System

/-- The place that a path leads to, if it leads somewhere. -/
def place (s : System) (path : String) : Place :=
  (names path).foldl Place.advance (if isAbsolute path then [] else s.home)

/-- The bytes of the file at a place. -/
def file? (s : System) (place : Place) : Option ByteArray :=
  match s.entry? place with
  | some (.file bytes) => some bytes
  | _ => none

/-- Nothing has happened to files: paths lead to the same places, and the same files are there. -/
structure KeepsFiles (s s' : System) : Prop where
  home_eq : s'.home = s.home
  file?_eq : s'.file? = s.file?

/-- Nothing has happened but that directories were made, at some of the given places. -/
structure AddsDirectories (places : Set Place) (s s' : System) : Prop where
  home_eq : s'.home = s.home
  entry?_cases : ∀ place, s'.entry? place = s.entry? place ∨
    s.entry? place = none ∧ s'.entry? place = some .directory ∧ place ∈ places

section AddsDirectories

variable {places : Set Place} {s s' s₁ s₂ s₃ : System}

lemma AddsDirectories.refl (places : Set Place) (s : System) : AddsDirectories places s s :=
  ⟨rfl, fun _ => .inl rfl⟩

lemma AddsDirectories.trans (h : AddsDirectories places s₁ s₂)
    (h' : AddsDirectories places s₂ s₃) : AddsDirectories places s₁ s₃ := by
  refine ⟨h'.home_eq.trans h.home_eq, fun place => ?_⟩
  rcases h'.entry?_cases place with hsame' | ⟨hnone', hmade', hmem'⟩
  · rw [hsame']
    exact h.entry?_cases place
  · rcases h.entry?_cases place with hsame | ⟨_, hmade, _⟩
    · exact .inr ⟨hsame ▸ hnone', hmade', hmem'⟩
    · rw [hmade] at hnone'
      cases hnone'

/-- Making directories leaves files alone. -/
lemma AddsDirectories.keepsFiles (h : AddsDirectories places s s') : KeepsFiles s s' := by
  refine ⟨h.home_eq, funext fun place => ?_⟩
  rcases h.entry?_cases place with hsame | ⟨hnone, hmade, _⟩
  · rw [file?, file?, hsame]
  · rw [file?, file?, hnone, hmade]

/-- What was there is still there. -/
lemma AddsDirectories.entry?_eq_some (h : AddsDirectories places s s') {place : Place} {e : Entry}
    (he : s.entry? place = some e) : s'.entry? place = some e := by
  rcases h.entry?_cases place with hsame | ⟨hnone, _, _⟩
  · rw [hsame, he]
  · rw [he] at hnone
    cases hnone

end AddsDirectories

lemma place_eq_of_home_eq {s s' : System} (h : s'.home = s.home) (path : String) :
    s'.place path = s.place path := by
  rw [place, place, h]

/-- The names of a path that goes down lead to the place of these names. -/
lemma foldl_advance {ns : List String} (h : ∀ name ∈ ns, IsName name) (place : Place) :
    ns.foldl Place.advance place = place ++ ns := by
  induction ns generalizing place with
  | nil => exact (List.append_nil place).symm
  | cons name rest ih =>
    obtain ⟨hname, hrest⟩ := List.forall_mem_cons.mp h
    rw [List.foldl_cons, hname.advance_eq, ih hrest, List.append_assoc]
    rfl

/-- A path below a directory leads below the place of the directory. -/
theorem place_join (s : System) (dir : String) {path : String} (h : IsNormalized path) :
    s.place (join dir path) = s.place dir ++ names path := by
  obtain ⟨opening, hopening, hnames, habsolute, hjoin⟩ := exists_opening_of_join dir
  rw [hjoin path h, place, isAbsolute_append hopening h, habsolute, names_append hopening h, hnames,
    List.foldl_append, foldl_advance h.isName_of_mem]
  rfl

/-- A name leads somewhere from a directory, unless it is too long. -/
lemma follow_eq_ok_iff {s : System} {place place' : Place} {name : String} :
    s.follow place name = .ok place' ↔ s.entry? place = some .directory ∧
      name.utf8ByteSize ≤ maxNameSize ∧ place.advance name = place' := by
  have hsteps : (if name = "." then .ok place else if name = ".." then .ok place.dropLast
      else .ok (place ++ [name]) : Except FileError Place) = .ok (place.advance name) := by
    unfold Place.advance
    split_ifs <;> rfl
  unfold follow
  split
  · rename_i hnone
    simp [hnone]
  · rename_i hfile
    simp [hfile]
  · rename_i hdirectory
    rw [hsteps]
    split
    · rename_i hlong
      simp [hlong.not_ge]
    · rename_i hshort
      simp [hdirectory, not_lt.mp hshort]

/-- A path leads where its names do, one after another. -/
lemma locate_eq_ok_iff {s : System} {path : String} {place : Place} :
    s.locate path = .ok place ↔ '\x00' ∉ path.toList ∧ path ≠ "" ∧
      (names path).foldlM s.follow (if isAbsolute path then [] else s.home) = .ok place := by
  unfold locate
  split
  · rename_i hnul
    have hmem : '\x00' ∈ path.toList := by simpa using hnul
    simp [hmem]
  · rename_i hnul
    have hmem : '\x00' ∉ path.toList := by simpa using hnul
    split
    · rename_i hempty
      simp [String.isEmpty_iff.mp hempty]
    · rename_i hempty
      have hne : path ≠ "" := fun h => hempty (String.isEmpty_iff.mpr h)
      simp [hmem, hne]

/-- A path that leads somewhere leads to its place. -/
theorem locate_eq_place {s : System} {path : String} {place : Place}
    (h : s.locate path = .ok place) : place = s.place path := by
  have hfold : ∀ (ns : List String) (start : Place), ns.foldlM s.follow start = .ok place →
      place = ns.foldl Place.advance start := by
    intro ns
    induction ns with
    | nil =>
      intro start hstart
      cases hstart
      rfl
    | cons name rest ih =>
      intro start hstart
      rw [List.foldlM_cons] at hstart
      obtain ⟨next, hnext, hrest⟩ := bind_eq_ok_iff.mp hstart
      rw [ih next hrest, List.foldl_cons, (follow_eq_ok_iff.mp hnext).2.2]
  obtain ⟨_, _, hnames⟩ := locate_eq_ok_iff.mp h
  exact hfold _ _ hnames

/-! ### Entries -/

lemma entry?_insert (s : System) {place : Place} (hne : place ≠ []) (e : Entry) :
    System.entry? ⟨s.entries.insert place e, s.home⟩ =
      Function.update s.entry? place (some e) := by
  funext other
  by_cases hother : other = place
  · subst hother
    rw [Function.update_self, entry?, if_neg hne, Table.find?_insert, if_pos rfl]
  · rw [Function.update_of_ne hother, entry?, entry?, Table.find?_insert,
      if_neg (Ne.symm hother)]

lemma entry?_erase (s : System) {place : Place} (hne : place ≠ []) :
    System.entry? ⟨s.entries.erase place, s.home⟩ = Function.update s.entry? place none := by
  funext other
  by_cases hother : other = place
  · subst hother
    rw [Function.update_self, entry?, if_neg hne, Table.find?_erase, if_pos rfl]
  · rw [Function.update_of_ne hother, entry?, entry?, Table.find?_erase,
      if_neg (Ne.symm hother)]

lemma file?_insert (s : System) {place : Place} (hne : place ≠ []) (e : Entry) :
    (System.mk (s.entries.insert place e) s.home).file? =
      Function.update s.file? place
        (match e with | .file bytes => some bytes | .directory => none) := by
  funext other
  unfold file?
  rw [entry?_insert s hne]
  by_cases hother : other = place
  · subst hother
    rw [Function.update_self, Function.update_self]
    cases e <;> rfl
  · rw [Function.update_of_ne hother, Function.update_of_ne hother]

lemma file?_erase (s : System) {place : Place} (hne : place ≠ []) :
    (System.mk (s.entries.erase place) s.home).file? = Function.update s.file? place none := by
  funext other
  unfold file?
  rw [entry?_erase s hne]
  by_cases hother : other = place
  · subst hother
    rw [Function.update_self, Function.update_self]
  · rw [Function.update_of_ne hother, Function.update_of_ne hother]

/-- The root is a directory. -/
lemma ne_nil_of_entry?_ne {s : System} {place : Place} (h : s.entry? place ≠ some .directory) :
    place ≠ [] := by
  rintro rfl
  exact h rfl

/-! ### Steps that succeed -/

lemma eq_of_makeDirectory {s s' : System} {path : String} (h : s.makeDirectory path = .ok s') :
    ∃ place, s.locate path = .ok place ∧ s.entry? place = none ∧
      s' = ⟨s.entries.insert place .directory, s.home⟩ := by
  obtain ⟨place, hplace, h⟩ := bind_eq_ok_iff.mp h
  split at h
  · cases h
  · rename_i hnone
    cases h
    exact ⟨place, hplace, hnone, rfl⟩

lemma eq_of_write {s s' : System} {path : String} {bytes : ByteArray}
    (h : s.write path bytes = .ok s') :
    ∃ place, s.locate path = .ok place ∧ s.entry? place ≠ some .directory ∧
      namesDirectory path = false ∧ s' = ⟨s.entries.insert place (.file bytes), s.home⟩ := by
  obtain ⟨place, hplace, h⟩ := bind_eq_ok_iff.mp h
  split at h
  · cases h
  · rename_i hentry
    split at h
    · cases h
    · rename_i hnames
      cases h
      exact ⟨place, hplace, hentry, Bool.eq_false_iff.mpr hnames, rfl⟩

lemma eq_of_rename {s s' : System} {source target : String}
    (h : s.rename source target = .ok s') :
    ∃ old place bytes, s.locate source = .ok old ∧ s.entry? old = some (.file bytes) ∧
      s.locate target = .ok place ∧ s.entry? place ≠ some .directory ∧
      s' = ⟨(s.entries.erase old).insert place (.file bytes), s.home⟩ := by
  obtain ⟨old, hold, h⟩ := bind_eq_ok_iff.mp h
  split at h
  · cases h
  · cases h
  · rename_i bytes hfile
    obtain ⟨place, hplace, h⟩ := bind_eq_ok_iff.mp h
    refine ⟨old, place, bytes, hold, hfile, hplace, ?_⟩
    -- Whatever is at the target, the move is made or there is an error.
    dsimp only at h
    split at h
    · cases h
    · rename_i hnone
      split at h
      · cases h
      · split at h <;> cases h
        exact ⟨by rw [hnone]; exact nofun, rfl⟩
    · rename_i hthere
      split at h <;> cases h
      exact ⟨by rw [hthere]; exact nofun, rfl⟩

lemma makeDirectory_addsDirectories {s s' : System} {path : String}
    (h : s.makeDirectory path = .ok s') {places : Set Place} (hmem : s.place path ∈ places) :
    AddsDirectories places s s' := by
  obtain ⟨place, hplace, hnone, rfl⟩ := eq_of_makeDirectory h
  have hne : place ≠ [] := ne_nil_of_entry?_ne (by rw [hnone]; exact nofun)
  refine ⟨rfl, fun other => ?_⟩
  rw [entry?_insert s hne]
  by_cases hother : other = place
  · subst hother
    rw [Function.update_self]
    refine .inr ⟨hnone, rfl, ?_⟩
    rwa [locate_eq_place hplace]
  · rw [Function.update_of_ne hother]
    exact .inl rfl

/-- What a write that succeeds needs and does. -/
lemma entry?_of_write {s s' : System} {path : String} {bytes : ByteArray}
    (h : s.write path bytes = .ok s') :
    s.locate path = .ok (s.place path) ∧ s.entry? (s.place path) ≠ some .directory ∧
      namesDirectory path = false ∧ s'.home = s.home ∧
      s'.entry? = Function.update s.entry? (s.place path) (some (.file bytes)) := by
  obtain ⟨place, hplace, hentry, hnames, rfl⟩ := eq_of_write h
  rw [← locate_eq_place hplace]
  exact ⟨hplace, hentry, hnames, rfl, entry?_insert s (ne_nil_of_entry?_ne hentry) _⟩

lemma file?_of_entry?_eq_update {s s' : System} {place : Place} {bytes : ByteArray}
    (h : s'.entry? = Function.update s.entry? place (some (.file bytes))) :
    s'.file? = Function.update s.file? place (some bytes) := by
  funext other
  by_cases hother : other = place
  · subst hother
    rw [file?, h, Function.update_self, Function.update_self]
  · rw [Function.update_of_ne hother, file?, file?, h, Function.update_of_ne hother]

lemma file?_of_write {s s' : System} {path : String} {bytes : ByteArray}
    (h : s.write path bytes = .ok s') :
    s'.home = s.home ∧ s'.file? = Function.update s.file? (s.place path) (some bytes) := by
  obtain ⟨_, _, _, hhome, hentry⟩ := entry?_of_write h
  exact ⟨hhome, file?_of_entry?_eq_update hentry⟩

lemma file?_of_rename {s s' : System} {source target : String}
    (h : s.rename source target = .ok s') :
    s'.home = s.home ∧ s'.file? =
      Function.update (Function.update s.file? (s.place source) none) (s.place target)
        (s.file? (s.place source)) := by
  obtain ⟨old, place, bytes, hold, hfile, hplace, hentry, rfl⟩ := eq_of_rename h
  have holdne : old ≠ [] := ne_nil_of_entry?_ne (by rw [hfile]; exact nofun)
  have hbytes : s.file? old = some bytes := by rw [file?, hfile]
  refine ⟨rfl, ?_⟩
  rw [← locate_eq_place hold, ← locate_eq_place hplace, hbytes,
    file?_insert ⟨s.entries.erase old, s.home⟩ (ne_nil_of_entry?_ne hentry), file?_erase s holdne]

end System

/-! ### Actions -/

section Action

variable {ε α β : Type}

lemma run_bind (x : Action ε α) (f : α → Action ε β) (s : System) :
    (x >>= f).run s = (match x.run s with
      | (.ok a, s₁) => (f a).run s₁
      | (.error e, s₁) => (.error e, s₁)) := by
  change (match x.run s with | (a, s₁) => ExceptT.bindCont f a s₁) = _
  rcases x.run s with ⟨e | a, s₁⟩ <;> rfl

lemma run_get_bind (f : System → Action ε β) (s : System) : (get >>= f).run s = (f s).run s := rfl

lemma run_change (wrap : FileError → ε) (f : System → Except FileError System) (s : System) :
    (change wrap f).run s = (match f s with
      | .ok s₁ => (.ok (), s₁)
      | .error e => (.error (wrap e), s)) := by
  change (match f s with | .ok s₁ => set s₁ | .error e => throw (wrap e) : Action ε Unit).run s = _
  cases f s <;> rfl

/-- One action after another answers when both do, the second from where the first ends. -/
lemma run_bind_eq_ok_iff {x : Action ε α} {f : α → Action ε β} {s s' : System} {b : β} :
    (x >>= f).run s = (.ok b, s') ↔
      ∃ a s₁, x.run s = (.ok a, s₁) ∧ (f a).run s₁ = (.ok b, s') := by
  rw [run_bind]
  constructor
  · intro h
    rcases hx : x.run s with ⟨e | a, s₁⟩
    · rw [hx] at h
      cases congrArg Prod.fst h
    · rw [hx] at h
      exact ⟨a, s₁, rfl, h⟩
  · rintro ⟨a, s₁, hx, hf⟩
    rw [hx]
    exact hf

lemma eq_ok_of_run_change {wrap : FileError → ε} {f : System → Except FileError System}
    {s s' : System} (h : (change wrap f).run s = (.ok (), s')) : f s = .ok s' := by
  rw [run_change] at h
  cases hf : f s with
  | error e =>
    rw [hf] at h
    cases congrArg Prod.fst h
  | ok s₁ =>
    rw [hf] at h
    exact congrArg Except.ok (congrArg Prod.snd h)

lemma addsDirectories_bind {places : Set Place} {x : Action ε α} {f : α → Action ε β} {s : System}
    (hx : System.AddsDirectories places s (x.run s).2)
    (hf : ∀ a s₁, s₁.home = s.home → System.AddsDirectories places s₁ ((f a).run s₁).2) :
    System.AddsDirectories places s ((x >>= f).run s).2 := by
  rw [run_bind]
  rcases hrun : x.run s with ⟨e | a, s₁⟩
  · rwa [hrun] at hx
  · rw [hrun] at hx
    exact hx.trans (hf a s₁ hx.home_eq)

lemma run_adapt {ε' : Type} (wrap : ε → ε') (x : Action ε α) (s : System) :
    (x.adapt wrap).run s = ((x.run s).1.mapError wrap, (x.run s).2) := rfl

/-! ### Errors of actions -/

variable {P : ε → Prop}

/-- One action after another fails as they fail. -/
lemma failsOnly_run_bind {x : Action ε α} {f : α → Action ε β}
    (hx : ∀ s, FailsOnly P (x.run s).1) (hf : ∀ a s, FailsOnly P ((f a).run s).1) (s : System) :
    FailsOnly P ((x >>= f).run s).1 := by
  rw [run_bind]
  rcases hrun : x.run s with ⟨e | a, s₁⟩
  · have hfirst := hx s
    rw [hrun] at hfirst
    exact failsOnly_error (hfirst e rfl)
  · exact hf a s₁

lemma failsOnly_run_change {wrap : FileError → ε} (hwrap : ∀ e, P (wrap e))
    (f : System → Except FileError System) (s : System) :
    FailsOnly P ((change wrap f).run s).1 := by
  rw [run_change]
  cases f s with
  | error e => exact failsOnly_error (hwrap e)
  | ok s₁ => exact failsOnly_ok _

lemma failsOnly_run_forM {f : α → Action ε Unit} (hf : ∀ a s, FailsOnly P ((f a).run s).1)
    (xs : List α) (s : System) : FailsOnly P ((xs.forM f).run s).1 := by
  induction xs generalizing s with
  | nil => exact failsOnly_ok ()
  | cons x rest ih => exact failsOnly_run_bind (hf x) (fun _ s => ih s) s

end Action

/-! ### Making directories -/

/-- Making the directory of a path changes nothing but that it makes directories on the way there,
whether it succeeds or not. -/
theorem makeNames_addsDirectories (isFromRoot : Bool) (ns : List String) (s : System)
    {places : Set Place} (h : ∀ above, above <:+ ns → above ≠ [] →
      s.place (pathOf isFromRoot above.reverse) ∈ places) :
    System.AddsDirectories places s ((makeNames isFromRoot ns).run s).2 := by
  induction ns generalizing s with
  | nil => exact .refl places s
  | cons name above ih =>
    have hcheck : ∀ (isThere : System → Bool) (e : FileError) (s : System),
        System.AddsDirectories places s
          (((do unless isThere (← get) do throw e) : Action FileError Unit).run s).2 := by
      intro isThere e s
      rw [run_get_bind]
      split <;> exact .refl places s
    have hplace : s.place (pathOf isFromRoot (name :: above).reverse) ∈ places :=
      h _ List.suffix_rfl (List.cons_ne_nil _ _)
    have habove := ih s fun rest hrest hne => h rest (hrest.trans (List.suffix_cons _ _)) hne
    unfold makeNames
    dsimp only
    rw [run_get_bind]
    split
    · rename_i s₁ hmade
      exact System.makeDirectory_addsDirectories hmade hplace
    · refine addsDirectories_bind habove fun _ s₁ hhome => ?_
      rw [← System.place_eq_of_home_eq hhome] at hplace
      rw [run_get_bind]
      split
      · rename_i s₂ hmade
        exact System.makeDirectory_addsDirectories hmade hplace
      · exact hcheck _ _ s₁
    · exact hcheck _ _ s

namespace System

/-- The places of the directories above a file: those that the first names of the path of the
directory that holds it lead to. -/
def above (s : System) (path : String) : Set Place :=
  {place | ∃ parent, parent? path = some parent ∧ ∃ before, before <+: names parent ∧
    place = before.foldl Place.advance (if isAbsolute parent then [] else s.home)}

lemma place_pathOf (s : System) {path : String} {before : List String}
    (hbefore : before <+: names path) (hne : before ≠ []) :
    s.place (pathOf (isAbsolute path) before) =
      before.foldl Place.advance (if isAbsolute path then [] else s.home) := by
  have hway : IsWay (isAbsolute path) before := (isWay_names path).initial hbefore
  rw [place, hway.names_pathOf hne, hway.isAbsolute_pathOf hne]

end System

/-- Making the directories above a file changes nothing else, whether it succeeds or not. -/
lemma makeParent_addsDirectories (path : String) (s : System) :
    System.AddsDirectories (s.above path) s ((makeParent path).run s).2 := by
  unfold makeParent
  split
  · rename_i parent hparent
    split
    · exact .refl _ s
    · refine makeNames_addsDirectories _ _ s fun rest hrest hne => ?_
      have hbefore : rest.reverse <+: names parent := by
        have := List.reverse_prefix.mpr hrest
        rwa [List.reverse_reverse] at this
      have hne' : rest.reverse ≠ [] := by simpa using hne
      rw [System.place_pathOf s hbefore hne']
      exact ⟨parent, hparent, rest.reverse, hbefore, rfl⟩
  · exact .refl _ s

lemma makeParent_keepsFiles (path : String) (s : System) :
    System.KeepsFiles s ((makeParent path).run s).2 :=
  (makeParent_addsDirectories path s).keepsFiles

/-- When the directories above a file cannot be made, the error names the directory that holds the
file. -/
lemma makeDirectories_of_makeParent_eq_error {path : String} {s s' : System} {e : Error}
    (h : (makeParent path).run s = (.error e, s')) :
    ∃ parent err, parent? path = some parent ∧ e = .write parent err ∧
      (makeDirectories parent).run s = (.error err, s') := by
  unfold makeParent at h
  split at h
  · rename_i parent hparent
    split at h
    · cases congrArg Prod.fst h
    · rw [run_adapt] at h
      rcases hrun : (makeDirectories parent).run s with ⟨err | _, s₁⟩
      · rw [hrun] at h
        cases h
        exact ⟨parent, err, hparent, rfl, hrun⟩
      · rw [hrun] at h
        cases congrArg Prod.fst h
  · cases congrArg Prod.fst h

/-! ### Files written as a whole -/

/-- A file is written as a whole when each step is taken. -/
lemma run_writeAtomically {path text : String} {s s₁ s₂ s₃ : System}
    (hparent : (makeParent path).run s = (.ok (), s₁))
    (hwrite : s₁.write (temporaryPath path) text.toByteArray = .ok s₂)
    (hrename : s₂.rename (temporaryPath path) path = .ok s₃) :
    (writeAtomically path text).run s = (.ok (), s₃) := by
  refine run_bind_eq_ok_iff.mpr ⟨(), s₁, hparent, run_bind_eq_ok_iff.mpr ⟨(), s₂, ?_, ?_⟩⟩
  · rw [run_change, hwrite]
  · rw [run_change, hrename]

/-- A file that was written as a whole is there with its text, and nothing is at the temporary path
beside it; all other files are as they were. -/
theorem file?_of_writeAtomically {path text : String} {s s' : System}
    (h : (writeAtomically path text).run s = (.ok (), s')) :
    s'.home = s.home ∧ s'.file? =
      Function.update (Function.update s.file? (s.place (temporaryPath path)) none) (s.place path)
        (some text.toByteArray) := by
  obtain ⟨_, s₁, hparent, h⟩ := run_bind_eq_ok_iff.mp h
  obtain ⟨_, s₂, hwrite, hrename⟩ := run_bind_eq_ok_iff.mp h
  have hkept : System.KeepsFiles s s₁ := by
    have := makeParent_keepsFiles path s
    rwa [hparent] at this
  obtain ⟨hhome₂, hfile₂⟩ := System.file?_of_write (eq_ok_of_run_change hwrite)
  obtain ⟨hhome₃, hfile₃⟩ := System.file?_of_rename (eq_ok_of_run_change hrename)
  have hhome : s₂.home = s.home := hhome₂.trans hkept.home_eq
  have htemporary : s₂.file? (s.place (temporaryPath path)) = some text.toByteArray := by
    rw [hfile₂, System.place_eq_of_home_eq hkept.home_eq, Function.update_self]
  refine ⟨hhome₃.trans hhome, ?_⟩
  rw [hfile₃, System.place_eq_of_home_eq hhome, System.place_eq_of_home_eq hhome, htemporary,
    hfile₂, System.place_eq_of_home_eq hkept.home_eq, Function.update_idem, hkept.file?_eq]

end ApiContract.Files
