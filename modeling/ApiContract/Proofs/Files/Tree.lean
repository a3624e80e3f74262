import ApiContract.Proofs.Files.Effects

/-!
# Directory trees

A file system as it is found has one entry at a place, directories above every entry, and entries
with names that a path can hold (`System.IsTree`). In such a file system, the names that lead down
to an entry also lead there as a path that is put together name by name (`locate_pathBelow`).
-/

namespace ApiContract.Files

/-- The name of an entry: a path can hold it, and it is not too long. -/
structure IsEntryName (name : String) : Prop extends IsName name where
  not_mem_nul : '\x00' ∉ name.toList
  size_le : name.utf8ByteSize ≤ maxNameSize

instance (name : String) : Decidable (IsEntryName name) :=
  decidable_of_iff ((name ≠ "" ∧ name ≠ "." ∧ name ≠ ".." ∧ '/' ∉ name.toList) ∧
      '\x00' ∉ name.toList ∧ name.utf8ByteSize ≤ maxNameSize)
    ⟨fun ⟨⟨hempty, hdot, hdots, hslash⟩, hnul, hsize⟩ =>
      ⟨⟨hempty, hdot, hdots, hslash⟩, hnul, hsize⟩,
      fun h => ⟨⟨h.ne_empty, h.ne_dot, h.ne_dots, h.not_mem_slash⟩, h.not_mem_nul, h.size_le⟩⟩

namespace System

/-- Every place has one entry, which is in a directory and has a proper name. -/
structure IsTree (s : System) : Prop where
  nodup : s.entries.keys.Nodup
  hasDirectory_above : ∀ place ∈ s.entries.keys, s.hasDirectory place.dropLast = true
  isEntryName : ∀ place ∈ s.entries.keys, ∀ name ∈ place.getLast?, IsEntryName name

/-! ### Entries -/

lemma hasDirectory_iff {s : System} {place : Place} :
    s.hasDirectory place = true ↔ s.entry? place = some .directory := by
  rw [hasDirectory]
  split
  · rename_i h
    simp [h]
  · rename_i h
    simpa using h

lemma entry?_ne_none_iff {s : System} {place : Place} (hne : place ≠ []) :
    s.entry? place ≠ none ↔ place ∈ s.entries.keys := by
  unfold entry?
  rw [if_neg hne, ne_eq, Table.find?_eq_none_iff, not_not]

lemma mem_entries_iff {s : System} (hs : s.entries.keys.Nodup) {place : Place} (hne : place ≠ [])
    {e : Entry} : (place, e) ∈ s.entries ↔ s.entry? place = some e := by
  unfold entry?
  rw [if_neg hne]
  exact ⟨Table.find?_of_mem hs, Table.mem_of_find?_eq_some⟩

/-- What is at a place does not depend on the order of the table. -/
lemma entry?_perm {s : System} (hs : s.entries.keys.Nodup) {entries : Table Place Entry}
    (h : entries.Perm s.entries) (home : Place) : entry? ⟨entries, home⟩ = s.entry? := by
  have hnodup : entries.keys.Nodup := (h.map Prod.fst).nodup_iff.mpr hs
  funext place
  by_cases hne : place = []
  · unfold entry?
    rw [if_pos hne, if_pos hne]
  · refine Option.ext fun e => ?_
    rw [← mem_entries_iff hs hne, ← mem_entries_iff (s := ⟨entries, home⟩) hnodup hne]
    exact h.mem_iff

lemma length_le_depth {s : System} {place : Place} (h : s.entry? place ≠ none) :
    place.length ≤ s.depth := by
  have hmax : ∀ (ns : List Nat), ∀ n ∈ ns, n ≤ ns.foldr max 0 := by
    intro ns
    induction ns with
    | nil => exact fun n hn => absurd hn List.not_mem_nil
    | cons first rest ih =>
      refine List.forall_mem_cons.mpr ⟨le_max_left _ _, fun n hn => ?_⟩
      exact (ih n hn).trans (le_max_right _ _)
  by_cases hne : place = []
  · rw [hne]
    exact Nat.zero_le _
  · obtain ⟨e, he, rfl⟩ := List.mem_map.mp ((entry?_ne_none_iff hne).mp h)
    exact hmax _ _ (List.mem_map_of_mem he)

lemma mem_below_iff {s : System} (hs : s.entries.keys.Nodup) {place names : Place} {e : Entry} :
    (names, e) ∈ s.below place ↔ names ≠ [] ∧ s.entry? (place ++ names) = some e := by
  rw [below, List.mem_filterMap]
  constructor
  · rintro ⟨⟨way, e'⟩, hmem, hway⟩
    split at hway
    · rename_i hbelow
      obtain ⟨hpre, hlength⟩ := Bool.and_eq_true_iff.mp hbelow
      obtain ⟨rest, rfl⟩ := List.isPrefixOf_iff_prefix.mp hpre
      rw [List.drop_left] at hway
      cases hway
      have hne : names ≠ [] := by
        rintro rfl
        simp at hlength
      exact ⟨hne, (mem_entries_iff hs (by simp [hne])).mp hmem⟩
    · cases hway
  · rintro ⟨hne, hentry⟩
    refine ⟨(place ++ names, e), (mem_entries_iff hs (by simp [hne])).mpr hentry, ?_⟩
    simp [hne]

lemma mem_children_iff {s : System} {place : Place} {name : String} :
    name ∈ s.children place ↔ s.entry? (place ++ [name]) ≠ none := by
  rw [entry?_ne_none_iff (by simp), children, List.mem_filterMap, Table.keys, List.mem_map]
  constructor
  · rintro ⟨e, he, hlast⟩
    split at hlast
    · rename_i hplace
      exact ⟨e, he, by rw [← hplace, List.dropLast_append_getLast? name hlast]⟩
    · cases hlast
  · rintro ⟨e, he, hplace⟩
    exact ⟨e, he, by simp [hplace]⟩

namespace IsTree

variable {s : System} (hs : s.IsTree)
include hs

lemma perm {entries : Table Place Entry} (h : entries.Perm s.entries) :
    IsTree ⟨entries, s.home⟩ := by
  have hkeys : ∀ place ∈ entries.keys, place ∈ s.entries.keys := fun place =>
    (h.map Prod.fst).mem_iff.mp
  refine ⟨(h.map Prod.fst).nodup_iff.mpr hs.nodup, fun place hplace => ?_, fun place hplace =>
    hs.isEntryName place (hkeys place hplace)⟩
  rw [hasDirectory_iff, entry?_perm hs.nodup h, ← hasDirectory_iff]
  exact hs.hasDirectory_above place (hkeys place hplace)

/-- A directory has no two entries of one name. -/
lemma nodup_children (place : Place) : (s.children place).Nodup := by
  have hkeys : s.children place =
      s.entries.keys.filterMap fun way => if way.dropLast = place then way.getLast? else none := by
    rw [Table.keys, List.filterMap_map]
    rfl
  rw [hkeys]
  refine hs.nodup.filterMap fun way way' name hname hname' => ?_
  have hway : ∀ w : Place, name ∈ (if w.dropLast = place then w.getLast? else none) →
      w = place ++ [name] := by
    intro w hw
    split at hw
    · rename_i hplace
      rw [← hplace, List.dropLast_append_getLast? name hw]
    · cases hw
  rw [hway way hname, hway way' hname']

/-- An entry is in a directory and has a proper name. -/
lemma of_ne_none {place : Place} {name : String} (h : s.entry? (place ++ [name]) ≠ none) :
    s.entry? place = some .directory ∧ IsEntryName name := by
  have hmem := (entry?_ne_none_iff (by simp)).mp h
  have hdir := hs.hasDirectory_above _ hmem
  rw [List.dropLast_concat, hasDirectory_iff] at hdir
  exact ⟨hdir, hs.isEntryName _ hmem name List.getLast?_concat⟩

/-- Above an entry there are directories. -/
lemma entry?_above {place : Place} {name : String} {names : List String}
    (h : s.entry? (place ++ name :: names) ≠ none) : s.entry? place = some .directory := by
  induction names using List.reverseRecOn with
  | nil => exact (hs.of_ne_none h).1
  | append_singleton names last ih =>
    rw [← List.cons_append, ← List.append_assoc] at h
    exact ih (Option.ne_none_iff_exists'.mpr ⟨_, (hs.of_ne_none h).1⟩)

lemma isEntryName_of_mem {place names : Place} (h : s.entry? (place ++ names) ≠ none) :
    ∀ name ∈ names, IsEntryName name := by
  induction names using List.reverseRecOn with
  | nil => exact fun name hname => absurd hname List.not_mem_nil
  | append_singleton names last ih =>
    rw [← List.append_assoc] at h
    obtain ⟨hdir, hlast⟩ := hs.of_ne_none h
    have hrest := ih (Option.ne_none_iff_exists'.mpr ⟨_, hdir⟩)
    exact List.forall_mem_append.mpr ⟨hrest, List.forall_mem_singleton.mpr hlast⟩

end IsTree

end System

/-! ### Names in a directory -/

lemma mem_join {dir path : String} {c : Char} (h : c ∈ (join dir path).toList) :
    c ∈ dir.toList ∨ c = '/' ∨ c ∈ path.toList := by
  unfold join at h
  split_ifs at h
  · exact .inr (.inr h)
  · rw [String.toList_append, List.mem_append] at h
    exact h.imp_right .inr
  · rw [String.toList_append, String.toList_append, List.mem_append, List.mem_append] at h
    rcases h with (h | h) | h
    · exact .inl h
    · exact .inr (.inl (by simpa using h))
    · exact .inr (.inr h)

section Join

variable {name : String} (hname : IsName name) (dir : String)
include hname

lemma IsName.isNormalized : IsNormalized name :=
  ⟨[name], by simp, fun other hother => by rwa [List.mem_singleton.mp hother], by simp⟩

lemma names_join : names (join dir name) = names dir ++ [name] := by
  obtain ⟨opening, hopening, hnames, _, hjoin⟩ := exists_opening_of_join dir
  have hsingle : names name = [name] := by
    simpa using names_intercalate (List.cons_ne_nil name []) (by simpa using hname)
  rw [hjoin name hname.isNormalized, names_append hopening hname.isNormalized, hnames, hsingle]

lemma isAbsolute_join : isAbsolute (join dir name) = isAbsolute dir := by
  obtain ⟨opening, hopening, _, habsolute, hjoin⟩ := exists_opening_of_join dir
  rw [hjoin name hname.isNormalized, isAbsolute_append hopening hname.isNormalized, habsolute]

/-- A path with a name at its end may lead to a file. -/
lemma namesDirectory_join : namesDirectory (join dir name) = false := by
  obtain ⟨opening, -, -, -, hjoin⟩ := exists_opening_of_join dir
  obtain ⟨before, c, hchars⟩ : ∃ before c, name.toList = before ++ [c] :=
    ⟨_, _, (List.dropLast_concat_getLast fun h => hname.ne_empty (String.toList_inj.mp h)).symm⟩
  have hslash : ∀ d ∈ before ++ [c], d ≠ '/' := fun d hd h =>
    hname.not_mem_slash (by rwa [hchars, ← h])
  have hdot : before ++ [c] ≠ ['.'] := fun h =>
    hname.ne_dot (String.toList_inj.mp (by rw [hchars, h]; rfl))
  have htext : (opening ++ name).toList = opening.toList ++ before ++ [c] := by
    rw [String.toList_append, hchars, List.append_assoc]
  have hends : endsWithDot (opening ++ name) = false := by
    unfold endsWithDot
    rw [htext, List.reverse_concat]
    split
    · rename_i tail heq
      obtain ⟨rfl, htail⟩ := List.cons.inj heq
      -- Before the dot there is a slash: it would be in the name, or the name would be the dot.
      rcases List.eq_nil_or_concat before with rfl | ⟨rest, d, rfl⟩
      · exact absurd rfl hdot
      · rw [List.concat_eq_append, ← List.append_assoc, List.reverse_concat] at htail
        exact absurd (List.cons.inj htail).1 (hslash d (by simp))
    · rw [beq_eq_false_iff_ne]
      intro h
      have hlist : opening.toList ++ (before ++ [c]) = ['.'] := by
        rw [← List.append_assoc, ← htext, h]
        rfl
      rcases List.append_eq_singleton_iff.mp hlist with ⟨_, h⟩ | ⟨_, h⟩
      · exact hdot h
      · simp at h
  rw [hjoin name hname.isNormalized, namesDirectory, hends, htext, List.getLast?_concat,
    Bool.or_false, beq_eq_false_iff_ne]
  exact fun h => hslash c (by simp) (Option.some.inj h)

end Join

namespace System

/-- A name leads from the place of a directory to the place below it. -/
lemma locate_join {s : System} {dir : String} {place : Place} (h : s.locate dir = .ok place)
    (hdir : s.entry? place = some .directory) {name : String} (hname : IsEntryName name) :
    s.locate (join dir name) = .ok (place ++ [name]) := by
  obtain ⟨hnul, _, hnames⟩ := locate_eq_ok_iff.mp h
  have hfollow : s.follow place name = .ok (place ++ [name]) :=
    follow_eq_ok_iff.mpr ⟨hdir, hname.size_le, hname.toIsName.advance_eq place⟩
  refine locate_eq_ok_iff.mpr ⟨fun hmem => ?_, fun hempty => ?_, ?_⟩
  · rcases mem_join hmem with hmem | hslash | hmem
    · exact hnul hmem
    · cases hslash
    · exact hname.not_mem_nul hmem
  · have hjoin := names_join hname.toIsName dir
    rw [hempty] at hjoin
    exact absurd hjoin (by simp [show names "" = [] from rfl])
  · rw [isAbsolute_join hname.toIsName, names_join hname.toIsName, List.foldlM_append, hnames,
      ok_bind, List.foldlM_cons, hfollow]
    rfl

end System

/-! ### Ways down -/

/-- The path that leads from another one along the given names. -/
def pathBelow (root : String) (names : List String) : String := names.foldl join root

lemma pathBelow_concat (root : String) (names : List String) (name : String) :
    pathBelow root (names ++ [name]) = join (pathBelow root names) name := by
  rw [pathBelow, List.foldl_append]
  rfl

lemma names_pathBelow {ns : List String} (h : ∀ name ∈ ns, IsName name) (root : String) :
    names (pathBelow root ns) = names root ++ ns ∧
      isAbsolute (pathBelow root ns) = isAbsolute root := by
  induction ns using List.reverseRecOn with
  | nil => exact ⟨(List.append_nil _).symm, rfl⟩
  | append_singleton ns name ih =>
    obtain ⟨hns, hname⟩ := List.forall_mem_append.mp h
    obtain ⟨hnames, habsolute⟩ := ih hns
    have hlast : IsName name := hname name (List.mem_singleton_self name)
    rw [pathBelow_concat, names_join hlast, isAbsolute_join hlast, hnames, habsolute]
    exact ⟨List.append_assoc _ _ _, rfl⟩

/-- A path goes on behind its start by the names along which it was made. -/
lemma namesBehind?_pathBelow {ns : List String} (h : ∀ name ∈ ns, IsName name) (root : String) :
    namesBehind? root (pathBelow root ns) = some ns := by
  obtain ⟨hnames, habsolute⟩ := names_pathBelow h root
  rw [namesBehind?, hnames, habsolute, if_pos ⟨rfl, List.prefix_append _ _⟩, List.drop_left]

namespace System.IsTree

variable {s : System} (hs : s.IsTree) {root : String} {start : Place}
  (hroot : s.locate root = .ok start)
include hs hroot

/-- The names that lead down to an entry make a path to it. -/
theorem locate_pathBelow {ns : List String} (h : s.entry? (start ++ ns) ≠ none) :
    s.locate (pathBelow root ns) = .ok (start ++ ns) := by
  induction ns using List.reverseRecOn with
  | nil => rwa [List.append_nil]
  | append_singleton ns name ih =>
    have hname := hs.isEntryName_of_mem h name (by simp)
    have hdir : s.entry? (start ++ ns) = some .directory := by
      rw [← List.append_assoc] at h
      exact hs.entry?_above h
    have hpath := ih (Option.ne_none_iff_exists'.mpr ⟨_, hdir⟩)
    rw [pathBelow_concat, locate_join hpath hdir hname, List.append_assoc]

/-- A file is read by that path. -/
theorem readText_pathBelow {ns : List String} (hne : ns ≠ []) {text : String}
    (h : s.entry? (start ++ ns) = some (.file text.toByteArray)) :
    s.readText (pathBelow root ns) = .ok text := by
  have hsome : s.entry? (start ++ ns) ≠ none := Option.ne_none_iff_exists'.mpr ⟨_, h⟩
  have hlocate := hs.locate_pathBelow hroot hsome
  have hnames : namesDirectory (pathBelow root ns) = false := by
    obtain ⟨before, name, rfl⟩ : ∃ before name, ns = before ++ [name] :=
      ⟨_, _, (List.dropLast_concat_getLast hne).symm⟩
    have hname := hs.isEntryName_of_mem hsome name (by simp)
    rw [pathBelow_concat]
    exact namesDirectory_join hname.toIsName _
  have hread : s.read (pathBelow root ns) = .ok text.toByteArray := by
    rw [read, hlocate, ok_bind, h]
    simp only [hnames, Bool.false_eq_true, if_false]
    rfl
  have htext : String.fromUTF8? text.toByteArray = some text := by
    simp [String.fromUTF8?, text.isValidUTF8, String.fromUTF8]
  rw [readText, hread]
  simp only [htext]

end System.IsTree

end ApiContract.Files
