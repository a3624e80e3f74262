import ApiContract.Files.Atomic
import Mathlib.Data.List.Basic

/-!
# Paths below a directory

A path below a directory is what leads to the directory, an *opening*, followed by the path. An
opening is empty or ends with a slash, so no name reaches across its end: the names of the whole are
those of the two parts (`names_append`), and the temporary name beside a file depends on the last
name alone (`temporaryPath_append`). So temporary paths are taken below a directory like any other
path (`temporaryPath_join`).
-/

namespace ApiContract.Files

/-- The name of one file or directory. -/
structure IsName (name : String) : Prop where
  ne_empty : name ≠ ""
  ne_dot : name ≠ "."
  ne_dots : name ≠ ".."
  not_mem_slash : '/' ∉ name.toList

/-- A path that goes down from where it starts, name by name. -/
def IsNormalized (path : String) : Prop :=
  ∃ names : List String, names ≠ [] ∧ (∀ name ∈ names, IsName name) ∧
    path = String.intercalate "/" names

/-- A text that paths can follow. -/
def IsOpening (text : String) : Prop := text = "" ∨ ∃ dir, text = dir ++ "/"

lemma IsOpening.append {a b : String} (ha : IsOpening a) (hb : IsOpening b) :
    IsOpening (a ++ b) := by
  rcases hb with rfl | ⟨dir, rfl⟩
  · rwa [String.append_empty]
  · exact Or.inr ⟨a ++ dir, String.append_assoc.symm⟩

/-! ### The parts of a path -/

lemma partsAux_append_slash (a b name : List Char) (place : Nat) :
    partsAux name place (a ++ '/' :: b) =
      partsAux name place a ++ partsAux [] (place + a.length + 1) b := by
  induction a generalizing name place with
  | nil => simp [partsAux]
  | cons c rest ih =>
    have hplace : place + 1 + rest.length = place + (rest.length + 1) := by omega
    by_cases hc : c = '/'
    · simp only [List.cons_append, partsAux, hc, if_true, ih, List.length_cons, hplace]
    · simp only [List.cons_append, partsAux, hc, if_false, ih, List.length_cons, hplace]

lemma partsAux_of_not_mem_slash {cs : List Char} (h : '/' ∉ cs) (name : List Char) (place : Nat) :
    partsAux name place cs = [⟨name.reverse ++ cs, place + cs.length⟩] := by
  induction cs generalizing name place with
  | nil => simp [partsAux]
  | cons c rest ih =>
    obtain ⟨hc, hrest⟩ := not_or.mp (mt List.mem_cons.mpr h)
    have hplace : place + 1 + rest.length = place + (rest.length + 1) := by omega
    rw [partsAux, if_neg (Ne.symm hc), ih hrest]
    simp [hplace]

lemma partsAux_ne_nil (name : List Char) (place : Nat) (cs : List Char) :
    partsAux name place cs ≠ [] := by
  induction cs generalizing name place with
  | nil => exact List.cons_ne_nil _ _
  | cons c rest ih =>
    rw [partsAux]
    split
    · exact List.cons_ne_nil _ _
    · exact ih _ _

/-- Whether a part behind a slash counts. -/
def Part.counts (p : Part) : Bool := p.name ≠ [] && p.name ≠ ['.']

lemma Part.counts_iff {p : Part} :
    p.counts = true ↔ String.ofList p.name ≠ "" ∧ String.ofList p.name ≠ "." := by
  have hempty : String.ofList p.name = "" ↔ p.name = [] := by simp [← String.toList_inj]
  have hdot : String.ofList p.name = "." ↔ p.name = ['.'] := by simp [← String.toList_inj]
  rw [Part.counts, Bool.and_eq_true, decide_eq_true_iff, decide_eq_true_iff, ne_eq, ne_eq, ne_eq,
    ne_eq, hempty, hdot]

/-- What stands behind a slash has its own parts. -/
lemma parts_append_slash (dir path : String) :
    parts (dir ++ "/" ++ path) =
      parts dir ++ (partsAux [] (dir.toList.length + 1) path.toList).filter Part.counts := by
  have htext : (dir ++ "/" ++ path).toList = dir.toList ++ '/' :: path.toList := by simp
  unfold parts
  rw [htext, partsAux_append_slash, Nat.zero_add]
  obtain ⟨first, rest, hfirst⟩ := List.exists_cons_of_ne_nil (partsAux_ne_nil [] 0 dir.toList)
  simp only [hfirst, List.cons_append, List.filter_append, List.append_assoc]
  rfl

/-- When all parts count, none is left out. -/
lemma parts_eq_partsAux {path : String}
    (h : ∀ p ∈ partsAux [] 0 path.toList, p.counts = true) :
    parts path = partsAux [] 0 path.toList := by
  obtain ⟨first, rest, hfirst⟩ := List.exists_cons_of_ne_nil (partsAux_ne_nil [] 0 path.toList)
  rw [hfirst] at h
  obtain ⟨hcounts, hrest⟩ := List.forall_mem_cons.mp h
  have hname : first.name ≠ [] := by simp_all [Part.counts]
  have hfilter : rest.filter Part.counts = rest := List.filter_eq_self.mpr hrest
  unfold parts
  simp only [hfirst, if_neg hname, List.singleton_append, List.cons.injEq, true_and]
  exact hfilter

/-! ### Names -/

lemma partsAux_of_isName {name : String} (h : IsName name) (place : Nat) :
    partsAux [] place name.toList = [⟨name.toList, place + name.toList.length⟩] :=
  partsAux_of_not_mem_slash h.not_mem_slash [] place

lemma IsName.counts {name : String} (h : IsName name) (stop : Nat) :
    Part.counts ⟨name.toList, stop⟩ = true := by
  have hempty : name.toList ≠ [] := fun h' => h.ne_empty (String.toList_inj.mp h')
  have hdot : name.toList ≠ ['.'] := fun h' => h.ne_dot (String.toList_inj.mp h')
  simp [Part.counts, hempty, hdot]

/-- Names with slashes between them are the parts of the whole. -/
lemma map_name_partsAux_intercalate {ns : List String} (hne : ns ≠ [])
    (h : ∀ name ∈ ns, '/' ∉ name.toList) (place : Nat) :
    (partsAux [] place (String.intercalate "/" ns).toList).map
      (fun p => String.ofList p.name) = ns := by
  induction ns generalizing place with
  | nil => exact absurd rfl hne
  | cons name rest ih =>
    obtain ⟨hname, hrest⟩ := List.forall_mem_cons.mp h
    cases rest with
    | nil =>
      rw [String.intercalate_singleton, partsAux_of_not_mem_slash hname]
      simp
    | cons next more =>
      have htext : (String.intercalate "/" (name :: next :: more)).toList =
          name.toList ++ '/' :: (String.intercalate "/" (next :: more)).toList := by
        rw [String.intercalate_cons_cons]
        simp
      rw [htext, partsAux_append_slash, partsAux_of_not_mem_slash hname, List.map_append,
        ih (List.cons_ne_nil _ _) hrest]
      simp

/-- All parts of names with slashes between them count when the names are names. -/
lemma counts_of_mem_partsAux_intercalate {ns : List String} (hne : ns ≠ [])
    (h : ∀ name ∈ ns, '/' ∉ name.toList ∧ name ≠ "" ∧ name ≠ ".") (place : Nat) :
    ∀ p ∈ partsAux [] place (String.intercalate "/" ns).toList, p.counts = true := by
  intro p hp
  have hmap := map_name_partsAux_intercalate hne (fun name hname => (h name hname).1) place
  have hmem : String.ofList p.name ∈ ns := hmap ▸ List.mem_map_of_mem hp
  exact Part.counts_iff.mpr (h _ hmem).2

/-- A path that goes down name by name has a part for each name. -/
lemma partsAux_intercalate {ns : List String} (hne : ns ≠ []) (h : ∀ name ∈ ns, IsName name)
    (place : Nat) :
    (partsAux [] place (String.intercalate "/" ns).toList).map
      (fun p => String.ofList p.name) = ns ∧
    ∀ p ∈ partsAux [] place (String.intercalate "/" ns).toList, p.counts = true := by
  constructor
  · exact map_name_partsAux_intercalate hne (fun name hname => (h name hname).not_mem_slash) place
  · refine counts_of_mem_partsAux_intercalate hne (fun name hname => ?_) place
    exact ⟨(h name hname).not_mem_slash, (h name hname).ne_empty, (h name hname).ne_dot⟩

lemma names_intercalate {ns : List String} (hne : ns ≠ []) (h : ∀ name ∈ ns, IsName name) :
    names (String.intercalate "/" ns) = ns := by
  obtain ⟨hmap, hcounts⟩ := partsAux_intercalate hne h 0
  rw [names, parts_eq_partsAux hcounts, hmap]

/-- A path of names that starts with one is relative. -/
lemma isAbsolute_intercalate {name : String} (rest : List String) (hempty : name ≠ "")
    (hslash : '/' ∉ name.toList) :
    isAbsolute (String.intercalate "/" (name :: rest)) = false := by
  obtain ⟨c, cs, hcs⟩ := List.exists_cons_of_ne_nil (l := name.toList) fun h' =>
    hempty (String.toList_inj.mp h')
  have hc : c ≠ '/' := fun hc => hslash (by rw [hcs, hc]; exact List.mem_cons_self)
  have hhead : (String.intercalate "/" (name :: rest)).toList.head? = some c := by
    cases rest <;> simp [String.intercalate_cons_cons, hcs]
  rw [isAbsolute, hhead]
  simpa using hc

namespace IsNormalized

variable {path : String} (h : IsNormalized path)

include h

/-- A path that goes down is made of its names. -/
lemma intercalate_names : String.intercalate "/" (names path) = path := by
  obtain ⟨ns, hne, hnames, rfl⟩ := h
  rw [names_intercalate hne hnames]

lemma isName_of_mem : ∀ name ∈ names path, IsName name := by
  obtain ⟨ns, hne, hnames, rfl⟩ := h
  rwa [names_intercalate hne hnames]

lemma isAbsolute_eq_false : isAbsolute path = false := by
  obtain ⟨ns, hne, hnames, rfl⟩ := h
  obtain ⟨name, rest, rfl⟩ := List.exists_cons_of_ne_nil hne
  have hname : IsName name := hnames name List.mem_cons_self
  exact isAbsolute_intercalate rest hname.ne_empty hname.not_mem_slash

end IsNormalized

/-- Different paths that go down have different names. -/
lemma names_inj {a b : String} (ha : IsNormalized a) (hb : IsNormalized b) :
    names a = names b ↔ a = b := by
  refine ⟨fun h => ?_, congrArg names⟩
  rw [← ha.intercalate_names, h, hb.intercalate_names]

/-! ### The way that a path takes -/

lemma not_mem_slash_of_mem_partsAux {p : Part} {name cs : List Char} {place : Nat}
    (hname : '/' ∉ name) (hp : p ∈ partsAux name place cs) : '/' ∉ p.name := by
  induction cs generalizing name place with
  | nil =>
    obtain rfl := List.mem_singleton.mp hp
    rwa [List.mem_reverse]
  | cons c rest ih =>
    rw [partsAux] at hp
    split at hp
    · rcases List.mem_cons.mp hp with rfl | hrest
      · rwa [List.mem_reverse]
      · exact ih List.not_mem_nil hrest
    · rename_i hc
      refine ih ?_ hp
      rw [List.mem_cons, not_or]
      exact ⟨Ne.symm hc, hname⟩

/-- Names as they stand in a path: only the first one, of a path that does not start at the root,
may be a dot. -/
structure IsWay (isFromRoot : Bool) (ns : List String) : Prop where
  not_mem_slash : ∀ name ∈ ns, '/' ∉ name.toList
  ne_empty : ∀ name ∈ ns, name ≠ ""
  ne_dot : ∀ name ∈ (if isFromRoot then ns else ns.tail), name ≠ "."

/-- The path of names, from the root or from home. -/
def pathOf (isFromRoot : Bool) (ns : List String) : String :=
  (if isFromRoot then "/" else "") ++ String.intercalate "/" ns

lemma names_of_partsAux {path : String} {first : Part} {rest : List Part}
    (h : partsAux [] 0 path.toList = first :: rest) :
    names path = ((if first.name = [] then [] else [first]) ++ rest.filter Part.counts).map
      (fun p => String.ofList p.name) := by
  unfold names parts
  rw [h]
  rfl

/-- The names of a path are a way. -/
lemma isWay_names (path : String) : IsWay (isAbsolute path) (names path) := by
  obtain ⟨first, rest, hparts⟩ := List.exists_cons_of_ne_nil (partsAux_ne_nil [] 0 path.toList)
  have hslash : ∀ p ∈ first :: rest, '/' ∉ (String.ofList p.name).toList := by
    intro p hp
    rw [← hparts] at hp
    rw [String.toList_ofList]
    exact not_mem_slash_of_mem_partsAux List.not_mem_nil hp
  obtain ⟨hfirst, hrest⟩ := List.forall_mem_cons.mp hslash
  have hcounts : ∀ p ∈ rest.filter Part.counts, '/' ∉ (String.ofList p.name).toList ∧
      String.ofList p.name ≠ "" ∧ String.ofList p.name ≠ "." := by
    intro p hp
    obtain ⟨hmem, hcounts⟩ := List.mem_filter.mp hp
    exact ⟨hrest p hmem, Part.counts_iff.mp hcounts⟩
  rw [names_of_partsAux hparts]
  by_cases hname : first.name = []
  · rw [if_pos hname, List.nil_append]
    refine ⟨?_, ?_, ?_⟩
    · exact List.forall_mem_map.mpr fun p hp => (hcounts p hp).1
    · exact List.forall_mem_map.mpr fun p hp => (hcounts p hp).2.1
    · have hdot : ∀ name ∈ (rest.filter Part.counts).map (fun p => String.ofList p.name),
          name ≠ "." := List.forall_mem_map.mpr fun p hp => (hcounts p hp).2.2
      split
      · exact hdot
      · exact fun name hmem => hdot name (List.mem_of_mem_tail hmem)
  · have hrelative : isAbsolute path = false := by
      cases htext : path.toList with
      | nil => simp [isAbsolute, htext]
      | cons c cs =>
        have hc : c ≠ '/' := by
          rintro rfl
          rw [htext, partsAux, if_pos rfl] at hparts
          obtain ⟨rfl, _⟩ := List.cons.inj hparts
          exact hname rfl
        simp [isAbsolute, htext, hc]
    rw [if_neg hname, List.singleton_append, List.map_cons, hrelative]
    refine ⟨?_, ?_, ?_⟩
    · refine List.forall_mem_cons.mpr ⟨hfirst, ?_⟩
      exact List.forall_mem_map.mpr fun p hp => (hcounts p hp).1
    · refine List.forall_mem_cons.mpr ⟨?_, ?_⟩
      · exact fun hempty => hname (by simpa using congrArg String.toList hempty)
      · exact List.forall_mem_map.mpr fun p hp => (hcounts p hp).2.1
    · exact List.forall_mem_map.mpr fun p hp => (hcounts p hp).2.2

/-- A part of a way from its start is a way. -/
lemma IsWay.initial {isFromRoot : Bool} {ns before : List String} (h : IsWay isFromRoot ns)
    (hbefore : before <+: ns) : IsWay isFromRoot before := by
  refine ⟨?_, ?_, ?_⟩
  · exact fun name hname => h.not_mem_slash name (hbefore.subset hname)
  · exact fun name hname => h.ne_empty name (hbefore.subset hname)
  · have hsubset : (if isFromRoot then before else before.tail) ⊆
        if isFromRoot then ns else ns.tail := by
      obtain ⟨rest, rfl⟩ := hbefore
      cases isFromRoot with
      | true => exact List.subset_append_left before rest
      | false =>
        cases before with
        | nil => exact List.nil_subset _
        | cons name before => exact List.subset_append_left before rest
    exact fun name hname => h.ne_dot name (hsubset hname)

/-- The path of a way has its names. -/
lemma IsWay.names_pathOf {isFromRoot : Bool} {ns : List String} (h : IsWay isFromRoot ns)
    (hne : ns ≠ []) : names (pathOf isFromRoot ns) = ns := by
  cases isFromRoot with
  | true =>
    have hnames : ∀ name ∈ ns, '/' ∉ name.toList ∧ name ≠ "" ∧ name ≠ "." := fun name hname =>
      ⟨h.not_mem_slash name hname, h.ne_empty name hname, h.ne_dot name hname⟩
    have hcounts := counts_of_mem_partsAux_intercalate hne hnames 1
    have htext : pathOf true ns = "" ++ "/" ++ String.intercalate "/" ns := by simp [pathOf]
    rw [htext, names, parts_append_slash]
    exact (congrArg (List.map _) (List.filter_eq_self.mpr hcounts)).trans
      (map_name_partsAux_intercalate hne h.not_mem_slash 1)
  | false =>
    have htext : pathOf false ns = String.intercalate "/" ns := by simp [pathOf]
    have hmap := map_name_partsAux_intercalate hne h.not_mem_slash 0
    obtain ⟨first, rest, hparts⟩ := List.exists_cons_of_ne_nil
      (partsAux_ne_nil [] 0 (String.intercalate "/" ns).toList)
    rw [hparts, List.map_cons] at hmap
    subst hmap
    have hfirst : first.name ≠ [] := by
      intro hnil
      refine h.ne_empty _ List.mem_cons_self ?_
      rw [hnil]
    have hrest : rest.filter Part.counts = rest := by
      refine List.filter_eq_self.mpr fun p hp => Part.counts_iff.mpr ?_
      have hmem : String.ofList p.name ∈ rest.map fun p => String.ofList p.name :=
        List.mem_map_of_mem hp
      exact ⟨h.ne_empty _ (List.mem_cons_of_mem _ hmem), h.ne_dot _ hmem⟩
    rw [htext, names_of_partsAux hparts, if_neg hfirst, hrest]
    rfl

lemma IsWay.isAbsolute_pathOf {isFromRoot : Bool} {ns : List String} (h : IsWay isFromRoot ns)
    (hne : ns ≠ []) : isAbsolute (pathOf isFromRoot ns) = isFromRoot := by
  cases isFromRoot with
  | true => simp [isAbsolute, pathOf]
  | false =>
    obtain ⟨name, rest, rfl⟩ := List.exists_cons_of_ne_nil hne
    have htext : pathOf false (name :: rest) = String.intercalate "/" (name :: rest) := by
      simp [pathOf]
    rw [htext]
    exact isAbsolute_intercalate rest (h.ne_empty name List.mem_cons_self)
      (h.not_mem_slash name List.mem_cons_self)

/-! ### Below a directory -/

lemma names_append_slash (dir : String) : names (dir ++ "/") = names dir := by
  have hparts := parts_append_slash dir ""
  rw [String.append_empty] at hparts
  simp [names, hparts, partsAux, Part.counts]

/-- The names of a path behind an opening follow those of the opening. -/
theorem names_append {text path : String} (htext : IsOpening text) (hpath : IsNormalized path) :
    names (text ++ path) = names text ++ names path := by
  rcases htext with rfl | ⟨dir, rfl⟩
  · rw [String.empty_append]
    rfl
  · obtain ⟨ns, hne, hnames, rfl⟩ := hpath
    obtain ⟨hmap, hcounts⟩ := partsAux_intercalate hne hnames (dir.toList.length + 1)
    rw [names_append_slash, names, parts_append_slash, List.filter_eq_self.mpr hcounts,
      List.map_append, hmap, names_intercalate hne hnames]
    rfl

/-- A path behind an opening starts where the opening does. -/
lemma isAbsolute_append {text path : String} (htext : IsOpening text) (hpath : IsNormalized path) :
    isAbsolute (text ++ path) = isAbsolute text := by
  rcases htext with rfl | ⟨dir, rfl⟩
  · rw [String.empty_append, hpath.isAbsolute_eq_false]
    rfl
  · rcases hdir : dir.toList with _ | ⟨c, cs⟩ <;> simp [isAbsolute, hdir]

/-- Paths are taken below a directory behind one opening, which leads where the directory is. -/
lemma exists_opening_of_join (dir : String) :
    ∃ text, IsOpening text ∧ names text = names dir ∧ isAbsolute text = isAbsolute dir ∧
      ∀ path, IsNormalized path → join dir path = text ++ path := by
  by_cases hopen : (dir.isEmpty || dir.toList.getLast? == some '/') = true
  · refine ⟨dir, ?_, rfl, rfl, fun path hpath => ?_⟩
    · rcases Bool.or_eq_true _ _ ▸ hopen with hempty | hslash
      · exact Or.inl (String.isEmpty_iff.mp hempty)
      · obtain ⟨cs, hcs⟩ := List.getLast?_eq_some_iff.mp (beq_iff_eq.mp hslash)
        refine Or.inr ⟨String.ofList cs, String.toList_inj.mp ?_⟩
        simpa using hcs
    · rw [join, hpath.isAbsolute_eq_false, if_neg Bool.false_ne_true, if_pos hopen]
  · refine ⟨dir ++ "/", Or.inr ⟨dir, rfl⟩, names_append_slash dir, ?_, fun path hpath => ?_⟩
    · have hne : dir.toList ≠ [] := fun h => hopen (by
        rw [String.toList_eq_nil_iff] at h
        simp [h])
      obtain ⟨c, cs, hcs⟩ := List.exists_cons_of_ne_nil hne
      simp [isAbsolute, hcs]
    · rw [join, hpath.isAbsolute_eq_false, if_neg Bool.false_ne_true, if_neg hopen]

lemma exists_opening_of_intercalate (before : List String) :
    ∃ text, IsOpening text ∧ ∀ name, String.intercalate "/" (before ++ [name]) = text ++ name := by
  induction before with
  | nil => exact ⟨"", Or.inl rfl, fun name => by simp⟩
  | cons first rest ih =>
    obtain ⟨text, htext, hrest⟩ := ih
    refine ⟨first ++ "/" ++ text, .append (Or.inr ⟨first, rfl⟩) htext, fun name => ?_⟩
    obtain ⟨next, more, hmore⟩ := List.exists_cons_of_ne_nil (l := rest ++ [name]) (by simp)
    rw [List.cons_append, hmore, String.intercalate_cons_cons, ← hmore, hrest]
    simp only [String.append_assoc]

/-- A path that goes down has its last name behind an opening, and so has each path with another
last name. -/
lemma exists_opening_of_isNormalized {path : String} (h : IsNormalized path) :
    ∃ text name, IsOpening text ∧ IsName name ∧ path = text ++ name ∧
      ∀ other, IsName other → IsNormalized (text ++ other) := by
  obtain ⟨ns, hne, hnames, rfl⟩ := h
  obtain ⟨before, name, rfl⟩ : ∃ before name, ns = before ++ [name] :=
    ⟨_, _, (List.dropLast_append_getLast hne).symm⟩
  obtain ⟨hbefore, hname⟩ := List.forall_mem_append.mp hnames
  obtain ⟨text, htext, hjoined⟩ := exists_opening_of_intercalate before
  refine ⟨text, name, htext, hname name List.mem_cons_self, hjoined name, fun other hother => ?_⟩
  refine ⟨before ++ [other], by simp, ?_, (hjoined other).symm⟩
  exact List.forall_mem_append.mpr ⟨hbefore, List.forall_mem_singleton.mpr hother⟩

/-! ### Temporary paths -/

/-- The temporary name beside a file of a name. -/
def temporaryName (name : String) : String :=
  String.ofList (cutName name.toList).1 ++ ".tmp"

lemma prefix_of_cutName (name : List Char) : (cutName name).1 <+: name := by
  unfold cutName
  split
  · dsimp only
    split
    · exact List.prefix_refl _
    · exact List.take_prefix _ _
  · exact List.prefix_refl _

lemma toList_temporaryName (name : String) :
    (temporaryName name).toList = (cutName name.toList).1 ++ ['.', 't', 'm', 'p'] := by
  simp [temporaryName]

/-- A temporary name is a name. -/
lemma IsName.temporaryName {name : String} (h : IsName name) : IsName (temporaryName name) := by
  have hne : ∀ other : String, other.toList.length < 4 → Files.temporaryName name ≠ other := by
    intro other hshort heq
    have hlength := congrArg List.length (toList_temporaryName name)
    rw [heq, List.length_append, List.length_cons] at hlength
    simp only [List.length_cons, List.length_nil] at hlength
    omega
  refine ⟨hne "" (by decide), hne "." (by decide), hne ".." (by decide), fun hslash => ?_⟩
  rw [toList_temporaryName, List.mem_append] at hslash
  rcases hslash with hstem | hending
  · exact h.not_mem_slash ((prefix_of_cutName name.toList).subset hstem)
  · exact absurd hending (by decide)

/-- The last part of a path is the name behind its last opening, and ends where the path ends. -/
lemma lastName?_append {text name : String} (htext : IsOpening text) (hname : IsName name) :
    lastName? (text ++ name) = some ⟨name.toList, (text ++ name).toList.length⟩ := by
  have hlast : (parts (text ++ name)).getLast? =
      some ⟨name.toList, (text ++ name).toList.length⟩ := by
    rcases htext with rfl | ⟨dir, rfl⟩
    · have hparts := partsAux_of_isName hname 0
      rw [String.empty_append, parts_eq_partsAux (by simpa [hparts] using hname.counts _), hparts,
        Nat.zero_add]
      rfl
    · have hparts := partsAux_of_isName hname (dir.toList.length + 1)
      have hcounts := hname.counts (dir.toList.length + 1 + name.toList.length)
      rw [parts_append_slash, hparts, List.filter_cons_of_pos hcounts, List.filter_nil,
        List.getLast?_concat]
      have hlength : (dir ++ "/" ++ name).toList.length =
          dir.toList.length + 1 + name.toList.length := by simp; omega
      rw [hlength]
  have hdot : name.toList ≠ ['.'] := fun h => hname.ne_dot (String.toList_inj.mp h)
  have hdots : name.toList ≠ ['.', '.'] := fun h => hname.ne_dots (String.toList_inj.mp h)
  simp [lastName?, hlast, hdot, hdots]

/-- The temporary path beside a file has the temporary name of its last name. -/
theorem temporaryPath_append {text name : String} (htext : IsOpening text) (hname : IsName name) :
    temporaryPath (text ++ name) = text ++ temporaryName name := by
  have hkept : (text ++ name).toList.take ((text ++ name).toList.length - name.toList.length +
      (cutName name.toList).1.length) = text.toList ++ (cutName name.toList).1 := by
    have hlength : (text ++ name).toList.length - name.toList.length = text.toList.length := by
      simp
    rw [hlength, String.toList_append, List.take_length_add_append]
    congr 1
    exact (List.prefix_iff_eq_take.mp (prefix_of_cutName name.toList)).symm
  unfold temporaryPath withExtension
  simp only [lastName?_append htext hname, hkept]
  refine String.toList_inj.mp ?_
  simp [temporaryName]

lemma IsNormalized.temporaryPath {path : String} (h : IsNormalized path) :
    IsNormalized (temporaryPath path) := by
  obtain ⟨text, name, htext, hname, rfl, hother⟩ := exists_opening_of_isNormalized h
  rw [temporaryPath_append htext hname]
  exact hother _ hname.temporaryName

/-- The temporary path beside a file below a directory is below the directory. -/
theorem temporaryPath_join (dir : String) {path : String} (h : IsNormalized path) :
    Files.temporaryPath (join dir path) = join dir (Files.temporaryPath path) := by
  obtain ⟨opening, hopening, _, _, hjoin⟩ := exists_opening_of_join dir
  rw [hjoin _ h, hjoin _ h.temporaryPath]
  obtain ⟨text, name, htext, hname, rfl, _⟩ := exists_opening_of_isNormalized h
  rw [← String.append_assoc, temporaryPath_append (hopening.append htext) hname,
    temporaryPath_append htext hname, String.append_assoc]

end ApiContract.Files
