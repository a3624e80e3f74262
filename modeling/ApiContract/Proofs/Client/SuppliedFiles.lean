import ApiContract.Client.Delivery
import ApiContract.Proofs.Files.FailedWrites
import ApiContract.Proofs.Files.Tree
import ApiContract.Proofs.Table
import Mathlib.Data.String.Basic

/-!
# Supplied files

The search for supplied files meets every file below a directory once, by the names that lead to it
(`mem_waysToFiles_iff`, `nodup_waysToFiles`), in an order that depends on how the directories list
their entries. Different files have different keys, so the files in the order of their keys, and the
table that is loaded from them, do not depend on that order (`loads_supplied`).
-/

namespace ApiContract.Client

open ApiContract.Files (Place Entry System pathBelow)

/-! ### The search -/

/-- The names that lead from a place to the files below it, as the search meets them, given a bound
on the depth. -/
def waysToFiles (s : System) : Nat → Place → List Place
  | 0, _ => []
  | n + 1, place => (s.children place).flatMap fun name =>
    if s.hasDirectory (place ++ [name]) then (waysToFiles s n (place ++ [name])).map (name :: ·)
    else [[name]]

section Search

variable {s : System} (hs : s.IsTree)
include hs

/-- The search meets the files below a place, if the bound exceeds the depth below it. -/
theorem mem_waysToFiles_iff {n : Nat} {place : Place}
    (hn : ∀ names, s.entry? (place ++ names) ≠ none → names.length < n) (names : Place) :
    names ∈ waysToFiles s n place ↔
      names ≠ [] ∧ ∃ bytes, s.entry? (place ++ names) = some (.file bytes) := by
  induction n generalizing place names with
  | zero =>
    refine ⟨fun h => absurd h List.not_mem_nil, fun ⟨_, bytes, h⟩ => ?_⟩
    exact absurd (hn names (Option.ne_none_iff_exists'.mpr ⟨_, h⟩)) (Nat.not_lt_zero _)
  | succ n ih =>
    have hbelow : ∀ name rest, rest ∈ waysToFiles s n (place ++ [name]) ↔
        rest ≠ [] ∧ ∃ bytes, s.entry? (place ++ name :: rest) = some (.file bytes) := by
      intro name rest
      rw [List.append_cons place name rest]
      refine ih (fun below h => ?_) rest
      rw [← List.append_cons] at h
      exact Nat.lt_of_succ_lt_succ (hn (name :: below) h)
    rw [waysToFiles, List.mem_flatMap]
    constructor
    · rintro ⟨name, hname, hmem⟩
      rw [System.mem_children_iff] at hname
      split at hmem
      · obtain ⟨rest, hrest, rfl⟩ := List.mem_map.mp hmem
        exact ⟨List.cons_ne_nil _ _, ((hbelow name rest).mp hrest).2⟩
      · rename_i hfile
        obtain rfl := List.mem_singleton.mp hmem
        obtain ⟨e, he⟩ := Option.ne_none_iff_exists'.mp hname
        cases e with
        | file bytes => exact ⟨List.cons_ne_nil _ _, bytes, he⟩
        | directory => exact absurd (System.hasDirectory_iff.mpr he) hfile
    · rintro ⟨hne, bytes, hfile⟩
      obtain ⟨name, rest, rfl⟩ := List.exists_cons_of_ne_nil hne
      refine ⟨name, ?_⟩
      rw [System.mem_children_iff]
      cases rest with
      | nil =>
        refine ⟨Option.ne_none_iff_exists'.mpr ⟨_, hfile⟩, ?_⟩
        rw [if_neg (by rw [System.hasDirectory_iff, hfile]; simp)]
        exact List.mem_singleton_self _
      | cons next rest =>
        have hdir : s.entry? (place ++ [name]) = some .directory := by
          rw [List.append_cons] at hfile
          exact hs.entry?_above (Option.ne_none_iff_exists'.mpr ⟨_, hfile⟩)
        refine ⟨Option.ne_none_iff_exists'.mpr ⟨_, hdir⟩, ?_⟩
        rw [if_pos (System.hasDirectory_iff.mpr hdir)]
        exact List.mem_map_of_mem ((hbelow name _).mpr ⟨List.cons_ne_nil _ _, bytes, hfile⟩)

/-- The search meets no file twice. -/
theorem nodup_waysToFiles (n : Nat) (place : Place) : (waysToFiles s n place).Nodup := by
  induction n generalizing place with
  | zero => exact List.nodup_nil
  | succ n ih =>
    rw [waysToFiles, List.nodup_flatMap]
    refine ⟨fun name _ => ?_, (hs.nodup_children place).imp fun {name name'} hne => ?_⟩
    · split
      · exact (ih _).map List.cons_injective
      · exact List.nodup_singleton _
    · -- The ways into different entries of the directory start with different names.
      have hhead : ∀ first, ∀ names ∈ (if s.hasDirectory (place ++ [first]) then
          (waysToFiles s n (place ++ [first])).map (first :: ·) else [[first]]),
          names.head? = some first := by
        intro first names hmem
        split at hmem
        · obtain ⟨rest, _, rfl⟩ := List.mem_map.mp hmem
          rfl
        · rw [List.mem_singleton.mp hmem]
          rfl
      intro names hmem hmem'
      exact hne (Option.some.inj ((hhead name names hmem).symm.trans (hhead name' names hmem')))

end Search

/-! ### Collecting -/

/-- A file as it is collected: its key and its path. -/
def collected (root : String) (names : Place) : String × String :=
  (String.intercalate "/" names, pathBelow root names)

section Collect

variable {s : System} (hs : s.IsTree) {root : String} {start : Place}
  (hroot : s.locate root = .ok start)
include hs hroot

/-- A search from a directory on adds the files below it to those found before. -/
theorem collectFiles_eq (n : Nat) {way : Place} (hdir : s.entry? (start ++ way) = some .directory)
    (found : List (String × String)) :
    collectFiles s root n (pathBelow root way) found =
      .ok (found ++ ((waysToFiles s n (start ++ way)).map (way ++ ·)).map (collected root)) := by
  induction n generalizing way found with
  | zero => rw [waysToFiles, List.map_nil, List.map_nil, List.append_nil]; rfl
  | succ n ih =>
    have hlist : s.list (pathBelow root way) = .ok (s.children (start ++ way)) := by
      have hplace := hs.locate_pathBelow hroot (Option.ne_none_iff_exists'.mpr ⟨_, hdir⟩)
      rw [System.list, hplace, ok_bind, hdir]
      rfl
    rw [collectFiles, hlist, waysToFiles, List.map_flatMap, List.map_flatMap]
    refine foldlM_eq_append (fun name hname found => ?_) found
    rw [System.mem_children_iff, List.append_assoc] at hname
    have hpath : Files.join (pathBelow root way) name = pathBelow root (way ++ [name]) :=
      (Files.pathBelow_concat root way name).symm
    have hisDir : s.isDirectory (pathBelow root (way ++ [name])) =
        s.hasDirectory (start ++ way ++ [name]) := by
      rw [System.isDirectory, hs.locate_pathBelow hroot hname, List.append_assoc]
      rfl
    dsimp only
    rw [hpath, hisDir]
    split
    · rename_i hchild
      rw [List.append_assoc, System.hasDirectory_iff] at hchild
      rw [ih hchild, List.append_assoc, List.map_map, List.map_map, List.map_map]
      congr 2
      refine List.map_congr_left fun names _ => ?_
      simp
    · have hnames : ∀ other ∈ way ++ [name], Files.IsName other := fun other hother =>
        (hs.isEntryName_of_mem hname other hother).toIsName
      rw [Files.namesBehind?_pathBelow hnames]
      rfl

end Collect

/-! ### The order of keys -/

/-- The names that lead from a place to the files below it, in the order of their keys. -/
def sortedWays (s : System) (place : Place) : List Place :=
  (waysToFiles s (s.depth + 1) place).mergeSort fun a b =>
    String.intercalate "/" a ≤ String.intercalate "/" b

section Order

variable {s : System} (hs : s.IsTree) (place : Place)
include hs

lemma mem_sortedWays_iff (names : Place) : names ∈ sortedWays s place ↔
    names ≠ [] ∧ ∃ bytes, s.entry? (place ++ names) = some (.file bytes) := by
  rw [sortedWays, List.mem_mergeSort]
  refine mem_waysToFiles_iff hs (fun names h => ?_) names
  have := System.length_le_depth h
  rw [List.length_append] at this
  omega

/-- Different files have different keys. -/
lemma names_of_mem_sortedWays {names : Place} (h : names ∈ sortedWays s place) :
    Files.names (String.intercalate "/" names) = names := by
  obtain ⟨hne, bytes, hfile⟩ := (mem_sortedWays_iff hs place names).mp h
  have hnames := hs.isEntryName_of_mem (Option.ne_none_iff_exists'.mpr ⟨_, hfile⟩)
  exact Files.names_intercalate hne fun name hname => (hnames name hname).toIsName

lemma nodup_sortedWays : (sortedWays s place).Nodup :=
  (List.mergeSort_perm _ _).nodup_iff.mpr (nodup_waysToFiles hs _ place)

/-- The keys strictly increase. -/
theorem pairwise_lt_sortedWays : (sortedWays s place).Pairwise fun a b =>
    String.intercalate "/" a < String.intercalate "/" b := by
  have hle : (sortedWays s place).Pairwise fun a b =>
      decide (String.intercalate "/" a ≤ String.intercalate "/" b) = true :=
    List.pairwise_mergeSort (by simpa using fun _ _ _ => le_trans)
      (by simpa using fun _ _ => le_total _ _) _
  refine (hle.and (nodup_sortedWays hs place)).imp_of_mem fun {a b} ha hb h => ?_
  refine lt_of_le_of_ne (of_decide_eq_true h.1) fun hkey => h.2 ?_
  rw [← names_of_mem_sortedWays hs place ha, hkey, names_of_mem_sortedWays hs place hb]

/-- The order of the keys does not depend on the order of the table. -/
theorem sortedWays_perm {entries : Table Place Entry} (h : entries.Perm s.entries) :
    sortedWays ⟨entries, s.home⟩ place = sortedWays s place := by
  have hs' := hs.perm h
  refine List.Perm.eq_of_pairwise (fun a b _ _ hlt hgt => absurd hlt hgt.not_gt)
    (pairwise_lt_sortedWays hs' place) (pairwise_lt_sortedWays hs place) ?_
  refine (List.perm_ext_iff_of_nodup (nodup_sortedWays hs' place) (nodup_sortedWays hs place)).mpr
    fun names => ?_
  rw [mem_sortedWays_iff hs', mem_sortedWays_iff hs, System.entry?_perm hs.nodup h]

end Order

/-! ### Loading -/

/-- The files below a directory are loaded in the order of their keys. -/
lemma load_eq {s : System} (hs : s.IsTree) {dir : String} {place : Place}
    (hplace : s.locate dir = .ok place) (hdir : s.entry? place = some .directory)
    {text : Place → String} (htext : ∀ names ∈ sortedWays s place,
      s.entry? (place ++ names) = some (.file (text names).toByteArray)) :
    Artifacts.load s dir =
      .ok ((sortedWays s place).map fun names => (String.intercalate "/" names, text names)) := by
  have hfiles : collectFiles s dir (s.depth + 1) dir [] =
      .ok ((waysToFiles s (s.depth + 1) place).map (collected dir)) := by
    have hroot : s.entry? (place ++ []) = some .directory := by rwa [List.append_nil]
    simpa [pathBelow] using collectFiles_eq hs hplace (s.depth + 1) hroot []
  have hsorted : ((waysToFiles s (s.depth + 1) place).map (collected dir)).mergeSort
      (fun a b => decide (a.1 ≤ b.1)) = (sortedWays s place).map (collected dir) := by
    rw [sortedWays, List.map_mergeSort]
    exact fun _ _ _ _ => rfl
  have hread : ((sortedWays s place).map (collected dir)).mapM (suppliedFile s) =
      .ok ((sortedWays s place).map fun names => (String.intercalate "/" names, text names)) := by
    rw [List.mapM_map]
    refine mapM_eq_ok_of_forall fun names hnames => ?_
    have hne := ((mem_sortedWays_iff hs place names).mp hnames).1
    rw [Function.comp_apply, suppliedFile, collected,
      hs.readText_pathBelow hplace hne (htext names hnames)]
  have hnodup : (Table.keys ((sortedWays s place).map fun names =>
      (String.intercalate "/" names, text names))).Nodup := by
    rw [Table.keys, List.map_map]
    exact (List.pairwise_map.mpr (pairwise_lt_sortedWays hs place)).imp ne_of_lt
  rw [Artifacts.load, hfiles, ok_bind, hsorted]
  dsimp only
  rw [hread, ok_bind, Table.ofList_of_nodup hnodup]
  rfl

/-- Whatever the order of the entries in a directory tree, the files below a directory are loaded
with their paths there as keys and with their texts, each file once and in the order of the keys. -/
theorem loads_supplied {s : System} (hs : s.IsTree) {dir : String} {place : Place}
    (hplace : s.locate dir = .ok place) (hdir : s.entry? place = some .directory)
    (htexts : ∀ names bytes, (names, Entry.file bytes) ∈ s.below place →
      ∃ text : String, bytes = text.toByteArray) :
    ∃ files : List (Place × String),
      (∀ names text,
        (names, text) ∈ files ↔ (names, Entry.file text.toByteArray) ∈ s.below place) ∧
      (files.map fun f => String.intercalate "/" f.1).Pairwise (· < ·) ∧
      ∀ entries, entries.Perm s.entries → Artifacts.load ⟨entries, s.home⟩ dir =
        .ok (files.map fun f => (String.intercalate "/" f.1, f.2)) := by
  have hfile : ∀ names ∈ sortedWays s place, ∃ text : String,
      s.entry? (place ++ names) = some (.file text.toByteArray) := by
    intro names hnames
    obtain ⟨hne, bytes, hfile⟩ := (mem_sortedWays_iff hs place names).mp hnames
    obtain ⟨text, rfl⟩ := htexts names bytes ((System.mem_below_iff hs.nodup).mpr ⟨hne, hfile⟩)
    exact ⟨text, hfile⟩
  choose! text htext using hfile
  refine ⟨(sortedWays s place).map fun names => (names, text names), fun names other => ?_, ?_,
    fun entries hperm => ?_⟩
  · rw [System.mem_below_iff hs.nodup, List.mem_map]
    constructor
    · rintro ⟨way, hway, h⟩
      cases h
      exact ⟨((mem_sortedWays_iff hs place _).mp hway).1, htext _ hway⟩
    · rintro ⟨hne, hother⟩
      have hway := (mem_sortedWays_iff hs place names).mpr ⟨hne, _, hother⟩
      have hsame := (htext names hway).symm.trans hother
      have htext' : text names = other :=
        String.toByteArray_inj.mp (Entry.file.inj (Option.some.inj hsame))
      exact ⟨names, hway, by rw [htext']⟩
  · rw [List.map_map]
    exact List.pairwise_map.mpr (pairwise_lt_sortedWays hs place)
  · have hentry := System.entry?_perm hs.nodup hperm s.home
    have hhome : System.home ⟨entries, s.home⟩ = s.home := rfl
    have hlocate : System.locate ⟨entries, s.home⟩ dir = .ok place := by
      refine System.locate_mono hhome (fun p hp => ?_) hplace
      rwa [hentry]
    have hload := load_eq (hs.perm hperm) hlocate (by rwa [hentry])
      (by rw [sortedWays_perm hs place hperm, hentry]; exact htext)
    rw [hload, sortedWays_perm hs place hperm, List.map_map]
    rfl

/-- A directory with a file and with a directory that has another file. -/
def supportSystem : System :=
  ⟨[(["out"], .directory), (["out", "support"], .directory),
    (["out", "support", "http.rs"], .file "// http\n".toByteArray),
    (["out", "client.rs"], .file "pub struct Client;\n".toByteArray)], []⟩

theorem loads_supportSystem : ∃ artifacts : Artifacts,
    ("client.rs", "pub struct Client;\n") ∈ artifacts ∧
      ("support/http.rs", "// http\n") ∈ artifacts ∧
      Artifacts.load supportSystem "out" = .ok artifacts ∧
      Artifacts.load ⟨supportSystem.entries.reverse, []⟩ "out" = .ok artifacts := by
  have hbelow : supportSystem.below ["out"] = [(["support"], .directory),
      (["support", "http.rs"], .file "// http\n".toByteArray),
      (["client.rs"], .file "pub struct Client;\n".toByteArray)] := rfl
  have htree : supportSystem.IsTree := ⟨by decide, by decide, by decide⟩
  have htexts : ∀ names bytes, (names, Entry.file bytes) ∈ supportSystem.below ["out"] →
      ∃ text : String, bytes = text.toByteArray := by
    intro names bytes h
    rw [hbelow] at h
    simp only [List.mem_cons, List.not_mem_nil, or_false, Prod.mk.injEq, reduceCtorEq, and_false,
      false_or, Entry.file.injEq] at h
    rcases h with ⟨_, rfl⟩ | ⟨_, rfl⟩
    · exact ⟨_, rfl⟩
    · exact ⟨_, rfl⟩
  have hplace : supportSystem.locate "out" = .ok ["out"] := rfl
  obtain ⟨files, hmem, _, hload⟩ := loads_supplied htree hplace rfl htexts
  refine ⟨_, List.mem_map.mpr ⟨(["client.rs"], "pub struct Client;\n"), (hmem _ _).mpr ?_, rfl⟩,
    List.mem_map.mpr ⟨(["support", "http.rs"], "// http\n"), (hmem _ _).mpr ?_, rfl⟩,
    hload _ (List.Perm.refl _), hload _ (List.reverse_perm _)⟩
  · rw [hbelow]
    simp
  · rw [hbelow]
    simp

end ApiContract.Client
