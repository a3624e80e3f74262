import Mathlib.Data.List.Perm.Subperm
import ApiContract.Client.Delivery
import ApiContract.Proofs.Files.Effects

/-!
# Files that are left after writing

The files of a client are written one after another, each under a temporary name beside it first. So
writing one file takes away an earlier one that has the path of its temporary file. What is left
below the directory is `remaining`, by induction over the files with what one writing does as the
step (`file?_of_write`); it is everything exactly when no file has the path of the temporary file of
a later one.
-/

namespace ApiContract

open Files

namespace Files.System

/-- The files below a place are the given ones with the given texts. -/
def HoldsExactly (s : System) (place : Place) (files : Table String String) : Prop :=
  ∀ below bytes, s.file? (place ++ below) = some bytes ↔
    ∃ f ∈ files, names f.1 = below ∧ f.2.toByteArray = bytes

end Files.System

namespace Client.Artifacts

/-- The files that are left when all are written in order: those that do not have the path of the
temporary file of a later one. -/
def remaining : Artifacts → Artifacts
  | [] => []
  | a :: rest =>
    if rest.any fun later => temporaryPath later.1 == a.1 then remaining rest
    else a :: remaining rest

lemma remaining_sublist (artifacts : Artifacts) : (remaining artifacts).Sublist artifacts := by
  induction artifacts with
  | nil => exact List.Sublist.refl []
  | cons a rest ih =>
    rw [remaining]
    split
    · exact ih.cons a
    · exact ih.cons_cons a

lemma exists_mem_remaining_cons {Q : String × String → Prop} (a : String × String)
    (rest : Artifacts) :
    (∃ f ∈ remaining (a :: rest), Q f) ↔
      (Q a ∧ ∀ later ∈ rest, temporaryPath later.1 ≠ a.1) ∨ ∃ f ∈ remaining rest, Q f := by
  by_cases hany : ∃ later ∈ rest, temporaryPath later.1 = a.1
  · have hleft : remaining (a :: rest) = remaining rest := by
      rw [remaining, if_pos (by simpa using hany)]
    have hnot : ¬ ∀ later ∈ rest, temporaryPath later.1 ≠ a.1 := by
      obtain ⟨later, hlater, heq⟩ := hany
      exact fun h => h later hlater heq
    rw [hleft]
    simp only [hnot, and_false, false_or]
  · have hleft : remaining (a :: rest) = a :: remaining rest := by
      rw [remaining, if_neg (by simpa using hany)]
    have hall : ∀ later ∈ rest, temporaryPath later.1 ≠ a.1 := fun later hlater heq =>
      hany ⟨later, hlater, heq⟩
    rw [hleft, and_iff_left hall, List.exists_mem_cons_iff]

/-- Everything is left exactly when no file has the path of the temporary file of a later one. -/
lemma remaining_eq_self_iff (artifacts : Artifacts) :
    remaining artifacts = artifacts ↔
      artifacts.Pairwise fun a later => temporaryPath later.1 ≠ a.1 := by
  induction artifacts with
  | nil => simp [remaining]
  | cons a rest ih =>
    rw [List.pairwise_cons, ← ih, remaining]
    split
    · rename_i hany
      obtain ⟨later, hlater, heq⟩ := List.any_eq_true.mp hany
      have hlength := (remaining_sublist rest).length_le
      refine ⟨fun h => ?_, fun h => absurd (beq_iff_eq.mp heq) (h.1 later hlater)⟩
      rw [h, List.length_cons] at hlength
      omega
    · rename_i hany
      simp only [List.any_eq_true, beq_iff_eq, not_exists, not_and] at hany
      simpa using fun _ => hany

/-! ### Writing in order -/

variable {artifacts : Artifacts} {dir : String} {s s' : System}

/-- What is at a place below the directory after one file was written there. -/
lemma file?_of_write_one {a : String × String} (hpath : IsNormalized a.1)
    (h : (writeAtomically (join dir a.1) a.2).run s = (.ok (), s')) (below : Place) :
    s'.file? (s.place dir ++ below) =
      if names a.1 = below then some a.2.toByteArray
      else if names (temporaryPath a.1) = below then none else s.file? (s.place dir ++ below) := by
  obtain ⟨_, hfile⟩ := file?_of_writeAtomically h
  rw [hfile, temporaryPath_join dir hpath, System.place_join s dir hpath,
    System.place_join s dir hpath.temporaryPath]
  simp only [Function.update_apply, List.append_right_inj, eq_comm (a := below)]

/-- After all files were written in order, a file below the directory is one of those that are left,
or was there before where no file and no temporary file came to be. -/
theorem file?_of_write (hkeys : artifacts.keys.Nodup) (hpaths : ∀ a ∈ artifacts, IsNormalized a.1)
    (h : (artifacts.write dir).run s = (.ok (), s')) (below : Place) (bytes : ByteArray) :
    s'.file? (s.place dir ++ below) = some bytes ↔
      (∃ f ∈ artifacts.remaining, names f.1 = below ∧ f.2.toByteArray = bytes) ∨
      (s.file? (s.place dir ++ below) = some bytes ∧
        ∀ a ∈ artifacts, names a.1 ≠ below ∧ names (temporaryPath a.1) ≠ below) := by
  induction artifacts generalizing s with
  | nil =>
    cases h
    simp [remaining]
  | cons a rest ih =>
    obtain ⟨hpath, hrest⟩ := List.forall_mem_cons.mp hpaths
    obtain ⟨hnew, hnodup⟩ := List.nodup_cons.mp hkeys
    obtain ⟨_, s₁, hone, hmore⟩ := run_bind_eq_ok_iff.mp h
    have hplace : s₁.place dir = s.place dir :=
      System.place_eq_of_home_eq (file?_of_writeAtomically hone).1 dir
    have hafter := ih hnodup hrest hmore
    rw [hplace, file?_of_write_one hpath hone] at hafter
    rw [hafter, exists_mem_remaining_cons, List.forall_mem_cons]
    by_cases hname : names a.1 = below
    · -- The file itself: it is left when no later file passes through its path.
      subst hname
      have hothers : (∀ b ∈ rest, names b.1 ≠ names a.1 ∧ names (temporaryPath b.1) ≠ names a.1) ↔
          ∀ b ∈ rest, temporaryPath b.1 ≠ a.1 := by
        refine forall₂_congr fun b hb => ?_
        have hne : b.1 ≠ a.1 := fun heq => hnew (heq ▸ List.mem_map_of_mem hb)
        have hnames : names b.1 ≠ names a.1 := mt (names_inj (hrest b hb) hpath).mp hne
        have htemporary := not_congr (names_inj (hrest b hb).temporaryPath hpath)
        simp only [ne_eq, hnames, not_false_eq_true, true_and, htemporary]
      simp only [if_true, hothers, Option.some.injEq, ne_eq, not_true_eq_false, false_and,
        and_false, or_false, true_and]
      exact or_comm
    · by_cases htemporary : names (temporaryPath a.1) = below
      · simp [hname, htemporary]
      · simp [hname, htemporary]

/-! ### The files below the directory -/

/-- When the directory had no files and all files of a client were written there, the files below it
are those that are left; they are all files of the client, and nothing else, exactly when none has
the path of the temporary file of a later one. -/
theorem holdsExactly_of_write (hkeys : artifacts.keys.Nodup)
    (hpaths : ∀ a ∈ artifacts, IsNormalized a.1) (hbefore : s.HoldsExactly (s.place dir) [])
    (h : (artifacts.write dir).run s = (.ok (), s')) :
    s'.HoldsExactly (s.place dir) artifacts.remaining ∧
    (s'.HoldsExactly (s.place dir) artifacts ↔
      artifacts.Pairwise fun a later => temporaryPath later.1 ≠ a.1) := by
  have hleft : s'.HoldsExactly (s.place dir) artifacts.remaining := by
    intro below bytes
    have hnone : s.file? (s.place dir ++ below) ≠ some bytes := fun hfile => by
      obtain ⟨f, hf, _⟩ := (hbefore below bytes).mp hfile
      cases hf
    rw [file?_of_write hkeys hpaths h]
    simp only [hnone, false_and, or_false]
  refine ⟨hleft, ?_⟩
  rw [← remaining_eq_self_iff]
  refine ⟨fun hall => ?_, fun hsame => by rwa [hsame] at hleft⟩
  -- A file that is there has the path of one that is left, so it is that one.
  have hsubset : artifacts ⊆ artifacts.remaining := by
    intro a ha
    have hfile := (hall (names a.1) a.2.toByteArray).mpr ⟨a, ha, rfl, rfl⟩
    obtain ⟨f, hf, hnames, _⟩ := (hleft _ _).mp hfile
    have hmem : f ∈ artifacts := (remaining_sublist artifacts).subset hf
    have hpath : f.1 = a.1 := (names_inj (hpaths f hmem) (hpaths a ha)).mp hnames
    have hfa : f = a := List.inj_on_of_nodup_map hkeys hmem ha hpath
    rwa [hfa] at hf
  have hlength : artifacts.length ≤ artifacts.remaining.length :=
    (hkeys.of_map.subperm hsubset).length_le
  exact (remaining_sublist artifacts).eq_of_length_le hlength

/-- A root without anything in it. -/
def emptySystem : System := ⟨[], []⟩

lemma holdsExactly_emptySystem (place : Place) : emptySystem.HoldsExactly place [] := by
  intro below bytes
  have hnone : emptySystem.file? (place ++ below) = none := by
    unfold System.file? System.entry?
    split <;> simp_all [emptySystem]
  simp [hnone]

/-- Two files of a client, one in a directory of its own. -/
def nestedFiles : Artifacts := [("lib.rs", "pub mod schemas;"), ("schemas/items.rs", "")]

theorem holdsExactly_nestedFiles :
    ∃ s' : System, (nestedFiles.write "out").run emptySystem = (.ok (), s') ∧
      s'.HoldsExactly (emptySystem.place "out") nestedFiles := by
  have hpaths : ∀ a ∈ nestedFiles, IsNormalized a.1 := by
    have hlib : IsName "lib.rs" := ⟨by decide, by decide, by decide, by decide⟩
    have hschemas : IsName "schemas" := ⟨by decide, by decide, by decide, by decide⟩
    have hitems : IsName "items.rs" := ⟨by decide, by decide, by decide, by decide⟩
    simp only [nestedFiles, List.forall_mem_cons]
    exact ⟨⟨["lib.rs"], by simp, by simpa using hlib, rfl⟩,
      ⟨["schemas", "items.rs"], by simp, by simpa using ⟨hschemas, hitems⟩, rfl⟩, nofun⟩
  have hfirst : (writeAtomically "out/lib.rs" "pub mod schemas;").run emptySystem = (.ok (),
      ⟨[(["out"], .directory), (["out", "lib.rs"], .file "pub mod schemas;".toByteArray)], []⟩) :=
    run_writeAtomically rfl rfl rfl
  have hsecond : (writeAtomically "out/schemas/items.rs" "").run
      ⟨[(["out"], .directory), (["out", "lib.rs"], .file "pub mod schemas;".toByteArray)], []⟩ =
      (.ok (), ⟨[(["out"], .directory), (["out", "lib.rs"], .file "pub mod schemas;".toByteArray),
        (["out", "schemas"], .directory),
        (["out", "schemas", "items.rs"], .file "".toByteArray)], []⟩) :=
    run_writeAtomically rfl rfl rfl
  have hrun : (nestedFiles.write "out").run emptySystem = (.ok (), _) :=
    run_bind_eq_ok_iff.mpr ⟨(), _, hfirst, run_bind_eq_ok_iff.mpr ⟨(), _, hsecond, rfl⟩⟩
  obtain ⟨_, hexact⟩ := holdsExactly_of_write (by decide) hpaths (holdsExactly_emptySystem _) hrun
  exact ⟨_, hrun, hexact.mpr (by decide)⟩

/-- A file whose path is that of the temporary file of the next. -/
def clashingFiles : Artifacts := [("notes.tmp", "x"), ("notes.txt", "y")]

/-- All is written without an error, and the first file is gone. -/
theorem not_holdsExactly_clashingFiles :
    clashingFiles.keys.Nodup ∧ (∀ a ∈ clashingFiles, IsNormalized a.1) ∧
    emptySystem.HoldsExactly (emptySystem.place "out") [] ∧
    ∃ s' : System, (clashingFiles.write "out").run emptySystem = (.ok (), s') ∧
      s'.read "out/notes.txt" = .ok "y".toByteArray ∧ s'.read "out/notes.tmp" = .error .notFound ∧
      ¬ s'.HoldsExactly (emptySystem.place "out") clashingFiles := by
  have hpaths : ∀ a ∈ clashingFiles, IsNormalized a.1 := by
    have hfirst : IsName "notes.tmp" := ⟨by decide, by decide, by decide, by decide⟩
    have hsecond : IsName "notes.txt" := ⟨by decide, by decide, by decide, by decide⟩
    simp only [clashingFiles, List.forall_mem_cons]
    exact ⟨⟨["notes.tmp"], by simp, by simpa using hfirst, rfl⟩,
      ⟨["notes.txt"], by simp, by simpa using hsecond, rfl⟩, nofun⟩
  have hfirst : (writeAtomically "out/notes.tmp" "x").run emptySystem = (.ok (),
      ⟨[(["out"], .directory), (["out", "notes.tmp"], .file "x".toByteArray)], []⟩) :=
    run_writeAtomically rfl rfl rfl
  have hsecond : (writeAtomically "out/notes.txt" "y").run
      ⟨[(["out"], .directory), (["out", "notes.tmp"], .file "x".toByteArray)], []⟩ = (.ok (),
      ⟨[(["out"], .directory), (["out", "notes.txt"], .file "y".toByteArray)], []⟩) :=
    run_writeAtomically rfl rfl rfl
  have hrun : (clashingFiles.write "out").run emptySystem = (.ok (), _) :=
    run_bind_eq_ok_iff.mpr ⟨(), _, hfirst, run_bind_eq_ok_iff.mpr ⟨(), _, hsecond, rfl⟩⟩
  refine ⟨by decide, hpaths, holdsExactly_emptySystem _, _, hrun, rfl, rfl, fun h => ?_⟩
  have hfile := (h ["notes.tmp"] "x".toByteArray).mpr ⟨_, List.mem_cons_self, rfl, rfl⟩
  cases hfile

end Client.Artifacts

end ApiContract
