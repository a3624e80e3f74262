import ApiContract.Proofs.Files.Effects

/-!
# Writes of whole files that fail

Writing a file as a whole has three steps: the directories above it are made, its text is written at
the temporary path beside it, and that file is moved. Each of them can fail, and what the steps
before it did stays. A run that fails before the move has only made directories on the way to the
file. A run that fails at the move has left the whole text at the temporary path, over whatever file
was there, and nothing else (`unwritten_or_unmoved_of_run`). The move fails when a directory is in
its way, and when the path cannot be the path of a file.
-/

namespace ApiContract.Files

namespace System

/-! ### Paths that lead somewhere -/

lemma follow_mono {s s' : System} {place place' : Place} {name : String}
    (hdirectory : s.entry? place = some .directory → s'.entry? place = some .directory)
    (h : s.follow place name = .ok place') : s'.follow place name = .ok place' := by
  obtain ⟨hplace, hname⟩ := follow_eq_ok_iff.mp h
  exact follow_eq_ok_iff.mpr ⟨hdirectory hplace, hname⟩

/-- A path still leads where it led when all directories are still there. -/
lemma locate_mono {s s' : System} (hhome : s'.home = s.home)
    (hdirectory : ∀ place, s.entry? place = some .directory → s'.entry? place = some .directory)
    {path : String} {place : Place} (h : s.locate path = .ok place) :
    s'.locate path = .ok place := by
  have hfold : ∀ (ns : List String) (start : Place), ns.foldlM s.follow start = .ok place →
      ns.foldlM s'.follow start = .ok place := by
    intro ns
    induction ns with
    | nil => exact fun start hstart => hstart
    | cons name rest ih =>
      intro start hstart
      rw [List.foldlM_cons] at hstart ⊢
      obtain ⟨next, hnext, hrest⟩ := bind_eq_ok_iff.mp hstart
      exact bind_eq_ok_iff.mpr ⟨next, follow_mono (hdirectory start) hnext, ih next hrest⟩
  obtain ⟨hnul, hempty, hnames⟩ := locate_eq_ok_iff.mp h
  refine locate_eq_ok_iff.mpr ⟨hnul, hempty, ?_⟩
  rw [hhome]
  exact hfold _ _ hnames

/-- A path leads to a file that was written there. -/
lemma locate_of_write {s s' : System} {path : String} {bytes : ByteArray}
    (h : s.write path bytes = .ok s') :
    s'.locate path = .ok (s'.place path) ∧ s'.entry? (s'.place path) = some (.file bytes) := by
  obtain ⟨hlocate, hentry, _, hhome, hupdate⟩ := entry?_of_write h
  have hdirectory : ∀ place, s.entry? place = some .directory →
      s'.entry? place = some .directory := by
    intro place hplace
    have hne : place ≠ s.place path := by
      rintro rfl
      exact hentry hplace
    rw [hupdate, Function.update_of_ne hne, hplace]
  rw [place_eq_of_home_eq hhome]
  refine ⟨locate_mono hhome hdirectory hlocate, ?_⟩
  rw [hupdate, Function.update_self]

/-- A path where no file can be: it leads nowhere, or to a directory, or it can only be the path of
a directory. -/
def Refuses (s : System) (path : String) : Prop :=
  (∃ err, s.locate path = .error err) ∨ s.hasDirectory (s.place path) = true ∨
    namesDirectory path = true

/-- A file is moved unless no file can be at the target. -/
lemma refuses_of_rename_eq_error {s : System} {source target : String} {bytes : ByteArray}
    (hsource : s.locate source = .ok (s.place source))
    (hfile : s.entry? (s.place source) = some (.file bytes)) {err : FileError}
    (h : s.rename source target = .error err) : s.Refuses target := by
  unfold rename at h
  rw [hsource, ok_bind, hfile] at h
  dsimp only at h
  cases hlocate : s.locate target with
  | error err' => exact .inl ⟨err', hlocate⟩
  | ok place =>
    rw [hlocate, ok_bind] at h
    obtain rfl : place = s.place target := locate_eq_place hlocate
    cases hnames : namesDirectory target with
    | true => exact .inr (.inr hnames)
    | false =>
      have hdot : endsWithDot target = false := by
        rw [namesDirectory, Bool.or_eq_false_iff] at hnames
        exact hnames.2
      rw [hnames, hdot] at h
      cases hentry : s.entry? (s.place target) with
      | none =>
        rw [hentry] at h
        cases h
      | some entry =>
        cases entry with
        | directory => exact .inr (.inl (by rw [hasDirectory, hentry]))
        | file old =>
          rw [hentry] at h
          cases h

end System

/-! ### Runs that fail -/

section Runs

variable (path text : String) (s : System) (e : Error) (s' : System)

/-- Writing a file as a whole fails before the move. -/
structure Unwritten : Prop where
  /-- Directories above the file were made, and nothing else happened. -/
  made : System.AddsDirectories (s.above path) s s'
  /-- The error is that of the directory that holds the file or that of the temporary file. -/
  error : (∃ parent err, parent? path = some parent ∧ e = .write parent err ∧
      (makeDirectories parent).run s = (.error err, s')) ∨
    ∃ err, e = .write (temporaryPath path) err ∧
      s'.write (temporaryPath path) text.toByteArray = .error err

/-- Writing a file as a whole fails at the move. -/
structure Unmoved : Prop where
  error : ∃ err, e = .write path err ∧ s'.rename (temporaryPath path) path = .error err
  temporaryPath_ne : temporaryPath path ≠ path
  /-- Directories above the file were made, and the text was written at the temporary path. -/
  left : ∃ s₁, System.AddsDirectories (s.above path) s s₁ ∧ s'.home = s₁.home ∧
    s₁.entry? (s.place (temporaryPath path)) ≠ some .directory ∧
    s'.entry? = Function.update s₁.entry? (s.place (temporaryPath path))
      (some (.file text.toByteArray))
  refused : s'.Refuses path

end Runs

section Cases

variable {path text : String} {s s₁ s₂ s' : System}

lemma addsDirectories_of_makeParent {r : Except Error Unit}
    (h : (makeParent path).run s = (r, s₁)) : System.AddsDirectories (s.above path) s s₁ := by
  have hmade := makeParent_addsDirectories path s
  rwa [h] at hmade

/-- When the move fails, its error is that of the run, and what was written stays. -/
lemma run_writeAtomically_of_rename_eq_error {err : FileError}
    (hparent : (makeParent path).run s = (.ok (), s₁))
    (hwrite : s₁.write (temporaryPath path) text.toByteArray = .ok s₂)
    (hrename : s₂.rename (temporaryPath path) path = .error err) :
    (writeAtomically path text).run s = (.error (.write path err), s₂) := by
  unfold writeAtomically
  dsimp only
  rw [run_bind, hparent]
  dsimp only
  rw [run_bind, run_change, hwrite]
  dsimp only
  rw [run_change, hrename]

/-- What is left when the move fails. -/
lemma unmoved_of_rename_eq_error {err : FileError}
    (hmade : System.AddsDirectories (s.above path) s s₁)
    (hwrite : s₁.write (temporaryPath path) text.toByteArray = .ok s₂)
    (hrename : s₂.rename (temporaryPath path) path = .error err) :
    Unmoved path text s (.write path err) s₂ := by
  obtain ⟨_, hentry, hnames, hhome, hupdate⟩ := System.entry?_of_write hwrite
  obtain ⟨hlocate, hfile⟩ := System.locate_of_write hwrite
  have hplace : s₁.place (temporaryPath path) = s.place (temporaryPath path) :=
    System.place_eq_of_home_eq hmade.home_eq _
  have hrefused : s₂.Refuses path := System.refuses_of_rename_eq_error hlocate hfile hrename
  constructor
  case error => exact ⟨err, rfl, hrename⟩
  case temporaryPath_ne =>
    intro hsame
    rw [hsame] at hlocate hfile hnames
    rcases hrefused with ⟨err', herr⟩ | hdirectory | hnames'
    · rw [hlocate] at herr
      cases herr
    · rw [System.hasDirectory, hfile] at hdirectory
      cases hdirectory
    · rw [hnames] at hnames'
      cases hnames'
  case left => exact ⟨s₁, hmade, hhome, hplace ▸ hentry, hplace ▸ hupdate⟩
  case refused => exact hrefused

/-- A move that fails leaves nothing behind only when what it leaves was there before. -/
lemma Unmoved.addsDirectories_iff {e : Error} (h : Unmoved path text s e s') :
    System.AddsDirectories (s.above path) s s' ↔
      s.file? (s.place (temporaryPath path)) = some text.toByteArray := by
  obtain ⟨s₁, hmade, hhome, _, hupdate⟩ := h.left
  have hthere : s'.entry? (s.place (temporaryPath path)) = some (.file text.toByteArray) := by
    rw [hupdate, Function.update_self]
  constructor
  · intro hadds
    have hfile : s'.file? (s.place (temporaryPath path)) = some text.toByteArray := by
      rw [System.file?, hthere]
    rwa [← hadds.keepsFiles.file?_eq]
  · intro hfile
    have hbefore : s.entry? (s.place (temporaryPath path)) = some (.file text.toByteArray) := by
      unfold System.file? at hfile
      split at hfile
      · rename_i hentry
        rw [hentry, Option.some.inj hfile]
      · cases hfile
    have hsame : s'.entry? = s₁.entry? := by
      rw [hupdate, ← hmade.entry?_eq_some hbefore, Function.update_eq_self]
    refine ⟨hhome.trans hmade.home_eq, fun place => ?_⟩
    rw [hsame]
    exact hmade.entry?_cases place

/-- A run that fails has either made directories above the file and nothing else, or it has failed
at the move and left the text at the temporary path. Then it has done more than to make directories,
unless a file with this text was there before. -/
theorem unwritten_or_unmoved_of_run {e : Error}
    (h : (writeAtomically path text).run s = (.error e, s')) :
    Unwritten path text s e s' ∨
      Unmoved path text s e s' ∧ (System.AddsDirectories (s.above path) s s' ↔
        s.file? (s.place (temporaryPath path)) = some text.toByteArray) := by
  unfold writeAtomically at h
  dsimp only at h
  rw [run_bind] at h
  rcases hparent : (makeParent path).run s with ⟨err | _, s₁⟩
  · have herror := makeDirectories_of_makeParent_eq_error hparent
    rw [hparent] at h
    cases h
    exact .inl ⟨addsDirectories_of_makeParent hparent, .inl herror⟩
  have hmade := addsDirectories_of_makeParent hparent
  rw [hparent] at h
  dsimp only at h
  rw [run_bind, run_change] at h
  cases hwrite : s₁.write (temporaryPath path) text.toByteArray with
  | error err =>
    rw [hwrite] at h
    cases h
    exact .inl ⟨hmade, .inr ⟨err, rfl, hwrite⟩⟩
  | ok s₂ =>
    rw [hwrite] at h
    dsimp only at h
    rw [run_change] at h
    cases hrename : s₂.rename (temporaryPath path) path with
    | ok s₃ =>
      rw [hrename] at h
      cases congrArg Prod.fst h
    | error err =>
      rw [hrename] at h
      cases h
      have hunmoved := unmoved_of_rename_eq_error hmade hwrite hrename
      exact .inr ⟨hunmoved, hunmoved.addsDirectories_iff⟩

end Cases

/-! ### A directory in the way -/

/-- A directory at the path of a file to be, without or with a file at the temporary path. -/
def crowdedSystem (old : Option String) : System :=
  ⟨[(["out"], .directory), (["out", "a"], .directory)] ++
    (old.map fun text => (["out", "a.tmp"], Entry.file text.toByteArray)).toList, []⟩

lemma run_crowdedSystem (old : Option String) (text : String) :
    (writeAtomically "out/a" text).run (crowdedSystem old) =
      (.error (.write "out/a" .isDirectory), crowdedSystem (some text)) := by
  have hparent : (makeParent "out/a").run (crowdedSystem old) = (.ok (), crowdedSystem old) := by
    cases old <;> rfl
  have hwrite : (crowdedSystem old).write (temporaryPath "out/a") text.toByteArray =
      .ok (crowdedSystem (some text)) := by
    cases old <;> rfl
  have hrename : (crowdedSystem (some text)).rename (temporaryPath "out/a") "out/a" =
      .error .isDirectory := rfl
  exact run_writeAtomically_of_rename_eq_error hparent hwrite hrename

theorem unwritten_or_unmoved_crowdedSystem :
    (writeAtomically "out/a" "new").run (crowdedSystem (some "old")) =
      (.error (.write "out/a" .isDirectory), crowdedSystem (some "new")) ∧
    (Unwritten "out/a" "new" (crowdedSystem (some "old")) (.write "out/a" .isDirectory)
        (crowdedSystem (some "new")) ∨
      Unmoved "out/a" "new" (crowdedSystem (some "old")) (.write "out/a" .isDirectory)
        (crowdedSystem (some "new")) ∧
      (System.AddsDirectories ((crowdedSystem (some "old")).above "out/a")
          (crowdedSystem (some "old")) (crowdedSystem (some "new")) ↔
        (crowdedSystem (some "old")).file? ["out", "a.tmp"] = some "new".toByteArray)) :=
  have hrun := run_crowdedSystem (some "old") "new"
  ⟨hrun, unwritten_or_unmoved_of_run hrun⟩

/-- A write that fails leaves a new file behind, or takes the place of one that was there. -/
theorem not_addsDirectories_crowdedSystem :
    (∃ e s', (writeAtomically "out/a" "new").run (crowdedSystem none) = (.error e, s') ∧
      (crowdedSystem none).file? ["out", "a.tmp"] = none ∧
      s'.file? ["out", "a.tmp"] = some "new".toByteArray ∧
      ¬ System.AddsDirectories ((crowdedSystem none).above "out/a") (crowdedSystem none) s') ∧
    ∃ e s', (writeAtomically "out/a" "new").run (crowdedSystem (some "old")) = (.error e, s') ∧
      (crowdedSystem (some "old")).file? ["out", "a.tmp"] = some "old".toByteArray ∧
      s'.file? ["out", "a.tmp"] = some "new".toByteArray ∧
      ¬ System.AddsDirectories ((crowdedSystem (some "old")).above "out/a")
        (crowdedSystem (some "old")) s' := by
  refine ⟨⟨_, _, run_crowdedSystem none "new", rfl, rfl, fun hadds => ?_⟩,
    ⟨_, _, run_crowdedSystem (some "old") "new", rfl, rfl, fun hadds => ?_⟩⟩
  · have hkept := congrFun hadds.keepsFiles.file?_eq ["out", "a.tmp"]
    cases hkept
  · have hkept := congrFun hadds.keepsFiles.file?_eq ["out", "a.tmp"]
    have hbytes : "new".toByteArray = "old".toByteArray := Option.some.inj hkept
    exact absurd hbytes (by decide)

end ApiContract.Files
