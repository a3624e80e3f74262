import ApiContract.Proofs.Client.PathScan

/-!
# Readings of paths

Every path can be read as pieces whose placeholders are all that looks like a placeholder in it
(`IsReading`, `exists_reading`). The scan for names in braces finds the placeholders of such pieces
(`placeholders_pathOf`), and so it finds every name that stands in braces, however the other braces
stand (`mem_placeholders_iff`).
-/

namespace ApiContract.Client

/-! ### Readings -/

/-- Pieces in which the placeholders of their text are told from its other characters: every
placeholder has a name, and no characters that stand for themselves look like a placeholder. -/
structure IsReading (ps : List Piece) : Prop where
  isPlain : ∀ m, .hole m ∈ ps → (Piece.hole m).IsPlain
  notLoose : ∀ name, (Piece.hole name).IsPlain →
    ¬ (placeholder name).toList.map Piece.char <:+: ps

namespace IsReading

lemma nil : IsReading [] where
  isPlain _ h := absurd h List.not_mem_nil
  notLoose name _ h := by
    have hempty := List.infix_nil.mp h
    rw [toList_placeholder] at hempty
    cases hempty

lemma of_append {us vs : List Piece} (h : IsReading (us ++ vs)) : IsReading vs where
  isPlain m hm := h.isPlain m (List.mem_append_right us hm)
  notLoose name hname hloose :=
    h.notLoose name hname (hloose.trans (List.suffix_append us vs).isInfix)

lemma hole_cons {m : String} (hm : (Piece.hole m).IsPlain) {ps : List Piece} (h : IsReading ps) :
    IsReading (.hole m :: ps) where
  isPlain n hn := by
    rcases List.mem_cons.mp hn with heq | hn
    · cases heq
      exact hm
    · exact h.isPlain n hn
  notLoose name hname hloose := by
    rcases List.infix_cons_iff.mp hloose with hstart | hlater
    · rw [toList_placeholder, List.map_cons] at hstart
      cases (List.cons_prefix_cons.mp hstart).1
    · exact h.notLoose name hname hlater

lemma char_cons {c : Char} {ps : List Piece} (h : IsReading ps)
    (hstart : ∀ name, (Piece.hole name).IsPlain →
      ¬ (placeholder name).toList.map Piece.char <+: .char c :: ps) :
    IsReading (.char c :: ps) where
  isPlain m hm := h.isPlain m ((List.mem_cons.mp hm).resolve_left nofun)
  notLoose name hname hloose := by
    rcases List.infix_cons_iff.mp hloose with hfirst | hlater
    · exact hstart name hname hfirst
    · exact h.notLoose name hname hlater

lemma plain_append {ps qs : List Piece} (hps : ∀ p ∈ ps, p.IsPlain) (h : IsReading qs) :
    IsReading (ps ++ qs) := by
  induction ps with
  | nil => exact h
  | cons p rest ih =>
    obtain ⟨hp, hrest⟩ := List.forall_mem_cons.mp hps
    cases p with
    | hole m => exact (ih hrest).hole_cons hp
    | char c =>
      refine (ih hrest).char_cons fun name _ hstart => ?_
      rw [toList_placeholder, List.map_cons] at hstart
      obtain ⟨hc, _⟩ := List.cons_prefix_cons.mp hstart
      cases hc
      exact hp.1 List.mem_cons_self

end IsReading

/-- Characters other than an opening brace end where pieces begin with something else. -/
lemma map_char_prefix_of_append {cs : List Char} (hcs : '\x7b' ∉ cs) {ps qs : List Piece}
    (hqs : ∀ c, c ≠ '\x7b' → qs.head? ≠ some (.char c))
    (h : cs.map Piece.char <+: ps ++ qs) : cs.map Piece.char <+: ps := by
  rcases List.prefix_or_prefix_of_prefix h (List.prefix_append ps qs) with h' | ⟨zs, hzs⟩
  · exact h'
  · cases zs with
    | nil => exact ⟨[], by simpa using hzs.symm⟩
    | cons z zs =>
      -- A first piece of `qs` among the characters would be one of them.
      rw [← hzs, List.prefix_append_right_inj] at h
      have hmem : z ∈ cs.map Piece.char := hzs ▸ by simp
      obtain ⟨c, hc, rfl⟩ := List.mem_map.mp hmem
      have hne : c ≠ '\x7b' := fun heq => hcs (heq ▸ hc)
      exact absurd (List.head?_eq_some_iff.mpr (by
        obtain ⟨rest, hrest⟩ := h
        exact ⟨_, hrest.symm⟩)) (hqs c hne)

/-- Any text can be put in front of pieces and read, if these do not begin with a character that
could belong to a name. -/
theorem exists_reading_append {qs : List Piece} (hqs : IsReading qs)
    (hhead : ∀ c, c ≠ '\x7b' → qs.head? ≠ some (.char c)) (cs : List Char) :
    ∃ ps, ps.flatMap Piece.text = cs ∧ IsReading (ps ++ qs) := by
  induction cs with
  | nil => exact ⟨[], rfl, hqs⟩
  | cons c rest ih =>
    obtain ⟨ps, rfl, hps⟩ := ih
    by_cases hstart : ∃ name, (Piece.hole name).IsPlain ∧
        (placeholder name).toList.map Piece.char <+: .char c :: (ps ++ qs)
    · obtain ⟨name, hname, hstart⟩ := hstart
      rw [toList_placeholder, List.map_cons] at hstart
      obtain ⟨hc, hrest⟩ := List.cons_prefix_cons.mp hstart
      cases hc
      have hfree : '\x7b' ∉ name.toList ++ ['\x7d'] := by simp [hname.2.1]
      obtain ⟨after, rfl⟩ := map_char_prefix_of_append hfree hhead hrest
      rw [List.append_assoc] at hps
      refine ⟨.hole name :: after, ?_, hps.of_append.hole_cons hname⟩
      rw [List.flatMap_cons, List.flatMap_append, Piece.text, toList_placeholder, List.flatMap_map]
      simp [Piece.text]
    · refine ⟨.char c :: ps, rfl, hps.char_cons fun name hname h => hstart ⟨name, hname, h⟩⟩

lemma exists_reading (path : String) : ∃ ps, pathOf ps = path ∧ IsReading ps := by
  obtain ⟨ps, hps, hreading⟩ := exists_reading_append .nil (by simp) path.toList
  rw [List.append_nil] at hreading
  exact ⟨ps, by rw [pathOf, hps, String.ofList_toList], hreading⟩

/-! ### The scan -/

/-- The name of a placeholder. -/
def Piece.name? : Piece → Option String
  | char _ => none
  | hole name => some name

lemma mem_filterMap_name?_iff {name : String} {ps : List Piece} :
    name ∈ ps.filterMap Piece.name? ↔ .hole name ∈ ps := by
  rw [List.mem_filterMap]
  constructor
  · rintro ⟨_ | m, hm, h⟩
    · cases h
    · cases h
      exact hm
  · exact fun h => ⟨_, h, rfl⟩

/-- What a scan has passed since the last opening brace. -/
def pendingPieces : Option (List Char) → List Piece
  | none => []
  | some acc => .char '\x7b' :: acc.reverse.map .char

lemma placeholdersAux_append {cs : List Char} (hcs : BraceFree cs) (acc ys : List Char) :
    placeholdersAux (some acc) (cs ++ ys) = placeholdersAux (some (cs.reverse ++ acc)) ys := by
  induction cs generalizing acc with
  | nil => rfl
  | cons c rest ih =>
    obtain ⟨hc, hrest⟩ := braceFree_cons_iff.mp hcs
    rw [List.cons_append, placeholdersAux_char hc, Option.map_some, ih hrest]
    simp

/-- A name that is closed by a brace is found. -/
lemma placeholdersAux_close {acc : List Char} (hacc : acc ≠ []) (ys : List Char) :
    placeholdersAux (some acc) ('\x7d' :: ys) = acc.reverse :: placeholdersAux none ys := by
  cases acc with
  | nil => exact absurd rfl hacc
  | cons c before => rfl

/-- A placeholder is found whatever stands before it. -/
lemma placeholdersAux_placeholder {m : String} (hm : (Piece.hole m).IsPlain)
    (pending : Option (List Char)) (ys : List Char) :
    placeholdersAux pending ((placeholder m).toList ++ ys) =
      m.toList :: placeholdersAux none ys := by
  obtain ⟨hne, hfree⟩ := hm
  have hchars : m.toList.reverse ≠ [] := by simpa using hne
  rw [toList_placeholder, List.cons_append, placeholdersAux, List.append_assoc,
    placeholdersAux_append hfree, List.append_nil, List.singleton_append,
    placeholdersAux_close hchars, List.reverse_reverse]

/-- The scan of a reading finds its placeholders. -/
lemma placeholdersAux_flatMap_text {ps : List Piece} {pending : Option (List Char)}
    (hfree : ∀ acc, pending = some acc → BraceFree acc)
    (h : IsReading (pendingPieces pending ++ ps)) :
    placeholdersAux pending (ps.flatMap Piece.text) =
      (ps.filterMap Piece.name?).map String.toList := by
  induction ps generalizing pending with
  | nil => rfl
  | cons p rest ih =>
    have hlater : IsReading (pendingPieces pending ++ [p] ++ rest) := by simpa using h
    have hrest : placeholdersAux none (rest.flatMap Piece.text) =
        (rest.filterMap Piece.name?).map String.toList := ih nofun hlater.of_append
    cases p with
    | hole m =>
      rw [List.flatMap_cons, Piece.text, placeholdersAux_placeholder (h.isPlain m (by simp)), hrest]
      rfl
    | char c =>
      change placeholdersAux pending (c :: rest.flatMap Piece.text) =
        (rest.filterMap Piece.name?).map String.toList
      rcases brace_cases c with rfl | rfl | hc
      · exact ih (by simp [BraceFree]) h.of_append
      · rw [← hrest]
        rcases pending with _ | _ | ⟨c, before⟩
        · rfl
        · rfl
        · -- The characters since the opening brace would be a name.
          have hplain : (Piece.hole (String.ofList (c :: before).reverse)).IsPlain := by
            obtain ⟨hopen, hclose⟩ := hfree _ rfl
            refine ⟨by simp, ?_, ?_⟩
            · rwa [String.toList_ofList, List.mem_reverse]
            · rwa [String.toList_ofList, List.mem_reverse]
          refine absurd ⟨[], rest, ?_⟩ (h.notLoose _ hplain)
          simp [toList_placeholder, pendingPieces]
      · rw [placeholdersAux_char hc]
        refine ih (fun acc hacc => ?_) ?_
        · obtain ⟨acc, rfl, rfl⟩ := Option.map_eq_some_iff.mp hacc
          exact braceFree_cons_iff.mpr ⟨hc, hfree acc rfl⟩
        · cases pending with
          | none => exact hlater.of_append
          | some acc => simpa [pendingPieces] using h

/-- The placeholders of a path are those of its reading. -/
theorem placeholders_pathOf {ps : List Piece} (h : IsReading ps) :
    placeholders (pathOf ps) = ps.filterMap Piece.name? := by
  have hread : placeholdersAux none (ps.flatMap Piece.text) =
      (ps.filterMap Piece.name?).map String.toList := placeholdersAux_flatMap_text nofun h
  rw [placeholders_eq, pathOf, String.toList_ofList, hread]
  simp

/-- A path has a placeholder for every name that it holds in braces. -/
theorem mem_placeholders_iff {name path : String} :
    name ∈ placeholders path ↔
      (Piece.hole name).IsPlain ∧ (placeholder name).toList <:+: path.toList := by
  constructor
  · intro h
    obtain ⟨ps, rfl, hps⟩ := exists_reading path
    rw [placeholders_pathOf hps, mem_filterMap_name?_iff] at h
    obtain ⟨us, vs, rfl⟩ := List.append_of_mem h
    refine ⟨hps.isPlain name h, us.flatMap Piece.text, vs.flatMap Piece.text, ?_⟩
    simp [pathOf, Piece.text]
  · rintro ⟨hname, before, after, hpath⟩
    obtain ⟨vs, rfl, hvs⟩ := exists_reading_append .nil (by simp) after
    rw [List.append_nil] at hvs
    obtain ⟨us, rfl, hus⟩ := exists_reading_append (hvs.hole_cons hname) (by simp) before
    obtain rfl : pathOf (us ++ .hole name :: vs) = path := by
      rw [pathOf, ← String.toList_inj, String.toList_ofList, ← hpath]
      simp [Piece.text]
    rw [placeholders_pathOf hus, mem_filterMap_name?_iff]
    simp

end ApiContract.Client
