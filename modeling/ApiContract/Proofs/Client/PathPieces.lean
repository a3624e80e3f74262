import ApiContract.Proofs.Client.PathSegment
import ApiContract.Proofs.Client.SentRequest
import Mathlib.Data.List.TakeWhile

/-!
# Pieces of paths

A path is made of pieces: characters that stand for themselves and placeholders. Building a request
replaces the placeholders of the parameters one parameter after another, each time in the whole text
that the step before has left. What this comes to is said on the pieces: `Piece.fill` puts values in
place of placeholders, all at once.

One replacement fills the placeholders of one name, if the braces that stand for themselves do not
enclose that name (`replaceAll_pathOf`). `KeepsApart` says that this never happens, whatever has
been filled before; it is kept from one replacement to the next, so that the replacements of all
parameters fill the placeholders of all of them (`fillPath_pathOf_eq_ok_iff`).
-/

namespace ApiContract.Client

/-! ### Pieces -/

/-- A text without braces. -/
def BraceFree (cs : List Char) : Prop := '\x7b' ∉ cs ∧ '\x7d' ∉ cs

instance : DecidablePred BraceFree := fun cs =>
  inferInstanceAs (Decidable ('\x7b' ∉ cs ∧ '\x7d' ∉ cs))

lemma braceFree_append_iff {xs ys : List Char} :
    BraceFree (xs ++ ys) ↔ BraceFree xs ∧ BraceFree ys := by
  simp only [BraceFree, List.mem_append, not_or]
  exact and_and_and_comm

lemma braceFree_cons_iff {c : Char} {cs : List Char} :
    BraceFree (c :: cs) ↔ BraceFree [c] ∧ BraceFree cs :=
  @braceFree_append_iff [c] cs

/-- A piece of a path: a character that stands for itself, or the placeholder of a name. -/
inductive Piece where
  | char (c : Char)
  | hole (name : String)
  deriving DecidableEq, Repr

namespace Piece

/-- A piece as it stands in a path. -/
def text : Piece → List Char
  | char c => [c]
  | hole name => (placeholder name).toList

/-- A piece of the documented form: a character that is no brace, or a placeholder whose name has
characters and no brace among them. -/
def IsPlain : Piece → Prop
  | char c => BraceFree [c]
  | hole name => name ≠ "" ∧ BraceFree name.toList

instance : DecidablePred IsPlain
  | char c => inferInstanceAs (Decidable (BraceFree [c]))
  | hole name => inferInstanceAs (Decidable (name ≠ "" ∧ BraceFree name.toList))

/-- A piece with a value in place of a placeholder that has one. -/
def fill (value : String → Option String) : Piece → List Piece
  | char c => [char c]
  | hole name =>
    match value name with
    | some s => s.toList.map char
    | none => [hole name]

end Piece

/-- Pieces as they stand in a path. -/
def pathOf (ps : List Piece) : String := String.ofList (ps.flatMap Piece.text)

/-! ### Lists of pieces -/

section Splitting

variable {α β : Type}

/-- Where a list made piece by piece has an item that one piece alone gives, the pieces are split at
that piece. -/
lemma exists_split_of_flatMap {f : α → List β} {a : α} {b : β} (ha : f a = [b]) {xs : List α}
    (honly : ∀ x ∈ xs, b ∈ f x → x = a) {before after : List β}
    (h : xs.flatMap f = before ++ b :: after) :
    ∃ us vs, xs = us ++ a :: vs ∧ us.flatMap f = before ∧ vs.flatMap f = after := by
  induction xs generalizing before with
  | nil => simp at h
  | cons x rest ih =>
    obtain ⟨hhead, hrest⟩ := List.forall_mem_cons.mp honly
    rw [List.flatMap_cons] at h
    by_cases hx : b ∈ f x
    · obtain rfl := hhead hx
      rw [ha, List.singleton_append] at h
      cases before with
      | nil =>
        obtain ⟨_, htail⟩ := List.cons.inj h
        exact ⟨[], rest, rfl, rfl, htail⟩
      | cons c before =>
        obtain ⟨rfl, htail⟩ := List.cons.inj h
        obtain ⟨us, vs, rfl, hus, hvs⟩ := ih hrest htail
        exact ⟨x :: us, vs, rfl, by rw [List.flatMap_cons, ha, hus]; rfl, hvs⟩
    · -- What `x` gives ends before the item.
      obtain ⟨own, rfl⟩ : ∃ own, before = f x ++ own := by
        rcases List.append_eq_append_iff.mp h with ⟨own, hbefore, _⟩ | ⟨own, hfx, hafter⟩
        · exact ⟨own, hbefore⟩
        · cases own with
          | nil => exact ⟨[], by simpa using hfx.symm⟩
          | cons c own =>
            obtain ⟨rfl, _⟩ := List.cons.inj hafter
            exact absurd (by rw [hfx]; simp) hx
      rw [List.append_assoc] at h
      obtain ⟨us, vs, rfl, hus, hvs⟩ := ih hrest (List.append_cancel_left h)
      exact ⟨x :: us, vs, rfl, by rw [List.flatMap_cons, hus], hvs⟩

/-- The same for a part between two such items. -/
lemma exists_infix_of_flatMap {f : α → List β} {a a' : α} {b b' : β} (ha : f a = [b])
    (ha' : f a' = [b']) {xs : List α} (honly : ∀ x ∈ xs, b ∈ f x → x = a)
    (honly' : ∀ x ∈ xs, b' ∈ f x → x = a') {ys : List β}
    (h : b :: ys ++ [b'] <:+: xs.flatMap f) :
    ∃ mid, a :: mid ++ [a'] <:+: xs ∧ mid.flatMap f = ys := by
  obtain ⟨before, after, h⟩ := h
  have hfirst : xs.flatMap f = before ++ b :: (ys ++ b' :: after) := by
    rw [← h]
    simp
  obtain ⟨us, vs, rfl, _, hvs⟩ := exists_split_of_flatMap ha honly hfirst
  have hlater : ∀ x ∈ vs, b' ∈ f x → x = a' := fun x hx => honly' x (by simp [hx])
  obtain ⟨mid, ws, rfl, hmid, _⟩ := exists_split_of_flatMap ha' hlater hvs
  exact ⟨mid, ⟨us, ws, by simp⟩, hmid⟩

end Splitting

/-! ### Values -/

/-- The values of one name. -/
def only (name s : String) : String → Option String := fun m => if m = name then some s else none

/-- The first values, and the second ones where the first have none. -/
def orElse (value later : String → Option String) : String → Option String :=
  fun m => (value m).or (later m)

lemma flatMap_fill_map_char (value : String → Option String) (cs : List Char) :
    (cs.map Piece.char).flatMap (Piece.fill value) = cs.map Piece.char := by
  induction cs with
  | nil => rfl
  | cons c rest ih => rw [List.map_cons, List.flatMap_cons, ih]; rfl

lemma flatMap_fill_eq_self {value : String → Option String} {ps : List Piece}
    (h : ∀ m, .hole m ∈ ps → value m = none) : ps.flatMap (Piece.fill value) = ps := by
  rw [List.flatMap_congr (g := fun p => [p]), List.flatMap_singleton']
  rintro (c | m) hp
  · rfl
  · rw [Piece.fill, h m hp]

/-- To fill once more is to fill with both values. -/
lemma flatMap_fill_fill (value later : String → Option String) (ps : List Piece) :
    (ps.flatMap (Piece.fill value)).flatMap (Piece.fill later) =
      ps.flatMap (Piece.fill (orElse value later)) := by
  rw [List.flatMap_assoc]
  refine List.flatMap_congr fun p _ => ?_
  cases p with
  | char c => rfl
  | hole name =>
    cases hvalue : value name with
    | some s => simp [Piece.fill, orElse, hvalue, flatMap_fill_map_char]
    | none => simp [Piece.fill, orElse, hvalue]

/-- Values without braces. -/
def BraceFreeValues (value : String → Option String) : Prop :=
  ∀ name s, value name = some s → BraceFree s.toList

/-- A piece is filled with characters of its value or stays as it is. -/
lemma eq_or_exists_of_mem_fill {value : String → Option String} {p q : Piece}
    (h : q ∈ p.fill value) :
    q = p ∨ ∃ name s c, value name = some s ∧ c ∈ s.toList ∧ q = .char c := by
  cases p with
  | char c => exact Or.inl (List.mem_singleton.mp h)
  | hole name =>
    cases hs : value name with
    | none =>
      rw [Piece.fill, hs] at h
      exact Or.inl (List.mem_singleton.mp h)
    | some s =>
      rw [Piece.fill, hs] at h
      obtain ⟨c, hc, rfl⟩ := List.mem_map.mp h
      exact Or.inr ⟨name, s, c, hs, hc, rfl⟩

/-- A brace that stands for itself has stood for itself before placeholders were filled. -/
lemma eq_char_of_mem_fill {value : String → Option String} (hvalue : BraceFreeValues value)
    {c : Char} (hc : ¬ BraceFree [c]) {p : Piece} (h : .char c ∈ p.fill value) : p = .char c := by
  rcases eq_or_exists_of_mem_fill h with h | ⟨name, s, d, hs, hd, h⟩
  · exact h.symm
  · cases h
    obtain ⟨hopen, hclose⟩ := hvalue name s hs
    refine absurd ⟨?_, ?_⟩ hc
    · exact fun hm => hopen (List.mem_singleton.mp hm ▸ hd)
    · exact fun hm => hclose (List.mem_singleton.mp hm ▸ hd)

/-- Pieces between braces that stand for themselves come from such pieces before placeholders were
filled. -/
lemma exists_infix_of_flatMap_fill {value : String → Option String}
    (hvalue : BraceFreeValues value) {ps mid' : List Piece}
    (h : .char '\x7b' :: mid' ++ [.char '\x7d'] <:+: ps.flatMap (Piece.fill value)) :
    ∃ mid, .char '\x7b' :: mid ++ [.char '\x7d'] <:+: ps ∧
      mid.flatMap (Piece.fill value) = mid' := by
  have hopen : ¬ BraceFree ['\x7b'] := fun h => h.1 List.mem_cons_self
  have hclose : ¬ BraceFree ['\x7d'] := fun h => h.2 List.mem_cons_self
  have hfillOpen : (Piece.char '\x7b').fill value = [.char '\x7b'] := rfl
  have hfillClose : (Piece.char '\x7d').fill value = [.char '\x7d'] := rfl
  exact exists_infix_of_flatMap hfillOpen hfillClose
    (fun _ _ => eq_char_of_mem_fill hvalue hopen) (fun _ _ => eq_char_of_mem_fill hvalue hclose) h

/-! ### One replacement -/

lemma toList_placeholder (name : String) :
    (placeholder name).toList = '\x7b' :: (name.toList ++ ['\x7d']) := by
  rw [placeholder, String.toList_append, String.toList_append]
  rfl

/-- The rest of an occurrence is passed over. -/
lemma replaceAux_append_of_length (old new xs ys : List Char) :
    replaceAux old new xs.length (xs ++ ys) = replaceAux old new 0 ys := by
  induction xs with
  | nil => rfl
  | cons c rest ih => exact ih

/-- Nothing is replaced before the first character of what is looked for. -/
lemma replaceAux_append_of_not_mem {a : Char} (old new : List Char) {xs : List Char} (h : a ∉ xs)
    (ys : List Char) : replaceAux (a :: old) new 0 (xs ++ ys) =
      xs ++ replaceAux (a :: old) new 0 ys := by
  induction xs with
  | nil => rfl
  | cons c rest ih =>
    obtain ⟨hne, hrest⟩ := not_or.mp (List.mem_cons.not.mp h)
    rw [List.cons_append, replaceAux, if_neg, ih hrest]
    · rfl
    · simp [List.isPrefixOf, hne]

/-- Text without an opening brace at the start of a path is a run of characters that stand for
themselves. -/
lemma map_char_prefix_of_prefix {cs : List Char} (hcs : '\x7b' ∉ cs) {ps : List Piece}
    (h : cs <+: ps.flatMap Piece.text) : cs.map Piece.char <+: ps := by
  induction cs generalizing ps with
  | nil => exact List.nil_prefix
  | cons c rest ih =>
    obtain ⟨hne, hrest⟩ := not_or.mp (List.mem_cons.not.mp hcs)
    cases ps with
    | nil => simp at h
    | cons p ps =>
      rw [List.flatMap_cons] at h
      cases p with
      | char d =>
        have hchar : c :: rest <+: d :: ps.flatMap Piece.text := h
        obtain ⟨rfl, htail⟩ := List.cons_prefix_cons.mp hchar
        exact List.cons_prefix_cons.mpr ⟨rfl, ih hrest htail⟩
      | hole name =>
        rw [Piece.text, toList_placeholder, List.cons_append] at h
        exact absurd (List.cons_prefix_cons.mp h).1.symm hne

/-- A name and a closing brace begin with another name and a closing brace only when the names are
the same. -/
lemma append_brace_prefix_iff {xs ys : List Char} (hxs : '\x7d' ∉ xs) (hys : '\x7d' ∉ ys)
    (rest : List Char) : xs ++ ['\x7d'] <+: ys ++ '\x7d' :: rest ↔ xs = ys := by
  induction xs generalizing ys with
  | nil =>
    cases ys with
    | nil => simp
    | cons d ys =>
      obtain ⟨hne, _⟩ := not_or.mp (List.mem_cons.not.mp hys)
      simp [hne]
  | cons c xs ih =>
    obtain ⟨hne, hxs⟩ := not_or.mp (List.mem_cons.not.mp hxs)
    cases ys with
    | nil => simp [Ne.symm hne]
    | cons d ys =>
      have hrest : '\x7d' ∉ ys := fun h => hys (List.mem_cons_of_mem _ h)
      rw [List.cons_append, List.cons_append, List.cons_prefix_cons, ih hxs hrest, List.cons.injEq]

/-- A character that stands for itself stays when no such characters look like the placeholder. -/
lemma replaceAux_char {name : String} (hname : '\x7b' ∉ name.toList) (new : List Char) {c : Char}
    {rest : List Piece}
    (hloose : ¬ (placeholder name).toList.map Piece.char <:+: .char c :: rest) :
    replaceAux (placeholder name).toList new 0 (c :: rest.flatMap Piece.text) =
      c :: replaceAux (placeholder name).toList new 0 (rest.flatMap Piece.text) := by
  rw [replaceAux, if_neg]
  rw [List.isPrefixOf_iff_prefix, toList_placeholder, List.cons_prefix_cons]
  rintro ⟨rfl, h⟩
  have hrest := map_char_prefix_of_prefix (by simp [hname]) h
  refine hloose (List.IsPrefix.isInfix ?_)
  rw [toList_placeholder, List.map_cons]
  exact List.cons_prefix_cons.mpr ⟨rfl, hrest⟩

/-- A placeholder is replaced when it has the name, and else stays. -/
lemma replaceAux_hole {name m : String} (hname : BraceFree name.toList) (hm : BraceFree m.toList)
    (new ys : List Char) :
    replaceAux (placeholder name).toList new 0 ((placeholder m).toList ++ ys) =
      (if m = name then new else (placeholder m).toList) ++
        replaceAux (placeholder name).toList new 0 ys := by
  have hstart : (placeholder name).toList.isPrefixOf ((placeholder m).toList ++ ys) = true ↔
      m = name := by
    rw [List.isPrefixOf_iff_prefix, toList_placeholder, toList_placeholder, List.cons_append,
      List.append_assoc, List.singleton_append, List.cons_prefix_cons,
      append_brace_prefix_iff hname.2 hm.2, String.toList_inj]
    exact ⟨fun h => h.2.symm, fun h => ⟨rfl, h.symm⟩⟩
  have hsplit : (placeholder m).toList ++ ys = '\x7b' :: (m.toList ++ '\x7d' :: ys) := by
    simp [toList_placeholder]
  by_cases heq : m = name
  · subst heq
    have hlength : (placeholder m).toList.length - 1 = (m.toList ++ ['\x7d']).length := by
      simp [toList_placeholder]
    rw [if_pos rfl, hsplit, replaceAux, ← hsplit, if_pos (hstart.mpr rfl), hlength,
      show m.toList ++ '\x7d' :: ys = (m.toList ++ ['\x7d']) ++ ys by simp,
      replaceAux_append_of_length]
  · rw [if_neg heq, hsplit, replaceAux, ← hsplit, if_neg (hstart.not.mpr heq),
      toList_placeholder name,
      show m.toList ++ '\x7d' :: ys = (m.toList ++ ['\x7d']) ++ ys by simp,
      replaceAux_append_of_not_mem _ _ (by simp [hm.1]), toList_placeholder]
    rfl

/-- To replace the placeholder of a name in a path fills the placeholders of that name, when no
characters that stand for themselves look like it. -/
theorem replaceAll_pathOf {name : String} (hname : BraceFree name.toList) (s : String)
    {ps : List Piece} (hholes : ∀ m, .hole m ∈ ps → BraceFree m.toList)
    (hloose : ¬ (placeholder name).toList.map Piece.char <:+: ps) :
    replaceAll (placeholder name) s (pathOf ps) =
      pathOf (ps.flatMap (Piece.fill (only name s))) := by
  rw [replaceAll, pathOf, pathOf, String.toList_ofList]
  refine congrArg String.ofList ?_
  induction ps with
  | nil => rfl
  | cons p rest ih =>
    have hrest := ih (fun m hm => hholes m (List.mem_cons_of_mem _ hm))
      (fun h => hloose (h.trans (List.suffix_cons p rest).isInfix))
    rw [List.flatMap_cons, List.flatMap_cons, List.flatMap_append, ← hrest]
    cases p with
    | char c => exact replaceAux_char hname.1 s.toList hloose
    | hole m =>
      rw [Piece.text, replaceAux_hole hname (hholes m List.mem_cons_self)]
      by_cases heq : m = name
      · simp [Piece.fill, only, heq, List.flatMap_map, Piece.text]
      · simp [Piece.fill, only, heq, Piece.text]

/-! ### All replacements -/

/-- Values that are given by others where they are given at all. -/
def IsPartOf (part value : String → Option String) : Prop :=
  ∀ name s, part name = some s → value name = some s

/-- Braces that stand for themselves never enclose one of some names, whatever placeholders between
them have been filled. -/
def KeepsApart (value : String → Option String) (names : List String) (ps : List Piece) : Prop :=
  ∀ mid, .char '\x7b' :: mid ++ [.char '\x7d'] <:+: ps → ∀ part, IsPartOf part value →
    ∀ name ∈ names, mid.flatMap (Piece.fill part) ≠ name.toList.map Piece.char

/-- What keeps names apart keeps them apart before anything is filled. -/
lemma KeepsApart.not_loose {value : String → Option String} {names : List String}
    {ps : List Piece} (h : KeepsApart value names ps) {name : String} (hname : name ∈ names) :
    ¬ (placeholder name).toList.map Piece.char <:+: ps := by
  intro hloose
  have hbraces : (placeholder name).toList.map Piece.char =
      .char '\x7b' :: name.toList.map Piece.char ++ [.char '\x7d'] := by
    simp [toList_placeholder]
  rw [hbraces] at hloose
  exact h _ hloose (fun _ => none) nofun name hname (flatMap_fill_map_char _ _)

/-- Names are kept apart when placeholders are filled. -/
lemma KeepsApart.flatMap_fill {value part : String → Option String} {names : List String}
    {ps : List Piece} (h : KeepsApart value names ps) (hvalue : BraceFreeValues value)
    (hpart : IsPartOf part value) : KeepsApart value names (ps.flatMap (Piece.fill part)) := by
  intro mid' hmid' later hlater name hname
  have hfree : BraceFreeValues part := fun m s hs => hvalue m s (hpart m s hs)
  obtain ⟨mid, hmid, rfl⟩ := exists_infix_of_flatMap_fill hfree hmid'
  rw [flatMap_fill_fill]
  refine h mid hmid _ (fun m s hs => ?_) name hname
  rcases Option.or_eq_some_iff.mp hs with hs | ⟨_, hs⟩
  · exact hpart m s hs
  · exact hlater m s hs

/-- The placeholders that stay are those without a value. -/
lemma hole_mem_flatMap_fill_iff {value : String → Option String} {ps : List Piece} {m : String} :
    .hole m ∈ ps.flatMap (Piece.fill value) ↔ .hole m ∈ ps ∧ value m = none := by
  rw [List.mem_flatMap]
  constructor
  · rintro ⟨c | n, hp, hm⟩
    · cases List.mem_singleton.mp hm
    · cases hvalue : value n with
      | some s =>
        rw [Piece.fill, hvalue] at hm
        obtain ⟨_, _, hc⟩ := List.mem_map.mp hm
        cases hc
      | none =>
        rw [Piece.fill, hvalue] at hm
        cases List.mem_singleton.mp hm
        exact ⟨hp, hvalue⟩
  · rintro ⟨hm, hvalue⟩
    exact ⟨_, hm, by simp [Piece.fill, hvalue]⟩

/-- The text that a member of an object is sent as. -/
def sentText? (fields : Table String Json) (name : String) : Option String :=
  (present fields name).bind rendered?

/-- The segment that a member of an object is sent as. -/
def segment? (fields : Table String Json) (name : String) : Option String :=
  (sentText? fields name).map percentEncoded

/-- The segments of some names. -/
def segments (fields : Table String Json) (names : List String) : String → Option String :=
  fun name => if name ∈ names then segment? fields name else none

lemma braceFreeValues_segment? (fields : Table String Json) :
    BraceFreeValues (segment? fields) := by
  intro name s hs
  obtain ⟨text, _, rfl⟩ := Option.map_eq_some_iff.mp hs
  have hfree := (isSegmentOf_percentEncoded text).undelimited
  exact ⟨fun h => hfree _ h (by decide), fun h => hfree _ h (by decide)⟩

lemma braceFreeValues_segments (fields : Table String Json) (names : List String) :
    BraceFreeValues (segments fields names) := by
  intro name s hs
  unfold segments at hs
  split at hs
  · exact braceFreeValues_segment? fields name s hs
  · cases hs

namespace RequestPlan

/-- A path is filled name by name, each with its segment. -/
lemma fillPath_cons_eq_ok_iff {fields : Table String Json} {name : String} {rest : List String}
    {path filled : String} :
    fillPath fields (name :: rest) path = .ok filled ↔ ∃ s, segment? fields name = some s ∧
      fillPath fields rest (replaceAll (placeholder name) s path) = .ok filled := by
  rw [fillPath, segment?, sentText?]
  cases present fields name with
  | none => simp
  | some v =>
    simp only [bind_eq_ok_iff, scalar_eq_ok_iff, Option.bind_some, Option.map_eq_some_iff]
    constructor
    · rintro ⟨text, htext, h⟩
      exact ⟨_, ⟨text, htext, rfl⟩, h⟩
    · rintro ⟨_, ⟨text, htext, rfl⟩, h⟩
      exact ⟨text, htext, h⟩

/-- A path whose braces keep the names apart is filled when every name has a segment, and then its
placeholders of these names are filled all at once. -/
theorem fillPath_pathOf_eq_ok_iff {fields : Table String Json} {names : List String}
    (hnames : ∀ name ∈ names, BraceFree name.toList) {ps : List Piece}
    (hholes : ∀ m, .hole m ∈ ps → BraceFree m.toList)
    (hapart : KeepsApart (segment? fields) names ps) (filled : String) :
    fillPath fields names (pathOf ps) = .ok filled ↔
      (∀ name ∈ names, (segment? fields name).isSome = true) ∧
        filled = pathOf (ps.flatMap (Piece.fill (segments fields names))) := by
  induction names generalizing ps with
  | nil =>
    have hnone : ps.flatMap (Piece.fill (segments fields [])) = ps :=
      flatMap_fill_eq_self fun _ _ => rfl
    rw [fillPath, hnone, Except.ok.injEq]
    exact ⟨fun h => ⟨fun _ hmem => absurd hmem List.not_mem_nil, h.symm⟩, fun h => h.2.symm⟩
  | cons name rest ih =>
    obtain ⟨hname, hrest⟩ := List.forall_mem_cons.mp hnames
    rw [fillPath_cons_eq_ok_iff, List.forall_mem_cons]
    cases hs : segment? fields name with
    | none => simp
    | some s =>
      have hpart : IsPartOf (only name s) (segment? fields) := by
        intro m t ht
        obtain ⟨rfl, rfl⟩ : m = name ∧ s = t := by simpa [only] using ht
        exact hs
      have hkept := hapart.flatMap_fill (braceFreeValues_segment? fields) hpart
      have hvalues : orElse (only name s) (segments fields rest) =
          segments fields (name :: rest) := by
        funext m
        by_cases hm : m = name
        · simp [orElse, only, segments, hm, hs]
        · simp [orElse, only, segments, hm]
      have hfilled := ih hrest (fun m hm => hholes m (hole_mem_flatMap_fill_iff.mp hm).1)
        (fun mid hmid part hp n hn => hkept mid hmid part hp n (List.mem_cons_of_mem _ hn))
      rw [flatMap_fill_fill, hvalues] at hfilled
      simp only [Option.some.injEq, exists_eq_left', Option.isSome_some, true_and]
      rw [replaceAll_pathOf hname s hholes (hapart.not_loose List.mem_cons_self)]
      exact hfilled

/-! ### URLs -/

/-- A request is built from an object. Its URL is the base URL without the slashes at its end, and
then the filled path. -/
lemma url_of_build {plan : RequestPlan} {context : RequestContext} {input : Json}
    {r : HttpRequest} (h : plan.build context input = .ok r) :
    ∃ fields path, input = .object fields ∧ fillPath fields plan.params plan.path = .ok path ∧
      r.url = dropSlashes context.baseUrl ++ path := by
  unfold build at h
  split at h
  on_goal 2 => cases h
  rename_i fields
  obtain ⟨path, hpath, h⟩ := bind_eq_ok_iff.mp h
  obtain ⟨_, _, h⟩ := bind_eq_ok_iff.mp h
  obtain ⟨_, _, h⟩ := bind_eq_ok_iff.mp h
  obtain ⟨_, _, h⟩ := bind_eq_ok_iff.mp h
  cases h
  exact ⟨fields, path, rfl, hpath, rfl⟩

/-- Parameters matter for a request only by the path that they fill. -/
lemma build_congr_params {plan : RequestPlan} {params : List String} {fields : Table String Json}
    (h : fillPath fields params plan.path = fillPath fields plan.params plan.path)
    (context : RequestContext) :
    { plan with params := params }.build context (.object fields) =
      plan.build context (.object fields) := by
  unfold build
  simp only [h]

end RequestPlan

/-- A text without the slashes at its end. -/
def IsRootOf (root url : String) : Prop :=
  root.toList.getLast? ≠ some '/' ∧ ∃ n, url.toList = root.toList ++ List.replicate n '/'

lemma isRootOf_dropSlashes (url : String) : IsRootOf (dropSlashes url) url := by
  set reversed := url.toList.reverse with hreversed
  have hroot : (dropSlashes url).toList = (reversed.dropWhile (· == '/')).reverse :=
    String.toList_ofList
  have hslashes : reversed.takeWhile (· == '/') =
      List.replicate (reversed.takeWhile (· == '/')).length '/' := by
    refine List.eq_replicate_of_mem fun c hc => ?_
    simpa using List.mem_takeWhile_imp hc
  refine ⟨?_, (reversed.takeWhile (· == '/')).length, ?_⟩
  · rw [hroot, List.getLast?_reverse]
    intro hhead
    have hnot := List.head?_dropWhile_not (· == '/') reversed
    rw [hhead] at hnot
    simp at hnot
  · rw [hroot, ← List.reverse_replicate, ← hslashes, ← List.reverse_append,
      List.takeWhile_append_dropWhile, hreversed, List.reverse_reverse]

end ApiContract.Client
