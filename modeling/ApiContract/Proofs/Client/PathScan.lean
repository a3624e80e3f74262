import ApiContract.Client.Route
import ApiContract.Proofs.Client.PathPieces
import Mathlib.Data.String.Basic

/-!
# The scan for placeholders

The scan reads a path once and remembers the place behind the last opening brace. What it has
remembered is said of the characters it has passed (`IsPending`), and each of them keeps that true.
So the parts it takes are those between an opening brace and a closing one with no brace in between
(`mem_braced_iff`), from first to last (`pairwise_braced`), and the placeholders of a path are the
names that stand in braces in it, each as often and in the order in which it stands there
(`finds_placeholders`).

The proofs about requests follow the characters of a name and not its place. For them the scan is
said once more in this form (`placeholders_eq`).
-/

namespace ApiContract.Client

open String (utf8Len)

/-! ### What the scan remembers -/

/-- What is remembered behind some characters: the place behind the last opening brace, if no
closing brace came since. -/
def IsPending (us : List Char) : Option Nat → Prop
  | none => ∀ vs name, us = vs ++ '\x7b' :: name → ¬ BraceFree name
  | some start => ∃ vs name, us = vs ++ '\x7b' :: name ∧ BraceFree name ∧ start = utf8Len vs + 1

lemma isPending_nil : IsPending [] none := by
  intro vs name h
  simp at h

lemma isPending_opening (us : List Char) : IsPending (us ++ ['\x7b']) (some (utf8Len us + 1)) :=
  ⟨us, [], rfl, by simp [BraceFree], rfl⟩

/-- A character behind others is the opening brace before a name without characters, or the last
character of the name. -/
lemma append_singleton_eq_iff {us vs name : List Char} {c : Char} :
    us ++ [c] = vs ++ '\x7b' :: name ↔
      (name = [] ∧ c = '\x7b' ∧ us = vs) ∨
        ∃ before, name = before ++ [c] ∧ us = vs ++ '\x7b' :: before := by
  rcases List.eq_nil_or_concat name with rfl | ⟨before, d, rfl⟩
  · simp [and_comm]
  · rw [List.concat_eq_append, ← List.cons_append, ← List.append_assoc, List.append_singleton_inj]
    constructor
    · rintro ⟨rfl, rfl⟩
      exact .inr ⟨before, rfl, rfl⟩
    · rintro (⟨hname, _⟩ | ⟨before', hname, rfl⟩)
      · simp at hname
      · obtain ⟨rfl, rfl⟩ := List.append_singleton_inj.mp hname
        exact ⟨rfl, rfl⟩

lemma isPending_closing (us : List Char) : IsPending (us ++ ['\x7d']) none := by
  intro vs name h hfree
  rcases append_singleton_eq_iff.mp h with ⟨_, hbrace, _⟩ | ⟨before, rfl, _⟩
  · cases hbrace
  · exact hfree.2 (by simp)

lemma IsPending.char {us : List Char} {start : Option Nat} (h : IsPending us start) {c : Char}
    (hc : BraceFree [c]) : IsPending (us ++ [c]) start := by
  cases start with
  | none =>
    intro vs name hname hfree
    rcases append_singleton_eq_iff.mp hname with ⟨_, rfl, _⟩ | ⟨before, rfl, hus⟩
    · exact hc.1 List.mem_cons_self
    · exact h vs before hus (braceFree_append_iff.mp hfree).1
  | some start =>
    obtain ⟨vs, name, rfl, hfree, hstart⟩ := h
    exact ⟨vs, name ++ [c], by simp, braceFree_append_iff.mpr ⟨hfree, hc⟩, hstart⟩

/-! ### One character -/

lemma bracedAux_closing_none (place : Nat) (cs : List Char) :
    bracedAux none place ('\x7d' :: cs) = bracedAux none (place + 1) cs := rfl

lemma bracedAux_closing_some (start place : Nat) (cs : List Char) :
    bracedAux (some start) place ('\x7d' :: cs) =
      ⟨start, place⟩ :: bracedAux none (place + 1) cs := rfl

lemma bracedAux_char {c : Char} (hc : BraceFree [c]) (start : Option Nat) (place : Nat)
    (cs : List Char) :
    bracedAux start place (c :: cs) = bracedAux start (place + c.utf8Size) cs := by
  rw [bracedAux]
  · rintro rfl
    exact hc.1 List.mem_cons_self
  · rintro rfl
    exact hc.2 List.mem_cons_self

/-- A character is an opening brace, a closing one or none. -/
lemma brace_cases (c : Char) : c = '\x7b' ∨ c = '\x7d' ∨ BraceFree [c] := by
  by_cases hopen : c = '\x7b'
  · exact .inl hopen
  · by_cases hclose : c = '\x7d'
    · exact .inr (.inl hclose)
    · exact .inr (.inr ⟨by simpa using Ne.symm hopen, by simpa using Ne.symm hclose⟩)

lemma utf8Len_append_singleton (us : List Char) (c : Char) :
    utf8Len (us ++ [c]) = utf8Len us + c.utf8Size := by
  simp

lemma utf8Len_append_opening (vs name : List Char) :
    utf8Len (vs ++ '\x7b' :: name) = utf8Len vs + 1 + utf8Len name := by
  rw [String.utf8Len_append, String.utf8Len_cons, show '\x7b'.utf8Size = 1 from rfl]
  omega

/-! ### The parts that are taken -/

/-- The place of a name behind some characters and an opening brace. -/
def spanBehind (vs name : List Char) : Span := ⟨utf8Len vs + 1, utf8Len vs + 1 + utf8Len name⟩

/-- A closing brace among characters is the first of them or among the others. -/
lemma exists_closing_cons_iff {c : Char} {cs : List Char} {P : List Char → Prop} :
    (∃ xs ws, c :: cs = xs ++ '\x7d' :: ws ∧ P xs) ↔
      (c = '\x7d' ∧ P []) ∨ ∃ xs ws, cs = xs ++ '\x7d' :: ws ∧ P (c :: xs) := by
  constructor
  · rintro ⟨xs, ws, h, hP⟩
    cases xs with
    | nil =>
      cases h
      exact .inl ⟨rfl, hP⟩
    | cons x xs =>
      cases h
      exact .inr ⟨xs, ws, rfl, hP⟩
  · rintro (⟨rfl, hP⟩ | ⟨xs, ws, rfl, hP⟩)
    · exact ⟨[], cs, rfl, hP⟩
    · exact ⟨c :: xs, ws, rfl, hP⟩

/-- From any place on, the parts are taken that end at a closing brace there and begin behind an
opening brace, with no brace in between. -/
lemma mem_bracedAux_iff {us : List Char} {start : Option Nat} (h : IsPending us start)
    (cs : List Char) (s : Span) :
    s ∈ bracedAux start (utf8Len us) cs ↔ ∃ xs ws, cs = xs ++ '\x7d' :: ws ∧
      ∃ vs name, us ++ xs = vs ++ '\x7b' :: name ∧ BraceFree name ∧ s = spanBehind vs name := by
  induction cs generalizing us start with
  | nil => simp [bracedAux]
  | cons c rest ih =>
    have hlater : ∀ {p : Option Nat}, IsPending (us ++ [c]) p →
        (s ∈ bracedAux p (utf8Len us + c.utf8Size) rest ↔ ∃ xs ws, rest = xs ++ '\x7d' :: ws ∧
          ∃ vs name, us ++ c :: xs = vs ++ '\x7b' :: name ∧ BraceFree name ∧
            s = spanBehind vs name) := by
      intro p hp
      simpa [utf8Len_append_singleton] using ih hp
    rw [exists_closing_cons_iff, List.append_nil]
    rcases brace_cases c with rfl | rfl | hc
    · have hopening := hlater (isPending_opening us)
      rw [bracedAux]
      exact hopening.trans (by simp)
    · have hclosing := hlater (isPending_closing us)
      cases start with
      | none =>
        rw [bracedAux_closing_none]
        refine hclosing.trans ⟨.inr, ?_⟩
        rintro (⟨_, vs, name, hus, hfree, _⟩ | hrest)
        · exact absurd hfree (h vs name hus)
        · exact hrest
      | some start =>
        obtain ⟨vs, name, rfl, hfree, rfl⟩ := h
        have hstop : utf8Len (vs ++ '\x7b' :: name) = utf8Len vs + 1 + utf8Len name :=
          utf8Len_append_opening vs name
        rw [bracedAux_closing_some, List.mem_cons]
        refine or_congr ⟨fun hs => ⟨rfl, vs, name, rfl, hfree, ?_⟩, ?_⟩ hclosing
        · rw [hs, hstop, spanBehind]
        · rintro ⟨_, vs', name', heq, hfree', rfl⟩
          obtain ⟨rfl, rfl⟩ := append_cons_inj_of_not_mem_right hfree.1 hfree'.1 heq
          rw [hstop, spanBehind]
    · have hne : c ≠ '\x7d' := by
        rintro rfl
        exact hc.2 List.mem_cons_self
      rw [bracedAux_char hc]
      exact (hlater (h.char hc)).trans (by simp [hne])

/-- The parts of a path that are taken are those between an opening brace and a closing one with no
brace in between. -/
theorem mem_braced_iff {path : String} {s : Span} :
    s ∈ braced path ↔ ∃ vs name ws, path.toList = vs ++ '\x7b' :: (name ++ '\x7d' :: ws) ∧
      BraceFree name ∧ s = spanBehind vs name := by
  rw [braced, ← String.utf8Len_nil, mem_bracedAux_iff isPending_nil]
  constructor
  · rintro ⟨xs, ws, hpath, vs, name, rfl, hfree, rfl⟩
    exact ⟨vs, name, ws, by simp [hpath], hfree, rfl⟩
  · rintro ⟨vs, name, ws, hpath, hfree, rfl⟩
    exact ⟨vs ++ '\x7b' :: name, ws, by simp [hpath], vs, name, rfl, hfree, rfl⟩

/-! ### Their order -/

/-- A part that is taken starts at the place that is remembered or behind a later one. -/
lemma start_of_mem_bracedAux {start : Option Nat} {place : Nat} {cs : List Char} {s : Span}
    (h : s ∈ bracedAux start place cs) : start = some s.start ∨ place < s.start := by
  fun_induction bracedAux start place cs with
  | case1 => cases h
  | case2 start place cs ih =>
    rcases ih h with hstart | hlater
    · exact .inr (Option.some.inj hstart ▸ Nat.lt_succ_self _)
    · exact .inr (Nat.lt_of_succ_lt hlater)
  | case3 place cs first ih =>
    rcases List.mem_cons.mp h with rfl | hrest
    · exact .inl rfl
    · exact .inr (Nat.lt_of_succ_lt ((ih hrest).resolve_left nofun))
  | case4 place cs ih => exact .inr (Nat.lt_of_succ_lt ((ih h).resolve_left nofun))
  | case5 start place c cs _ _ ih =>
    rcases ih h with hstart | hlater
    · exact .inl hstart
    · exact .inr (by omega)

/-- Every part that is taken ends before the next one starts. -/
lemma pairwise_bracedAux (start : Option Nat) (place : Nat) (cs : List Char) :
    (bracedAux start place cs).Pairwise fun s t => s.stop < t.start := by
  fun_induction bracedAux start place cs with
  | case1 => exact .nil
  | case3 place cs first ih =>
    refine List.pairwise_cons.mpr ⟨fun t ht => ?_, ih⟩
    exact Nat.lt_of_succ_lt ((start_of_mem_bracedAux ht).resolve_left nofun)
  | case2 _ _ _ ih | case4 _ _ ih | case5 _ _ _ _ _ _ ih => exact ih

lemma pairwise_braced (path : String) : (braced path).Pairwise fun s t => s.stop < t.start :=
  pairwise_bracedAux none 0 path.toList

/-! ### Their texts -/

lemma text_spanBehind {path : String} {vs name rest : List Char}
    (h : path.toList = vs ++ '\x7b' :: (name ++ rest)) :
    (spanBehind vs name).text path = String.ofList name := by
  have hpath : path = String.ofList (vs ++ ['\x7b'] ++ name ++ rest) := by
    rw [← String.toList_inj, String.toList_ofList, h]
    simp
  have hstart : utf8Len (vs ++ ['\x7b']) = utf8Len vs + 1 := utf8Len_append_singleton vs _
  rw [spanBehind, Span.text, ← hstart, hpath]
  exact String.extract_of_valid (vs ++ ['\x7b']) name rest

/-- A part that is taken starts and ends between characters. -/
lemma isValid_of_mem_braced {path : String} {s : Span} (h : s ∈ braced path) :
    s.start ≤ s.stop ∧ (⟨s.start⟩ : String.Pos.Raw).IsValid path ∧
      (⟨s.stop⟩ : String.Pos.Raw).IsValid path := by
  obtain ⟨vs, name, ws, hpath, _, rfl⟩ := mem_braced_iff.mp h
  have hsplit : ∀ us rest : List Char, path.toList = us ++ rest →
      (⟨utf8Len us⟩ : String.Pos.Raw).IsValid path := by
    intro us rest hus
    refine String.Pos.Raw.isValid_iff_exists_append.mpr
      ⟨String.ofList us, String.ofList rest, ?_, by simp⟩
    rw [← String.toList_inj, hus]
    simp
  have hstart := hsplit (vs ++ ['\x7b']) (name ++ '\x7d' :: ws) (by simp [hpath])
  have hstop := hsplit (vs ++ ['\x7b'] ++ name) ('\x7d' :: ws) (by simp [hpath])
  rw [utf8Len_append_singleton] at hstart
  rw [String.utf8Len_append, utf8Len_append_singleton] at hstop
  exact ⟨Nat.le_add_right _ _, hstart, hstop⟩

/-- A name stands in braces at a part of a path: it has characters and no brace among them, an
opening brace is before it and a closing one behind it, and the part begins and ends where it does.
-/
def Span.IsNameIn (s : Span) (name path : String) : Prop :=
  name ≠ "" ∧ BraceFree name.toList ∧
    ∃ before after, path = before ++ placeholder name ++ after ∧
      s.start = before.utf8ByteSize + 1 ∧ s.stop = s.start + name.utf8ByteSize

/-- The name at a part is the text that is taken there. -/
lemma Span.isNameIn_iff {s : Span} {name path : String} :
    s.IsNameIn name path ↔ s ∈ braced path ∧ s.text path = name ∧ name ≠ "" := by
  constructor
  · rintro ⟨hne, hfree, before, after, rfl, hstart, hstop⟩
    have hpath : (before ++ placeholder name ++ after).toList =
        before.toList ++ '\x7b' :: (name.toList ++ '\x7d' :: after.toList) := by
      simp [toList_placeholder]
    have hs : s = spanBehind before.toList name.toList := by
      rw [spanBehind, String.utf8Len_toList, String.utf8Len_toList, ← hstart, ← hstop]
    refine ⟨mem_braced_iff.mpr ⟨before.toList, name.toList, after.toList, hpath, hfree, hs⟩, ?_,
      hne⟩
    rw [hs, text_spanBehind hpath, String.ofList_toList]
  · rintro ⟨hs, rfl, hne⟩
    obtain ⟨vs, name, ws, hpath, hfree, rfl⟩ := mem_braced_iff.mp hs
    rw [text_spanBehind hpath] at hne ⊢
    refine ⟨hne, by rwa [String.toList_ofList], String.ofList vs, String.ofList ws, ?_, ?_, ?_⟩
    · rw [← String.toList_inj, hpath]
      simp [toList_placeholder]
    · rw [spanBehind, String.utf8ByteSize_ofList]
    · rw [spanBehind, String.utf8ByteSize_ofList]

/-- The placeholders of a path are the names that stand in braces in it, in the order in which they
stand there and with repetitions. No two of them overlap, and whatever the scan takes of a path it
takes between characters. -/
theorem finds_placeholders (path : String) : ∃ spans : List Span,
    (∀ s, s ∈ spans ↔ ∃ name, s.IsNameIn name path) ∧
      (spans.Pairwise fun s t => s.stop < t.start) ∧
      List.Forall₂ (fun s name => s.IsNameIn name path) spans (placeholders path) ∧
      placeholders path = spans.map (fun s => s.text path) ∧
      ∀ s ∈ braced path, s.start ≤ s.stop ∧ (⟨s.start⟩ : String.Pos.Raw).IsValid path ∧
        (⟨s.stop⟩ : String.Pos.Raw).IsValid path := by
  have hnames : placeholders path =
      ((braced path).filter fun s => !(s.text path).isEmpty).map fun s => s.text path := by
    rw [placeholders, List.filter_map]
    rfl
  have hmem : ∀ s, s ∈ (braced path).filter (fun s => !(s.text path).isEmpty) ↔
      s ∈ braced path ∧ s.text path ≠ "" := fun s => by simp [List.mem_filter]
  refine ⟨_, fun s => ?_, (pairwise_braced path).filter _, ?_, hnames,
    fun s hs => isValid_of_mem_braced hs⟩
  · simp only [hmem, Span.isNameIn_iff, exists_and_left, exists_eq_left']
  · rw [hnames, List.forall₂_map_right_iff, List.forall₂_same]
    exact fun s hs => Span.isNameIn_iff.mpr ⟨((hmem s).mp hs).1, rfl, ((hmem s).mp hs).2⟩

/-! ### The scan by characters -/

/-- The names in braces of characters. `name` holds the characters since the last opening brace,
reversed, if no closing brace came since. -/
def placeholdersAux (name : Option (List Char)) : List Char → List (List Char)
  | [] => []
  | '\x7b' :: cs => placeholdersAux (some []) cs
  | '\x7d' :: cs =>
    match name with
    | some (c :: before) => (c :: before).reverse :: placeholdersAux none cs
    | _ => placeholdersAux none cs
  | c :: cs => placeholdersAux (name.map (c :: ·)) cs

/-- A character that is no brace is remembered after an opening brace. -/
lemma placeholdersAux_char {c : Char} (hc : BraceFree [c]) (pending : Option (List Char))
    (cs : List Char) :
    placeholdersAux pending (c :: cs) = placeholdersAux (pending.map (c :: ·)) cs := by
  rw [placeholdersAux]
  · rintro rfl
    exact hc.1 List.mem_cons_self
  · rintro rfl
    exact hc.2 List.mem_cons_self

/-- The names of the parts that are taken from a place on. -/
lemma filter_text_bracedAux {path : String} {us cs : List Char} (hpath : path.toList = us ++ cs)
    {start : Option Nat} {pending : Option (List Char)}
    (h : start = none ∧ pending = none ∨ ∃ vs acc, us = vs ++ '\x7b' :: acc.reverse ∧
      start = some (utf8Len vs + 1) ∧ pending = some acc) :
    ((bracedAux start (utf8Len us) cs).map fun s => s.text path).filter
      (fun name => !name.isEmpty) = (placeholdersAux pending cs).map String.ofList := by
  induction cs generalizing us start pending with
  | nil => rfl
  | cons c rest ih =>
    have hrest : path.toList = us ++ [c] ++ rest := by simpa using hpath
    have hnone := ih hrest (.inl ⟨rfl, rfl⟩)
    rw [utf8Len_append_singleton] at hnone
    rcases brace_cases c with rfl | rfl | hc
    · have hopening := ih hrest (.inr ⟨us, [], rfl, rfl, rfl⟩)
      rwa [utf8Len_append_singleton] at hopening
    · rcases h with ⟨rfl, rfl⟩ | ⟨vs, acc, rfl, rfl, rfl⟩
      · rw [bracedAux_closing_none]
        exact hnone
      · have hstop : utf8Len (vs ++ '\x7b' :: acc.reverse) =
            utf8Len vs + 1 + utf8Len acc.reverse := utf8Len_append_opening vs acc.reverse
        have hname : path.toList = vs ++ '\x7b' :: (acc.reverse ++ '\x7d' :: rest) := by
          simp [hpath]
        have htext := text_spanBehind hname
        rw [bracedAux_closing_some, List.map_cons, hstop, ← spanBehind, htext]
        rw [hstop] at hnone
        cases acc with
        | nil => exact hnone
        | cons d before =>
          rw [placeholdersAux, List.map_cons, ← hnone, List.filter_cons_of_pos (by simp)]
          rfl
    · rw [bracedAux_char hc, placeholdersAux_char hc, ← utf8Len_append_singleton]
      refine ih hrest ?_
      rcases h with ⟨rfl, rfl⟩ | ⟨vs, acc, rfl, rfl, rfl⟩
      · exact .inl ⟨rfl, rfl⟩
      · exact .inr ⟨vs, c :: acc, by simp, rfl, rfl⟩

/-- The placeholders of a path are the names in braces of its characters. -/
theorem placeholders_eq (path : String) :
    placeholders path = (placeholdersAux none path.toList).map String.ofList :=
  filter_text_bracedAux (List.nil_append _).symm (.inl ⟨rfl, rfl⟩)

end ApiContract.Client
