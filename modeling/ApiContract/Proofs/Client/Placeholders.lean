import ApiContract.Client.Collision
import ApiContract.Proofs.Client.PathReading
import ApiContract.Proofs.Client.PathTemplate
import Mathlib.Data.List.Infix

/-!
# Placeholders that are checked and placeholders that are filled

Validation looks for the placeholders of a path by one scan; building a request replaces
placeholders name by name. Filling a placeholder can make the characters around it look like a
placeholder that was none before, when it stands between further braces. So a path whose
placeholders are just the parameters leaves no placeholder in any URL exactly if no braces enclose a
placeholder (`placeholders_url_iff`).

One direction is that filling keeps a reading where nothing is enclosed
(`IsReading.flatMap_fill`). For the other, every parameter is sent as one text that is longer than
all names, so that what enclosing braces end up with is no parameter and stays.
-/

namespace ApiContract.Client

/-! ### Enclosed placeholders -/

/-- Braces that enclose a placeholder: between them there is nothing but text without braces and
placeholders, among these at least one. -/
def EnclosesPlaceholder (path : String) : Prop :=
  ∃ t : PathTemplate, (∃ name, .hole name ∈ t.pieces) ∧
    '\x7b' :: t.text.toList ++ ['\x7d'] <:+: path.toList

/-- The same among pieces. -/
def HasEnclosed (ps : List Piece) : Prop :=
  ∃ t : PathTemplate, (∃ name, .hole name ∈ t.pieces) ∧
    .char '\x7b' :: t.pieces ++ [.char '\x7d'] <:+: ps

lemma HasEnclosed.enclosesPlaceholder {ps : List Piece} (h : HasEnclosed ps) :
    EnclosesPlaceholder (pathOf ps) := by
  obtain ⟨t, hhole, us, vs, rfl⟩ := h
  refine ⟨t, hhole, us.flatMap Piece.text, vs.flatMap Piece.text, ?_⟩
  simp [pathOf, PathTemplate.text, Piece.text]

/-- Braces around a template with a placeholder stand for themselves. -/
lemma IsReading.enclose {t : PathTemplate} (hhole : ∃ name, .hole name ∈ t.pieces)
    {ps : List Piece} (h : IsReading ps) :
    IsReading (.char '\x7b' :: t.pieces ++ .char '\x7d' :: ps) := by
  have hclosed : IsReading (.char '\x7d' :: ps) := by
    refine h.char_cons fun name _ hstart => ?_
    rw [toList_placeholder, List.map_cons] at hstart
    cases (List.cons_prefix_cons.mp hstart).1
  refine (hclosed.plain_append t.isPlain).char_cons fun name hname hstart => ?_
  rw [toList_placeholder, List.map_cons] at hstart
  obtain ⟨_, hrest⟩ := List.cons_prefix_cons.mp hstart
  -- The closing brace of the name would stand before the placeholder.
  obtain ⟨m, hm⟩ := hhole
  obtain ⟨us, vs, hsplit⟩ := List.append_of_mem hm
  rw [hsplit, List.append_assoc] at hrest
  have hfirst := map_char_prefix_of_append (by simp [hname.2.1]) (by simp) hrest
  have hbrace : .char '\x7d' ∈ t.pieces := by
    rw [hsplit]
    exact List.mem_append_left _ (hfirst.subset (by simp))
  exact (t.isPlain _ hbrace).2 List.mem_cons_self

/-- A path with an enclosed placeholder has a reading in which it is enclosed. -/
lemma EnclosesPlaceholder.exists_reading {path : String} (h : EnclosesPlaceholder path) :
    ∃ ps, pathOf ps = path ∧ IsReading ps ∧ HasEnclosed ps := by
  obtain ⟨t, hhole, before, after, hpath⟩ := h
  obtain ⟨vs, rfl, hvs⟩ := exists_reading_append .nil (by simp) after
  rw [List.append_nil] at hvs
  have hhead : ∀ c, c ≠ '\x7b' →
      (Piece.char '\x7b' :: t.pieces ++ .char '\x7d' :: vs).head? ≠ some (.char c) := by
    intro c hc h
    cases h
    exact hc rfl
  obtain ⟨us, rfl, hus⟩ := exists_reading_append (hvs.enclose hhole) hhead before
  refine ⟨_, ?_, hus, t, hhole, us, vs, by simp⟩
  rw [← String.toList_inj, ← hpath]
  simp [pathOf, PathTemplate.text, Piece.text]

/-- Characters between braces of a reading are no name. -/
lemma IsReading.ne_of_forall_hole_not_mem {ps mid : List Piece} (hps : IsReading ps)
    (hmid : .char '\x7b' :: mid ++ [.char '\x7d'] <:+: ps) (hchars : ∀ m, .hole m ∉ mid)
    (value : String → Option String) {name : String} (hname : (Piece.hole name).IsPlain) :
    mid.flatMap (Piece.fill value) ≠ name.toList.map Piece.char := by
  intro heq
  rw [flatMap_fill_eq_self fun m hm => absurd hm (hchars m)] at heq
  refine hps.notLoose name hname ?_
  rw [toList_placeholder, List.map_cons, List.map_append, ← heq]
  exact hmid

/-- Between braces of a reading that encloses nothing there is never a name, whatever placeholders
are filled. -/
lemma IsReading.flatMap_fill_ne {ps mid : List Piece} (hps : IsReading ps)
    (hnone : ¬ HasEnclosed ps) (hmid : .char '\x7b' :: mid ++ [.char '\x7d'] <:+: ps)
    (value : String → Option String) {name : String} (hname : (Piece.hole name).IsPlain) :
    mid.flatMap (Piece.fill value) ≠ name.toList.map Piece.char := by
  intro heq
  have hplain : ∀ p ∈ mid, p.IsPlain := by
    rintro (c | m) hp
    · have hc : .char c ∈ mid.flatMap (Piece.fill value) :=
        List.mem_flatMap.mpr ⟨_, hp, List.mem_cons_self⟩
      rw [heq, List.mem_map] at hc
      obtain ⟨d, hd, hcd⟩ := hc
      cases hcd
      obtain ⟨_, hopen, hclose⟩ := hname
      exact ⟨fun h => hopen (List.mem_singleton.mp h ▸ hd),
        fun h => hclose (List.mem_singleton.mp h ▸ hd)⟩
    · exact hps.isPlain m (hmid.subset (by simp [hp]))
  have hchars : ∀ m, .hole m ∉ mid := fun m hm => hnone ⟨⟨mid, hplain⟩, ⟨m, hm⟩, hmid⟩
  exact hps.ne_of_forall_hole_not_mem hmid hchars value hname heq

/-- Filling placeholders leaves a reading where none is enclosed. -/
lemma IsReading.flatMap_fill {ps : List Piece} (hps : IsReading ps) (hnone : ¬ HasEnclosed ps)
    {value : String → Option String} (hvalue : BraceFreeValues value) :
    IsReading (ps.flatMap (Piece.fill value)) where
  isPlain m hm := hps.isPlain m (hole_mem_flatMap_fill_iff.mp hm).1
  notLoose name hname hloose := by
    rw [toList_placeholder, List.map_cons, List.map_append] at hloose
    obtain ⟨mid, hmid, heq⟩ := exists_infix_of_flatMap_fill hvalue hloose
    exact hps.flatMap_fill_ne hnone hmid value hname heq

/-! ### Checked paths -/

/-- Nothing is reported exactly when the placeholders of the path are the parameters. -/
lemma placeholderReports_eq_nil_iff {group : String} {op : Operation} {params : List String} :
    placeholderReports group op params = [] ↔
      ∀ name, name ∈ placeholders op.path ↔ name ∈ params := by
  rw [placeholderReports, List.append_eq_nil_iff, List.map_eq_nil_iff, List.map_eq_nil_iff,
    List.filter_eq_nil_iff, List.filter_eq_nil_iff]
  simp only [Bool.not_eq_true, Bool.not_eq_false', List.contains_iff_mem]
  exact ⟨fun h name => ⟨h.1 name, h.2 name⟩,
    fun h => ⟨fun name => (h name).mp, fun name => (h name).mpr⟩⟩

/-- Where no placeholder is enclosed, a path is filled without leaving one. -/
lemma placeholders_eq_nil_of_fillPath {ps : List Piece} (hps : IsReading ps)
    (hnone : ¬ HasEnclosed ps) {names : List String} (hnames : ∀ m, .hole m ∈ ps ↔ m ∈ names)
    {fields : Table String Json} {filled : String}
    (h : RequestPlan.fillPath fields names (pathOf ps) = .ok filled) :
    placeholders filled = [] := by
  have hplain : ∀ name ∈ names, (Piece.hole name).IsPlain := fun name hname =>
    hps.isPlain name ((hnames name).mpr hname)
  have hapart : KeepsApart (segment? fields) names ps := fun mid hmid part _ name hname =>
    hps.flatMap_fill_ne hnone hmid part (hplain name hname)
  obtain ⟨hsome, rfl⟩ := (RequestPlan.fillPath_pathOf_eq_ok_iff
    (fun name hname => (hplain name hname).2) (fun m hm => (hps.isPlain m hm).2) hapart filled).mp h
  have hvalue := braceFreeValues_segments fields names
  rw [placeholders_pathOf (hps.flatMap_fill hnone hvalue), List.filterMap_eq_nil_iff]
  rintro (c | m) hm
  · rfl
  · obtain ⟨hm, hempty⟩ := hole_mem_flatMap_fill_iff.mp hm
    have hmem := (hnames m).mp hm
    rw [segments, if_pos hmem] at hempty
    have hsent := hsome m hmem
    rw [hempty] at hsent
    cases hsent

/-! ### Objects of texts -/

/-- An object whose members that are present can all be sent as a text. -/
def IsScalarObject (fields : Table String Json) : Prop :=
  ∀ name v, present fields name = some v → ∃ s, rendered? v = some s

namespace RequestPlan

lemma exists_headerFields {fields : Table String Json} (h : IsScalarObject fields)
    (names : List String) : ∃ headers, headerFields fields names = .ok headers := by
  induction names with
  | nil => exact ⟨[], rfl⟩
  | cons name rest ih =>
    obtain ⟨headers, hheaders⟩ := ih
    rw [headerFields]
    cases hpresent : present fields name with
    | none => exact ⟨headers, hheaders⟩
    | some v =>
      obtain ⟨s, hs⟩ := h name v hpresent
      exact ⟨(name, s) :: headers, by simp only [scalar_eq_ok_iff.mpr hs, hheaders]; rfl⟩

lemma exists_queryFields {fields : Table String Json} (h : IsScalarObject fields)
    (names : List String) : ∃ query, queryFields fields names = .ok query := by
  induction names with
  | nil => exact ⟨[], rfl⟩
  | cons name rest ih =>
    obtain ⟨query, hquery⟩ := ih
    rw [queryFields]
    cases hpresent : present fields name with
    | none => exact ⟨query, hquery⟩
    | some v =>
      obtain ⟨s, hs⟩ := h name v hpresent
      have htexts : ∃ texts, queryTexts name v = .ok texts := by
        rw [queryTexts_eq_mapM]
        refine exists_mapM_eq_ok fun w hw => ⟨s, scalar_eq_ok_iff.mpr ?_⟩
        cases v with
        | array items => cases hs
        | _ =>
          cases List.mem_singleton.mp hw
          exact hs
      obtain ⟨texts, htexts⟩ := htexts
      exact ⟨texts.map (name, ·) ++ query, by simp only [htexts, hquery]; rfl⟩

lemma exists_encodeBody {fields : Table String Json} (h : IsScalarObject fields)
    (encoding : Encoding) (names : List String) :
    ∃ body, encodeBody encoding (bodyFields fields names) = .ok body := by
  cases encoding with
  | form =>
    have htexts : ∃ texts, (bodyFields fields names).mapM
        (fun f => do return (f.1, (← scalar f.1 "form body" f.2))) = Except.ok texts := by
      refine exists_mapM_eq_ok fun e he => ?_
      obtain ⟨name, _, hname⟩ := List.mem_filterMap.mp (Table.mem_of_mem_ofList he)
      obtain ⟨v, hpresent, rfl⟩ := Option.map_eq_some_iff.mp hname
      obtain ⟨s, hs⟩ := h name v hpresent
      exact ⟨(name, s), by rw [scalar_eq_ok_iff.mpr hs]; rfl⟩
    obtain ⟨texts, htexts⟩ := htexts
    exact ⟨.form texts, by rw [encodeBody, htexts]; rfl⟩
  | _ => exact ⟨_, rfl⟩

/-- A request can be built from every object of texts that fills the path. -/
theorem exists_build {plan : RequestPlan} {fields : Table String Json} (h : IsScalarObject fields)
    {path : String} (hpath : fillPath fields plan.params plan.path = .ok path)
    (context : RequestContext) : ∃ r, plan.build context (.object fields) = .ok r := by
  obtain ⟨headers, hheaders⟩ := exists_headerFields h plan.headers
  obtain ⟨query, hquery⟩ := exists_queryFields h plan.query
  obtain ⟨encoded, hencoded⟩ := exists_encodeBody h plan.encoding plan.body
  rw [build, hpath, hheaders, hquery, hencoded]
  by_cases hbody : plan.body.isEmpty = true
  · exact ⟨_, by rw [if_pos hbody]; rfl⟩
  · exact ⟨_, by rw [if_neg hbody]; rfl⟩

end RequestPlan

/-! ### Long texts -/

/-- A text longer than every one of some names. -/
def longText (names : List String) : String := String.join ("x" :: names)

lemma length_lt_length_longText {names : List String} {name : String} (h : name ∈ names) :
    name.length < (longText names).length := by
  have hpart : name.toList.Sublist (names.map String.toList).flatten :=
    List.sublist_flatten_of_mem (List.mem_map_of_mem h)
  have hchars : (longText names).toList = 'x' :: (names.map String.toList).flatten := by
    rw [longText, String.toList_join, List.flatMap_cons, List.flatMap_def]
    rfl
  rw [← String.length_toList, ← String.length_toList, hchars]
  exact Nat.lt_succ_of_le hpart.length_le

/-- An object in which every parameter has the same long text. -/
def longFields (names : List String) : Table String Json :=
  names.map fun name => (name, .string (longText names))

lemma present_map_string (s : String) (names : List String) (name : String) :
    present (names.map fun n => (n, Json.string s)) name =
      if name ∈ names then some (.string s) else none := by
  induction names with
  | nil => rfl
  | cons n rest ih =>
    by_cases hn : n = name
    · simp [present, hn]
    · have hne : ¬ name = n := fun h => hn h.symm
      simpa [present, hn, hne] using ih

lemma segment?_longFields (names : List String) (name : String) :
    segment? (longFields names) name =
      if name ∈ names then some (percentEncoded (longText names)) else none := by
  rw [segment?, sentText?, longFields, present_map_string]
  split <;> rfl

lemma isScalarObject_longFields (names : List String) : IsScalarObject (longFields names) := by
  intro name v h
  rw [longFields, present_map_string] at h
  split at h
  · cases h
    exact ⟨_, rfl⟩
  · cases h

lemma length_le_length_flatMap {α β : Type} {f : α → List β} (h : ∀ a, f a ≠ []) (xs : List α) :
    xs.length ≤ (xs.flatMap f).length := by
  induction xs with
  | nil => exact Nat.le_refl _
  | cons x rest ih =>
    have hx := List.length_pos_iff.mpr (h x)
    rw [List.flatMap_cons, List.length_append, List.length_cons]
    omega

lemma length_toList_loop (bytes : ByteArray) (i : Nat) (passed : List UInt8) :
    (ByteArray.toList.loop bytes i passed).length = passed.length + (bytes.size - i) := by
  fun_induction ByteArray.toList.loop bytes i passed with
  | case1 i passed hi ih =>
    rw [ih, List.length_cons]
    omega
  | case2 i passed hi =>
    rw [List.length_reverse]
    omega

/-- Encoding makes no text shorter: every character has bytes, and every byte is written. -/
lemma length_le_length_percentEncoded (s : String) : s.length ≤ (percentEncoded s).length := by
  have hwritten : ∀ b, percentByte b ≠ [] := by
    intro b
    obtain ⟨c, hb, _⟩ | ⟨c, d, x, y, hb, _⟩ := percentByte_cases b <;> simp [hb]
  calc s.length = s.toList.length := s.length_toList.symm
    _ ≤ (s.toList.flatMap String.utf8EncodeChar).length :=
      length_le_length_flatMap (fun _ => String.utf8EncodeChar_ne_nil) _
    _ = s.toUTF8.size := by
      rw [← List.size_toByteArray, String.toUTF8, ← String.utf8Encode_toList, List.utf8Encode]
    _ = s.toUTF8.toList.length := by simp [ByteArray.toList, length_toList_loop]
    _ ≤ (s.toUTF8.toList.flatMap percentByte).length := length_le_length_flatMap hwritten _
    _ = (percentEncoded s).length := String.length_ofList.symm

/-! ### Filling between braces -/

/-- Where all placeholders have values, pieces are filled to characters. -/
lemma exists_flatMap_fill_eq {value : String → Option String} (hvalue : BraceFreeValues value)
    {ps : List Piece} (hplain : ∀ p ∈ ps, p.IsPlain)
    (hholes : ∀ m, .hole m ∈ ps → value m ≠ none) :
    ∃ cs : List Char, ps.flatMap (Piece.fill value) = cs.map .char ∧ BraceFree cs := by
  induction ps with
  | nil => exact ⟨[], rfl, by simp [BraceFree]⟩
  | cons p rest ih =>
    obtain ⟨hp, hrest⟩ := List.forall_mem_cons.mp hplain
    obtain ⟨cs, hcs, hfree⟩ := ih hrest fun m hm => hholes m (List.mem_cons_of_mem _ hm)
    rw [List.flatMap_cons, hcs]
    cases p with
    | char c => exact ⟨c :: cs, rfl, braceFree_cons_iff.mpr ⟨hp, hfree⟩⟩
    | hole m =>
      obtain ⟨s, hs⟩ := Option.ne_none_iff_exists'.mp (hholes m List.mem_cons_self)
      exact ⟨s.toList ++ cs, by simp [Piece.fill, hs],
        braceFree_append_iff.mpr ⟨hvalue m s hs, hfree⟩⟩

/-- What fills a placeholder is part of the whole. -/
lemma length_le_length_flatMap_fill {value : String → Option String} {ps : List Piece}
    {m s : String} (hm : .hole m ∈ ps) (hs : value m = some s) :
    s.length ≤ (ps.flatMap (Piece.fill value)).length := by
  have hpart : (Piece.hole m).fill value = s.toList.map .char := by simp [Piece.fill, hs]
  have hsub : ((Piece.hole m).fill value).Sublist (ps.flatMap (Piece.fill value)) := by
    rw [List.flatMap_def]
    exact List.sublist_flatten_of_mem (List.mem_map_of_mem hm)
  rw [hpart] at hsub
  calc s.length = (s.toList.map Piece.char).length := by rw [List.length_map, String.length_toList]
    _ ≤ (ps.flatMap (Piece.fill value)).length := hsub.length_le

/-- Where all parameters are long texts, no name comes to stand between braces. -/
lemma keepsApart_longFields {ps : List Piece} (hps : IsReading ps) {names : List String}
    (hnames : ∀ m, .hole m ∈ ps ↔ m ∈ names) :
    KeepsApart (segment? (longFields names)) names ps := by
  intro mid hmid part hpart name hname heq
  have hchars : ∀ m, .hole m ∉ mid := by
    intro m hm
    cases hvalue : part m with
    | none =>
      have hstays := hole_mem_flatMap_fill_iff.mpr ⟨hm, hvalue⟩
      rw [heq] at hstays
      obtain ⟨_, _, hc⟩ := List.mem_map.mp hstays
      cases hc
    | some s =>
      have hlong := hpart m s hvalue
      rw [segment?_longFields] at hlong
      split at hlong
      · cases hlong
        have hfilled := length_le_length_flatMap_fill hm hvalue
        rw [heq, List.length_map, String.length_toList] at hfilled
        have hname := length_lt_length_longText hname
        have hencoded := length_le_length_percentEncoded (longText names)
        omega
      · cases hlong
  have hplain := hps.isPlain name ((hnames name).mpr hname)
  exact hps.ne_of_forall_hole_not_mem hmid hchars part hplain heq

/-- Enclosed placeholders that are filled with long texts leave a placeholder. -/
lemma exists_fillPath_of_hasEnclosed {ps : List Piece} (hps : IsReading ps) (h : HasEnclosed ps)
    {names : List String} (hnames : ∀ m, .hole m ∈ ps ↔ m ∈ names) :
    ∃ filled, RequestPlan.fillPath (longFields names) names (pathOf ps) = .ok filled ∧
      placeholders filled ≠ [] := by
  obtain ⟨t, ⟨m, hm⟩, hin⟩ := h
  have hsegment : ∀ name ∈ names, segment? (longFields names) name =
      some (percentEncoded (longText names)) := fun name hname => by
    rw [segment?_longFields, if_pos hname]
  have hfill := RequestPlan.fillPath_pathOf_eq_ok_iff
    (fun name hname => (hps.isPlain name ((hnames name).mpr hname)).2)
    (fun m hm => (hps.isPlain m hm).2) (keepsApart_longFields hps hnames)
    (pathOf (ps.flatMap (Piece.fill (segments (longFields names) names))))
  refine ⟨_, hfill.mpr ⟨fun name hname => by rw [hsegment name hname]; rfl, rfl⟩, ?_⟩
  -- The text between the braces is the name that is left.
  have hvalue : ∀ n, .hole n ∈ t.pieces → segments (longFields names) names n =
      some (percentEncoded (longText names)) := fun n hn => by
    have hname : n ∈ names := (hnames n).mp (hin.subset (by simp [hn]))
    rw [segments, if_pos hname, hsegment n hname]
  obtain ⟨cs, hcs, hfree⟩ := exists_flatMap_fill_eq (braceFreeValues_segments _ names) t.isPlain
    fun n hn => by rw [hvalue n hn]; exact Option.some_ne_none _
  have hne : String.ofList cs ≠ "" := by
    intro hempty
    obtain rfl : cs = [] := by simpa using hempty
    have hpart := length_le_length_flatMap_fill hm (hvalue m hm)
    have hlong := length_lt_length_longText ((hnames m).mp (hin.subset (by simp [hm])))
    have hencoded := length_le_length_percentEncoded (longText names)
    rw [hcs, List.map_nil, List.length_nil] at hpart
    omega
  refine List.ne_nil_of_mem (a := String.ofList cs) (mem_placeholders_iff.mpr ⟨⟨hne, ?_⟩, ?_⟩)
  · rwa [String.toList_ofList]
  · have htext : (placeholder (String.ofList cs)).toList =
        ((Piece.char '\x7b' :: t.pieces ++ [Piece.char '\x7d']).flatMap
          (Piece.fill (segments (longFields names) names))).flatMap Piece.text := by
      rw [List.flatMap_append, List.flatMap_cons, hcs, toList_placeholder, String.toList_ofList]
      simp [Piece.fill, Piece.text, List.flatMap_map]
    rw [htext, pathOf, String.toList_ofList]
    exact (hin.flatMap _).flatMap _

/-- Where nothing is reported about a path, every URL is free of placeholders exactly if no braces
of the path enclose a placeholder. -/
theorem placeholders_url_iff {group : String} {op : Operation} {placement : Placement}
    (hreports : placeholderReports group op placement.params = []) (encoding : Encoding) :
    (∀ context input r,
      (RequestPlan.ofPlacement op placement encoding).build context input = .ok r →
      ∃ path, r.url = dropSlashes context.baseUrl ++ path ∧ placeholders path = []) ↔
    ¬ EnclosesPlaceholder op.path := by
  rw [placeholderReports_eq_nil_iff] at hreports
  have hread : ∀ ps, IsReading ps → pathOf ps = op.path →
      ∀ m, .hole m ∈ ps ↔ m ∈ placement.params := by
    intro ps hps hpath m
    rw [← hreports, ← hpath, placeholders_pathOf hps, mem_filterMap_name?_iff]
  constructor
  · intro hfree hencloses
    obtain ⟨ps, hpath, hps, henclosed⟩ := hencloses.exists_reading
    obtain ⟨filled, hfilled, hleft⟩ :=
      exists_fillPath_of_hasEnclosed hps henclosed (hread ps hps hpath)
    rw [hpath] at hfilled
    obtain ⟨r, hr⟩ : ∃ r, (RequestPlan.ofPlacement op placement encoding).build ⟨"", []⟩
        (.object (longFields placement.params)) = .ok r :=
      RequestPlan.exists_build (isScalarObject_longFields placement.params) hfilled _
    obtain ⟨path, hurl, hnone⟩ := hfree _ _ r hr
    obtain ⟨_, path', hfields, hpath', hurl'⟩ := RequestPlan.url_of_build hr
    cases hfields
    cases hfilled.symm.trans hpath'
    rw [hurl', String.append_right_inj] at hurl
    exact hleft (hurl ▸ hnone)
  · intro hnone context input r hr
    obtain ⟨ps, hpath, hps⟩ := exists_reading op.path
    obtain ⟨fields, filled, _, hfilled, hurl⟩ := RequestPlan.url_of_build hr
    have hfilled' : RequestPlan.fillPath fields placement.params (pathOf ps) = .ok filled :=
      hpath ▸ hfilled
    exact ⟨filled, hurl, placeholders_eq_nil_of_fillPath hps
      (fun h => hnone (hpath ▸ h.enclosesPlaceholder)) (hread ps hps hpath) hfilled'⟩

/-- An operation at a path, with one input in it. -/
def idOperation (path : String) : Operation :=
  { Operation.new "getPet" .get path with inputs := [("id", ⟨.params, "number", true, false⟩)] }

/-- A stray brace stays in the URL and is no placeholder there. -/
theorem placeholders_url_strayBrace :
    placeholderReports "pets" (idOperation "/\x7btenant/\x7bid\x7d") ["id"] = [] ∧
    ∃ r path,
      (RequestPlan.ofPlacement (idOperation "/\x7btenant/\x7bid\x7d")
        ⟨[], [], [], ["id"]⟩ .json).build
        ⟨"https://api/", []⟩ (.object [("id", .string "\x7b7\x7d")]) = .ok r ∧
      r.url = dropSlashes "https://api/" ++ path ∧ placeholders path = [] ∧
      r.url = "https://api/\x7btenant/%7B7%7D" := by
  have hreports : placeholderReports "pets" (idOperation "/\x7btenant/\x7bid\x7d") ["id"] = [] := by
    decide +kernel
  have hone : ¬ EnclosesPlaceholder (idOperation "/\x7btenant/\x7bid\x7d").path := by
    rintro ⟨t, ⟨name, hname⟩, hin⟩
    -- The placeholder and the enclosing braces would both be closed.
    have hbrace : '\x7d' ∈ t.text.toList := by
      rw [PathTemplate.text, pathOf, String.toList_ofList]
      exact List.mem_flatMap.mpr ⟨_, hname, by simp [Piece.text, toList_placeholder]⟩
    have hcount := hin.sublist.count_le '\x7d'
    have hpath : (idOperation "/\x7btenant/\x7bid\x7d").path.toList.count '\x7d' = 1 := by
      decide +kernel
    rw [hpath, List.count_append, List.count_singleton_self] at hcount
    have hinner := List.count_pos_iff.mpr (List.mem_cons_of_mem '\x7b' hbrace)
    omega
  obtain ⟨r, hr⟩ : ∃ r, (RequestPlan.ofPlacement (idOperation "/\x7btenant/\x7bid\x7d")
      ⟨[], [], [], ["id"]⟩ .json).build ⟨"https://api/", []⟩
        (.object [("id", .string "\x7b7\x7d")]) = .ok r := exists_eq_ok (by decide +kernel)
  obtain ⟨path, hurl, hnone⟩ := (placeholders_url_iff hreports .json).mpr hone _ _ r hr
  refine ⟨hreports, r, path, hr, hurl, hnone, ?_⟩
  cases hr
  decide +kernel

/-- A placeholder between further braces: nothing is reported about the path, and the URL has a
placeholder whose name is what was sent. -/
theorem placeholders_url_enclosed :
    Placement.ofOperation (idOperation "/pets/\x7b\x7bid\x7d\x7d") = .ok ⟨[], [], [], ["id"]⟩ ∧
    placeholderReports "pets" (idOperation "/pets/\x7b\x7bid\x7d\x7d") ["id"] = [] ∧
    ∃ r, (RequestPlan.ofPlacement (idOperation "/pets/\x7b\x7bid\x7d\x7d")
        ⟨[], [], [], ["id"]⟩ .json).build ⟨"https://api", []⟩ (.object [("id", .string "7")]) =
          .ok r ∧
      r.url = dropSlashes "https://api" ++ "/pets/\x7b7\x7d" ∧
      placeholders "/pets/\x7b7\x7d" = ["7"] := by
  obtain ⟨r, hr⟩ : ∃ r, (RequestPlan.ofPlacement (idOperation "/pets/\x7b\x7bid\x7d\x7d")
      ⟨[], [], [], ["id"]⟩ .json).build ⟨"https://api", []⟩ (.object [("id", .string "7")]) =
        .ok r := exists_eq_ok (by decide +kernel)
  refine ⟨rfl, by decide +kernel, r, hr, ?_, by decide +kernel⟩
  cases hr
  decide +kernel

end ApiContract.Client
