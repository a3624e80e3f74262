import ApiContract.OpenApi.Responses
import ApiContract.Proofs.OpenApi.SchemaGrammar
import ApiContract.Proofs.Results
import ApiContract.Proofs.Table

/-!
# The merged responses of items

Responses are merged one item at a time, and whether a schema is already a list of alternatives is
told from its members alone. This file says what comes out: the responses of a list of items are
grouped by status, the content of a status is grouped by content type, and the schemas of a content
type are the distinct ones that its items declare.

The schema of an item never has a member `oneOf` (`member?_oneOf_schemaOf`), so a list of
alternatives is never mistaken for a schema or the reverse. Every layer has one lemma for one more
item: `meet_alternatives`, `addSchema_contentOf`, `addHeaders_objectOf`, `add_described`,
`merge_described`.
-/

namespace ApiContract

namespace Response

/-! ### What items declare -/

/-- The schemas that items declare, without those that repeat an earlier one. -/
def distinctSchemas (items : List ResponseItem) : List Json :=
  (items.map schemaOf).eraseDupsBy fun new old => old.same new

/-- Schemas as one: a single one stands for itself, several are alternatives. -/
def alternatives : List Json → Json
  | [schema] => schema
  | schemas => .object [("oneOf", .array schemas)]

/-- The content that items of one status declare, by content type. -/
def contentOf (items : List ResponseItem) : Table String Json :=
  Table.groupBy ResponseItem.contentType
    (fun _ own => contentJson (alternatives (distinctSchemas own))) items

/-- The header names that items declare, each at its first place. -/
def headerNames (items : List ResponseItem) : List String :=
  (items.flatMap ResponseItem.headers).eraseDups

/-- The headers of names. -/
def headersOf (names : List String) : Table String Json := names.map fun name => (name, headerJson)

/-- A response object: a description, then the content, then the headers if there are any. -/
def objectOf (status : String) (content : Table String Json) (names : List String) : Json :=
  .object ([("description", .string ("Response for " ++ status)), ("content", .object content)] ++
    if names = [] then [] else [("headers", .object (headersOf names))])

/-- The response object of a status with all its items. -/
def described (status : String) (items : List ResponseItem) : Json :=
  objectOf status (contentOf items) (headerNames items)

/-! ### Schemas -/

/-- The schema of an item never has alternatives at its top. -/
lemma member?_oneOf_schemaOf (item : ResponseItem) : (schemaOf item).member? "oneOf" = none := by
  unfold schemaOf
  split
  · rfl
  · cases item.responseType with
    | none => rfl
    | some n => exact (Schema.isSchema_ofNode n).member?_oneOf

/-- One more item adds its schema unless it repeats one that is there. -/
lemma distinctSchemas_concat (items : List ResponseItem) (item : ResponseItem) :
    distinctSchemas (items ++ [item]) =
      if isAmong (schemaOf item) (distinctSchemas items) then distinctSchemas items
      else distinctSchemas items ++ [schemaOf item] := by
  unfold distinctSchemas
  rw [List.map_append, List.map_singleton, eraseDupsBy_concat]
  rfl

lemma mem_distinctSchemas {items : List ResponseItem} {schema : Json}
    (h : schema ∈ distinctSchemas items) : ∃ item ∈ items, schemaOf item = schema := by
  induction items using List.reverseRecOn with
  | nil => cases h
  | append_singleton items item ih =>
    rw [distinctSchemas_concat] at h
    split at h
    · obtain ⟨other, hmem, heq⟩ := ih h
      exact ⟨other, List.mem_append_left _ hmem, heq⟩
    · rcases List.mem_append.mp h with h | h
      · obtain ⟨other, hmem, heq⟩ := ih h
        exact ⟨other, List.mem_append_left _ hmem, heq⟩
      · exact ⟨item, by simp, (List.mem_singleton.mp h).symm⟩

lemma distinctSchemas_ne_nil {items : List ResponseItem} (h : items ≠ []) :
    distinctSchemas items ≠ [] := by
  obtain ⟨item, rest, rfl⟩ := List.exists_cons_of_ne_nil h
  rw [distinctSchemas, List.map_cons, List.eraseDupsBy_cons]
  exact List.cons_ne_nil _ _

/-- A schema that meets alternatives becomes one of them unless it is among them. The alternatives
are recognised because no schema that stands for itself has a member `oneOf`. -/
lemma meet_alternatives (schema : Json) {own : List Json} (hne : own ≠ [])
    (hno : ∀ s ∈ own, s.member? "oneOf" = none) :
    (meet schema (alternatives own)).2 =
      alternatives (if isAmong schema own then own else own ++ [schema]) := by
  match own, hne with
  | [single], _ =>
    have hsingle : single.member? "oneOf" = none := hno single List.mem_cons_self
    have hamong : isAmong schema [single] = single.same schema := by simp [isAmong]
    have htell : (single.member? "oneOf").bind Json.items? = none := by rw [hsingle]; rfl
    rw [hamong, show alternatives [single] = single from rfl, meet, htell]
    by_cases hs : single.same schema = true
    · rw [if_pos hs, if_pos hs]
      rfl
    · rw [if_neg hs, if_neg hs]
      rfl
  | first :: second :: rest, _ =>
    have hall : ((alternatives (first :: second :: rest)).member? "oneOf").bind Json.items? =
        some (first :: second :: rest) := rfl
    simp only [meet, hall]
    cases isAmong schema (first :: second :: rest) <;> rfl

/-! ### Content -/

/-- One more item of a status writes its content type with all schemas declared for it. -/
lemma addSchema_contentOf (items : List ResponseItem) (item : ResponseItem) :
    (addSchema item (contentOf items)).2 = contentOf (items ++ [item]) := by
  set own := items.filter fun i => i.contentType = item.contentType with hown
  have hstep : contentOf (items ++ [item]) = (contentOf items).insert item.contentType
      (contentJson (alternatives (distinctSchemas (own ++ [item])))) :=
    Table.groupBy_concat _ _ items item
  have hfind : (contentOf items).find? item.contentType =
      if item.contentType ∈ items.map ResponseItem.contentType then
        some (contentJson (alternatives (distinctSchemas own))) else none :=
    Table.find?_groupBy _ _ items item.contentType
  rw [hstep]
  by_cases hmem : item.contentType ∈ items.map ResponseItem.contentType
  · rw [if_pos hmem] at hfind
    have hne : own ≠ [] := by
      obtain ⟨other, hother, hsame⟩ := List.mem_map.mp hmem
      exact List.ne_nil_of_mem (List.mem_filter.mpr ⟨hother, by simpa using hsame⟩)
    have hno : ∀ s ∈ distinctSchemas own, s.member? "oneOf" = none := by
      intro s hs
      obtain ⟨other, _, rfl⟩ := mem_distinctSchemas hs
      exact member?_oneOf_schemaOf other
    have hmeet := meet_alternatives (schemaOf item) (distinctSchemas_ne_nil hne) hno
    rw [← distinctSchemas_concat] at hmeet
    simp only [addSchema, hfind]
    rw [← hmeet]
    rfl
  · rw [if_neg hmem] at hfind
    have hnil : own = [] := by
      rw [hown, List.filter_eq_nil_iff]
      intro other hother hsame
      exact hmem (List.mem_map.mpr ⟨other, hother, by simpa using hsame⟩)
    simp only [addSchema, hfind, hnil]
    rfl

lemma contentOf_singleton (item : ResponseItem) :
    contentOf [item] = [(item.contentType, contentJson (schemaOf item))] := by
  simp [contentOf, Table.groupBy, List.eraseDups_cons, distinctSchemas, List.eraseDupsBy_cons,
    alternatives]

/-! ### Headers -/

/-- Names added to the headers of others give the headers of all of them. -/
lemma addNames_headersOf (names new : List String) :
    addNames new (headersOf names.eraseDups) = headersOf (names ++ new).eraseDups := by
  have hgroup : ∀ all : List String,
      headersOf all.eraseDups = Table.groupBy id (fun _ _ => headerJson) all := by
    intro all
    simp [headersOf, Table.groupBy]
  induction new generalizing names with
  | nil => simp [addNames]
  | cons name rest ih =>
    have hstep : Table.alter name (·.getD headerJson) (headersOf names.eraseDups) =
        headersOf (names ++ [name]).eraseDups := by
      have hkept : ((headersOf names.eraseDups).find? name).getD headerJson = headerJson := by
        rw [hgroup, Table.find?_groupBy]
        split <;> rfl
      rw [Table.alter_eq_insert, hkept, hgroup, hgroup, Table.groupBy_concat]
      rfl
    calc addNames (name :: rest) (headersOf names.eraseDups)
        = addNames rest (headersOf (names ++ [name]).eraseDups) := by rw [← hstep]; rfl
      _ = headersOf (names ++ name :: rest).eraseDups := by rw [ih]; simp

/-- Headers are added to a response object that has some, and to one that has none. -/
lemma addHeaders_objectOf (status : String) (content : Table String Json)
    (names new : List String) :
    addHeaders new (objectOf status content names.eraseDups) =
      objectOf status content (names ++ new).eraseDups := by
  by_cases hnew : new = []
  · simp [hnew, addHeaders]
  have hall : (names ++ new).eraseDups ≠ [] := by
    rw [Ne, eraseDups_eq_nil_iff, List.append_eq_nil_iff]
    exact fun h => hnew h.2
  by_cases hnames : names = []
  · have hfirst : addNames new [] = headersOf new.eraseDups := addNames_headersOf [] new
    simp [addHeaders, objectOf, hnew, hnames, eraseDups_eq_nil_iff, Json.alterMember, Table.alter,
      hfirst]
  · have hold : names.eraseDups ≠ [] := by rwa [Ne, eraseDups_eq_nil_iff]
    simp [addHeaders, objectOf, hnew, hold, hall, Json.alterMember, Table.alter,
      addNames_headersOf]

/-! ### Response objects -/

/-- One more item of a status gives the response object of all of them. -/
theorem add_described (status : String) (items : List ResponseItem) (item : ResponseItem) :
    (add item (described status items)).2 = described status (items ++ [item]) := by
  have hheaders : addHeaders item.headers (described status items) =
      objectOf status (contentOf items) (headerNames (items ++ [item])) := by
    rw [described, headerNames, headerNames, addHeaders_objectOf, List.flatMap_append,
      List.flatMap_singleton]
  have hcontent : ((objectOf status (contentOf items) (headerNames (items ++ [item]))).member?
      "content").bind Json.members? = some (contentOf items) := rfl
  simp only [add, hheaders, hcontent]
  rw [addSchema_contentOf]
  rfl

/-- The first item of a status gives the response object of it alone. -/
lemma ofItem_eq_described (item : ResponseItem) :
    ofItem item = described item.statusCode [item] := by
  have hnames : addNames item.headers [] = headersOf item.headers.eraseDups :=
    addNames_headersOf [] item.headers
  by_cases h : item.headers = []
  · simp [ofItem, described, objectOf, headerNames, contentOf_singleton, h]
  · simp [ofItem, described, objectOf, headerNames, contentOf_singleton, h, hnames,
      eraseDups_eq_nil_iff]

end Response

namespace Responses

/-- The responses that items declare, by status. -/
def described (items : List ResponseItem) : Responses :=
  Table.groupBy ResponseItem.statusCode Response.described items

/-! ### Tables of responses -/

/-- One more item gives the responses of all of them. -/
theorem merge_described (items : List ResponseItem) (item : ResponseItem) :
    (merge item (described items)).2 = described (items ++ [item]) := by
  set own := items.filter fun i => i.statusCode = item.statusCode with hown
  have hstep : described (items ++ [item]) = (described items).insert item.statusCode
      (Response.described item.statusCode (own ++ [item])) :=
    Table.groupBy_concat _ _ items item
  have hfind : (described items).find? item.statusCode =
      if item.statusCode ∈ items.map ResponseItem.statusCode then
        some (Response.described item.statusCode own) else none :=
    Table.find?_groupBy _ _ items item.statusCode
  rw [hstep]
  by_cases hmem : item.statusCode ∈ items.map ResponseItem.statusCode
  · rw [if_pos hmem] at hfind
    simp only [merge, hfind, Response.add_described]
  · rw [if_neg hmem] at hfind
    have hnil : own = [] := by
      rw [hown, List.filter_eq_nil_iff]
      intro other hother hsame
      exact hmem (List.mem_map.mpr ⟨other, hother, by simpa using hsame⟩)
    simp only [merge, hfind, hnil, Response.ofItem_eq_described, List.nil_append]

/-- Responses merged from nothing are those that the items declare. -/
theorem ofItems_eq_described (items : List ResponseItem) : ofItems items = described items := by
  induction items using List.reverseRecOn with
  | nil => rfl
  | append_singleton items item ih =>
    rw [← merge_described, ← ih, ofItems, List.foldl_append]
    rfl

/-- Only no items have no responses. -/
lemma ofItems_eq_nil_iff (items : List ResponseItem) : ofItems items = [] ↔ items = [] := by
  rw [ofItems_eq_described, described, Table.groupBy_eq_nil_iff]

/-- The table of a merge is a fold, whatever the log says. -/
lemma result_mergeAll {η : Type} (table : Responses) (items : List ResponseItem) :
    (mergeAll table items : Traced η Responses).result =
      .ok (items.foldl (fun table item => (merge item table).2) table) := by
  induction items generalizing table with
  | nil => rfl
  | cons item rest ih => simp [mergeAll, ih]

end Responses

end ApiContract
