import ApiContract.Proofs.Records
import ApiContract.Proofs.Spec.CanonicalNodes
import ApiContract.OpenApi.Schema

/-!
# Specifications that are written and read again

A specification that was read has each name once in its tables, and no source that is kept as a name
is one of the known ones (`ApiSpec.isRead_of_decode`). Such a specification is written as an object
whose members are those of its fields, and is read from it with every part as it was, except that a
response type is what its node is read as again (`ApiSpec.decode_toJson`).
-/

namespace ApiContract

open Decode

/-! ### What was read -/

/-- The name of the source stands for the source. -/
def InputField.IsRead (f : InputField) : Prop := InputSource.ofName f.source.name = f.source

/-- The inputs and variants have different names, and the sources of the inputs are known by their
names. -/
def Operation.IsRead (op : Operation) : Prop :=
  op.inputs.keys.Nodup ∧ op.schemas.keys.Nodup ∧ ∀ e ∈ op.inputs, e.2.IsRead

/-- The groups have different names and their operations are as they are read. -/
def ApiSpec.IsRead (s : ApiSpec) : Prop :=
  s.groups.keys.Nodup ∧ ∀ g ∈ s.groups, ∀ op ∈ g.2, op.IsRead

section IsRead

variable {ν ε : Type} [Source ν ε]

lemma InputField.isRead_of_decode {v : ν} {f : InputField} (h : decode v = .ok f) : f.IsRead := by
  have hblank : blank.IsRead := show InputSource.ofName "" = .other "" by decide
  refine record_preserves ?_ hblank h
  simp only [fields, List.forall_mem_cons]
  refine ⟨preserves_of_set fun v source f hread _ => ?_,
    preserves_of_set fun _ _ _ _ hf => hf, preserves_of_set fun _ _ _ _ hf => hf,
    preserves_of_set fun _ _ _ _ hf => hf, nofun⟩
  obtain ⟨name, _, hsource⟩ := bind_eq_ok_iff.mp hread
  cases hsource
  exact congrArg InputSource.ofName (InputSource.name_ofName name)

lemma Operation.isRead_of_decode {v : ν} {op : Operation} (h : decode v = .ok op) : op.IsRead := by
  have hblank : (new "" .get "").IsRead := ⟨List.nodup_nil, List.nodup_nil, nofun⟩
  refine record_preserves ?_ hblank h
  have hother : ∀ {β : Type} {name : String} {required : Bool} {read : ν → Except ε β}
      {set : β → Operation → Operation} (hset : ∀ x op, op.IsRead → (set x op).IsRead),
      Field.Preserves IsRead ⟨name, required, fun v op => do return set (← read v) op⟩ :=
    fun hset => preserves_of_set fun _ x op _ hop => hset x op hop
  simp only [fields, List.forall_mem_cons]
  refine ⟨hother fun _ _ hop => hop, hother fun _ _ hop => hop, hother fun _ _ hop => hop,
    preserves_of_set fun v inputs op hread hop => ?_,
    preserves_of_set fun v schemas op hread hop => ?_, hother fun _ _ hop => hop,
    hother fun _ _ hop => hop, hother fun _ _ hop => hop, hother fun _ _ hop => hop,
    hother fun _ _ hop => hop, hother fun _ _ hop => hop, hother fun _ _ hop => hop, nofun⟩
  · obtain ⟨hkeys, hinputs⟩ := nodup_and_forall_of_table_eq_ok
      (fun _ _ hf => InputField.isRead_of_decode hf) hread
    exact ⟨hkeys, hop.2.1, hinputs⟩
  · obtain ⟨hkeys, _⟩ := nodup_and_forall_of_table_eq_ok (fun _ _ _ => trivial) hread
    exact ⟨hop.1, hkeys, hop.2.2⟩

/-- A specification that was read is as specifications are read. -/
theorem ApiSpec.isRead_of_decode {v : ν} {s : ApiSpec} (h : decode v = .ok s) : s.IsRead := by
  have hblank : IsRead ⟨"", "", none, [], none, []⟩ := ⟨List.nodup_nil, nofun⟩
  refine record_preserves ?_ hblank h
  simp only [fields, List.forall_mem_cons]
  refine ⟨preserves_of_set fun _ _ _ _ hs => hs, preserves_of_set fun _ _ _ _ hs => hs,
    preserves_of_set fun _ _ _ _ hs => hs, preserves_of_set fun _ _ _ _ hs => hs,
    preserves_of_set fun _ _ _ _ hs => hs, preserves_of_set fun v groups s hread _ => ?_, nofun⟩
  exact nodup_and_forall_of_table_eq_ok
    (fun _ _ hops => forall_of_list_eq_ok (fun _ _ hop => Operation.isRead_of_decode hop) hops)
    hread

end IsRead

/-! ### Response types -/

/-- A response with its type changed. -/
def ResponseItem.mapType (f : TypeNode → TypeNode) (r : ResponseItem) : ResponseItem :=
  { r with responseType := r.responseType.map f }

/-- An operation with the types of its responses changed. -/
def Operation.mapTypes (f : TypeNode → TypeNode) (op : Operation) : Operation :=
  { op with responses := op.responses.map (ResponseItem.mapType f) }

/-- A specification with the types of all responses changed. -/
def ApiSpec.mapTypes (f : TypeNode → TypeNode) (s : ApiSpec) : ApiSpec :=
  { s with groups := s.groups.map fun g => (g.1, g.2.map (Operation.mapTypes f)) }

/-- The types of all responses. -/
def ApiSpec.responseTypes (s : ApiSpec) : List TypeNode :=
  s.groups.flatMap fun g => g.2.flatMap fun op => op.responses.filterMap ResponseItem.responseType

lemma ResponseItem.mapType_eq_self_iff (f : TypeNode → TypeNode) (r : ResponseItem) :
    r.mapType f = r ↔ ∀ t, r.responseType = some t → f t = t := by
  obtain ⟨status, type, contentType, headers⟩ := r
  cases type <;> simp [mapType]

lemma Operation.mapTypes_eq_self_iff (f : TypeNode → TypeNode) (op : Operation) :
    op.mapTypes f = op ↔ ∀ r ∈ op.responses, r.mapType f = r := by
  rw [← map_eq_self_iff]
  obtain ⟨name, method, path, inputs, schemas, errors, kind, contentType, format, description, tags,
    responses⟩ := op
  simp [mapTypes]

/-- Changing all response types changes nothing exactly when none changes. -/
lemma ApiSpec.mapTypes_eq_self_iff (f : TypeNode → TypeNode) (s : ApiSpec) :
    s.mapTypes f = s ↔ ∀ t ∈ s.responseTypes, f t = t := by
  have hgroups : s.mapTypes f = s ↔
      (s.groups.map fun g => (g.1, g.2.map (Operation.mapTypes f))) = s.groups := by
    obtain ⟨title, version, description, servers, definitions, groups⟩ := s
    simp [mapTypes]
  rw [hgroups, map_eq_self_iff]
  simp only [Prod.ext_iff, true_and, map_eq_self_iff, Operation.mapTypes_eq_self_iff,
    ResponseItem.mapType_eq_self_iff, responseTypes, List.mem_flatMap, List.mem_filterMap]
  constructor
  · rintro h t ⟨g, hg, op, hop, r, hr, ht⟩
    exact h g hg op hop r hr t ht
  · intro h g hg op hop r hr t ht
    exact h t ⟨g, hg, op, hop, r, hr, ht⟩

/-! ### What is written is read again -/

section Written

variable {α : Type} {name : String} {fields : List (Field Json Problem α)} {r last : α}
  {members : List (String × Json)}

/-- A text that is left out when there is none. -/
lemma writes_textIfSome {set : Option String → α → α} {o : Option String} (hnone : set none r = r)
    (hrest : Writes fields (set o r) members last) :
    Writes (⟨name, false, fun v r => do return set (← optional Source.text v) r⟩ :: fields) r
      (memberIfSome name (o.map .string) ++ members) last := by
  have hback : Writes fields (set (o.map id) r) members last := by rwa [Option.map_id_apply]
  refine .setIfSome ?_ hnone hback
  exact fun s => ⟨nofun, text_string s⟩

lemma list_stringList (items : List String) :
    list Source.text (stringList items) = (.ok items : Except Problem _) := by
  have h : list Source.text (Json.array (items.map .string)) = .ok (items.map id) :=
    list_map_eq_ok fun s _ => text_string s
  rwa [List.map_id] at h

/-- A list of texts that is left out when it is empty. -/
lemma writes_textsIfAny {set : List String → α → α} {items : List String} (hnil : set [] r = r)
    (hrest : Writes fields (set items r) members last) :
    Writes (⟨name, false, fun v r => do return set (← list Source.text v) r⟩ :: fields) r
      (memberIfAny name items ++ members) last := by
  have hback : Writes fields (set (items.map id) r) members last := by rwa [List.map_id]
  refine .setIfAny ?_ hnil hback
  exact fun s _ => text_string s

end Written

theorem InputField.decode_toJson {f : InputField} (h : f.IsRead) :
    decode f.toJson = (.ok f : Except Problem _) := by
  have hsource : InputSource.decode f.source.toJson = (.ok f.source : Except Problem _) :=
    congrArg Except.ok h
  refine record_eq_ok_of_writes (by decide) ?_
  exact .set hsource (.set rfl (.set rfl (.set rfl (.nil f))))

lemma TypeNode.toJson_ne_null (n : TypeNode) : n.toJson ≠ .null := by
  cases n <;> exact nofun

theorem ResponseItem.decode_toJson (r : ResponseItem) :
    decode r.toJson = (.ok (r.mapType .reread) : Except Problem _) := by
  refine record_eq_ok_of_writes (by decide) ?_
  simp only [List.append_assoc, List.cons_append, List.nil_append]
  refine .set (text_string _) (.setIfSome (fun n => ⟨n.toJson_ne_null, rfl⟩) rfl
    (.set (text_string _) ?_))
  rw [← List.append_nil (memberIfAny "headers" r.headers)]
  exact writes_textsIfAny rfl (.nil (r.mapType .reread))

lemma Method.decode_toJson (m : Method) : decode m.toJson = (.ok m : Except Problem _) := by
  cases m <;> rfl

lemma OperationKind.decode_name (kind : OperationKind) :
    decode (Json.string kind.name) = (.ok kind : Except Problem _) := by
  cases kind <;> rfl

lemma OutputFormat.decode_name (format : OutputFormat) :
    decode (Json.string format.name) = (.ok format : Except Problem _) := by
  cases format <;> rfl

/-- An operation is read from what it is written as with its response types read again. -/
theorem Operation.decode_toJson {op : Operation} (h : op.IsRead) :
    decode op.toJson = (.ok (op.mapTypes .reread) : Except Problem _) := by
  obtain ⟨hinputs, hschemas, hsources⟩ := h
  have hreadInputs :
      table InputField.decode (Json.object (op.inputs.map fun e => (e.1, e.2.toJson))) =
        .ok (op.inputs.map fun e => (e.1, id e.2)) :=
    table_map_eq_ok InputField.toJson id hinputs fun e he =>
      InputField.decode_toJson (hsources e he)
  have hreadSchemas : table Source.text (Json.object (op.schemas.map fun e => (e.1, .string e.2))) =
      .ok (op.schemas.map fun e => (e.1, id e.2)) :=
    table_map_eq_ok Json.string id hschemas fun e _ => text_string e.2
  simp only [id_eq, List.map_id'] at hreadInputs hreadSchemas
  refine record_eq_ok_of_writes (by decide) ?_
  simp only [List.append_assoc, List.cons_append, List.nil_append]
  refine .set (text_string _) (.set op.method.decode_toJson (.set (text_string _) ?_))
  refine .set hreadInputs (.set hreadSchemas (.set (list_stringList _) ?_))
  refine .set op.kind.decode_name (writes_textIfSome rfl ?_)
  refine .set op.outputFormat.decode_name (writes_textIfSome rfl (writes_textsIfAny rfl ?_))
  exact .setIfAnyLast (fun r _ => r.decode_toJson) rfl rfl

/-- A specification is read from what it is written as with its response types read again. -/
theorem ApiSpec.decode_toJson {s : ApiSpec} (h : s.IsRead) :
    decode s.toJson = (.ok (s.mapTypes .reread) : Except Problem _) := by
  obtain ⟨hkeys, hgroups⟩ := h
  have hreadGroups : table (list Operation.decode)
      (Json.object (s.groups.map fun g => (g.1, .array (g.2.map Operation.toJson)))) =
      .ok (s.groups.map fun g => (g.1, g.2.map (Operation.mapTypes .reread))) := by
    have hread : ∀ g ∈ s.groups, list Operation.decode (Json.array (g.2.map Operation.toJson)) =
        .ok (g.2.map (Operation.mapTypes .reread)) := fun g hg =>
      list_map_eq_ok fun op hop => Operation.decode_toJson (hgroups g hg op hop)
    exact table_map_eq_ok (fun ops => Json.array (ops.map Operation.toJson))
      (fun ops => ops.map (Operation.mapTypes .reread)) hkeys hread
  refine record_eq_ok_of_writes (by decide) ?_
  simp only [List.append_assoc, List.cons_append, List.nil_append]
  exact .set (text_string _) (.set (text_string _) (writes_textIfSome rfl (writes_textsIfAny rfl
    (writes_textIfSome rfl (.set hreadGroups (.nil (s.mapTypes .reread)))))))

/-! ### The whole way round -/

/-- A specification that was read is written as a value from which it is read again, equal to what
it was exactly when its response types are canonical. -/
theorem ApiSpec.decode_toJson_of_decode {ν ε : Type} [Source ν ε] {v : ν} {s : ApiSpec}
    (h : decode v = .ok s) :
    decode s.toJson = (.ok (s.mapTypes .reread) : Except Problem _) ∧
    (s.mapTypes .reread = s ↔ ∀ t ∈ s.responseTypes, t.Canonical) := by
  have hread : s.IsRead := isRead_of_decode h
  refine ⟨decode_toJson hread, ?_⟩
  rw [mapTypes_eq_self_iff]
  exact forall₂_congr fun t _ => t.reread_eq_self_iff

/-- A specification of one operation with one response of a type. -/
def responseSpec (type : Json) : Json := .object [("title", .string "T"), ("version", .string "1"),
  ("groups", .object [("items", .array [.object [("name", .string "list"),
    ("method", .string "GET"), ("path", .string "/items"),
    ("responses", .array [.object [("statusCode", .string "200"), ("responseType", type)]])]])])]

/-- The specification that is read from it. -/
def specOfResponse (type : TypeNode) : ApiSpec := ⟨"T", "1", none, [], none, [("items",
  [{ Operation.new "list" .get "/items" with
    responses := [⟨"200", some type, "application/json", []⟩] }])]⟩

lemma decode_responseSpec (type : Json) (h : type ≠ .null) :
    ApiSpec.decode (responseSpec type) =
      (.ok (specOfResponse (.ofJson type)) : Except Problem _) := by
  cases type with
  | null => exact absurd rfl h
  | _ => rfl

/-- A map from names to the values of two types at once. -/
def recordOfBoth : Json := .object [("kind", .string "record"), ("children",
  .array [.object [("kind", .string "intersection"),
    ("children", .array [.string "#/A", .string "#/B"])]])]

theorem ApiSpec.decode_toJson_recordOfBoth :
    ∃ s : ApiSpec, ApiSpec.decode (responseSpec recordOfBoth) = (.ok s : Except Problem _) ∧
      (∀ t ∈ s.responseTypes, t.Canonical) ∧
      ApiSpec.decode s.toJson = (.ok s : Except Problem _) := by
  have hread := decode_responseSpec recordOfBoth nofun
  obtain ⟨hback, hsame⟩ := ApiSpec.decode_toJson_of_decode hread
  have hreread : (specOfResponse (.ofJson recordOfBoth)).mapTypes .reread =
      specOfResponse (.ofJson recordOfBoth) := by rfl
  rw [hreread] at hback
  exact ⟨_, hread, hsame.mp hreread, hback⟩

/-- A list without items is not read back: what it is written as is read as a composite, and the
schema of that shows how lists are written. -/
theorem ApiSpec.decode_toJson_emptyListResponse :
    ∃ s s' : ApiSpec,
      ApiSpec.decode (responseSpec (.array [])) = (.ok s : Except Problem _) ∧
      ApiSpec.decode s.toJson = (.ok s' : Except Problem _) ∧
      s.responseTypes = [.wrapped "list" []] ∧
      s'.responseTypes = [.composite [("kind", .named "list"), ("children", .wrapped "list" [])]] ∧
      s' ≠ s ∧ s'.responseTypes.map Schema.ofNode ≠ s.responseTypes.map Schema.ofNode := by
  have hread := decode_responseSpec (.array []) nofun
  have hback := ApiSpec.decode_toJson (ApiSpec.isRead_of_decode hread)
  have hne : ((specOfResponse (.ofJson (.array []))).mapTypes .reread).responseTypes ≠
      (specOfResponse (.ofJson (.array []))).responseTypes := nofun
  refine ⟨_, _, hread, hback, rfl, rfl, fun h => hne (congrArg ApiSpec.responseTypes h), ?_⟩
  exact nofun

end ApiContract
