import ApiContract.Proofs.Client.Endpoint
import ApiContract.Proofs.OpenApi.DocumentedInputs
import ApiContract.Proofs.OpenApi.EvaluationOrder

/-!
# Content types of bodies

The content type of a body is read twice: the document takes the declared type as it is, and the
client makes an encoding of it, which has a content type of its own. Parameters and spelling aside,
the two are one media type unless the declared one has the suffix `+json`: such bodies are encoded
as JSON and sent as such (`essence_contentType_ofContentType_iff`).
-/

namespace ApiContract.Client

/-! ### Media types -/

/-- The media type of a content type is one of those that say by a suffix that they are JSON. -/
def HasJsonSuffix (contentType : String) : Prop :=
  "+json".toList <:+ (essence contentType).toList

instance : DecidablePred HasJsonSuffix := fun _ => inferInstanceAs (Decidable (_ <:+ _))

/-- Content types of one media type have the suffix or not together. -/
lemma hasJsonSuffix_congr {contentType other : String} (h : essence contentType = essence other) :
    HasJsonSuffix contentType ↔ HasJsonSuffix other := by
  rw [HasJsonSuffix, HasJsonSuffix, h]

namespace Encoding

/-- A media type that is known by name is sent as that name, and has no suffix. -/
lemma essence_of_named {contentType : String}
    (h : contentType ∈ [jsonContentType, formContentType, multipartContentType]) :
    essence contentType = contentType ∧ ¬ HasJsonSuffix contentType := by
  have hall : ∀ name ∈ [jsonContentType, formContentType, multipartContentType],
      essence name = name ∧ ¬ HasJsonSuffix name := by decide
  exact hall contentType h

lemma ofContentType_eq (contentType : String) :
    ofContentType contentType =
      if essence contentType = jsonContentType then .json
      else if essence contentType = formContentType then .form
      else if essence contentType = multipartContentType then .multipart
      else if HasJsonSuffix contentType then .json
      else .raw contentType := by
  have hsuffix : "+json".toList.isSuffixOf (essence contentType).toList = true ↔
      HasJsonSuffix contentType := List.isSuffixOf_iff_suffix
  simp only [ofContentType, beq_iff_eq, hsuffix]

/-- A content type is known by the name of its media type, or by its suffix, or not at all. -/
lemma ofContentType_cases (contentType : String) :
    (∃ name ∈ [jsonContentType, formContentType, multipartContentType],
      essence contentType = name ∧ (ofContentType contentType).contentType = name) ∨
    (HasJsonSuffix contentType ∧ ofContentType contentType = .json) ∨
    (¬ HasJsonSuffix contentType ∧ ofContentType contentType = .raw contentType) := by
  rw [ofContentType_eq]
  by_cases hjson : essence contentType = jsonContentType
  · rw [if_pos hjson]
    exact .inl ⟨jsonContentType, by simp, hjson, rfl⟩
  rw [if_neg hjson]
  by_cases hform : essence contentType = formContentType
  · rw [if_pos hform]
    exact .inl ⟨formContentType, by simp, hform, rfl⟩
  rw [if_neg hform]
  by_cases hmultipart : essence contentType = multipartContentType
  · rw [if_pos hmultipart]
    exact .inl ⟨multipartContentType, by simp, hmultipart, rfl⟩
  rw [if_neg hmultipart]
  by_cases hsuffix : HasJsonSuffix contentType
  · exact .inr (.inl ⟨hsuffix, if_pos hsuffix⟩)
  · exact .inr (.inr ⟨hsuffix, if_neg hsuffix⟩)

/-- What is sent has the media type of the declared content type exactly when that has no suffix
for JSON. -/
theorem essence_contentType_ofContentType_iff (contentType : String) :
    essence (ofContentType contentType).contentType = essence contentType ↔
      ¬ HasJsonSuffix contentType := by
  obtain ⟨name, hname, hessence, hsent⟩ | ⟨hsuffix, hencoding⟩ | ⟨hsuffix, hencoding⟩ :=
    ofContentType_cases contentType
  · obtain ⟨hself, hnone⟩ := essence_of_named hname
    have hplain : ¬ HasJsonSuffix contentType :=
      (hasJsonSuffix_congr (hessence.trans hself.symm)).not.mpr hnone
    rw [hsent, hself, hessence]
    exact iff_of_true rfl hplain
  · -- The name of JSON itself has no suffix, so it is another media type.
    have hjson : ¬ HasJsonSuffix jsonContentType := (essence_of_named List.mem_cons_self).2
    have hne : essence jsonContentType ≠ essence contentType := fun hsame =>
      hjson ((hasJsonSuffix_congr hsame).mpr hsuffix)
    rw [hencoding]
    exact iff_of_false hne (not_not.mpr hsuffix)
  · rw [hencoding]
    exact iff_of_true rfl hsuffix

/-- A content type with the suffix for JSON is sent as JSON. -/
lemma contentType_of_hasJsonSuffix {contentType : String} (h : HasJsonSuffix contentType) :
    (ofContentType contentType).contentType = jsonContentType := by
  obtain ⟨name, hname, hessence, _⟩ | ⟨_, hencoding⟩ | ⟨hnot, _⟩ := ofContentType_cases contentType
  · obtain ⟨hself, hnone⟩ := essence_of_named hname
    exact absurd ((hasJsonSuffix_congr (hessence.trans hself.symm)).mp h) hnone
  · rw [hencoding]
    rfl
  · exact absurd h hnot

end Encoding

/-! ### What is sent and what is documented -/

/-- The content types of the request body of an operation object. -/
def documentedTypes (object : Json) : List String :=
  (((object.member? "requestBody").bind (Json.member? "content")).bind Json.members?).elim []
    Table.keys

lemma documentedTypes_operationJson {d : OperationDef} (h : d.hasBody = true) (inputs : Inputs)
    (rs : Responses) :
    documentedTypes (operationJson d inputs rs) = [d.contentType.getD jsonContentType] := by
  rw [documentedTypes, member?_requestBody_operationJson, if_pos h]
  rfl

/-- An operation without several variants has one endpoint, whose body has the declared content
type. -/
lemma eq_ofSingle_of_ofOperation {group : String} {op : Operation} {es : List Endpoint}
    (h : Endpoint.ofOperation group op = .ok es) (hsingle : op.schemas.length ≤ 1) :
    ∃ e, es = [e] ∧ e.contentType = op.contentType.getD jsonContentType := by
  unfold Endpoint.ofOperation at h
  obtain ⟨placement, _, h⟩ := bind_eq_ok_iff.mp h
  have hvariants : op.hasVariants = false := by
    rw [Operation.hasVariants, decide_eq_false_iff_not]
    omega
  rw [hvariants, if_neg Bool.false_ne_true] at h
  cases h
  exact ⟨_, rfl, rfl⟩

/-- What the client sends and what the document says of a body, for an operation that has one and
has no several variants. The document has the declared content type, or that of JSON if there is
none, and no other. The client sends the same media type unless the declared one has the suffix
`+json`; such bodies are sent as JSON. -/
theorem sent_of_documented {group sourceFile : String} {op : Operation} {es : List Endpoint}
    (hendpoints : Endpoint.ofOperation group op = .ok es) (hsingle : op.schemas.length ≤ 1)
    (hbody : ∃ i ∈ op.inputs, i.2.source = .body) :
    ∃ e d, es = [e] ∧ OperationDef.ofOperation op sourceFile = .ok d ∧
      (∀ evaluator definitions hook p next,
        (PathsBuilder.buildOne evaluator definitions hook p d).result = .ok next →
        ∃ object, next.paths.objectAt? op.path op.method.pathKey = some object ∧
          documentedTypes object = [op.contentType.getD "application/json"]) ∧
      (essence e.encoding.contentType = essence (op.contentType.getD "application/json") ↔
        ¬ HasJsonSuffix (op.contentType.getD "application/json")) ∧
      (HasJsonSuffix (op.contentType.getD "application/json") →
        e.encoding.contentType = "application/json") := by
  obtain ⟨e, hes, htype⟩ := eq_ofSingle_of_ofOperation hendpoints hsingle
  have hknown : ∀ i ∈ op.inputs, i.2.source.isKnown = true := by
    unfold Endpoint.ofOperation at hendpoints
    obtain ⟨placement, hplacement, _⟩ := bind_eq_ok_iff.mp hendpoints
    exact ((Placement.ofInputs_eq_ok_iff _ _ _).mp hplacement).1
  have hhas : (OperationDef.viewOf op sourceFile).hasBody = true := by
    obtain ⟨i, hi, hsource⟩ := hbody
    refine (any_selectors_body_iff op).mpr (List.ne_nil_of_mem (a := i.1) ?_)
    exact mem_namesBound_iff.mpr ⟨i.2, hi, (binding_eq_body_iff _).mpr hsource⟩
  have hsent : e.encoding = .ofContentType (op.contentType.getD jsonContentType) := by
    rw [Endpoint.encoding, htype]
  refine ⟨e, .viewOf op sourceFile, hes, ofOperation_of_isKnown hknown sourceFile, ?_, ?_, ?_⟩
  · intro evaluator definitions hook p next hnext
    obtain ⟨inputs, rfl, _⟩ := PathsBuilder.exists_inputs_of_buildOne hnext
    set call := PathsBuilder.callFor p (.viewOf op sourceFile) inputs with hcall
    have hplaced : (PathsBuilder.placeCall p.paths call).objectAt? op.path op.method.pathKey =
        some call.operation := (PathsBuilder.objectAt?_placeCall _ _ _ _).trans (if_pos rfl)
    exact ⟨call.operation, hplaced, documentedTypes_operationJson hhas _ _⟩
  · rw [hsent]
    exact Encoding.essence_contentType_ofContentType_iff _
  · intro hsuffix
    rw [hsent]
    exact Encoding.contentType_of_hasJsonSuffix hsuffix

/-- An operation on a pet whose body is of a given content type. -/
def patchPet (contentType : Option String) : Operation :=
  { Operation.new "patchPet" .patch "/pets/{id}" with
    contentType := contentType
    inputs := [("id", ⟨.params, "z.string()", true, false⟩),
      ("name", ⟨.body, "z.string()", true, false⟩)] }

theorem sent_patchPet_csv : ∃ e d,
    Endpoint.ofOperation "pets" (patchPet (some " Text/CSV ; header=present")) = .ok [e] ∧
    OperationDef.ofOperation (patchPet (some " Text/CSV ; header=present")) "pets.ts" = .ok d ∧
    (∀ evaluator definitions hook p next,
      (PathsBuilder.buildOne evaluator definitions hook p d).result = .ok next →
      ∃ object, next.paths.objectAt? "/pets/{id}" "patch" = some object ∧
        documentedTypes object = [" Text/CSV ; header=present"]) ∧
    essence e.encoding.contentType = "text/csv" := by
  obtain ⟨e, d, hes, hd, hdocumented, hsame, _⟩ := @sent_of_documented "pets" "pets.ts"
    (patchPet (some " Text/CSV ; header=present")) _ rfl (by decide)
    ⟨("name", ⟨.body, "z.string()", true, false⟩), by simp [patchPet], rfl⟩
  refine ⟨e, d, congrArg Except.ok hes, hd, hdocumented, ?_⟩
  have hplain : ¬ HasJsonSuffix " Text/CSV ; header=present" := by decide
  have hessence : essence " Text/CSV ; header=present" = "text/csv" := by decide
  exact (hsame.mpr hplain).trans hessence

/-- A body that is documented as a merge patch is sent as JSON. -/
theorem sent_patchPet_mergePatch : ∃ e d next object,
    Endpoint.ofOperation "pets" (patchPet (some "application/merge-patch+json")) = .ok [e] ∧
    (patchPet (some "application/merge-patch+json")).schemas.length ≤ 1 ∧
    (∃ i ∈ (patchPet (some "application/merge-patch+json")).inputs, i.2.source = .body) ∧
    OperationDef.ofOperation (patchPet (some "application/merge-patch+json")) "pets.ts" = .ok d ∧
    (PathsBuilder.buildOne (fun _ _ => ⟨[], .ok .null⟩) none none ⟨[], [], ⟨[], []⟩⟩ d).result =
      .ok next ∧
    next.paths.objectAt? "/pets/{id}" "patch" = some object ∧
    documentedTypes object = ["application/merge-patch+json"] ∧
    e.encoding.contentType = "application/json" ∧
    essence e.encoding.contentType ≠ essence "application/merge-patch+json" := by
  refine ⟨_, _, _, _, rfl, by decide, ?_, rfl, rfl, rfl, rfl, rfl, by decide⟩
  exact ⟨("name", ⟨.body, "z.string()", true, false⟩), by simp [patchPet], rfl⟩

end ApiContract.Client
