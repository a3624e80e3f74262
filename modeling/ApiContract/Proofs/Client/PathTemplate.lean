import ApiContract.Proofs.Client.PathPieces

/-!
# Path templates

A path of the documented form is text without braces in which placeholders stand. No brace stands
for itself in it, so the placeholders of the parameters are filled all at once and in no order; and
since a segment holds no delimiter, the URL has the parts that the template has. This is
`url_of_template`.
-/

namespace ApiContract.Client

/-- A path of the documented form: text without braces, and placeholders of names without braces. -/
structure PathTemplate where
  pieces : List Piece
  isPlain : ∀ p ∈ pieces, p.IsPlain

namespace PathTemplate

/-- A template as it stands in an operation. -/
def text (t : PathTemplate) : String := pathOf t.pieces

/-- A template with values in place of the placeholders that have one, all at once. -/
def filled (value : String → Option String) (t : PathTemplate) : String :=
  pathOf (t.pieces.flatMap (Piece.fill value))

end PathTemplate

/-- In a template no brace stands for itself. -/
lemma PathTemplate.keepsApart (t : PathTemplate) (value : String → Option String)
    (names : List String) : KeepsApart value names t.pieces := by
  intro mid hmid
  have hbrace : .char '\x7b' ∈ t.pieces := hmid.subset (by simp)
  exact absurd List.mem_cons_self (t.isPlain _ hbrace).1

/-- The URL of every request whose path is a template is the base URL without the slashes at its
end, followed by the template with a segment in place of each placeholder of a parameter, all at
once and with everything else left as it is. The segment of a parameter stands for the text that its
member is sent as. The order of the parameters does not matter. -/
theorem url_of_template (t : PathTemplate) {plan : RequestPlan} (hpath : plan.path = t.text)
    (hparams : ∀ name ∈ plan.params, BraceFree name.toList) {context : RequestContext}
    {input : Json} {r : HttpRequest} (h : plan.build context input = .ok r) :
    ∃ fields root, ∃ segment : String → String,
      input = .object fields ∧ IsRootOf root context.baseUrl ∧
      (∀ name ∈ plan.params, ∃ text, sentText? fields name = some text ∧
        IsSegmentOf text (segment name)) ∧
      r.url = root ++ t.filled (fun name =>
        if name ∈ plan.params then some (segment name) else none) ∧
      ∀ params : List String, params.Perm plan.params →
        { plan with params := params }.build context input = .ok r := by
  obtain ⟨fields, filled, rfl, hfilled, hurl⟩ := RequestPlan.url_of_build h
  have hfill : ∀ params : List String, params.Perm plan.params → ∀ filled,
      RequestPlan.fillPath fields params plan.path = .ok filled ↔
        (∀ name ∈ params, (segment? fields name).isSome = true) ∧
          filled = t.filled (segments fields params) := by
    intro params hperm filled
    rw [hpath]
    exact RequestPlan.fillPath_pathOf_eq_ok_iff
      (fun name hname => hparams name (hperm.subset hname))
      (fun m hm => (t.isPlain _ hm).2) (t.keepsApart _ _) filled
  obtain ⟨hsome, rfl⟩ := (hfill plan.params (List.Perm.refl _) filled).mp hfilled
  refine ⟨fields, dropSlashes context.baseUrl, fun name => (segment? fields name).getD "", rfl,
    isRootOf_dropSlashes _, fun name hname => ?_, ?_, fun params hperm => ?_⟩
  · obtain ⟨s, hs⟩ := Option.isSome_iff_exists.mp (hsome name hname)
    obtain ⟨text, htext, rfl⟩ := Option.map_eq_some_iff.mp hs
    refine ⟨text, htext, ?_⟩
    simpa only [hs, Option.getD_some] using isSegmentOf_percentEncoded text
  · have hvalues : segments fields plan.params = fun name =>
        if name ∈ plan.params then some ((segment? fields name).getD "") else none := by
      funext name
      unfold segments
      split
      · rename_i hname
        obtain ⟨s, hs⟩ := Option.isSome_iff_exists.mp (hsome name hname)
        rw [hs]
        rfl
      · rfl
    rw [hurl, hvalues]
  · have hsame : segments fields params = segments fields plan.params := by
      funext name
      simp [segments, hperm.mem_iff]
    have hpermuted := (hfill params hperm _).mpr
      ⟨fun name hname => hsome name (hperm.subset hname), congrArg (t.filled ·) hsame.symm⟩
    rw [RequestPlan.build_congr_params (hpermuted.trans hfilled.symm)]
    exact h

/-- A template that names a parameter twice and a placeholder that is no parameter. -/
def shopTemplate : PathTemplate where
  pieces := "/shops/".toList.map .char ++ [.hole "shop"] ++ "/items/".toList.map .char ++
    [.hole "id", .char '-', .hole "shop", .char '/', .hole "view"]
  isPlain := by decide

/-- A plan for the template. -/
def shopPlan : RequestPlan :=
  ⟨"GET", "/shops/\x7bshop\x7d/items/\x7bid\x7d-\x7bshop\x7d/\x7bview\x7d", [], [], [],
    ["shop", "id"], .json⟩

theorem url_of_shopTemplate : ∃ r root, ∃ segment : String → String,
    shopPlan.build ⟨"https://api/v1//", []⟩
      (.object [("id", .bool true), ("shop", .string "\x7bid\x7d/é")]) = .ok r ∧
    IsRootOf root "https://api/v1//" ∧ IsSegmentOf "\x7bid\x7d/é" (segment "shop") ∧
    r.url = root ++ shopTemplate.filled (fun name =>
      if name ∈ ["shop", "id"] then some (segment name) else none) ∧
    r.url = "https://api/v1/shops/%7Bid%7D%2F%C3%A9/items/true-%7Bid%7D%2F%C3%A9/\x7bview\x7d" := by
  obtain ⟨r, hr⟩ : ∃ r, shopPlan.build ⟨"https://api/v1//", []⟩
      (.object [("id", .bool true), ("shop", .string "\x7bid\x7d/é")]) = .ok r :=
    exists_eq_ok (by decide +kernel)
  have hpath : shopPlan.path = shopTemplate.text := by decide +kernel
  obtain ⟨fields, root, segment, hfields, hroot, hsegments, hurl, _⟩ :=
    url_of_template shopTemplate hpath (by decide) hr
  cases hfields
  obtain ⟨text, htext, hsegment⟩ := hsegments "shop" (by decide)
  cases htext
  refine ⟨r, root, segment, hr, hroot, hsegment, hurl, ?_⟩
  cases hr
  decide +kernel

end ApiContract.Client
