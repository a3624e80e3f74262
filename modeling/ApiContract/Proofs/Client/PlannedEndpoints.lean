import ApiContract.Proofs.Client.Collision
import ApiContract.Proofs.Client.Endpoint
import ApiContract.Proofs.Client.Placement

/-!
# Planned endpoints

Where planning succeeds it is a view of the operations: every operation has its endpoints
(`Endpoint.planned`), and the endpoints of all are those of each in order
(`eq_planned_of_ofGroups`). So what validation says of the keys of endpoints can be read off the
operations. Two operations of one path and method get past it only when they are in different tables
or one of them has no endpoint whose key is the path and method alone (`nodup_pairs_iff`).
-/

namespace ApiContract.Client

/-! ### Endpoints of an operation -/

/-- The endpoints of an operation whose sources are known. -/
def Endpoint.planned (group : String) (op : Operation) : List Endpoint :=
  if op.hasVariants then
    op.schemas.keys.map (ofVariant group op (Placement.ofBindings op.inputs))
  else [ofSingle group op (Placement.ofBindings op.inputs)]

/-- The endpoints of all operations are planned when every source is known, operation by
operation. -/
theorem eq_planned_of_ofGroups {groups : Groups} {es : List Endpoint}
    (h : Endpoint.ofGroups groups = .ok es) :
    (∀ g ∈ groups, ∀ op ∈ g.2, ∀ e ∈ op.inputs, e.2.source.isKnown = true) ∧
      es = groups.flatMap fun g => g.2.flatMap (Endpoint.planned g.1) := by
  have hknown : ∀ g ∈ groups, ∀ op ∈ g.2, ∀ e ∈ op.inputs, e.2.source.isKnown = true := by
    intro g hg op hop
    obtain ⟨placement, hplacement⟩ := Endpoint.exists_placement h hg hop
    exact ((Placement.ofInputs_eq_ok_iff _ _ _).mp hplacement).1
  have hoperation : ∀ g ∈ groups, ∀ op ∈ g.2,
      Endpoint.ofOperation g.1 op = .ok (Endpoint.planned g.1 op) := by
    intro g hg op hop
    have hplacement : Placement.ofOperation op = .ok (Placement.ofBindings op.inputs) :=
      (Placement.ofInputs_eq_ok_iff _ _ _).mpr ⟨hknown g hg op hop, rfl⟩
    rw [Endpoint.ofOperation, hplacement]
    rfl
  have hgroups : groups.mapM (fun g => g.2.mapM (Endpoint.ofOperation g.1)) =
      .ok (groups.map fun g => g.2.map (Endpoint.planned g.1)) :=
    mapM_eq_ok_of_forall fun g hg => mapM_eq_ok_of_forall (hoperation g hg)
  refine ⟨hknown, ?_⟩
  unfold Endpoint.ofGroups at h
  obtain ⟨all, hall, h⟩ := bind_eq_ok_iff.mp h
  cases hall.symm.trans hgroups
  cases h
  rw [List.map_map, List.flatMap_def]
  exact congrArg List.flatten (List.map_congr_left fun g _ => List.flatMap_def.symm)

/-! ### Keys of operations -/

/-- The operation has an endpoint whose key is the method and the path alone: it has no variants, or
the default one is among them. -/
def HasPlainKey (op : Operation) : Prop :=
  op.hasVariants = false ∨ defaultVariant ∈ op.schemas.keys

instance : DecidablePred HasPlainKey := fun _ => inferInstanceAs (Decidable (_ ∨ _))

lemma exists_plain_of_hasPlainKey {op : Operation} (h : HasPlainKey op) (group : String) :
    ∃ e ∈ Endpoint.planned group op, e.operation = op ∧ e.key = ⟨none, op.method, op.path⟩ := by
  unfold Endpoint.planned
  cases hvariants : op.hasVariants with
  | true =>
    have hdefault := h.resolve_left (by simp [hvariants])
    exact ⟨_, List.mem_map_of_mem hdefault, rfl,
      by simp [Endpoint.ofVariant, EndpointKey.ofVariant]⟩
  | false =>
    exact ⟨_, List.mem_singleton_self _, rfl,
      by simp [Endpoint.ofSingle, EndpointKey.ofVariant]⟩

/-- The path and the method of an operation. -/
def pairOf (op : Operation) : String × Method := (op.path, op.method)

/-- Any two operations of one path and method have keys that validation compares: both stand in the
same table, and each has an endpoint whose key is the method and the path alone. -/
def ComparesPairs (ops : List (String × Operation)) : Prop :=
  ops.Pairwise fun o o' => pairOf o.2 = pairOf o'.2 →
    o.2.kind = o'.2.kind ∧ HasPlainKey o.2 ∧ HasPlainKey o'.2

instance : DecidablePred ComparesPairs := fun _ => inferInstanceAs (Decidable (List.Pairwise _ _))

/-- In a table without a key twice, two operations of one path and method do not both have an
endpoint whose key is these alone. -/
lemma pairwise_of_nodup_keyTexts {ops : List (String × Operation)} (isStream : Bool)
    (h : (keyTexts ((ops.flatMap fun o => Endpoint.planned o.1 o.2).filter fun e =>
      e.isStream = isStream)).Nodup) :
    ops.Pairwise fun o o' => pairOf o.2 = pairOf o'.2 → o.2.isStream = isStream →
      o'.2.isStream = isStream → ¬ (HasPlainKey o.2 ∧ HasPlainKey o'.2) := by
  have hsplit : keyTexts ((ops.flatMap fun o => Endpoint.planned o.1 o.2).filter fun e =>
      e.isStream = isStream) = ops.flatMap fun o =>
        keyTexts ((Endpoint.planned o.1 o.2).filter fun e => e.isStream = isStream) := by
    rw [keyTexts, List.filter_flatMap, List.map_flatMap]
    rfl
  rw [hsplit, List.nodup_flatMap] at h
  refine h.2.imp fun {o o'} hdisjoint hpair hkind hkind' hboth => ?_
  obtain ⟨hplain, hplain'⟩ := hboth
  have hmem : ∀ {o : String × Operation}, HasPlainKey o.2 → o.2.isStream = isStream →
      (EndpointKey.mk none o.2.method o.2.path).text ∈
        keyTexts ((Endpoint.planned o.1 o.2).filter fun e => e.isStream = isStream) := by
    intro o hplain hkind
    obtain ⟨e, he, hoperation, hkey⟩ := exists_plain_of_hasPlainKey hplain o.1
    have hstream : e.isStream = isStream := by rw [Endpoint.isStream, hoperation, hkind]
    rw [← hkey]
    exact List.mem_map_of_mem (List.mem_filter.mpr ⟨he, by simpa using hstream⟩)
  obtain ⟨hpath, hmethod⟩ := Prod.mk.inj hpair
  refine hdisjoint (hmem hplain hkind) ?_
  rw [hpath, hmethod]
  exact hmem hplain' hkind'

/-- When no table has a key twice, the pairs of path and method are distinct exactly if validation
compares the keys of operations that share one. -/
theorem nodup_pairs_iff {groups : Groups} {ops : List (String × Operation)}
    (h : DistinctNames groups (ops.flatMap fun o => Endpoint.planned o.1 o.2)) :
    (ops.map fun o => pairOf o.2).Nodup ↔ ComparesPairs ops := by
  have hpairs : (ops.map fun o => pairOf o.2).Nodup ↔
      ops.Pairwise fun o o' => pairOf o.2 ≠ pairOf o'.2 := List.pairwise_map
  rw [hpairs]
  constructor
  · exact fun hne => hne.imp fun hne heq => absurd heq hne
  · intro hcompares
    have hstandard := pairwise_of_nodup_keyTexts false
      (by simpa [Endpoint.standard] using h.keys)
    have hstreams := pairwise_of_nodup_keyTexts true
      (by simpa [Endpoint.streams] using h.streamKeys)
    refine ((hcompares.and hstandard).and hstreams).imp fun {o o'} hall hpair => ?_
    obtain ⟨⟨hc, hs⟩, ht⟩ := hall
    obtain ⟨hkind, hplain⟩ := hc hpair
    have hkind' : o'.2.isStream = o.2.isStream := by
      rw [Operation.isStream, Operation.isStream, hkind]
    cases hstream : o.2.isStream with
    | false => exact hs hpair hstream (hkind'.trans hstream) hplain
    | true => exact ht hpair hstream (hkind'.trans hstream) hplain

end ApiContract.Client
