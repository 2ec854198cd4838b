import IntegrationFlow.Proofs.RecordUpdate
import IntegrationFlow.Proofs.Members
import IntegrationFlow.Proofs.Nodes

/-!
Schemas derived from answers: extracting the derived schema gives the object back, since the
answer was read with ascending keys, and the schema written onto its node decodes to the
configuration it had with the new fields and no more asking.
-/

namespace IntegrationFlow

namespace Members

variable {m : Members} {k : String} {v : Json}

lemma get?_of_mem (hm : m.Ascending) (h : (k, v) ∈ m) : m.get? k = some v := by
  induction m with
  | nil => cases h
  | cons q r ih =>
    obtain ⟨k', v'⟩ := q
    rw [Ascending, List.pairwise_cons] at hm
    rw [get?_cons]
    rcases List.mem_cons.1 h with h | h
    · obtain ⟨rfl, rfl⟩ := Prod.mk.inj h
      simp
    · have hne : k ≠ k' := ne_of_gt (hm.1 _ h)
      simp only [hne, if_false]
      exact ih hm.2 h

lemma insert_of_lt (h : ∀ p ∈ m, p.1 < k) : m.insert k v = m ++ [(k, v)] := by
  induction m with
  | nil => rfl
  | cons q r ih =>
    obtain ⟨k', v'⟩ := q
    have hk' : k' < k := h _ List.mem_cons_self
    simp only [insert, not_lt_of_gt hk', (ne_of_gt hk'), if_false, List.cons_append]
    rw [ih fun p hp => h p (List.mem_cons_of_mem _ hp)]

lemma mem_of_get? (h : m.get? k = some v) : (k, v) ∈ m := by
  obtain ⟨l₁, l₂, rfl, -⟩ := List.lookup_eq_some_iff.1 h
  simp

end Members

namespace Schema

lemma sortedKeys_descend {P j : Json} {t : Option String} (hP : P.SortedKeys) (h : descend P t = some j) :
    j.SortedKeys := by
  unfold descend at h
  split at h
  · split_ifs at h
    · exact Option.some.inj h ▸ hP
    · cases hP with
      | obj _ hvals => exact hvals _ (Members.mem_of_get? h)
      | _ => cases h
  · exact Option.some.inj h ▸ hP

lemma foldl_describe (m : Members) :
    ∀ (rest acc : Members), rest.Ascending → (∀ p ∈ rest, m.get? p.1 = some p.2) →
      (∀ a ∈ acc, ∀ p ∈ rest, a.1 < p.1) →
      (describe rest).foldl (fun acc f => match m.get? f.name with
        | some v => acc.insert f.name v
        | none => acc) acc = acc ++ rest := by
  intro rest
  induction rest with
  | nil => simp [describe]
  | cons p rest ih =>
    intro acc hrest hget hlt
    obtain ⟨k, v⟩ := p
    rw [Members.Ascending, List.pairwise_cons] at hrest
    have hk : m.get? k = some v := hget _ List.mem_cons_self
    have hins : acc.insert k v = acc ++ [(k, v)] :=
      Members.insert_of_lt fun a ha => hlt a ha _ List.mem_cons_self
    rw [show describe ((k, v) :: rest) = { name := k, kind := v.kindName } :: describe rest from rfl,
      List.foldl_cons]
    dsimp only
    rw [hk]
    dsimp only
    rw [hins, ih _ hrest.2 (fun q hq => hget q (List.mem_cons_of_mem _ hq))]
    · simp
    · intro a ha q hq
      rcases List.mem_append.1 ha with ha | ha
      · exact hlt a ha q (List.mem_cons_of_mem _ hq)
      · rw [List.mem_singleton.1 ha]
        exact hrest.1 q hq

lemma extract_describe {P : Json} {t : Option String} {M : Members} (hM : descend P t = some (.obj M))
    (hasc : M.Ascending) : extract P (describe M) t = M := by
  simp only [extract, hM]
  have h := foldl_describe M M [] hasc (fun p hp => Members.get?_of_mem hasc hp) (by simp)
  rwa [List.nil_append] at h

lemma extract_array {P : Json} {t : Option String} {items : List Json} (hA : descend P t = some (.arr items))
    (subs : List FieldDef) :
    extract P [{ name := "campoMultiple", kind := "array", subfields := subs }] t = [("campoMultiple", .arr items)] := by
  simp [extract, hA, Members.insert]

section Discover

variable {raw : String} {t : Option String} {P : Json}

lemma discover_json (hP : Json.parse raw = .ok P) :
    discover raw (some "json") t = match descend P t with
      | some (.obj m) => .ok (describe m)
      | some (.arr []) => .error "response array is empty"
      | some (.arr (.obj first :: _)) => .ok [{ name := "campoMultiple", kind := "array", subfields := describe first }]
      | some (.arr (_ :: _)) => .error "response array elements are not objects"
      | some other => .error ("cannot derive fields from a " ++ other.kindName ++ " response")
      | none => .error ("tag '" ++ t.getD "" ++ "' not found in response") := by
  have hrt : Text.toLower "json" = "json" := by decide
  have hblank : Text.isBlankText "json" = false := by decide
  simp only [discover, hblank, hrt, hP, Bool.false_eq_true, if_false, bne_self_eq_false, pure_bind]
  rcases descend P t with _ | j
  · rfl
  · rcases j with _ | _ | _ | _ | (_ | ⟨_ | _ | _ | _ | _ | _, _⟩) | _ <;> rfl

end Discover

end Schema

/-! ### The fields written back -/

namespace FieldDef

/-- Parameters nested at most `n` deep: each level of subfields takes one more. -/
inductive Within : Nat → FieldDef → Prop
  | mk {n : Nat} {name kind : String} {subs : List FieldDef} :
      (∀ s ∈ subs, Within n s) → Within (n + 1) ⟨name, kind, subs⟩

lemma Within.mono {n m : Nat} {f : FieldDef} (h : f.Within n) (hnm : n ≤ m) : f.Within m := by
  induction h generalizing m with
  | @mk n name kind subs _ ih =>
    obtain ⟨m, rfl⟩ : ∃ m', m = m' + 1 := ⟨m - 1, by omega⟩
    exact .mk fun s hs => ih s hs (by omega)

lemma mapM_decodeWithin {n : Nat} {fs : List FieldDef} (h : ∀ f ∈ fs, decodeWithin n (toJson f) = .ok f) :
    (listToJson fs).mapM (decodeWithin n) = .ok fs := by
  induction fs with
  | nil => rfl
  | cons f fs ih =>
    rw [listToJson, List.mapM_cons, h f List.mem_cons_self, ih fun g hg => h g (List.mem_cons_of_mem _ hg)]
    rfl

/-- **Parameters read back as written**, given room for their nesting: subfields are written
only when there are some, and read as none when they are not there. -/
theorem decodeWithin_toJson {n : Nat} {f : FieldDef} (h : f.Within n) : decodeWithin n (toJson f) = .ok f := by
  induction h with
  | @mk n name kind subs _ ih =>
    have hsubs := mapM_decodeWithin ih
    cases subs with
    | nil =>
      simp [toJson, decodeWithin, Decoder.record, Decoder.fromMembers, Decoder.findField, Decoder.string,
        Decoder.textOrEmpty, Decoder.orDefault, bind, Except.bind, pure, Except.pure]
    | cons s ss =>
      simp [toJson, decodeWithin, Decoder.record, Decoder.fromMembers, Decoder.findField, Decoder.string,
        Decoder.textOrEmpty, Decoder.orDefault, Decoder.list, hsubs, bind, Except.bind, pure, Except.pure]

lemma decodeList_written {F : List FieldDef} (hF : ∀ f ∈ F, f.Within Reader.maxDepth) :
    decodeList (.arr (listToJson F)) = .ok F :=
  mapM_decodeWithin fun f hf => decodeWithin_toJson (hF f hf)

end FieldDef

namespace Schema

lemma within_describe (m : Members) : ∀ f ∈ describe m, f.Within 1 := by
  simp only [describe, List.mem_map]
  rintro f ⟨p, -, rfl⟩
  exact .mk (by simp)

lemma discover_eq_ok {raw : String} {rt t : Option String} {F : List FieldDef} (h : discover raw rt t = .ok F) :
    (∃ m, F = describe m) ∨ ∃ first, F = [{ name := "campoMultiple", kind := "array", subfields := describe first }] := by
  unfold discover at h
  simp only [bind, Except.bind, pure, Except.pure, throw, throwThe, MonadExceptOf.throw] at h
  repeat' split at h
  all_goals first
    | exact .inl ⟨_, (Except.ok.inj h).symm⟩
    | exact .inr ⟨_, (Except.ok.inj h).symm⟩
    | cases h

lemma within_of_discover {raw : String} {rt t : Option String} {F : List FieldDef} (h : discover raw rt t = .ok F) :
    ∀ f ∈ F, f.Within Reader.maxDepth := by
  have hmax : 2 ≤ Reader.maxDepth := by decide
  rcases discover_eq_ok h with ⟨m, rfl⟩ | ⟨first, rfl⟩
  · exact fun f hf => (within_describe m f hf).mono (by omega)
  · simp only [List.mem_singleton]
    rintro f rfl
    exact FieldDef.Within.mono (.mk (within_describe first)) hmax

end Schema

namespace NodeConfig

/-- **A process node with its schema written reads back with it.** Writing a schema's fields as
`parametrosSalida` and `parsearFullOutput` false into sorted data that decoded as a process
configuration decodes to the same configuration with those fields and no more asking. -/
theorem decodeProcess_written {data : Members} {c : ProcessConfig} {F : List FieldDef} (hasc : data.Ascending)
    (hF : ∀ f ∈ F, f.Within Reader.maxDepth) (h : decodeProcess (.obj data) = .ok c) :
    decodeProcess (.obj ((data.insert "parametrosSalida" (.arr (FieldDef.listToJson F))).insert
      "parsearFullOutput" (.bool false))) = .ok { c with outputParams := F, parseFullOutput := false } := by
  unfold decodeProcess at h ⊢
  rw [Decoder.record_obj] at h ⊢
  -- first the fields, then the flag; each is one member changed, every other field commutes
  refine Decoder.fromMembers_insert (k := "parsearFullOutput") (g := fun c => { c with parseFullOutput := false })
    hasc.insert ?_ ?_ ?_ ?_
    (Decoder.fromMembers_insert (k := "parametrosSalida") (g := fun c => { c with outputParams := F }) hasc ?_ ?_ ?_ ?_ h)
  · simp
  · simp
  · simp only [List.mem_cons, List.not_mem_nil, or_false]
    rintro f (rfl | rfl | rfl | rfl | rfl | rfl | rfl | rfl | rfl | rfl | rfl) hname
    all_goals first | exact absurd hname (by decide) | skip
    refine ⟨fun st => rfl, fun st j st' hst => ?_⟩
    obtain ⟨b, rfl⟩ := exists_of_map_eq_ok hst
    rfl
  · simp only [List.mem_cons, List.not_mem_nil, or_false]
    rintro f (rfl | rfl | rfl | rfl | rfl | rfl | rfl | rfl | rfl | rfl | rfl) hname st j
    all_goals first | exact absurd rfl hname | rw [Functor.map_map]
  · simp
  · simp
  · simp only [List.mem_cons, List.not_mem_nil, or_false]
    rintro f (rfl | rfl | rfl | rfl | rfl | rfl | rfl | rfl | rfl | rfl | rfl) hname
    all_goals first | exact absurd hname (by decide) | skip
    refine ⟨fun st => ?_, fun st j st' hst => ?_⟩
    · show (fun v => _) <$> FieldDef.decodeList _ = _
      rw [FieldDef.decodeList_written hF]
      rfl
    · obtain ⟨b, rfl⟩ := exists_of_map_eq_ok hst
      rfl
  · simp only [List.mem_cons, List.not_mem_nil, or_false]
    rintro f (rfl | rfl | rfl | rfl | rfl | rfl | rfl | rfl | rfl | rfl | rfl) hname st j
    all_goals first | exact absurd rfl hname | rw [Functor.map_map]

end NodeConfig

/-- A node with a schema written onto it: the fields as `parametrosSalida`, and
`parsearFullOutput` false. -/
def NodeSpec.withSchema (spec : NodeSpec) (fields : List FieldDef) : NodeSpec :=
  { spec with
    data := (spec.data.insert "parametrosSalida" (.arr (FieldDef.listToJson fields))).insert
      "parsearFullOutput" (.bool false) }

namespace NodeSpec

variable {spec : NodeSpec} {F : List FieldDef}

lemma withSchema_get? {k : String} (h₁ : k ≠ "parametrosSalida") (h₂ : k ≠ "parsearFullOutput") :
    (spec.withSchema F).data.get? k = spec.data.get? k := by
  rw [withSchema, Members.get?_insert_of_ne _ _ h₂, Members.get?_insert_of_ne _ _ h₁]

lemma withSchema_config {c : ProcessConfig} (hasc : spec.data.Ascending) (hF : ∀ f ∈ F, f.Within Reader.maxDepth)
    (h : (GraphNode.ofSpec spec).config = .ok (.process c)) :
    (GraphNode.ofSpec (spec.withSchema F)).config = .ok (.process { c with outputParams := F, parseFullOutput := false }) := by
  simp only [GraphNode.ofSpec] at h ⊢
  cases hd : NodeConfig.decode spec.kind spec.data with
  | error e => simp [hd, Except.mapError] at h
  | ok c' =>
    simp only [hd, Except.mapError, Except.ok.injEq] at h
    subst h
    have hkind : spec.kind = .process := by
      have hfits := NodeConfig.fits_decode hd
      cases hk : spec.kind <;> simp_all [NodeConfig.Fits]
    rw [hkind] at hd
    obtain ⟨c'', hc''⟩ : ∃ c'', NodeConfig.decodeProcess (.obj spec.data) = .ok c'' ∧ c'' = c := by
      simp only [NodeConfig.decode] at hd
      cases hp : NodeConfig.decodeProcess (.obj spec.data) with
      | error e => simp [hp, Functor.map, Except.map] at hd
      | ok c'' =>
        simp only [hp, Functor.map, Except.map, Except.ok.injEq, NodeConfig.process.injEq] at hd
        exact ⟨c'', rfl, hd⟩
    obtain ⟨hp, rfl⟩ := hc''
    have hkind' : (spec.withSchema F).kind = .process := hkind
    rw [hkind']
    simp only [NodeConfig.decode, withSchema, NodeConfig.decodeProcess_written hasc hF hp]
    rfl

/-- The configuration of a node that decodes as a process node. -/
def processConfig? (spec : NodeSpec) : Option ProcessConfig :=
  match (GraphNode.ofSpec spec).config with
  | .ok (.process c) => some c
  | _ => none

lemma config_of_processConfig? {c : ProcessConfig} (h : spec.processConfig? = some c) :
    (GraphNode.ofSpec spec).config = .ok (.process c) := by
  unfold processConfig? at h
  split at h
  · next c' hc => cases h; exact hc
  · cases h

end NodeSpec

/-! ### Writing the node back -/

namespace Store

variable {s s' : Store} {processId : String}

lemma loadFlow_id {r : FlowRecord} (h : s.loadFlow processId = .ok r) : r.id = processId := by
  unfold loadFlow at h
  split at h
  · rename_i r' hr
    cases h
    simpa using List.find?_some hr
  · cases h

lemma loadFlow_insertFlow (r : FlowRecord) : (s.insertFlow r).loadFlow r.id = .ok r := by
  unfold insertFlow
  by_cases hany : s.flows.any (·.id == r.id)
  · rw [if_pos hany]
    obtain ⟨r₀, hr₀, hid₀⟩ := List.any_eq_true.1 hany
    -- every record under the id is now `r`, and there is one
    have hfind : (s.flows.map fun f => if f.id == r.id then r else f).reverse.find? (·.id == r.id) = some r := by
      have hsome : ((s.flows.map fun f => if f.id == r.id then r else f).reverse.find? (·.id == r.id)).isSome := by
        rw [List.find?_isSome]
        exact ⟨r, List.mem_reverse.2 (List.mem_map.2 ⟨r₀, hr₀, by simp [hid₀]⟩), by simp⟩
      obtain ⟨x, hx⟩ := Option.isSome_iff_exists.1 hsome
      rw [hx]
      obtain ⟨f, -, rfl⟩ := List.mem_map.1 (List.mem_reverse.1 (List.mem_of_find?_eq_some hx))
      have hfx := List.find?_some hx
      by_cases hf : f.id == r.id
      · simp [hf]
      · simp [hf] at hfx
    unfold loadFlow
    rw [hfind]
  · rw [if_neg hany]
    simp [loadFlow]

/-- **Writing a node back** replaces the first node with its id in the definition read from the
flow's stored text, and stores that definition's text in place of the flow's. -/
theorem updateNode_eq_ok {node : NodeSpec} (h : s.updateNode processId node = .ok s') :
    ∃ r d i, s.loadFlow processId = .ok r ∧ FlowDefinition.parse r.text = .ok d ∧
      d.nodes.findIdx? (·.id == node.id) = some i ∧
      s'.loadFlow processId = .ok { r with text := { d with nodes := d.nodes.set i node }.text } := by
  unfold updateNode at h
  obtain ⟨r, hr, h⟩ := Engine.bind_eq_ok h
  cases hparse : FlowDefinition.parse r.text with
  | error e =>
    simp only [hparse] at h
    cases h
  | ok d =>
    simp only [hparse, pure_bind] at h
    split at h
    · cases h
    · rename_i i hi
      cases h
      refine ⟨r, d, i, hr, hparse, hi, ?_⟩
      have hid : r.id = processId := loadFlow_id hr
      rw [← hid]
      exact loadFlow_insertFlow { r with text := { d with nodes := d.nodes.set i node }.text }

end Store

namespace Engine

lemma exec_discoverFields (processId raw : String) (spec : NodeSpec) (c : ProcessConfig) (svc : Services)
    (w : World) :
    (discoverFields processId raw spec c).exec svc w =
      match Schema.discover raw c.responseType c.parentTag with
      | .ok [] => (.ok c.outputParams, w)
      | .error _ => (.ok c.outputParams, w)
      | .ok fields =>
        (.ok fields, match w.store.updateNode processId (spec.withSchema fields) with
          | .ok s => { w with store := s }
          | .error _ => w) := by
  unfold discoverFields
  cases h : Schema.discover raw c.responseType c.parentTag with
  | error e => simp
  | ok fields =>
    cases fields with
    | nil => simp
    -- the two sides match on the same write, each with its own match
    | cons f fs => rfl

end Engine

end IntegrationFlow
