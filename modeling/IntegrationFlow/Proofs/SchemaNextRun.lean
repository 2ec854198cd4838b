import IntegrationFlow.Proofs.NodeWrites

/-!
A derived schema in the next run: it is read back when the stored text reads as the definition
written, which `FlowDefinition.readAs` decides for data without doubles.
-/

namespace IntegrationFlow

/-! ### Documents without doubles -/

namespace Json

mutual
/-- Whether a document holds no double. -/
def noDouble : Json → Bool
  | .num (.float _) => false
  | .arr xs => noDoubleItems xs
  | .obj kvs => noDoubleMembers kvs
  | _ => true

/-- Whether no item of a list holds a double. -/
def noDoubleItems : List Json → Bool
  | [] => true
  | x :: xs => noDouble x && noDoubleItems xs

/-- Whether no member's value holds a double. -/
def noDoubleMembers : List (String × Json) → Bool
  | [] => true
  | (_, x) :: kvs => noDouble x && noDoubleMembers kvs
end

mutual
theorem eq_of_beq {x y : Json} (hx : x.noDouble = true) (h : x.beq y = true) : x = y := by
  cases x with
  | null => cases y <;> simp_all [beq]
  | bool a => cases y <;> simp_all [beq]
  | num n =>
    cases n with
    | float f => simp [noDouble] at hx
    | int a =>
      cases y with
      | num m => cases m <;> simp_all [beq, BEq.beq, Number.beq]
      | _ => simp [beq] at h
  | str s => cases y <;> simp_all [beq]
  | arr xs =>
    cases y with
    | arr ys =>
      simp only [noDouble] at hx
      simp only [beq] at h
      rw [eq_of_beqList hx h]
    | _ => simp [beq] at h
  | obj kvs =>
    cases y with
    | obj kvs' =>
      simp only [noDouble] at hx
      simp only [beq] at h
      rw [eq_of_beqMembers hx h]
    | _ => simp [beq] at h

theorem eq_of_beqList {xs ys : List Json} (hx : noDoubleItems xs = true) (h : beqList xs ys = true) : xs = ys := by
  cases xs with
  | nil => cases ys <;> simp_all [beqList]
  | cons x xs =>
    cases ys with
    | nil => simp [beqList] at h
    | cons y ys =>
      simp only [noDoubleItems, Bool.and_eq_true] at hx
      simp only [beqList, Bool.and_eq_true] at h
      rw [eq_of_beq hx.1 h.1, eq_of_beqList hx.2 h.2]

theorem eq_of_beqMembers : ∀ {kvs kvs' : List (String × Json)}, noDoubleMembers kvs = true →
    beqMembers kvs kvs' = true → kvs = kvs'
  | [], [], _, _ => rfl
  | [], _ :: _, _, h => by simp [beqMembers] at h
  | _ :: _, [], _, h => by simp [beqMembers] at h
  | (k, x) :: kvs, (k', y) :: kvs', hx, h => by
    simp only [noDoubleMembers, Bool.and_eq_true] at hx
    simp only [beqMembers, Bool.and_eq_true, beq_iff_eq] at h
    rw [h.1.1, eq_of_beq hx.1 h.1.2, eq_of_beqMembers hx.2 h.2]
end

end Json

/-! ### Definitions read back -/

namespace NodeSpec

/-- Whether the node `m'`, read from a text, is `m`: neither has a position, and their data,
without doubles, compare equal. -/
def readAs (m m' : NodeSpec) : Bool :=
  m'.id == m.id && m'.type == m.type && m.position.isNone && m'.position.isNone &&
    Json.noDoubleMembers m.data && Json.beqMembers m.data m'.data

/-- Whether the nodes `ms'`, read from a text, are `ms`, one by one. -/
def listReadAs : List NodeSpec → List NodeSpec → Bool
  | [], [] => true
  | m :: ms, m' :: ms' => m.readAs m' && listReadAs ms ms'
  | _, _ => false

lemma eq_of_readAs {m m' : NodeSpec} (h : m.readAs m' = true) : m' = m := by
  obtain ⟨id, type, data, position⟩ := m
  obtain ⟨id', type', data', position'⟩ := m'
  simp only [readAs, Bool.and_eq_true, beq_iff_eq, Option.isNone_iff_eq_none] at h
  obtain ⟨⟨⟨⟨⟨rfl, rfl⟩, rfl⟩, rfl⟩, hd⟩, hb⟩ := h
  rw [Json.eq_of_beqMembers hd hb]

lemma eq_of_listReadAs : ∀ {ms ms' : List NodeSpec}, listReadAs ms ms' = true → ms' = ms
  | [], [], _ => rfl
  | [], _ :: _, h => by simp [listReadAs] at h
  | _ :: _, [], h => by simp [listReadAs] at h
  | m :: ms, m' :: ms', h => by
    simp only [listReadAs, Bool.and_eq_true] at h
    rw [eq_of_readAs h.1, eq_of_listReadAs h.2]

end NodeSpec

namespace FlowDefinition

/-- Whether the definition `d'`, read from a text, is `d`, a definition without edges whose
nodes have no position and no double in their data. -/
def readAs (d d' : FlowDefinition) : Bool :=
  d'.id == d.id && d'.name == d.name && d.edges.isEmpty && d'.edges.isEmpty &&
    NodeSpec.listReadAs d.nodes d'.nodes

lemma eq_of_readAs {d d' : FlowDefinition} (h : d.readAs d' = true) : d' = d := by
  obtain ⟨id, name, nodes, edges⟩ := d
  obtain ⟨id', name', nodes', edges'⟩ := d'
  simp only [readAs, Bool.and_eq_true, beq_iff_eq, List.isEmpty_iff] at h
  obtain ⟨⟨⟨⟨rfl, rfl⟩, rfl⟩, rfl⟩, hn⟩ := h
  rw [NodeSpec.eq_of_listReadAs hn]

lemma parse_of_readAs {t : String} {d : FlowDefinition} (h : ((parse t).toOption.any d.readAs) = true) :
    parse t = .ok d := by
  cases hp : parse t with
  | error e => simp [hp, Except.toOption] at h
  | ok d' =>
    simp only [hp, Except.toOption, Option.any_some] at h
    rw [eq_of_readAs h]

end FlowDefinition

/-! ### The next run -/

lemma FlowGraph.node?_build_set {d : FlowDefinition} {i : Nat} (hi : i < d.nodes.length) (m : NodeSpec) :
    (FlowGraph.build { d with nodes := d.nodes.set i m }).node? i = some (GraphNode.ofSpec m) := by
  simp [FlowGraph.node?, FlowGraph.build_nodes, hi]

namespace Engine

variable {svc : Services} {processId raw : String} {spec : NodeSpec} {c : ProcessConfig} {F : List FieldDef}
  {w : World} {r : FlowRecord} {d : FlowDefinition} {i : Nat}

lemma Start.graph_of_load {store : Store} {req : Request} {st : Start} (hr : store.loadFlow req.processId = .ok r)
    (hd : FlowDefinition.parse r.text = .ok d) (hl : Start.load svc store req = .ok st) :
    st.graph = FlowGraph.build d := by
  obtain ⟨hrec, ⟨d', hd', hg⟩, -⟩ := Start.load_eq_ok hl
  simp only [Start.record?, hr, Except.ok.injEq] at hrec
  rw [← hrec, hd, Except.ok.injEq] at hd'
  rw [hg, hd']

lemma discoverFields_written (hr : w.store.loadFlow processId = .ok r) (hd : FlowDefinition.parse r.text = .ok d)
    (hi : d.nodes.findIdx? (·.id == spec.id) = some i) (hF : Schema.discover raw c.responseType c.parentTag = .ok F)
    (hne : F ≠ []) :
    ((discoverFields processId raw spec c).exec svc w).2.store.loadFlow processId =
      .ok { r with text := { d with nodes := d.nodes.set i (spec.withSchema F) }.text } := by
  obtain ⟨f, fs, rfl⟩ := List.exists_cons_of_ne_nil hne
  have hi' : d.nodes.findIdx? (·.id == (spec.withSchema (f :: fs)).id) = some i := hi
  rw [exec_discoverFields, hF]
  simp only [Store.updateNode_of_findIdx? hr hd hi']
  rw [← Store.loadFlow_id hr]
  exact Store.loadFlow_insertFlow _

/-- **The schema derived from an answer is faithful, and it is written back.** Extracting the
schema of an object answer from the answer gives the object, whatever order its text wrote the
members in; an array of objects goes whole into one array field. In a run, a schema with fields
is returned and written onto the running node in its stored flow: the node written keeps every
other key of its data and decodes to its configuration with the schema's fields and no more
asking. An empty or failed schema writes nothing and the declared fields are used. The write
stores the text of the flow's definition with the first node of the running node's id
replaced, and when that text reads back as the definition written, the next run of the flow
runs its graph, where the node decodes with the schema's fields. -/
theorem discovered_schema_extracts_and_persists :
    (∀ (raw : String) (P : Json) (t : Option String) (M : Members), Json.parse raw = .ok P →
      Schema.descend P t = some (.obj M) →
      Schema.discover raw (some "json") t = .ok (Schema.describe M) ∧ Schema.extract P (Schema.describe M) t = M) ∧
    (∀ (raw : String) (P : Json) (t : Option String) (first : Members) (rest : List Json), Json.parse raw = .ok P →
      Schema.descend P t = some (.arr (.obj first :: rest)) →
      Schema.discover raw (some "json") t =
          .ok [{ name := "campoMultiple", kind := "array", subfields := Schema.describe first }] ∧
        Schema.extract P [{ name := "campoMultiple", kind := "array", subfields := Schema.describe first }] t =
          [("campoMultiple", .arr (.obj first :: rest))]) ∧
    (∀ (text : String) (d : FlowDefinition) (spec : NodeSpec) (c : ProcessConfig) (processId raw : String)
        (F : List FieldDef) (svc : Services) (w : World),
      FlowDefinition.parse text = .ok d → spec ∈ d.nodes → (GraphNode.ofSpec spec).config = .ok (.process c) →
      Schema.discover raw c.responseType c.parentTag = .ok F → F ≠ [] →
      (discoverFields processId raw spec c).exec svc w =
          (.ok F, match w.store.updateNode processId (spec.withSchema F) with
            | .ok s => { w with store := s }
            | .error _ => w) ∧
        (GraphNode.ofSpec (spec.withSchema F)).config =
          .ok (.process { c with outputParams := F, parseFullOutput := false }) ∧
        ∀ k, k ≠ "parametrosSalida" → k ≠ "parsearFullOutput" → (spec.withSchema F).data.get? k = spec.data.get? k) ∧
    (∀ (processId raw : String) (spec : NodeSpec) (c : ProcessConfig) (svc : Services) (w : World),
      (Schema.discover raw c.responseType c.parentTag = .ok [] ∨
        ∃ e, Schema.discover raw c.responseType c.parentTag = .error e) →
      (discoverFields processId raw spec c).exec svc w = (.ok c.outputParams, w)) ∧
    (∀ (s s' : Store) (processId : String) (node : NodeSpec), s.updateNode processId node = .ok s' →
      ∃ r d i, s.loadFlow processId = .ok r ∧ FlowDefinition.parse r.text = .ok d ∧
        d.nodes.findIdx? (·.id == node.id) = some i ∧
        s'.loadFlow processId = .ok { r with text := { d with nodes := d.nodes.set i node }.text }) ∧
    (∀ (processId raw : String) (spec : NodeSpec) (c : ProcessConfig) (F : List FieldDef) (svc : Services)
        (w : World) (r : FlowRecord) (d : FlowDefinition) (i : Nat),
      w.store.loadFlow processId = .ok r → FlowDefinition.parse r.text = .ok d → spec ∈ d.nodes →
      d.nodes.findIdx? (·.id == spec.id) = some i → (GraphNode.ofSpec spec).config = .ok (.process c) →
      Schema.discover raw c.responseType c.parentTag = .ok F → F ≠ [] →
      let written : FlowDefinition := { d with nodes := d.nodes.set i (spec.withSchema F) }
      written.ReadsBack →
      ∃ n, (FlowGraph.build written).node? i = some n ∧
        n.config = .ok (.process { c with outputParams := F, parseFullOutput := false }) ∧
        ∀ svc' req st, req.processId = processId →
          Start.load svc' ((discoverFields processId raw spec c).exec svc w).2.store req = .ok st →
          st.graph = FlowGraph.build written) := by
  refine ⟨?_, ?_, ?_, ?_, fun s s' processId node h => Store.updateNode_eq_ok h, ?_⟩
  · -- an object answer: it was read sorted, so its own schema copies it out in order
    intro raw P t M hP hM
    have hasc : M.Ascending :=
      (Json.sortedKeys_obj_iff.1 (Schema.sortedKeys_descend (Json.parse_sortedKeys hP) hM)).1
    refine ⟨?_, Schema.extract_describe hM hasc⟩
    rw [Schema.discover_json hP, hM]
  · intro raw P t first rest hP hA
    refine ⟨?_, Schema.extract_array hA _⟩
    rw [Schema.discover_json hP, hA]
  · intro text d spec c processId raw F svc w hd hspec hc hF hne
    obtain ⟨f, fs, rfl⟩ := List.exists_cons_of_ne_nil hne
    refine ⟨?_, NodeSpec.withSchema_config (FlowDefinition.parse_data_ascending hd spec hspec)
      (Schema.within_of_discover hF) hc, fun k h₁ h₂ => NodeSpec.withSchema_get? h₁ h₂⟩
    -- the write is stated with a match of this module, equal to the lemma's only once both unfold
    rewrite [exec_discoverFields, hF]
    rfl
  · intro processId raw spec c svc w h
    rcases h with h | ⟨e, h⟩ <;> rw [exec_discoverFields, h]
  · -- the next run reads the text written, which is the definition written, whose node `i` is the node
    intro processId raw spec c F svc w r d i hr hd hspec hi hc hF hne written hrt
    have hlt : i < d.nodes.length := (List.findIdx?_eq_some_iff_getElem.1 hi).1
    refine ⟨_, FlowGraph.node?_build_set hlt _, NodeSpec.withSchema_config
      (FlowDefinition.parse_data_ascending hd spec hspec) (Schema.within_of_discover hF) hc, ?_⟩
    rintro svc' req st rfl hl
    exact Start.graph_of_load (discoverFields_written hr hd hi hF hne) hrt hl

lemma exists_of_toOption_map {ε α β : Type} {x : Except ε α} {g : α → β} {b : β} (h : x.toOption.map g = some b) :
    ∃ a, x = .ok a ∧ g a = b := by
  cases x with
  | error e => cases h
  | ok a => exact ⟨a, rfl, Option.some.inj h⟩

/-- The text of a flow with one process node that asks for the schema of its answer. -/
def schemaSampleText : String :=
  "\x7b\"id\":\"p\",\"nodes\":[\x7b\"id\":\"x\",\"type\":\"proceso\",\"data\":\x7b\"parsearFullOutput\":true\x7d\x7d]\x7d"

/-- The node of that flow. -/
def schemaSampleNode : NodeSpec := { id := "x", type := "proceso", data := [("parsearFullOutput", .bool true)] }

/-- The definition that flow's text reads as. -/
def schemaSample : FlowDefinition := { id := "p", nodes := [schemaSampleNode] }

/-- A store holding that flow as `p`. -/
def schemaSampleWorld : World := { store := { flows := [{ id := "p", text := schemaSampleText }] } }

/-- Whether each node of a definition is a process node that asks for its schema. -/
def asksForSchema (d : FlowDefinition) : List Bool :=
  d.nodes.map fun n => match (GraphNode.ofSpec n).config with
    | .ok (.process c) => c.parseFullOutput
    | _ => false

/-- An answer written out of key order extracts in key order; an array of objects goes whole into
one field; the sample node, with the schema of a one-member answer written, decodes with it; an
empty answer writes nothing; and once that schema is written, the next run of the sample flow
runs the flow with the node written. -/
theorem sample_schema_written_back :
    (∃ P M, Json.parse "\x7b\"b\":1,\"a\":[]\x7d" = .ok P ∧ M.map Prod.fst = ["a", "b"] ∧
      Schema.discover "\x7b\"b\":1,\"a\":[]\x7d" (some "json") none = .ok (Schema.describe M) ∧
      Schema.extract P (Schema.describe M) none = M) ∧
    (∃ P first rest, Json.parse "[\x7b\"a\":1\x7d]" = .ok P ∧
      Schema.extract P [{ name := "campoMultiple", kind := "array", subfields := Schema.describe first }] none =
        [("campoMultiple", .arr (.obj first :: rest))]) ∧
    (∃ (d : FlowDefinition) (spec : NodeSpec) (c : ProcessConfig) (F : List FieldDef), FlowDefinition.parse schemaSampleText = .ok d ∧ spec ∈ d.nodes ∧
      F ≠ [] ∧ (GraphNode.ofSpec (spec.withSchema F)).config =
        .ok (.process { c with outputParams := F, parseFullOutput := false })) ∧
    (discoverFields "p" "\x7b\x7d" { id := "x", type := "proceso" } {}).exec {} schemaSampleWorld =
      (.ok [], schemaSampleWorld) ∧
    (∃ (c : ProcessConfig) (F : List FieldDef) (n : GraphNode),
      Schema.discover "\x7b\"a\":1\x7d" c.responseType c.parentTag = .ok F ∧ F ≠ [] ∧
      (FlowGraph.build { schemaSample with nodes := [schemaSampleNode.withSchema F] }).node? 0 = some n ∧
      n.config = .ok (.process { c with outputParams := F, parseFullOutput := false }) ∧
      ∀ svc' req st, req.processId = "p" →
        Start.load svc' ((discoverFields "p" "\x7b\"a\":1\x7d" schemaSampleNode c).exec {} schemaSampleWorld).2.store
          req = .ok st →
        st.graph = FlowGraph.build { schemaSample with nodes := [schemaSampleNode.withSchema F] }) := by
  refine ⟨?_, ?_, ?_, ?_, ?_⟩
  · have hb : (Json.parse "\x7b\"b\":1,\"a\":[]\x7d").toOption.map (fun j => j.asObject?.map Members.keys) =
        some (some ["a", "b"]) := by
      decide +kernel
    obtain ⟨P, hP, hkeys⟩ := exists_of_toOption_map hb
    cases P with
    | obj M =>
      obtain ⟨hdisc, hext⟩ := discovered_schema_extracts_and_persists.1 _ _ none M hP rfl
      exact ⟨_, M, hP, Option.some.inj hkeys, hdisc, hext⟩
    | _ => cases hkeys
  · have hb : (Json.parse "[\x7b\"a\":1\x7d]").toOption.map
        (fun j => ((j.asArray?.bind List.head?).bind Json.asObject?).isSome) = some true := by
      decide +kernel
    obtain ⟨P, hP, harr⟩ := exists_of_toOption_map hb
    rcases P with _ | _ | _ | _ | (_ | ⟨_ | _ | _ | _ | _ | first, rest⟩) | _ <;> try cases harr
    exact ⟨_, first, rest, hP, (discovered_schema_extracts_and_persists.2.1 _ _ none first rest hP rfl).2⟩
  · -- the sample node decodes as a process asking for its schema, and a one-member answer gives one field
    have hb : (FlowDefinition.parse schemaSampleText).toOption.map (fun d =>
        (d.nodes.head?.bind NodeSpec.processConfig?).map fun c =>
          (Schema.discover "\x7b\"a\":1\x7d" c.responseType c.parentTag).toOption.map List.length) =
        some (some (some 1)) := by
      decide +kernel
    obtain ⟨d, hd, hnodes⟩ := exists_of_toOption_map hb
    obtain ⟨c, hc, hlen⟩ := Option.map_eq_some_iff.1 hnodes
    obtain ⟨spec, hspec, hcfg⟩ := Option.bind_eq_some_iff.1 hc
    obtain ⟨F, hF, hlen⟩ := exists_of_toOption_map hlen
    have hne : F ≠ [] := by
      rintro rfl
      cases hlen
    have hmem : spec ∈ d.nodes := List.mem_of_head? hspec
    exact ⟨d, spec, c, F, hd, hmem, hne,
      (discovered_schema_extracts_and_persists.2.2.1 _ d spec c "p" _ F {} schemaSampleWorld hd
        hmem (NodeSpec.config_of_processConfig? hcfg) hF hne).2.1⟩
  · have hempty : (Schema.discover "\x7b\x7d" none none).toOption.map List.length = some 0 := by decide +kernel
    obtain ⟨F, hF, hlen⟩ := exists_of_toOption_map hempty
    rw [List.length_eq_zero_iff] at hlen
    subst hlen
    exact discovered_schema_extracts_and_persists.2.2.2.1 "p" "\x7b\x7d" _ {} {} schemaSampleWorld (.inl hF)
  · -- the sample's text reads as its definition, and the text written with the schema reads back
    have hd : FlowDefinition.parse schemaSampleText = .ok schemaSample :=
      FlowDefinition.parse_of_readAs (by decide +kernel)
    obtain ⟨c, hc, hsel⟩ := Option.map_eq_some_iff.1
      (by decide +kernel : schemaSampleNode.processConfig?.map (fun c => (c.responseType, c.parentTag)) =
        some (none, none))
    have hb : (Schema.discover "\x7b\"a\":1\x7d" none none).toOption.map (fun F =>
        let written : FlowDefinition := { schemaSample with nodes := [schemaSampleNode.withSchema F] }
        (F.length, (FlowDefinition.parse written.text).toOption.any written.readAs)) = some (1, true) := by
      decide +kernel
    obtain ⟨F, hF, hcheck⟩ := exists_of_toOption_map hb
    simp only [Prod.mk.injEq] at hsel hcheck
    replace hF : Schema.discover "\x7b\"a\":1\x7d" c.responseType c.parentTag = .ok F := by
      rw [hsel.1, hsel.2]
      exact hF
    have hne : F ≠ [] := by
      rintro rfl
      cases hcheck.1
    obtain ⟨n, hn, hcfg, hnext⟩ := discovered_schema_extracts_and_persists.2.2.2.2.2 "p" _ schemaSampleNode c F {}
      schemaSampleWorld { id := "p", text := schemaSampleText } schemaSample 0 rfl hd (by simp [schemaSample])
      (by decide) (NodeSpec.config_of_processConfig? hc) hF hne (FlowDefinition.parse_of_readAs hcheck.2)
    exact ⟨c, F, n, hF, hne, hn, hcfg, hnext⟩

/-- **An empty answer is not written back.** The schema of the answer `{}` has no fields: the
node keeps its declared fields, nothing is written, and its stored flow still asks for the
schema on the next run. -/
theorem empty_schema_leaves_node_asking :
    Schema.discover "\x7b\x7d" none none = .ok [] ∧
    ∃ w', (discoverFields "p" "\x7b\x7d" { id := "x", type := "proceso", data := [("parsearFullOutput", .bool true)] }
        { parseFullOutput := true, outputParams := [{ name := "a" }] }).exec {} schemaSampleWorld =
        (.ok [{ name := "a" }], w') ∧
      ((w'.store.loadFlow "p").toOption.bind fun r => (FlowDefinition.parse r.text).toOption).map asksForSchema =
        some [true] := by
  have hempty : (Schema.discover "\x7b\x7d" none none).toOption.map List.length = some 0 := by decide +kernel
  obtain ⟨F, hF, hlen⟩ := exists_of_toOption_map hempty
  rw [List.length_eq_zero_iff] at hlen
  subst hlen
  refine ⟨hF, schemaSampleWorld, ?_, by decide +kernel⟩
  rw [exec_discoverFields, hF]

end Engine

end IntegrationFlow
