import IntegrationFlow.Proofs.ReadRecords
import IntegrationFlow.Proofs.Execution

/-!
Flows written back: a definition's written text reads back with no more nodes than it has, so
a bound on the nodes of every stored flow survives every schema written back.
-/

namespace IntegrationFlow

open Reader TextDecoder

lemma recordText_toList (fields : List (String × String)) :
    (recordText fields).toList = recordChars (fields.map fun p => (p.1, p.2.toList)) := by
  simp [recordText, recordChars, joinText, String.toList_intercalate, memberChars, Function.comp_def]

lemma arrayText_toList (xs : List String) :
    ("[" ++ ",".intercalate xs ++ "]").toList = '[' :: (joinText true (xs.map String.toList) ++ [']']) := by
  simp [joinText, String.toList_intercalate]

lemma recordText_head (fields : List (String × String)) : (recordText fields).toList.head? = some '\x7b' := by
  simp [recordText]

lemma quote_head (s : String) : (quote false s).toList.head? = some '"' := by
  simp [quote_toList]

lemma stopsAfter_single_null : StopsAfter single "null".toList := by
  intro fuel depth r r' rest a hr _ h
  have hr' : r.rest = 'n' :: ('u' :: 'l' :: 'l' :: rest) := by rw [hr]; rfl
  unfold single at h
  rw [skipWs_of_cons hr' (by decide)] at h
  dsimp only at h
  rw [hr'] at h
  simp [digit?] at h

lemma stopsAfter_coordText (v : Float32) : StopsAfter single (Position.coordText v).toList := by
  unfold Position.coordText
  cases h : renderFloat32? v with
  | some t => exact stopsAfter_single (renderBinary_signedNumber h)
  | none => exact stopsAfter_single_null

namespace FlowDefinition

lemma stopsAfter_position (p : Position) : StopsAfter readPosition p.text.toList := by
  rw [Position.text, recordText_toList]
  apply stopsAfter_record
  simp only [List.map_cons, List.map_nil, List.mem_cons, List.not_mem_nil, or_false]
  rintro q (rfl | rfl)
  · exact ⟨0, _, rfl, TextDecoder.Field.stopsAfter_map (fun p v => { p with x := v }) (fun _ _ _ _ => rfl)
      (stopsAfter_coordText _) fun _ _ _ => trivial⟩
  · exact ⟨1, _, rfl, TextDecoder.Field.stopsAfter_map (fun p v => { p with y := v }) (fun _ _ _ _ => rfl)
      (stopsAfter_coordText _) fun _ _ _ => trivial⟩

lemma stopsAfter_node (n : NodeSpec) : StopsAfter readNode n.text.toList := by
  rw [NodeSpec.text, recordText_toList]
  apply stopsAfter_record
  intro q hq
  simp only [List.map_append, List.mem_append, List.map_cons, List.map_nil, List.mem_cons,
    List.not_mem_nil, or_false] at hq
  rcases hq with (rfl | rfl | rfl) | hq
  · exact ⟨0, _, rfl, TextDecoder.Field.stopsAfter_map (fun n v => { n with id := v }) (fun _ _ _ _ => rfl)
      (stopsAfter_string _) fun _ _ _ => trivial⟩
  · exact ⟨1, _, rfl, TextDecoder.Field.stopsAfter_map (fun n v => { n with type := v }) (fun _ _ _ _ => rfl)
      (stopsAfter_string _) fun _ _ _ => trivial⟩
  · exact ⟨2, _, rfl, TextDecoder.Field.stopsAfter_map (fun n v => { n with data := v }) (fun _ _ _ _ => rfl)
      (stopsAfter_members _) fun _ _ _ => trivial⟩
  · -- the place is written only when it is set, as a record, which is never `null`
    cases hp : n.position with
    | none => simp [hp] at hq
    | some p =>
      simp only [hp, List.map_cons, List.map_nil, List.mem_singleton] at hq
      subst hq
      have hpos := stopsAfter_optional (stopsAfter_position p) (by rw [Position.text]; exact recordText_head _)
        (by decide) (by decide)
      exact ⟨3, _, rfl, TextDecoder.Field.stopsAfter_map (fun n v => { n with position := v }) (fun _ _ _ _ => rfl)
        hpos fun _ _ _ => trivial⟩

lemma stopsAfter_edge (e : EdgeSpec) : StopsAfter readEdge e.text.toList := by
  rw [EdgeSpec.text, recordText_toList]
  apply stopsAfter_record
  intro q hq
  simp only [List.map_append, List.mem_append, List.map_cons, List.map_nil, List.mem_cons,
    List.not_mem_nil, or_false] at hq
  have hopt (s : String) := stopsAfter_optional (stopsAfter_string s) (quote_head s) (by decide) (by decide)
  rcases hq with (rfl | rfl | rfl | rfl) | hq
  · exact ⟨0, _, rfl, TextDecoder.Field.stopsAfter_map (fun e v => { e with id := v }) (fun _ _ _ _ => rfl)
      (stopsAfter_string _) fun _ _ _ => trivial⟩
  · exact ⟨1, _, rfl, TextDecoder.Field.stopsAfter_map (fun e v => { e with source := v }) (fun _ _ _ _ => rfl)
      (stopsAfter_string _) fun _ _ _ => trivial⟩
  · exact ⟨2, _, rfl, TextDecoder.Field.stopsAfter_map (fun e v => { e with target := v }) (fun _ _ _ _ => rfl)
      (stopsAfter_string _) fun _ _ _ => trivial⟩
  · exact ⟨3, _, rfl, TextDecoder.Field.stopsAfter_map (fun e v => { e with onError := v == some "error" })
      (fun _ _ _ _ => rfl) (hopt _) fun _ _ _ => trivial⟩
  · cases hh : e.handle with
    | none => simp [hh] at hq
    | some h =>
      simp only [hh, List.map_cons, List.map_nil, List.mem_singleton] at hq
      subst hq
      exact ⟨4, _, rfl, TextDecoder.Field.stopsAfter_map (fun e v => { e with handle := v }) (fun _ _ _ _ => rfl)
        (hopt h) fun _ _ _ => trivial⟩

lemma stopsAfter_nodeTexts (ns : List NodeSpec) : ∀ t ∈ (ns.map NodeSpec.text).map String.toList, StopsAfter readNode t := by
  simp only [List.map_map, List.forall_mem_map, Function.comp_apply]
  exact fun n _ => stopsAfter_node n

lemma nodeTexts_head (ns : List NodeSpec) : ∀ t ∈ (ns.map NodeSpec.text).map String.toList, t.head? = some '\x7b' := by
  simp only [List.map_map, List.forall_mem_map, Function.comp_apply, NodeSpec.text]
  exact fun _ _ => recordText_head _

lemma stopsAfter_edgeTexts (es : List EdgeSpec) : ∀ t ∈ (es.map EdgeSpec.text).map String.toList, StopsAfter readEdge t := by
  simp only [List.map_map, List.forall_mem_map, Function.comp_apply]
  exact fun e _ => stopsAfter_edge e

lemma edgeTexts_head (es : List EdgeSpec) : ∀ t ∈ (es.map EdgeSpec.text).map String.toList, t.head? = some '\x7b' := by
  simp only [List.map_map, List.forall_mem_map, Function.comp_apply, EdgeSpec.text]
  exact fun _ _ => recordText_head _

lemma nodesField_stopsAfter {f : TextDecoder.Field FlowDefinition}
    (hread : ∀ st fuel depth r, f.read st fuel depth r =
      (list readNode fuel depth r).map fun p => ({ st with nodes := p.1 }, p.2)) (d : FlowDefinition) :
    f.StopsAfter (fun st => st.nodes.length ≤ d.nodes.length)
      ("[" ++ ",".intercalate (d.nodes.map NodeSpec.text) ++ "]").toList := by
  intro st fuel depth r r' rest st' _ hr _ h
  rw [hread] at h
  obtain ⟨v, hv⟩ := ok_of_map (g := fun v => { st with nodes := v }) h
  rw [hv] at h
  obtain rfl : { st with nodes := v } = st' := (Prod.mk.inj (Except.ok.inj h)).1
  rw [arrayText_toList] at hr
  obtain ⟨hend, hlen⟩ := list_written (stopsAfter_nodeTexts d.nodes) (nodeTexts_head d.nodes) (by simpa using hr) hv
  exact ⟨hend, by simp [hlen]⟩

/-- **A written definition reads back with no more nodes.** -/
theorem parse_text_nodes_le {d d' : FlowDefinition} (h : parse d.text = .ok d') :
    d'.nodes.length ≤ d.nodes.length := by
  unfold parse at h
  split at h
  · rename_i d₁ hrun
    obtain rfl : d₁ = d' := Except.ok.inj h
    unfold TextDecoder.run at hrun
    obtain ⟨⟨a, r⟩, hread, hfin⟩ := Engine.bind_eq_ok hrun
    obtain ⟨-, -, rfl⟩ : ∃ u, r.finish = .ok u ∧ a = d₁ := by
      cases hf : r.finish with
      | error e => simp [hf] at hfin
      | ok u => simp only [hf] at hfin; exact ⟨u, rfl, Except.ok.inj hfin⟩
    refine (record_written (I := fun st : FlowDefinition => st.nodes.length ≤ d.nodes.length)
      (Nat.zero_le _) ?_ (show (Reader.ofString d.text).rest = _ ++ [] by
        rw [List.append_nil, Reader.ofString, FlowDefinition.text, recordText_toList]) hread).2
    simp only [List.map_cons, List.map_nil, List.mem_cons, List.not_mem_nil, or_false]
    rintro q (rfl | rfl | rfl | rfl)
    · exact ⟨0, _, rfl, TextDecoder.Field.stopsAfter_map (fun d v => { d with id := v }) (fun _ _ _ _ => rfl)
        (stopsAfter_string _) fun _ _ h => h⟩
    · exact ⟨1, _, rfl, TextDecoder.Field.stopsAfter_map (fun d v => { d with name := v }) (fun _ _ _ _ => rfl)
        (stopsAfter_string _) fun _ _ h => h⟩
    · exact ⟨2, _, rfl, nodesField_stopsAfter (fun _ _ _ _ => rfl) d⟩
    · refine ⟨3, _, rfl, TextDecoder.Field.stopsAfter_map (fun d v => { d with edges := v }) (fun _ _ _ _ => rfl) ?_
        fun _ _ h => h⟩
      rw [arrayText_toList]
      exact stopsAfter_list (stopsAfter_edgeTexts d.edges) (edgeTexts_head d.edges)
  · cases h

end FlowDefinition

namespace Store

variable {s s' : Store} {n : Nat}

/-- Every flow stored in `s` that reads as a definition has at most `n` nodes. -/
def FlowsWithin (n : Nat) (s : Store) : Prop :=
  ∀ r ∈ s.flows, ∀ d, FlowDefinition.parse r.text = .ok d → d.nodes.length ≤ n

lemma mem_of_loadFlow {id : String} {r : FlowRecord} (h : s.loadFlow id = .ok r) : r ∈ s.flows := by
  unfold loadFlow at h
  split at h
  · rename_i r' hr
    cases h
    exact List.mem_reverse.1 (List.mem_of_find?_eq_some hr)
  · cases h

lemma FlowsWithin.insertFlow {r : FlowRecord} (hs : s.FlowsWithin n)
    (hr : ∀ d, FlowDefinition.parse r.text = .ok d → d.nodes.length ≤ n) : (s.insertFlow r).FlowsWithin n := by
  intro r' hr'
  unfold Store.insertFlow at hr'
  split at hr'
  · obtain ⟨f, hf, rfl⟩ := List.mem_map.1 hr'
    split
    · exact hr
    · exact hs f hf
  · rcases List.mem_append.1 hr' with hf | hf
    · exact hs r' hf
    · rw [List.mem_singleton.1 hf]
      exact hr

/-- **Writing a node back keeps the bound on stored nodes.** -/
theorem FlowsWithin.updateNode {processId : String} {node : NodeSpec} (hs : s.FlowsWithin n)
    (h : s.updateNode processId node = .ok s') : s'.FlowsWithin n := by
  unfold Store.updateNode at h
  obtain ⟨r, hr, h⟩ := Engine.bind_eq_ok h
  dsimp only at h
  split at h
  · rename_i d hparse
    simp only [pure_bind] at h
    split at h
    · cases h
    · rename_i i _
      cases h
      refine hs.insertFlow fun d' hd' => ?_
      calc d'.nodes.length
        _ ≤ (d.nodes.set i node).length := FlowDefinition.parse_text_nodes_le hd'
        _ = d.nodes.length := List.length_set
        _ ≤ n := hs r (mem_of_loadFlow hr) d hparse
  · cases h

end Store

end IntegrationFlow
