import IntegrationFlow.Proofs.Nodes
import Mathlib.Data.List.Induction

/-!
The issues of a flow's graph: the report is empty exactly when the flow is sound
(`build_reports_defects`). The node loop keeps the invariant `Indexed`; the edge loop keeps a
link for each edge whose ends exist and an issue for each other one.
-/

namespace IntegrationFlow

/-- Nodes that index without an issue: at most one entry node, distinct ids, only known kinds,
and data that decodes. -/
structure NodesClean (ns : List NodeSpec) : Prop where
  atMostOneEntry : ns.countP (·.kind == .entry) ≤ 1
  distinctIds : (ns.map (·.id)).Nodup
  known : ∀ n ∈ ns, n.kind.isKnown
  decodes : ∀ n ∈ ns, ∃ c, NodeConfig.decode n.kind n.data = .ok c

/-- A flow whose graph has no issue: exactly one entry node, distinct ids, only known kinds, data
that decodes, and edges whose both ends name nodes. -/
structure FlowDefinition.Sound (d : FlowDefinition) : Prop where
  oneEntry : d.nodes.countP (·.kind == .entry) = 1
  distinctIds : (d.nodes.map (·.id)).Nodup
  known : ∀ n ∈ d.nodes, n.kind.isKnown
  decodes : ∀ n ∈ d.nodes, ∃ c, NodeConfig.decode n.kind n.data = .ok c
  linked : ∀ e ∈ d.edges, e.source ∈ d.nodes.map (·.id) ∧ e.target ∈ d.nodes.map (·.id)

namespace FlowGraph

/-! ### Looking up ids -/

lemma isSome_lastIndexOf (nodes : List GraphNode) (id : String) :
    (lastIndexOf nodes id).isSome ↔ id ∈ nodes.map (·.spec.id) := by
  simp only [lastIndexOf, Option.isSome_map, List.getLast?_isSome, ne_eq, List.filter_eq_nil_iff,
    not_forall, not_not, beq_iff_eq, List.mem_map]
  constructor
  · rintro ⟨⟨n, i⟩, hmem, hid⟩
    exact ⟨n, List.mem_of_getElem? (List.mem_zipIdx_iff_getElem?.1 hmem), hid⟩
  · rintro ⟨n, hn, hid⟩
    obtain ⟨i, hi⟩ := List.mem_iff_getElem?.1 hn
    exact ⟨(n, i), List.mem_zipIdx_iff_getElem?.2 hi, hid⟩

/-! ### The node loop -/

lemma ownIssues_eq_nil_iff (spec : NodeSpec) :
    (GraphNode.ofSpec spec).ownIssues = [] ↔
      (∃ c, NodeConfig.decode spec.kind spec.data = .ok c) ∧ spec.kind.isKnown := by
  unfold GraphNode.ownIssues GraphNode.ofSpec
  cases hd : NodeConfig.decode spec.kind spec.data <;> cases hk : spec.kind <;>
    simp [Except.mapError, NodeKind.isKnown]

lemma issues_add (ix : NodeIndex) (spec : NodeSpec) :
    (ix.add spec).issues = ix.issues ++ (GraphNode.ofSpec spec).ownIssues ++
      (if (lastIndexOf ix.nodes spec.id).isSome then ["duplicate node id '" ++ spec.id ++ "'"] else []) ++
      (if (spec.kind == .entry) && ix.entry.isSome then ["extra entry node '" ++ spec.id ++ "' is ignored"]
        else []) := by
  unfold NodeIndex.add
  cases hk : spec.kind == .entry <;> cases he : ix.entry <;> simp [GraphNode.ofSpec, hk]

lemma entry_add (ix : NodeIndex) (spec : NodeSpec) :
    (ix.add spec).entry = if spec.kind == .entry then ix.entry.or (some ix.nodes.length) else ix.entry := by
  unfold NodeIndex.add
  cases hk : spec.kind == .entry <;> cases he : ix.entry <;> simp [GraphNode.ofSpec, hk]

lemma nodesClean_append_singleton {ns : List NodeSpec} {s : NodeSpec} :
    NodesClean (ns ++ [s]) ↔ NodesClean ns ∧
      ((∃ c, NodeConfig.decode s.kind s.data = .ok c) ∧ s.kind.isKnown) ∧ s.id ∉ ns.map (·.id) ∧
      ((s.kind == .entry) = true → ns.countP (·.kind == .entry) = 0) := by
  constructor
  · rintro ⟨hentry, hids, hknown, hdec⟩
    simp only [List.countP_append, List.map_append, List.map_cons, List.map_nil, List.nodup_append,
      List.nodup_cons, List.not_mem_nil, not_false_eq_true, List.nodup_nil, and_self, List.mem_cons,
      or_false, ne_eq, forall_eq, true_and] at hentry hids
    simp only [List.mem_append, List.mem_cons, List.not_mem_nil, or_false] at hknown hdec
    refine ⟨⟨by omega, hids.1, fun n hn => hknown n (.inl hn), fun n hn => hdec n (.inl hn)⟩,
      ⟨hdec s (.inr rfl), hknown s (.inr rfl)⟩, fun hmem => hids.2 s.id hmem rfl, fun hk => ?_⟩
    simp only [List.countP_cons, List.countP_nil, hk, if_true] at hentry
    omega
  · rintro ⟨⟨hentry, hids, hknown, hdec⟩, ⟨hdecs, hknowns⟩, hnew, hsecond⟩
    refine ⟨?_, ?_, ?_, ?_⟩
    · rw [List.countP_append]
      cases hk : s.kind == .entry
      · simp [hk]
        omega
      · simp [hk, hsecond hk]
    · simp only [List.map_append, List.map_cons, List.map_nil, List.nodup_append, List.nodup_cons,
        List.not_mem_nil, not_false_eq_true, List.nodup_nil, and_self, List.mem_cons, or_false, true_and]
      exact ⟨hids, fun a ha b hb => by rintro rfl; exact hnew (hb ▸ ha)⟩
    · intro n hn
      rcases List.mem_append.1 hn with hn | hn
      · exact hknown n hn
      · rw [List.mem_singleton.1 hn]
        exact hknowns
    · intro n hn
      rcases List.mem_append.1 hn with hn | hn
      · exact hdec n hn
      · rw [List.mem_singleton.1 hn]
        exact hdecs

/-- What indexing the nodes `ns` leaves: their graph nodes, the first entry node among them, and
no issue exactly when they are clean. -/
structure Indexed (ns : List NodeSpec) (ix : NodeIndex) : Prop where
  nodes : ix.nodes = ns.map GraphNode.ofSpec
  entry : ix.entry = ns.findIdx? (·.kind == .entry)
  clean : ix.issues = [] ↔ NodesClean ns

lemma indexed_nil : Indexed [] {} where
  nodes := rfl
  entry := rfl
  clean := by simpa using ⟨by simp, List.nodup_nil, by simp, by simp⟩

lemma Indexed.add {ns : List NodeSpec} {ix : NodeIndex} (h : Indexed ns ix) (s : NodeSpec) :
    Indexed (ns ++ [s]) (ix.add s) where
  nodes := by simp [NodeIndex.add, h.nodes]
  entry := by
    rw [entry_add, h.entry, List.findIdx?_append, h.nodes, List.length_map]
    cases hk : s.kind == .entry <;> simp [List.findIdx?_cons, hk]
  clean := by
    -- the id is a repeat when some earlier node carries it
    have hdup : (lastIndexOf ix.nodes s.id).isSome ↔ s.id ∈ ns.map (·.id) := by
      rw [h.nodes, isSome_lastIndexOf, List.map_map]
      rfl
    -- an entry node is already known when an earlier node is one
    have hentry : ix.entry.isSome ↔ ns.countP (·.kind == .entry) ≠ 0 := by
      rw [h.entry, List.findIdx?_isSome, ne_eq, List.countP_eq_zero]
      simp
    rw [issues_add, nodesClean_append_singleton, ← h.clean, ← ownIssues_eq_nil_iff]
    simp only [List.append_eq_nil_iff, ite_eq_right_iff, List.cons_ne_nil, imp_false, and_assoc, hdup,
      Bool.and_eq_true, not_and, hentry, ne_eq, not_not]

lemma indexed_foldl (ns : List NodeSpec) : Indexed ns (ns.foldl NodeIndex.add {}) := by
  induction ns using List.reverseRecOn with
  | nil => exact indexed_nil
  | append_singleton ns s ih =>
    rw [List.foldl_append, List.foldl_cons, List.foldl_nil]
    exact ih.add s

/-! ### The edge loop -/

section Edges

variable (nodes : List GraphNode) (acc : List Link × List String) (e : EdgeSpec)

lemma fileEdge_links_length :
    (fileEdge nodes acc e).1.length =
      acc.1.length + if e.source ∈ nodes.map (·.spec.id) ∧ e.target ∈ nodes.map (·.spec.id) then 1 else 0 := by
  have hs := isSome_lastIndexOf nodes e.source
  have ht := isSome_lastIndexOf nodes e.target
  unfold fileEdge
  cases hsrc : lastIndexOf nodes e.source <;> cases htgt : lastIndexOf nodes e.target <;>
    simp_all

lemma fileEdge_issues_eq_nil :
    (fileEdge nodes acc e).2 = [] ↔
      acc.2 = [] ∧ e.source ∈ nodes.map (·.spec.id) ∧ e.target ∈ nodes.map (·.spec.id) := by
  have hs := isSome_lastIndexOf nodes e.source
  have ht := isSome_lastIndexOf nodes e.target
  unfold fileEdge
  cases hsrc : lastIndexOf nodes e.source <;> cases htgt : lastIndexOf nodes e.target <;>
    simp_all

lemma foldl_fileEdge (es : List EdgeSpec) : ∀ acc : List Link × List String,
    (es.foldl (fileEdge nodes) acc).1.length =
        acc.1.length + es.countP (fun e => e.source ∈ nodes.map (·.spec.id) ∧ e.target ∈ nodes.map (·.spec.id)) ∧
      ((es.foldl (fileEdge nodes) acc).2 = [] ↔
        acc.2 = [] ∧ ∀ e ∈ es, e.source ∈ nodes.map (·.spec.id) ∧ e.target ∈ nodes.map (·.spec.id)) := by
  induction es with
  | nil => simp
  | cons e es ih =>
    intro acc
    obtain ⟨hlen, hnil⟩ := ih (fileEdge nodes acc e)
    rw [List.foldl_cons, hlen, hnil, fileEdge_links_length, fileEdge_issues_eq_nil, List.countP_cons]
    constructor
    · split <;> simp_all <;> omega
    · simp [and_assoc]

end Edges

/-! ### The graph -/

section Build

variable (d : FlowDefinition)

lemma build_entry : (build d).entry = (d.nodes.foldl NodeIndex.add {}).entry := rfl

lemma build_links :
    (build d).links = (d.edges.foldl (fileEdge (d.nodes.foldl NodeIndex.add {}).nodes) ([], [])).1 := rfl

lemma build_issues :
    (build d).issues = (d.nodes.foldl NodeIndex.add {}).issues ++
      (d.edges.foldl (fileEdge (d.nodes.foldl NodeIndex.add {}).nodes) ([], [])).2 ++
      (if (d.nodes.foldl NodeIndex.add {}).entry.isNone then ["flow has no entry node"] else []) := rfl

lemma ids_foldl_add : ((d.nodes.foldl NodeIndex.add {}).nodes.map (·.spec.id)) = d.nodes.map (·.id) := by
  rw [(indexed_foldl d.nodes).nodes, List.map_map]
  rfl

end Build

end FlowGraph

open FlowGraph in
/-- **The issues of a flow's graph.** A graph reports no issue exactly when its flow is sound:
exactly one entry node, distinct node ids, only known kinds, data that decodes into each kind's
configuration, and edges whose both ends name nodes. Its entry is the first entry node declared;
it has a node per declared node and a link per edge whose both ends name nodes; and validating it
refuses the flow exactly when the flow has no entry node. -/
theorem build_reports_defects (d : FlowDefinition) :
    ((build d).issues = [] ↔ d.Sound) ∧
    (build d).entry = d.nodes.findIdx? (·.kind == .entry) ∧
    (build d).nodes.length = d.nodes.length ∧
    (build d).links.length =
      d.edges.countP (fun e => e.source ∈ d.nodes.map (·.id) ∧ e.target ∈ d.nodes.map (·.id)) ∧
    ∀ flowId, (∃ msg, (build d).validate flowId = .error msg) ↔ ∀ n ∈ d.nodes, (n.kind == .entry) = false := by
  have hix := indexed_foldl d.nodes
  have hedges := foldl_fileEdge (d.nodes.foldl NodeIndex.add {}).nodes d.edges ([], [])
  rw [ids_foldl_add] at hedges
  have hentry : (build d).entry = d.nodes.findIdx? (·.kind == .entry) := by rw [build_entry, hix.entry]
  -- an entry node is there exactly when some declared node is one
  have hnone : (build d).entry = none ↔ ∀ n ∈ d.nodes, (n.kind == .entry) = false := by
    rw [hentry, List.findIdx?_eq_none_iff]
  refine ⟨?_, hentry, by simp [FlowGraph.build_nodes], by simpa [build_links] using hedges.1, fun flowId => ?_⟩
  · -- the report is the nodes' issues, the edges' issues and the lack of an entry node
    have hnoEntry : (if (d.nodes.foldl NodeIndex.add {}).entry.isNone then ["flow has no entry node"] else []) = [] ↔
        d.nodes.countP (·.kind == .entry) ≠ 0 := by
      rw [← build_entry, ne_eq, List.countP_eq_zero]
      simp only [ite_eq_right_iff, List.cons_ne_nil, imp_false, Option.isNone_iff_eq_none, hnone,
        Bool.not_eq_true]
    rw [build_issues, List.append_eq_nil_iff, List.append_eq_nil_iff, hix.clean, hedges.2, hnoEntry]
    constructor
    · rintro ⟨⟨⟨hle, hids, hknown, hdec⟩, -, hlinked⟩, hpos⟩
      exact ⟨by omega, hids, hknown, hdec, hlinked⟩
    · rintro ⟨hone, hids, hknown, hdec, hlinked⟩
      exact ⟨⟨⟨by omega, hids, hknown, hdec⟩, rfl, hlinked⟩, by omega⟩
  · -- a graph without an entry node reports that it has none, so it has issues
    rw [← hnone]
    unfold FlowGraph.validate
    cases he : (build d).entry with
    | none =>
      have hissues : (build d).issues.isEmpty = false := by
        rw [build_issues, ← build_entry, he]
        simp
      simp [hissues]
    | some i => split <;> simp

end IntegrationFlow
