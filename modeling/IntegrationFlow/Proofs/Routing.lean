import IntegrationFlow.Proofs.Nodes
import IntegrationFlow.Proofs.Execution

/-!
Which nodes a run executes: a node runs only when an earlier outcome selected an edge into it,
and, unless the run stops at its first answer, every node such an edge leads to runs.
-/

namespace IntegrationFlow

/-- The verdict a condition's outcome carries. -/
def Route.verdict : Route → Bool
  | .branch b => b
  | _ => false

/-- Whether a node of kind `k` whose outcome is `o` selects the edge `e` into a node of kind
`target`. The entry node, entry pass-throughs and nodes of unknown kind take their normal
edges; a process or a splitter takes the edges whose type matches whether it failed; a
condition takes the edges whose handle names its verdict, of either type; a subprocess takes
its edges into outputs when it succeeded, into error outputs when it failed, and its other
edges as a process does; outputs take none. -/
def Selects (k : NodeKind) (o : Route) (e : EdgeSpec) (target : NodeKind) : Bool :=
  match k with
  | .entry | .unknown _ => !e.onError
  | .process | .splitter => e.onError == o.errored
  | .condition => e.handle == some (if o.verdict then "true" else "false")
  | .subprocess =>
    match target with
    | .output => !o.errored
    | .errorOutput => o.errored
    | _ => e.onError == o.errored
  | .output | .errorOutput => false

/-- Node `i` of `g`, whose outcome is `o`, has an edge into node `j` that `o` selects. -/
def FlowGraph.Selected (g : FlowGraph) (i : Nat) (o : Route) (j : Nat) : Prop :=
  ∃ l ∈ g.outgoing i, l.target = j ∧ ∃ ni nj, g.node? i = some ni ∧ g.node? j = some nj ∧
    Selects ni.kind o l.edge nj.kind = true

lemma Route.follows_eq_selects {k : NodeKind} {o : Route} (h : o.Fits k) (e : EdgeSpec)
    (target : GraphNode) : o.follows e target = Selects k o e target.kind := by
  cases k <;> cases o <;> simp only [Route.Fits] at h
  case entry.routed b =>
    cases b <;> simp only at h
    simp only [Route.follows, Selects, EdgeSpec.follows]
    cases e.onError <;> rfl
  case unknown.routed _ b =>
    cases b <;> simp only at h
    simp only [Route.follows, Selects, EdgeSpec.follows]
    cases e.onError <;> rfl
  case condition.branch b => cases b <;> rfl
  case subprocess.nested b =>
    simp only [Route.follows, Selects, Route.errored]
    cases target.kind <;> rfl
  all_goals rfl

lemma Route.answer?_eq_none {k : NodeKind} {o : Route} (h : o.Fits k) (hk : k.isOutput = false) :
    o.answer? = none := by
  cases o with
  | answer data => cases k <;> simp_all [Route.Fits, NodeKind.isOutput]
  | _ => rfl

lemma FlowGraph.selected_iff_taken {g : FlowGraph} {i j : Nat} {ni : GraphNode} {o : Route}
    (hi : g.node? i = some ni) (hfit : o.Fits ni.kind) :
    g.Selected i o j ↔ ∃ l ∈ Traversal.taken g i o.follows, l.target = j := by
  simp only [FlowGraph.Selected, Traversal.mem_taken]
  constructor
  · rintro ⟨l, hl, rfl, ni', nj, hni, hnj, hsel⟩
    obtain rfl : ni = ni' := Option.some.inj (hi.symm.trans hni)
    exact ⟨l, ⟨hl, nj, hnj, by rw [Route.follows_eq_selects hfit]; exact hsel⟩, rfl⟩
  · rintro ⟨l, ⟨hl, nj, hnj, hf⟩, rfl⟩
    exact ⟨l, hl, rfl, ni, nj, hi, hnj, by rwa [← Route.follows_eq_selects hfit]⟩

namespace Engine

open Traversal

variable {nested : Request → Frame → Engine ExecutionResult} {req : Request} {frame : Frame}
  {svc : Services} {w w' : World} {res : ExecutionResult} {st : Start}
  {tr : List (Nat × NodeReport)} {t : Traversal}

lemma NodeRun.fits {flowName : String} {n : GraphNode} {ctx : Members} {w₁ w₂ : World}
    {r : NodeReport} (hd : n.Decoded) (h : NodeRun nested req frame flowName svc n ctx w₁ r w₂) :
    r.route.Fits n.kind := by
  obtain ⟨w₃, hx⟩ := h.runNode_ok
  exact runNode_fits hd hx

lemma Start.decoded {store : Store} (h : Start.load svc store req = .ok st) {i : Nat} {n : GraphNode}
    (hn : st.graph.node? i = some n) : n.Decoded := by
  obtain ⟨-, ⟨d, -, hg⟩, -⟩ := Start.load_eq_ok h
  rw [hg] at hn
  exact FlowGraph.decoded_of_build hn

lemma Start.entry_kind {store : Store} (h : Start.load svc store req = .ok st) :
    st.entry.kind = .entry := by
  obtain ⟨-, -, -, c, hc, -⟩ := Start.load_eq_ok h
  obtain ⟨e, -, hn⟩ := Start.entry_of_load h
  cases hcfg : st.entry.config with
  | error msg => simp [Start.fields?, hcfg] at hc
  | ok cfg =>
    have hfit := Start.decoded h hn cfg hcfg
    cases cfg <;> simp only [Start.fields?, hcfg, reduceCtorEq] at hc
    cases hk : st.entry.kind <;> simp_all [NodeConfig.Fits]

/-- The entry and every node a run ran, each with its outcome, in the order they ran. -/
def outcomes (e : Nat) (tr : List (Nat × NodeReport)) : List (Nat × Route) :=
  (e, .routed false) :: tr.map fun x => (x.1, x.2.route)

lemma Ran.fits (h : Ran nested req frame svc w res w' st tr t) {e : Nat}
    (he : st.graph.entry = some e) {y : Nat × Route} (hy : y ∈ outcomes e tr) :
    ∃ n, st.graph.node? y.1 = some n ∧ y.2.Fits n.kind := by
  rcases List.mem_cons.1 hy with rfl | hy
  · obtain ⟨e', he', hn⟩ := Start.entry_of_load h.load
    obtain rfl : e = e' := Option.some.inj (he.symm.trans he')
    refine ⟨st.entry, hn, ?_⟩
    rw [Start.entry_kind h.load]
    trivial
  · obtain ⟨x, hx, rfl⟩ := List.mem_map.1 hy
    obtain ⟨w₁, hrun, -⟩ := h.runs
    obtain ⟨n, ctx, s₁, s₂, hn, hnode⟩ := hrun.mem_trace hx
    exact ⟨n, hn, hnode.fits (Start.decoded h.load hn)⟩

/-- **Soundness of routing.** A node runs only if the entry, or a node run before it, selected
an edge into it by its outcome. -/
lemma Ran.selected_before (h : Ran nested req frame svc w res w' st tr t) {e : Nat}
    (he : st.graph.entry = some e) {pre post : List (Nat × NodeReport)} {x : Nat × NodeReport}
    (hx : tr = pre ++ x :: post) : ∃ y ∈ outcomes e pre, st.graph.Selected y.1 y.2 x.1 := by
  have hpre : ∀ y ∈ outcomes e pre, y ∈ outcomes e tr := by
    intro y hy
    rw [hx, outcomes, List.map_append]
    rcases List.mem_cons.1 hy with rfl | hy
    · exact List.mem_cons_self
    · exact List.mem_cons_of_mem _ (List.mem_append_left _ hy)
  -- the sponsor the loop recorded took an edge into the node; its outcome selected that edge
  have hsel : ∀ y ∈ outcomes e pre, ∀ l ∈ taken st.graph y.1 y.2.follows, l.target = x.1 →
      st.graph.Selected y.1 y.2 x.1 := by
    intro y hy l hl hlx
    obtain ⟨n, hn, hfit⟩ := h.fits he (hpre y hy)
    exact (FlowGraph.selected_iff_taken hn hfit).2 ⟨l, hl, hlx⟩
  obtain ⟨w₁, hrun, -⟩ := h.runs
  rcases hrun.sound hx with hp | ⟨y, hy, l, hl, hlx⟩
  · obtain ⟨-, l, hl, hlx⟩ := (mem_initial_pending he).1 hp
    exact ⟨_, List.mem_cons_self, hsel _ List.mem_cons_self l hl hlx⟩
  · have hy' : (y.1, y.2.route) ∈ outcomes e pre := List.mem_cons_of_mem _ (List.mem_map_of_mem hy)
    exact ⟨_, hy', hsel _ hy' l hl hlx⟩

lemma Ran.selected_reached (h : Ran nested req frame svc w res w' st tr t) {e : Nat}
    (he : st.graph.entry = some e) {y : Nat × Route} (hy : y ∈ outcomes e tr) {j : Nat}
    (hj : st.graph.Selected y.1 y.2 j) : j ∈ t.visited ∨ j ∈ t.pending := by
  obtain ⟨n, hn, hfit⟩ := h.fits he hy
  obtain ⟨l, hl, rfl⟩ := (FlowGraph.selected_iff_taken hn hfit).1 hj
  obtain ⟨w₁, hrun, -⟩ := h.runs
  rcases List.mem_cons.1 hy with rfl | hy
  · -- the entry's targets start out run (the entry itself) or pending
    apply hrun.closed.1
    by_cases hle : l.target = e
    · exact Or.inl (by rw [initial_visited he, hle]; exact List.mem_singleton_self e)
    · exact Or.inr ((mem_initial_pending he).2 ⟨hle, l, hl, rfl⟩)
  · obtain ⟨x, hx, rfl⟩ := List.mem_map.1 hy
    exact hrun.closed.2 x hx l hl

lemma Ran.pending_eq_nil (h : Ran nested req frame svc w res w' st tr t)
    (hgo : svc.config.drainAfterOutput = true ∨
      ∀ x ∈ tr, ∀ n, st.graph.node? x.1 = some n → n.kind.isOutput = false) :
    t.pending = [] := by
  obtain ⟨w₁, hrun, -⟩ := h.runs
  rcases h.stopped with hp | ⟨hd, ha⟩
  · exact hp
  rcases hgo with hgo | hgo
  · simp [hd] at hgo
  -- no output ran, so no outcome answered and the loop did not stop at an answer
  have hnone : ∀ x ∈ tr, x.2.route.answer? = none := by
    intro x hx
    obtain ⟨e, he, -⟩ := Start.entry_lt h.load
    obtain ⟨n, hn, hfit⟩ := h.fits he (List.mem_cons_of_mem _ (List.mem_map_of_mem hx))
    exact Route.answer?_eq_none hfit (hgo x hx n hn)
  rw [hrun.answer, List.filterMap_eq_nil_iff.2 hnone] at ha
  simp at ha

/-- **Routing.** In a run that returns, a node runs only if the entry, or a node run before it,
selected an edge into it by its outcome; and unless outputs ran and the loop stops at its first
answer, every node that an outcome of the run selected ran. -/
theorem runWith_routes_selected (h : (runWith nested req frame).exec svc w = (.ok res, w')) :
    ∃ st tr t, Ran nested req frame svc w res w' st tr t ∧ ∃ e, st.graph.entry = some e ∧
      (∀ pre x post, tr = pre ++ x :: post →
        ∃ y ∈ outcomes e pre, st.graph.Selected y.1 y.2 x.1) ∧
      ((svc.config.drainAfterOutput = true ∨
          ∀ x ∈ tr, ∀ n, st.graph.node? x.1 = some n → n.kind.isOutput = false) →
        ∀ y ∈ outcomes e tr, ∀ j, st.graph.Selected y.1 y.2 j → j = e ∨ j ∈ tr.map Prod.fst) := by
  obtain ⟨st, tr, t, hran⟩ := runWith_ok h
  obtain ⟨e, he, -⟩ := Start.entry_lt hran.load
  refine ⟨st, tr, t, hran, e, he, fun pre x post hx => hran.selected_before he hx, ?_⟩
  intro hgo y hy j hj
  obtain ⟨w₁, hrun, -⟩ := hran.runs
  have hvis := hran.selected_reached he hy hj
  rw [hran.pending_eq_nil hgo, hrun.visited, initial_visited he] at hvis
  simp only [List.mem_append, List.mem_reverse, List.mem_singleton, List.not_mem_nil, or_false] at hvis
  exact hvis.symm

/-- A store holding one flow, `f`, whose entry node `in` leads to the output node `out`. -/
def sampleWorld : World :=
  { store := { flows := [{ id := "f", text := "\x7b\"nodes\":[\x7b\"id\":\"in\",\"type\":\"entrada\",\"data\":\x7b\x7d\x7d,\x7b\"id\":\"out\",\"type\":\"salida\",\"data\":\x7b\x7d\x7d],\"edges\":[\x7b\"source\":\"in\",\"target\":\"out\"\x7d]\x7d" }] } }

/-- A request to run that flow with no input. -/
def sampleRequest : Request := { processId := "f", input := [] }

theorem sample_routes_selected :
    ∃ res w', (runWith (runFlow 10) sampleRequest (Frame.root {} sampleRequest)).exec {} sampleWorld =
        (.ok res, w') ∧
      ∃ st tr t, Ran (runFlow 10) sampleRequest (Frame.root {} sampleRequest) {} sampleWorld res w' st tr t ∧
        ∃ e, st.graph.entry = some e ∧
        (∀ pre x post, tr = pre ++ x :: post →
          ∃ y ∈ outcomes e pre, st.graph.Selected y.1 y.2 x.1) ∧
        ((({} : Services).config.drainAfterOutput = true ∨
            ∀ x ∈ tr, ∀ n, st.graph.node? x.1 = some n → n.kind.isOutput = false) →
          ∀ y ∈ outcomes e tr, ∀ j, st.graph.Selected y.1 y.2 j → j = e ∨ j ∈ tr.map Prod.fst) := by
  have hok : ((runWith (runFlow 10) sampleRequest (Frame.root {} sampleRequest)).exec {} sampleWorld).1.isOk =
      true := by
    decide +kernel
  rcases hx : (runWith (runFlow 10) sampleRequest (Frame.root {} sampleRequest)).exec {} sampleWorld with
    ⟨_ | res, w'⟩
  · rw [hx] at hok
    cases hok
  · exact ⟨res, w', rfl, runWith_routes_selected hx⟩

end Engine

end IntegrationFlow
