import IntegrationFlow.Proofs.Execution

/-!
What running one node can give, by the node's kind: the kind fixes the shape of the outcome,
and only undecodable data on a node that cannot fail softly, or a condition without an
expression, halts the run with a fault.
-/

namespace IntegrationFlow

/-- A configuration of the kind a node has. -/
def NodeConfig.Fits : NodeKind → NodeConfig → Prop
  | .entry, .entry _ => True
  | .process, .process _ => True
  | .condition, .condition _ => True
  | .splitter, .splitter _ => True
  | .subprocess, .subprocess _ => True
  | .output, .output _ => True
  | .errorOutput, .errorOutput _ => True
  | .unknown _, .unknown => True
  | _, _ => False

lemma exists_of_map_eq_ok {ε α β : Type} {f : α → β} {x : Except ε α} {b : β}
    (h : f <$> x = .ok b) : ∃ a, f a = b := by
  cases x with
  | error e => cases h
  | ok a => exact ⟨a, by simpa [Functor.map, Except.map] using h⟩

lemma NodeConfig.fits_decode {k : NodeKind} {data : Members} {c : NodeConfig}
    (h : NodeConfig.decode k data = .ok c) : c.Fits k := by
  cases k <;> simp only [NodeConfig.decode] at h
  case unknown tag =>
    cases h
    trivial
  all_goals
    obtain ⟨a, rfl⟩ := exists_of_map_eq_ok h
    trivial

/-- A node whose configuration, when it decoded, is of the node's kind. -/
def GraphNode.Decoded (n : GraphNode) : Prop := ∀ c, n.config = .ok c → c.Fits n.kind

lemma GraphNode.decoded_ofSpec (spec : NodeSpec) : (GraphNode.ofSpec spec).Decoded := by
  intro c hc
  simp only [GraphNode.ofSpec] at hc ⊢
  cases hd : NodeConfig.decode spec.kind spec.data with
  | error e => simp [hd, Except.mapError] at hc
  | ok c' =>
    simp only [hd, Except.mapError, Except.ok.injEq] at hc
    exact hc ▸ NodeConfig.fits_decode hd

lemma FlowGraph.nodes_foldl_add (specs : List NodeSpec) (ix : FlowGraph.NodeIndex) :
    (specs.foldl FlowGraph.NodeIndex.add ix).nodes = ix.nodes ++ specs.map GraphNode.ofSpec := by
  induction specs generalizing ix with
  | nil => simp
  | cons spec specs ih => simp [ih, FlowGraph.NodeIndex.add]

lemma FlowGraph.build_nodes (d : FlowDefinition) : (FlowGraph.build d).nodes = d.nodes.map GraphNode.ofSpec := by
  simp [FlowGraph.build, FlowGraph.nodes_foldl_add]

lemma FlowGraph.decoded_of_build {d : FlowDefinition} {i : Nat} {n : GraphNode}
    (h : (FlowGraph.build d).node? i = some n) : n.Decoded := by
  simp only [FlowGraph.node?, FlowGraph.build_nodes, List.getElem?_map, Option.map_eq_some_iff] at h
  obtain ⟨spec, -, rfl⟩ := h
  exact GraphNode.decoded_ofSpec spec

namespace Engine

variable {svc : Services} {w : World} {nested : Request → Frame → Engine ExecutionResult}
  {req : Request} {frame : Frame} {flowName : String} {n : GraphNode} {ctx : Members}

lemma exec_invalidConfig (msg : String) :
    (invalidConfig n msg ctx).exec svc w =
      (match n.kind with
        | .process => .ok (softFailure (.routed true)
            (ctx.setError "99" "Error en ejecución" ("invalid node data: " ++ msg)) ("invalid node data: " ++ msg))
        | .splitter => .ok (softFailure (.routed true)
            (ctx.setError "SPLITTER_ERROR" "Error en splitter" ("invalid node data: " ++ msg))
            ("invalid node data: " ++ msg))
        | .subprocess => .ok (softFailure (.nested true)
            (ctx.setError "SUB_ERROR" "Error en subproceso" ("invalid node data: " ++ msg))
            ("invalid node data: " ++ msg))
        | _ => .error (.fault (.invalidNode n.spec.id msg)), w) := by
  unfold invalidConfig
  cases n.kind <;> rfl

/-! Each kind of configuration, run. -/

lemma exec_runNode_invalid {msg : String} (hc : n.config = .error msg) :
    (runNode nested req frame flowName n ctx).exec svc w = (invalidConfig n msg ctx).exec svc w := by
  simp [runNode, hc, exec_bind]

lemma exec_runNode_process {c : ProcessConfig} (hc : n.config = .ok (.process c)) :
    (runNode nested req frame flowName n ctx).exec svc w =
      match (processCall req frame n.spec c ctx).exec svc w with
      | (.ok (ctx', .ok applied), w') => (.ok { route := .routed false, context := ctx', applied }, w')
      | (.ok (ctx', .error e), w') =>
        (.ok (softFailure (.routed true) (ctx'.setError "99" "Error en ejecución" e.message) e.message), w')
      | (.error h, w') => (.error h, w') := by
  simp only [runNode, hc, exec_bind, exec_read]
  rcases (processCall req frame n.spec c ctx).exec svc w with ⟨_ | ⟨ctx', _ | applied⟩, w'⟩ <;> rfl

lemma exec_runNode_condition {c : ConditionConfig} (hc : n.config = .ok (.condition c)) :
    (runNode nested req frame flowName n ctx).exec svc w =
      match c.expression with
      | none => (.error (.fault (.invalidNode n.spec.id "condition node has no expression")), w)
      | some e =>
        if Text.isBlankText e then (.error (.fault (.invalidNode n.spec.id "condition node has no expression")), w)
        else
          let o := c.decide svc.scripts svc.functions w.store.tables n.spec.id e ctx (conditionIdentity svc req frame flowName)
          (.ok { route := .branch o.met, context := o.context, applied := o.applied, error := o.error }, w) := by
  simp only [runNode, hc, exec_bind, exec_read]
  cases c.expression with
  | none => rfl
  | some e =>
    by_cases hb : Text.isBlankText e
    · simp [hb]
    · simp [hb, exec_map]

lemma exec_runNode_splitter {c : SplitterConfig} (hc : n.config = .ok (.splitter c)) :
    (runNode nested req frame flowName n ctx).exec svc w =
      (match Splitter.apply svc.codecs svc.functions { context := ctx, tables := w.store.tables, ambient := svc.ambient } c with
        | .ok (ctx', .ok produced) => .ok { route := .routed false, context := ctx', applied := produced }
        | .ok (ctx', .error e) =>
          .ok (softFailure (.routed true) (ctx'.setError "SPLITTER_ERROR" "Error en splitter" e.message) e.message)
        | .error p => .error (.panic p),
        w) := by
  simp only [runNode, hc, scope, exec_bind, exec_read, exec_get, exec_pure]
  split <;> simp_all

lemma exec_runNode_subprocess {c : SubprocessConfig} (hc : n.config = .ok (.subprocess c)) :
    (runNode nested req frame flowName n ctx).exec svc w =
      match (invoke nested req frame n.spec c ctx).exec svc w with
      | (.ok (.ok (errored, ctx', applied)), w') => (.ok { route := .nested errored, context := ctx', applied }, w')
      | (.ok (.error e), w') =>
        (.ok (softFailure (.nested true) (ctx.setError "SUB_ERROR" "Error en subproceso" e.message) e.message), w')
      | (.error h, w') => (.error h, w') := by
  simp only [runNode, hc, exec_bind, exec_read]
  rcases (invoke nested req frame n.spec c ctx).exec svc w with ⟨_ | _ | ⟨errored, ctx', applied⟩, w'⟩ <;> rfl

lemma exec_runNode_output {g : AssignmentGroups} (hc : n.config = .ok (.output g)) :
    (runNode nested req frame flowName n ctx).exec svc w =
      (.ok (let data := g.answer svc.functions { context := ctx, tables := w.store.tables, ambient := svc.ambient }
        { route := .answer data, context := ctx, applied := data }), w) := by
  simp [runNode, hc, scope, exec_bind, exec_map]

lemma exec_runNode_errorOutput {ps : List FieldDef} (hc : n.config = .ok (.errorOutput ps)) :
    (runNode nested req frame flowName n ctx).exec svc w =
      (.ok { route := .answer (errorAnswer ps ctx), context := ctx, applied := errorAnswer ps ctx }, w) := by
  simp [runNode, hc, exec_map]

lemma exec_runNode_passThrough (hc : (∃ c, n.config = .ok (.entry c)) ∨ n.config = .ok .unknown) :
    (runNode nested req frame flowName n ctx).exec svc w =
      (.ok { route := .routed false, context := ctx, applied := [] }, w) := by
  rcases hc with ⟨c, hc⟩ | hc <;> simp [runNode, hc, exec_map]

end Engine

/-- The outcome a node of a kind reports: processes and splitters route by failure,
conditions by a verdict, nodes running another flow by failure, output nodes answer, and the
others follow their normal edges. -/
def Route.Fits : NodeKind → Route → Prop
  | .process, .routed _ | .splitter, .routed _ => True
  | .condition, .branch _ => True
  | .subprocess, .nested _ => True
  | .output, .answer _ | .errorOutput, .answer _ => True
  | .entry, .routed false | .unknown _, .routed false => True
  | _, _ => False

namespace Engine

variable {svc : Services} {w w' : World} {nested : Request → Frame → Engine ExecutionResult}
  {req : Request} {frame : Frame} {flowName : String} {n : GraphNode} {ctx : Members} {r : NodeReport}

theorem runNode_fits (hd : n.Decoded) (h : (runNode nested req frame flowName n ctx).exec svc w = (.ok r, w')) :
    r.route.Fits n.kind := by
  cases hc : n.config with
  | error msg =>
    rw [exec_runNode_invalid hc, exec_invalidConfig] at h
    cases hk : n.kind <;> simp only [hk, Prod.mk.injEq, reduceCtorEq, false_and, Except.ok.injEq] at h <;>
      (obtain ⟨rfl, -⟩ := h; trivial)
  | ok c =>
    have hf := hd c hc
    cases c with
    | process c =>
      rw [exec_runNode_process hc] at h
      have hk : n.kind = .process := by cases hk : n.kind <;> simp_all [NodeConfig.Fits]
      rw [hk]
      rcases hp : (processCall req frame n.spec c ctx).exec svc w with ⟨_ | ⟨ctx', _ | applied⟩, w₁⟩ <;>
        simp only [hp, Prod.mk.injEq, reduceCtorEq, false_and, Except.ok.injEq] at h <;>
        (obtain ⟨rfl, -⟩ := h; trivial)
    | condition c =>
      rw [exec_runNode_condition hc] at h
      have hk : n.kind = .condition := by cases hk : n.kind <;> simp_all [NodeConfig.Fits]
      rw [hk]
      cases he : c.expression with
      | none => simp [he] at h
      | some e =>
        by_cases hb : Text.isBlankText e
        · simp [he, hb] at h
        · simp only [he, hb, Bool.false_eq_true, if_false, Prod.mk.injEq, Except.ok.injEq] at h
          obtain ⟨rfl, -⟩ := h
          trivial
    | splitter c =>
      rw [exec_runNode_splitter hc] at h
      have hk : n.kind = .splitter := by cases hk : n.kind <;> simp_all [NodeConfig.Fits]
      rw [hk]
      split at h <;> simp only [Prod.mk.injEq, Except.ok.injEq, reduceCtorEq, false_and] at h <;>
        (obtain ⟨rfl, -⟩ := h; trivial)
    | subprocess c =>
      rw [exec_runNode_subprocess hc] at h
      have hk : n.kind = .subprocess := by cases hk : n.kind <;> simp_all [NodeConfig.Fits]
      rw [hk]
      rcases hp : (invoke nested req frame n.spec c ctx).exec svc w with ⟨_ | _ | ⟨errored, ctx', applied⟩, w₁⟩ <;>
        simp only [hp, Prod.mk.injEq, reduceCtorEq, false_and, Except.ok.injEq] at h <;>
        (obtain ⟨rfl, -⟩ := h; trivial)
    | output g =>
      rw [exec_runNode_output hc] at h
      have hk : n.kind = .output := by cases hk : n.kind <;> simp_all [NodeConfig.Fits]
      simp only [Prod.mk.injEq, Except.ok.injEq] at h
      rw [hk, ← h.1]
      trivial
    | errorOutput ps =>
      rw [exec_runNode_errorOutput hc] at h
      have hk : n.kind = .errorOutput := by cases hk : n.kind <;> simp_all [NodeConfig.Fits]
      simp only [Prod.mk.injEq, Except.ok.injEq] at h
      rw [hk, ← h.1]
      trivial
    | entry c =>
      rw [exec_runNode_passThrough (.inl ⟨c, hc⟩)] at h
      have hk : n.kind = .entry := by cases hk : n.kind <;> simp_all [NodeConfig.Fits]
      simp only [Prod.mk.injEq, Except.ok.injEq] at h
      rw [hk, ← h.1]
      trivial
    | unknown =>
      rw [exec_runNode_passThrough (.inr hc)] at h
      obtain ⟨tag, hk⟩ : ∃ tag, n.kind = .unknown tag := by cases hk : n.kind <;> simp_all [NodeConfig.Fits]
      simp only [Prod.mk.injEq, Except.ok.injEq] at h
      rw [hk, ← h.1]
      trivial

end Engine

end IntegrationFlow
