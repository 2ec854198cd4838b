import IntegrationFlow.Proofs.Routing
import Mathlib.Data.List.Forall2

/-!
The audit trail of a run: the entry's record, one record per node of its loop in the order
they ran, then the run's own record. A node's record is an error exactly when it reported a
failure it survived, and the run's record follows its result's code.
-/

namespace IntegrationFlow

lemma RunStatus.logStatus_eq_code (s : RunStatus) :
    s.logStatus = if s.code = 0 then .ok else if s.code = 98 then .incomplete else .error := by
  cases s <;> rfl

/-- A condition whose expression cannot be evaluated. -/
def ConditionConfig.Fails (c : ConditionConfig) (engine : Expr.ScriptEngine) (reg : FunctionRegistry) (tables : Tables)
    (expression : String) (ctx : Members) (id : ConditionIdentity) : Prop :=
  ∃ e, Expr.evaluateCondition engine reg { context := c.bindings ctx id, tables } expression = .error e

lemma ConditionConfig.decide_error_isSome {engine : Expr.ScriptEngine} {reg : FunctionRegistry} {tables : Tables} {nodeId expression : String}
    {c : ConditionConfig} {ctx : Members} {id : ConditionIdentity} :
    (c.decide engine reg tables nodeId expression ctx id).error.isSome ↔ c.Fails engine reg tables expression ctx id := by
  unfold ConditionConfig.decide ConditionConfig.Fails
  split
  · rename_i e he
    simp [he]
  · rename_i met hmet
    simp only [hmet, reduceCtorEq, exists_false, iff_false]
    split <;> simp

namespace Engine

open Traversal

/-! ### Computations that write no audit record -/

variable {α β : Type}

/-- A computation that leaves the audit as it found it. -/
def KeepsAudit (m : Engine α) : Prop := ∀ svc w, (m.exec svc w).2.audit = w.audit

lemma keepsAudit_pure (a : α) : KeepsAudit (pure a : Engine α) := fun _ _ => rfl
lemma keepsAudit_throw (h : Halt) : KeepsAudit (throw h : Engine α) := fun _ _ => rfl
lemma keepsAudit_get : KeepsAudit (get : Engine World) := fun _ _ => rfl

lemma keepsAudit_modify {f : World → World} (hf : ∀ w, (f w).audit = w.audit) : KeepsAudit (modify f) :=
  fun _ w => hf w

lemma keepsAudit_read_bind {f : Services → Engine β} (hf : ∀ svc, KeepsAudit (f svc)) :
    KeepsAudit (read >>= f) := by
  intro svc w
  simp only [exec_bind, exec_read]
  exact hf svc svc w

lemma KeepsAudit.bind {m : Engine α} {f : α → Engine β} (hm : KeepsAudit m) (hf : ∀ a, KeepsAudit (f a)) :
    KeepsAudit (m >>= f) := by
  intro svc w
  have hw := hm svc w
  rw [exec_bind]
  rcases hx : m.exec svc w with ⟨_ | a, w'⟩ <;> rw [hx] at hw
  · exact hw
  · exact (hf a svc w').trans hw

variable {frame : Frame} {spec : NodeSpec} {ctx : Members} {req : Request}

lemma callBackend_keepsAudit {b : BackendExecutor} {server : ServerConfig} :
    KeepsAudit (callBackend frame b spec ctx server) := by
  unfold callBackend
  dsimp only
  -- the call is logged and the clock moves; the audit stays
  refine (keepsAudit_modify ?_).bind fun _ => keepsAudit_get.bind fun w => ?_
  · intro w
    rfl
  split
  · split
    · refine (keepsAudit_modify ?_).bind fun _ => (keepsAudit_throw _).bind fun _ => keepsAudit_pure _
      intro w
      rfl
    · refine (keepsAudit_modify ?_).bind fun _ => keepsAudit_pure _
      intro w
      rfl
  · refine (keepsAudit_modify ?_).bind fun _ => keepsAudit_pure _
    intro w
    rfl

lemma discoverFields_keepsAudit {processId raw : String} {c : ProcessConfig} :
    KeepsAudit (discoverFields processId raw spec c) := by
  unfold discoverFields
  split
  · exact keepsAudit_pure _
  · exact keepsAudit_pure _
  · refine (keepsAudit_modify fun w => ?_).bind fun _ => keepsAudit_pure _
    split <;> rfl

lemma scope_keepsAudit : KeepsAudit (scope ctx) := by
  unfold scope
  exact keepsAudit_get.bind fun _ => keepsAudit_read_bind fun _ => keepsAudit_pure _

lemma processCall_keepsAudit {c : ProcessConfig} : KeepsAudit (processCall req frame spec c ctx) := by
  unfold processCall
  refine keepsAudit_read_bind fun svc => ?_
  split
  · exact keepsAudit_pure _
  refine keepsAudit_get.bind fun w => ?_
  split
  · exact keepsAudit_pure _
  refine scope_keepsAudit.bind fun _ => ?_
  split
  · exact keepsAudit_pure _
  split
  · exact keepsAudit_pure _
  refine callBackend_keepsAudit.bind fun reply => ?_
  cases reply with
  | error e =>
    dsimp only
    split <;> exact keepsAudit_pure _
  | ok raw =>
    dsimp only
    split
    · exact discoverFields_keepsAudit.bind fun _ => keepsAudit_pure _
    · exact (keepsAudit_pure _).bind fun _ => keepsAudit_pure _

variable {nested : Request → Frame → Engine ExecutionResult} {flowName : String} {node : GraphNode}

lemma runNode_keepsAudit (hn : ∀ c, node.config ≠ .ok (.subprocess c)) :
    KeepsAudit (runNode nested req frame flowName node ctx) := by
  unfold runNode
  refine keepsAudit_read_bind fun svc => ?_
  split
  · unfold invalidConfig
    split
    · exact keepsAudit_pure _
    · exact keepsAudit_pure _
    · exact keepsAudit_pure _
    · exact keepsAudit_throw _
  · exact processCall_keepsAudit.bind fun _ => by split <;> exact keepsAudit_pure _
  · split
    · exact keepsAudit_throw _
    · split
      · exact keepsAudit_throw _
      · exact keepsAudit_get.bind fun _ => keepsAudit_pure _
  · -- a splitter reports, fails, or panics
    refine scope_keepsAudit.bind fun _ => ?_
    split
    · exact keepsAudit_pure _
    · exact keepsAudit_pure _
    · exact keepsAudit_throw _
  · exact absurd ‹_› (hn _)
  · exact scope_keepsAudit.bind fun _ => keepsAudit_pure _
  · exact keepsAudit_pure _
  · exact keepsAudit_pure _
  · exact keepsAudit_pure _

/-! ### The records -/

lemma nodeRecord_marks (req : Request) (flowName : String) (node : GraphNode) (before : Json)
    (applied ctx' : Members) (error : Option String) :
    let e := nodeRecord req flowName node before applied ctx' error
    e.objectType = node.kind.tag ∧ e.status = (if error.isSome then .error else .ok) ∧
      e.traceId = req.traceId ∧ e.channel = req.channel := by
  unfold nodeRecord
  split <;> cases error <;> simp

lemma runRecord_marks (req : Request) (flowName : String) (t : Traversal) :
    let e := runRecord req flowName t
    e.objectType = "flujo" ∧ e.status = (t.result req).status.logStatus ∧
      e.traceId = req.traceId ∧ e.channel = req.channel :=
  ⟨rfl, rfl, rfl, rfl⟩

lemma NodeRun.audit {svc : Services} {w w' : World} {r : NodeReport}
    (h : NodeRun nested req frame flowName svc node ctx w r w') (hn : ∀ c, node.config ≠ .ok (.subprocess c)) :
    w'.audit = w.audit ++ [nodeRecord req flowName node (.obj ctx) r.applied r.context r.error] := by
  obtain ⟨-, h⟩ := h
  rw [exec_runAudited] at h
  have hkeep : KeepsAudit (runNode nested req frame flowName node ctx) := runNode_keepsAudit hn
  specialize hkeep svc { w with executed := w.executed ++ [(req.processId, node.spec.id)] }
  rcases hx : (runNode nested req frame flowName node ctx).exec svc
    { w with executed := w.executed ++ [(req.processId, node.spec.id)] } with ⟨_ | r', w₁⟩ <;> rw [hx] at h hkeep
  · cases h
  · obtain ⟨hr, rfl⟩ := Prod.mk.inj h
    cases hr
    simp only at hkeep
    rw [hkeep]

lemma runs_audit {svc : Services} {g : FlowGraph} {drain : Bool} {t₀ t : Traversal} {w₀ w : World}
    {tr : List (Nat × NodeReport)}
    (h : Runs g drain (NodeRun nested req frame flowName svc) t₀ w₀ tr t w)
    (hsub : ∀ x ∈ tr, ∀ n, g.node? x.1 = some n → ∀ c, n.config ≠ .ok (.subprocess c)) :
    ∃ mid, w.audit = w₀.audit ++ mid ∧
      List.Forall₂ (fun e x => ∃ n ctx, g.node? x.1 = some n ∧
        e = nodeRecord req flowName n (.obj ctx) x.2.applied x.2.context x.2.error) mid tr := by
  induction h with
  | refl => exact ⟨[], by simp, .nil⟩
  | @tail tr t s i n r s' hrun hi hn hg hnode ih =>
    obtain ⟨mid, hmid, hrel⟩ := ih fun x hx => hsub x (List.mem_append_left _ hx)
    have hnsub := hsub (i, r) (List.mem_append_right _ List.mem_cons_self) n hn
    refine ⟨mid ++ [nodeRecord req flowName n (.obj t.context) r.applied r.context r.error], ?_, ?_⟩
    · rw [hnode.audit hnsub, hmid, List.append_assoc]
    · exact List.rel_append hrel (.cons ⟨n, t.context, hn, rfl⟩ .nil)

/-! ### What a node's record says -/

variable {svc : Services} {w w' : World} {r : NodeReport}

lemma kind_of_config_subprocess (hd : node.Decoded) {c : SubprocessConfig} (hc : node.config = .ok (.subprocess c)) :
    node.kind = .subprocess := by
  have hf := hd _ hc
  cases hk : node.kind <;> simp_all [NodeConfig.Fits]

lemma runNode_error_iff_routed_failed (hd : node.Decoded) (hsub : node.kind ≠ .subprocess)
    (hcond : node.kind ≠ .condition)
    (h : (runNode nested req frame flowName node ctx).exec svc w = (.ok r, w')) :
    r.error.isSome ↔ r.route = .routed true := by
  cases hc : node.config with
  | error msg =>
    rw [exec_runNode_invalid hc, exec_invalidConfig] at h
    cases hk : node.kind <;> simp only [hk, Prod.mk.injEq, reduceCtorEq, false_and, Except.ok.injEq] at h <;>
      (obtain ⟨rfl, -⟩ := h; simp [softFailure])
    exact absurd hk hsub
  | ok c =>
    have hf := hd c hc
    cases c with
    | process c =>
      rw [exec_runNode_process hc] at h
      rcases hp : (processCall req frame node.spec c ctx).exec svc w with ⟨_ | ⟨ctx', _ | applied⟩, w₁⟩ <;>
        simp only [hp, Prod.mk.injEq, reduceCtorEq, false_and, Except.ok.injEq] at h <;>
        (obtain ⟨rfl, -⟩ := h; simp [softFailure])
    | condition c =>
      have hk : node.kind = .condition := by cases hk : node.kind <;> simp_all [NodeConfig.Fits]
      exact absurd hk hcond
    | splitter c =>
      rw [exec_runNode_splitter hc] at h
      split at h <;> simp only [Prod.mk.injEq, Except.ok.injEq, reduceCtorEq, false_and] at h <;>
        (obtain ⟨rfl, -⟩ := h; simp [softFailure])
    | subprocess c => exact absurd (kind_of_config_subprocess hd hc) hsub
    | output g =>
      rw [exec_runNode_output hc] at h
      simp only [Prod.mk.injEq, Except.ok.injEq] at h
      rw [← h.1]
      simp
    | errorOutput ps =>
      rw [exec_runNode_errorOutput hc] at h
      simp only [Prod.mk.injEq, Except.ok.injEq] at h
      rw [← h.1]
      simp
    | entry c =>
      rw [exec_runNode_passThrough (.inl ⟨c, hc⟩)] at h
      simp only [Prod.mk.injEq, Except.ok.injEq] at h
      rw [← h.1]
      simp
    | unknown =>
      rw [exec_runNode_passThrough (.inr hc)] at h
      simp only [Prod.mk.injEq, Except.ok.injEq] at h
      rw [← h.1]
      simp

lemma runNode_condition_error_iff {c : ConditionConfig} (hc : node.config = .ok (.condition c))
    (h : (runNode nested req frame flowName node ctx).exec svc w = (.ok r, w')) :
    ∃ e, c.expression = some e ∧
      (r.error.isSome ↔ c.Fails svc.scripts svc.functions w.store.tables e ctx (conditionIdentity svc req frame flowName)) := by
  rw [exec_runNode_condition hc] at h
  cases he : c.expression with
  | none => simp [he] at h
  | some e =>
    by_cases hb : Text.isBlankText e
    · simp [he, hb] at h
    · simp only [he, hb, Bool.false_eq_true, if_false, Prod.mk.injEq, Except.ok.injEq] at h
      refine ⟨e, rfl, ?_⟩
      rw [← h.1]
      exact ConditionConfig.decide_error_isSome

/-! ### The trail of a run -/

/-- **The audit trail.** A run that returns, with no node of its loop running another flow,
adds to the audit the entry node's record, then one record per node it ran in the order they
ran, then one record of type `flujo` whose status follows the result's code; every record
carries the request's trace id and channel. A node's record is an error exactly when the node
reported one: apart from conditions (and nodes running another flow) exactly when it routes as
failed, and for a condition exactly when its expression cannot be evaluated. -/
theorem audit_records_nodes_then_run :
    (∀ (nested : Request → Frame → Engine ExecutionResult) req frame svc w res w',
      (runWith nested req frame).exec svc w = (.ok res, w') →
      ∃ st tr t, Ran nested req frame svc w res w' st tr t ∧
        ((∀ x ∈ tr, ∀ n, st.graph.node? x.1 = some n → n.kind ≠ .subprocess) →
          ∃ first mid last, w'.audit = w.audit ++ first :: mid ++ [last] ∧
            first.objectType = NodeKind.entry.tag ∧ first.status = .ok ∧
            List.Forall₂ (fun e x => ∃ n, st.graph.node? x.1 = some n ∧ e.objectType = n.kind.tag ∧
              e.status = (if x.2.error.isSome then .error else .ok)) mid tr ∧
            last.objectType = "flujo" ∧
            last.status = (if res.status.code = 0 then .ok else if res.status.code = 98 then .incomplete else .error) ∧
            ∀ e ∈ first :: mid ++ [last], e.traceId = req.traceId ∧ e.channel = req.channel)) ∧
    (∀ (nested : Request → Frame → Engine ExecutionResult) req frame flowName svc (n : GraphNode) ctx w r w',
      n.Decoded → n.kind ≠ .subprocess → (runNode nested req frame flowName n ctx).exec svc w = (.ok r, w') →
        (n.kind ≠ .condition → (r.error.isSome ↔ r.route = .routed true)) ∧
        ∀ c, n.config = .ok (.condition c) → ∃ e, c.expression = some e ∧
          (r.error.isSome ↔ c.Fails svc.scripts svc.functions w.store.tables e ctx (conditionIdentity svc req frame flowName))) := by
  refine ⟨fun nested req frame svc w res w' h => ?_, fun nested req frame flowName svc n ctx w r w' hd hsub h =>
    ⟨fun hcond => runNode_error_iff_routed_failed hd hsub hcond h, fun c hc => runNode_condition_error_iff hc h⟩⟩
  obtain ⟨st, tr, t, hran⟩ := runWith_ok h
  refine ⟨st, tr, t, hran, fun hsub => ?_⟩
  obtain ⟨w₁, hruns, hw'⟩ := hran.runs
  -- no node of the loop runs another flow, so the loop adds one record per node
  have hsub' : ∀ x ∈ tr, ∀ n, st.graph.node? x.1 = some n → ∀ c, n.config ≠ .ok (.subprocess c) :=
    fun x hx n hn c hc => hsub x hx n hn (kind_of_config_subprocess (Start.decoded hran.load hn) hc)
  obtain ⟨mid, hmid, hrel⟩ := runs_audit hruns hsub'
  have hfirst := nodeRecord_marks req st.flowName st.entry (.obj req.input) st.context st.context none
  have hlast := runRecord_marks req st.flowName t
  -- each record of the loop is the record of its node
  have hrel' : List.Forall₂ (fun e (x : Nat × NodeReport) => (e.traceId = req.traceId ∧ e.channel = req.channel) ∧
      ∃ n, st.graph.node? x.1 = some n ∧ e.objectType = n.kind.tag ∧
        e.status = (if x.2.error.isSome then .error else .ok)) mid tr := by
    refine hrel.imp fun e x ⟨n, ctx, hn, he⟩ => ?_
    have hmarks := nodeRecord_marks req st.flowName n (.obj ctx) x.2.applied x.2.context x.2.error
    rw [he]
    exact ⟨⟨hmarks.2.2.1, hmarks.2.2.2⟩, n, hn, hmarks.1, hmarks.2.1⟩
  obtain ⟨hmidMarks, hnodes⟩ := (List.forall₂_and_left _ _).1 hrel'
  refine ⟨_, mid, _, ?_, ?_, hfirst.2.1, hnodes, hlast.1, ?_, ?_⟩
  · rw [hw', hmid]
    simp [entered]
  · rw [hfirst.1, Start.entry_kind hran.load]
  · rw [hlast.2.1, ← hran.result, RunStatus.logStatus_eq_code]
  · intro e he
    simp only [List.cons_append, List.mem_cons, List.mem_append, List.not_mem_nil, or_false] at he
    rcases he with rfl | he | rfl
    · exact hfirst.2.2
    · exact hmidMarks e he
    · exact hlast.2.2

/-- The sample run writes its entry's record first and the run's last, and a condition that is
not met is no error. -/
theorem sample_audit_trail :
    (∃ res w', (runWith (runFlow 10) sampleRequest (Frame.root {} sampleRequest)).exec {} sampleWorld = (.ok res, w') ∧
      ∃ first mid last, w'.audit = first :: mid ++ [last] ∧ first.objectType = "entrada" ∧
        last.objectType = "flujo") ∧
    (let n : GraphNode :=
      { spec := { id := "c", type := "condicion" }, kind := .condition,
        config := .ok (.condition { expression := some "1 > 2" }) }
     ∃ r w', (runNode (runFlow 0) sampleRequest (Frame.root {} sampleRequest) "f" n []).exec {} sampleWorld =
        (.ok r, w') ∧ r.error = none) := by
  obtain ⟨hrunOk, hnoSub⟩ : ((runWith (runFlow 10) sampleRequest (Frame.root {} sampleRequest)).exec {} sampleWorld).1.isOk = true ∧
      (Start.load {} sampleWorld.store sampleRequest).toOption.map
        (fun st => st.graph.nodes.all fun n => n.kind.tag != "subproceso") = some true := by
    decide +kernel
  refine ⟨?_, ?_⟩
  · rcases hx : (runWith (runFlow 10) sampleRequest (Frame.root {} sampleRequest)).exec {} sampleWorld with
      ⟨_ | res, w'⟩
    · rw [hx] at hrunOk
      cases hrunOk
    obtain ⟨st, tr, t, hran, htrail⟩ := audit_records_nodes_then_run.1 _ _ _ _ _ _ _ hx
    -- the sample flow has no node running another flow
    have hsub : ∀ x ∈ tr, ∀ n, st.graph.node? x.1 = some n → n.kind ≠ .subprocess := by
      intro x _ n hn hk
      rw [hran.load] at hnoSub
      simp only [Except.toOption, Option.map_some, Option.some.injEq, List.all_eq_true] at hnoSub
      have := hnoSub n (List.mem_of_getElem? hn)
      simp [hk, NodeKind.tag] at this
    obtain ⟨first, mid, last, haudit, hfirst, -, -, hlast, -⟩ := htrail hsub
    exact ⟨res, w', rfl, first, mid, last, haudit, hfirst, hlast⟩
  · intro n
    have hok : ((runNode (runFlow 0) sampleRequest (Frame.root {} sampleRequest) "f" n []).exec {} sampleWorld).1.isOk =
        true ∧
        (Expr.evaluateCondition ({} : Services).scripts ({} : Services).functions
          { context := ({ expression := some "1 > 2" } : ConditionConfig).bindings []
              (conditionIdentity {} sampleRequest (Frame.root {} sampleRequest) "f"),
            tables := sampleWorld.store.tables } "1 > 2").toOption = some false := by
      decide +kernel
    rcases hx : (runNode (runFlow 0) sampleRequest (Frame.root {} sampleRequest) "f" n []).exec {} sampleWorld with
      ⟨_ | r, w'⟩
    · rw [hx] at hok
      cases hok.1
    have hd : n.Decoded := by
      intro c hc
      cases hc
      trivial
    obtain ⟨e, he, hiff⟩ := (audit_records_nodes_then_run.2 _ _ _ _ _ _ _ _ _ _ hd (fun h => by cases h) hx).2 _ rfl
    cases he
    -- the expression evaluates, to false
    have hnot : ¬ ConditionConfig.Fails { expression := some "1 > 2" } ({} : Services).scripts ({} : Services).functions
        sampleWorld.store.tables "1 > 2" [] (conditionIdentity {} sampleRequest (Frame.root {} sampleRequest) "f") := by
      rintro ⟨err, herr⟩
      rw [herr] at hok
      cases hok.2
    refine ⟨r, w', rfl, ?_⟩
    simpa [hnot] using hiff

end Engine

end IntegrationFlow
