import IntegrationFlow.Proofs.Traversal

/-!
The engine's traversal is a run of the loop: `traverse`, given fuel beyond the nodes still to
run, ends where the loop stops, or halts where it takes its next node, on a cancelled token or
on that node's halt. Before the loop a run only reads the store.
-/

namespace IntegrationFlow

section Token

variable {svc : Services} {req : Request} {cancelAt : Option Nat}

@[simp] lemma Frame.cancelled_ofCaller (clock : Nat) :
    (Frame.ofCaller svc req cancelAt).cancelled clock = cancelAt.any (· ≤ clock) := rfl

lemma Frame.ofCaller_none : Frame.ofCaller svc req none = Frame.root svc req := rfl

end Token

namespace Engine

variable {α β : Type} {svc : Services} {w : World}

@[simp] lemma exec_pure (a : α) : (pure a : Engine α).exec svc w = (.ok a, w) := rfl
@[simp] lemma exec_throw (h : Halt) : (throw h : Engine α).exec svc w = (.error h, w) := rfl
@[simp] lemma exec_read : (read : Engine Services).exec svc w = (.ok svc, w) := rfl
@[simp] lemma exec_get : (get : Engine World).exec svc w = (.ok w, w) := rfl
@[simp] lemma exec_modify (f : World → World) : (modify f : Engine Unit).exec svc w = (.ok (), f w) := rfl

@[simp] lemma exec_record (e : LogEntry) :
    (record e).exec svc w = (.ok (), { w with audit := w.audit ++ [e] }) := rfl

@[simp] lemma exec_ofExcept (r : Except FlowError α) :
    (ofExcept r).exec svc w = (match r with | .ok a => .ok a | .error e => .error (.fault e), w) := by
  cases r <;> rfl

lemma exec_bind (x : Engine α) (f : α → Engine β) :
    (x >>= f).exec svc w =
      match x.exec svc w with
      | (.ok a, w') => (f a).exec svc w'
      | (.error e, w') => (.error e, w') := by
  unfold exec
  simp only [bind, ReaderT.bind, ExceptT.bind, ExceptT.mk, ExceptT.bindCont, StateT.bind, ReaderT.run,
    ExceptT.run, StateT.run]
  rcases x svc w with ⟨_ | _, w'⟩ <;> rfl

lemma exec_map (f : α → β) (x : Engine α) :
    (f <$> x).exec svc w =
      match x.exec svc w with
      | (.ok a, w') => (.ok (f a), w')
      | (.error e, w') => (.error e, w') := by
  rw [map_eq_pure_bind, exec_bind]
  rcases x.exec svc w with ⟨_ | _, w'⟩ <;> rfl

@[simp] lemma exec_noteExecuting (req : Request) (n : GraphNode) :
    (noteExecuting req n).exec svc w = (.ok (), { w with executed := w.executed ++ [(req.processId, n.spec.id)] }) :=
  rfl

lemma exec_runAudited {nested : Request → Frame → Engine ExecutionResult} {req : Request} {frame : Frame}
    {flowName : String} {n : GraphNode} {ctx : Members} :
    (runAudited nested req frame flowName n ctx).exec svc w =
      match (runNode nested req frame flowName n ctx).exec svc
          { w with executed := w.executed ++ [(req.processId, n.spec.id)] } with
      | (.ok r, w') =>
        (.ok r, { w' with audit := w'.audit ++ [nodeRecord req flowName n (.obj ctx) r.applied r.context r.error] })
      | (.error h, w') => (.error h, w') := by
  simp only [runAudited, exec_bind, exec_noteExecuting]
  rcases (runNode nested req frame flowName n ctx).exec svc
    { w with executed := w.executed ++ [(req.processId, n.spec.id)] } with ⟨_ | r, w'⟩ <;> rfl

/-- What the loop taking one node does: the chain's token is not cancelled yet, and the node
runs to its report and the world afterwards. -/
def NodeRun (nested : Request → Frame → Engine ExecutionResult) (req : Request) (frame : Frame)
    (flowName : String) (svc : Services) (n : GraphNode) (ctx : Members) (w : World)
    (r : NodeReport) (w' : World) : Prop :=
  frame.cancelled w.clock = false ∧ (runAudited nested req frame flowName n ctx).exec svc w = (.ok r, w')

lemma NodeRun.runNode_ok {nested : Request → Frame → Engine ExecutionResult} {req : Request} {frame : Frame}
    {flowName : String} {n : GraphNode} {ctx : Members} {r : NodeReport} {w' : World}
    (h : NodeRun nested req frame flowName svc n ctx w r w') :
    ∃ w₁, (runNode nested req frame flowName n ctx).exec svc
      { w with executed := w.executed ++ [(req.processId, n.spec.id)] } = (.ok r, w₁) := by
  obtain ⟨-, h⟩ := h
  rw [exec_runAudited] at h
  rcases hx : (runNode nested req frame flowName n ctx).exec svc
    { w with executed := w.executed ++ [(req.processId, n.spec.id)] } with ⟨_ | r', w₁⟩ <;> rw [hx] at h
  · cases h
  · obtain ⟨hr, -⟩ := Prod.mk.inj h
    cases hr
    exact ⟨w₁, rfl⟩

section Traverse

variable {nested : Request → Frame → Engine ExecutionResult} {req : Request} {frame : Frame}
  {flowName : String} {g : FlowGraph} {t₀ : Traversal} {w₀ : World}

open Traversal

/-- Where `traverse` ends: where the loop stopped, or where it took a node and the chain's
token was cancelled or the node's run halted. -/
def Ended (nested : Request → Frame → Engine ExecutionResult) (req : Request) (frame : Frame)
    (flowName : String) (svc : Services) (g : FlowGraph) (t : Traversal) (w : World) :
    Except Halt Traversal × World → Prop
  | (.ok t', w') => t' = t ∧ w' = w ∧ Stopped svc.config.drainAfterOutput t
  | (.error h, w') => ∃ i n, t.pending.head? = some i ∧ g.node? i = some n ∧
      (svc.config.drainAfterOutput = true ∨ t.answer = none) ∧
      (frame.cancelled w.clock = true ∧ h = .fault .cancelled ∧ w' = w ∨
        frame.cancelled w.clock = false ∧ (runAudited nested req frame flowName n t.context).exec svc w = (.error h, w'))

lemma pending_of_head? {t : Traversal} {i : Nat} (hi : t.pending.head? = some i) : ∃ rest, t.pending = i :: rest := by
  cases hp : t.pending with
  | nil => simp [hp] at hi
  | cons j js => simp only [hp, List.head?_cons, Option.some.injEq] at hi; exact ⟨js, hi ▸ rfl⟩

lemma traverse_exec_cancelled {fuel i : Nat} {t : Traversal} (hi : t.pending.head? = some i)
    (hk : frame.cancelled w.clock = true) :
    (traverse nested req frame flowName g (fuel + 1) t).exec svc w = (.error (.fault .cancelled), w) := by
  obtain ⟨rest, hpend⟩ := pending_of_head? hi
  simp [traverse, hpend, hk, exec_bind]

lemma traverse_exec_node {fuel i : Nat} {t : Traversal} {n : GraphNode}
    (hi : t.pending.head? = some i) (hk : frame.cancelled w.clock = false) (hv : i ∉ t.visited)
    (hn : g.node? i = some n) (hguard : svc.config.drainAfterOutput = true ∨ t.answer = none) :
    (traverse nested req frame flowName g (fuel + 1) t).exec svc w =
      match (runAudited nested req frame flowName n t.context).exec svc w with
      | (.error h, w') => (.error h, w')
      | (.ok r, w') =>
        if svc.config.drainAfterOutput = true ∨ (t.visit g i r).answer = none then
          (traverse nested req frame flowName g fuel (t.visit g i r)).exec svc w'
        else (.ok (t.visit g i r), w') := by
  obtain ⟨rest, hpend⟩ := pending_of_head? hi
  have hc : t.visited.contains i = false := by simpa using hv
  simp only [traverse, hpend, exec_bind, exec_get, hk, hc, hn, Bool.false_eq_true, if_false]
  rcases (runAudited nested req frame flowName n t.context).exec svc w with ⟨_ | r, w'⟩
  · rfl
  · cases hroute : r.route with
    | answer data =>
      by_cases hd : svc.config.drainAfterOutput = true
      · simp [hd, hroute, exec_bind]
      · simp [hd, hroute, Route.answer?, exec_bind]
    | _ =>
      -- an outcome that is no answer keeps the answer, so the guard still holds
      have hg : svc.config.drainAfterOutput = true ∨ (t.visit g i r).answer = none := by
        simpa [hroute, Route.answer?] using hguard
      simp only [hroute, if_pos hg]

theorem traverse_runs {fuel : Nat} {tr : List (Nat × NodeReport)} {t : Traversal}
    (h₀ : Inv g t₀)
    (hrun : Runs g svc.config.drainAfterOutput (NodeRun nested req frame flowName svc) t₀ w₀ tr t w)
    (hguard : svc.config.drainAfterOutput = true ∨ t.answer = none)
    (hfuel : g.nodes.length < fuel + t.visited.length) :
    ∃ tr' t' w', Runs g svc.config.drainAfterOutput (NodeRun nested req frame flowName svc) t₀ w₀
        (tr ++ tr') t' w' ∧
      Ended nested req frame flowName svc g t' w'
        ((traverse nested req frame flowName g fuel t).exec svc w) := by
  induction fuel generalizing tr t w with
  | zero =>
    have := (hrun.inv h₀).length_le
    omega
  | succ fuel ih =>
    cases hpend : t.pending with
    | nil =>
      refine ⟨[], t, w, by simpa using hrun, ?_⟩
      simp [traverse, hpend, Ended, Stopped]
    | cons i rest =>
      have hi : t.pending.head? = some i := by simp [hpend]
      obtain ⟨hfresh, n, hn⟩ := (hrun.inv h₀).head hi
      -- the loop looks at the token first: once it is cancelled, the run stops here
      cases hk : frame.cancelled w.clock
      case true =>
        refine ⟨[], t, w, by simpa using hrun, ?_⟩
        rw [traverse_exec_cancelled hi hk]
        exact ⟨i, n, hi, hn, hguard, .inl ⟨hk, rfl, rfl⟩⟩
      -- the node runs; what follows depends on whether it halted and on its outcome
      rcases hr : (runAudited nested req frame flowName n t.context).exec svc w with ⟨_ | report, w₁⟩
      · refine ⟨[], t, w, by simpa using hrun, ?_⟩
        rw [traverse_exec_node hi hk hfresh hn hguard, hr]
        exact ⟨i, n, hi, hn, hguard, .inr ⟨hk, hr⟩⟩
      · have hrun' := hrun.tail hi hn hguard ⟨hk, hr⟩
        have hfuel' : g.nodes.length < fuel + (t.visit g i report).visited.length := by
          simp only [visit_visited, List.length_cons]
          omega
        rw [traverse_exec_node hi hk hfresh hn hguard, hr]
        simp only
        -- the loop goes on unless an output answered and the engine does not drain
        split_ifs with hg
        · obtain ⟨tr', t', w', hr', he⟩ := ih hrun' hg hfuel'
          exact ⟨[(i, report)] ++ tr', t', w', by simpa using hr', he⟩
        · simp only [not_or] at hg
          refine ⟨[(i, report)], t.visit g i report, w₁, hrun', rfl, rfl, Or.inr ⟨?_, ?_⟩⟩
          · simpa using hg.1
          · exact Option.isSome_iff_ne_none.2 hg.2

lemma traverse_replay {fuel : Nat} {tr : List (Nat × NodeReport)} {t : Traversal} (h₀ : Inv g t₀)
    (hrun : Runs g svc.config.drainAfterOutput (NodeRun nested req frame flowName svc) t₀ w₀ tr t w)
    (hguard : svc.config.drainAfterOutput = true ∨ t.answer = none) :
    (traverse nested req frame flowName g (fuel + tr.length) t₀).exec svc w₀ =
      (traverse nested req frame flowName g fuel t).exec svc w := by
  induction hrun generalizing fuel with
  | refl => rfl
  | @tail tr t w i n r w' hrun hi hn hg hnode ih =>
    rw [List.length_append, List.length_singleton, ← Nat.add_assoc, Nat.add_right_comm, ih hg,
      traverse_exec_node hi hnode.1 ((hrun.inv h₀).head hi).1 hn hg, hnode.2]
    simp only [if_pos hguard]

end Traverse

/-! ### A whole run -/

/-- The world once the entry node of a run ran: it is noted as started and its audit record
is written. -/
def entered (req : Request) (st : Start) (w : World) : World :=
  { w with audit := w.audit ++ [nodeRecord req st.flowName st.entry (.obj req.input) st.context st.context none],
           executed := w.executed ++ [(req.processId, st.entry.spec.id)] }

variable {nested : Request → Frame → Engine ExecutionResult} {req : Request} {frame : Frame}

theorem runWith_exec :
    (runWith nested req frame).exec svc w =
      match Start.load svc w.store req with
      | .error e => (.error (.fault e), w)
      | .ok st =>
        match (traverse nested req frame st.flowName st.graph (st.graph.nodes.length + 1)
            (Traversal.initial st.graph st.context)).exec svc (entered req st w) with
        | (.ok t, w') => (.ok (t.result req), { w' with audit := w'.audit ++ [runRecord req st.flowName t] })
        | (.error h, w') => (.error h, w') := by
  unfold runWith
  simp only [exec_bind, exec_read, exec_get]
  cases Start.load svc w.store req with
  | error e => rfl
  | ok st =>
    simp only [exec_ofExcept, exec_noteExecuting, exec_record, entered]
    split <;> simp_all

lemma bind_eq_ok {ε α β : Type} {x : Except ε α} {f : α → Except ε β} {b : β} (h : x >>= f = .ok b) :
    ∃ a, x = .ok a ∧ f a = .ok b := by
  cases x with
  | error e => cases h
  | ok a => exact ⟨a, rfl, h⟩

lemma Start.load_eq_ok {st : Start} {store : Store} (h : Start.load svc store req = .ok st) :
    Start.record? store req.processId = .ok st.record ∧
      (∃ d, FlowDefinition.parse st.record.text = .ok d ∧ st.graph = FlowGraph.build d) ∧
      Start.entry? st.graph = .ok st.entry ∧
      ∃ c, Start.fields? st.entry = .ok c ∧
        c.resolve svc.functions store.tables svc.ambient req.input = .ok st.context := by
  unfold Start.load at h
  obtain ⟨r, hr, h⟩ := bind_eq_ok h
  obtain ⟨d, hd, h⟩ := bind_eq_ok h
  obtain ⟨entry, hentry, h⟩ := bind_eq_ok h
  obtain ⟨c, hc, h⟩ := bind_eq_ok h
  obtain ⟨ctx, hctx, h⟩ := bind_eq_ok h
  cases h
  exact ⟨hr, ⟨d, hd, rfl⟩, hentry, c, hc, hctx⟩

lemma Start.entry_of_entry? {g : FlowGraph} {n : GraphNode} (h : Start.entry? g = .ok n) :
    ∃ e, g.entry = some e ∧ g.node? e = some n := by
  unfold Start.entry? at h
  split at h
  · rename_i m hm
    cases h
    exact Option.bind_eq_some_iff.1 hm
  · cases h

lemma Start.entry_of_load {st : Start} {store : Store} (h : Start.load svc store req = .ok st) :
    ∃ e, st.graph.entry = some e ∧ st.graph.node? e = some st.entry :=
  Start.entry_of_entry? (Start.load_eq_ok h).2.2.1

lemma Start.entry_lt {st : Start} {store : Store} (h : Start.load svc store req = .ok st) :
    ∃ e, st.graph.entry = some e ∧ e < st.graph.nodes.length := by
  obtain ⟨e, he, hn⟩ := Start.entry_of_load h
  exact ⟨e, he, (List.getElem?_eq_some_iff.1 hn).1⟩

open Traversal in
/-- The loop of a run that loaded `st` goes from the entry's edges to where `traverse` ends:
its fuel is one more than the graph's nodes. -/
lemma traverse_from_entry (nested : Request → Frame → Engine ExecutionResult) (frame : Frame) {st : Start}
    (hl : Start.load svc w.store req = .ok st) :
    ∃ tr t w₁, Runs st.graph svc.config.drainAfterOutput (NodeRun nested req frame st.flowName svc)
        (initial st.graph st.context) (entered req st w) tr t w₁ ∧
      Ended nested req frame st.flowName svc st.graph t w₁
        ((traverse nested req frame st.flowName st.graph (st.graph.nodes.length + 1)
          (initial st.graph st.context)).exec svc (entered req st w)) := by
  obtain ⟨e, he, hlt⟩ := Start.entry_lt hl
  have hfuel : st.graph.nodes.length < st.graph.nodes.length + 1 + (initial st.graph st.context).visited.length := by
    omega
  obtain ⟨tr, t, w₁, hrun, hend⟩ := traverse_runs (inv_initial he hlt) Runs.refl (Or.inr rfl) hfuel
  exact ⟨tr, t, w₁, by simpa using hrun, hend⟩

open Traversal in
/-- What a run of request `req` that returned `res` and left `w'` did: it loaded `st` from the
store, ran the nodes of `tr` in order from the entry's edges until its loop stopped at `t`, and
read its result off `t`. -/
structure Ran (nested : Request → Frame → Engine ExecutionResult) (req : Request) (frame : Frame)
    (svc : Services) (w : World) (res : ExecutionResult) (w' : World) (st : Start)
    (tr : List (Nat × NodeReport)) (t : Traversal) : Prop where
  load : Start.load svc w.store req = .ok st
  runs : ∃ w₁, Runs st.graph svc.config.drainAfterOutput (NodeRun nested req frame st.flowName svc)
      (initial st.graph st.context) (entered req st w) tr t w₁ ∧
    w' = { w₁ with audit := w₁.audit ++ [runRecord req st.flowName t] }
  stopped : Stopped svc.config.drainAfterOutput t
  result : res = t.result req

open Traversal in
theorem runWith_ok {res : ExecutionResult} {w' : World}
    (h : (runWith nested req frame).exec svc w = (.ok res, w')) :
    ∃ st tr t, Ran nested req frame svc w res w' st tr t := by
  rw [runWith_exec] at h
  cases hl : Start.load svc w.store req with
  | error e => simp [hl] at h
  | ok st =>
    simp only [hl] at h
    obtain ⟨tr, t, w₁, hrun, hend⟩ := traverse_from_entry nested frame hl
    rcases hx : (traverse nested req frame st.flowName st.graph (st.graph.nodes.length + 1)
      (initial st.graph st.context)).exec svc (entered req st w) with ⟨_ | t', w₂⟩
    · simp [hx] at h
    · simp only [hx, Prod.mk.injEq, Except.ok.injEq] at h
      rw [hx] at hend
      obtain ⟨rfl, rfl, hstop⟩ := hend
      exact ⟨st, tr, t', hl, ⟨w₂, hrun, h.2.symm⟩, hstop, h.1.symm⟩

end Engine

end IntegrationFlow
