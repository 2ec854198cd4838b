import IntegrationFlow.Proofs.Result

/-!
Draining after an output. In a flow with no subprocess node the run that does not drain is
the run that drains, cut at its first output (`undrained_run_stops_at_first_output`), by one
induction over the two loops in lockstep; a nested run breaks this (`nested_run_drains_too`).
-/

namespace IntegrationFlow

/-- The services with the engine set to drain after an output, or not. -/
def Services.draining (svc : Services) (d : Bool) : Services :=
  { svc with config := { svc.config with drainAfterOutput := d } }

@[simp] lemma Services.draining_drainAfterOutput (svc : Services) (d : Bool) :
    (svc.draining d).config.drainAfterOutput = d := rfl

namespace Engine

/-! ### Computations that do not read the setting -/

variable {α β : Type}

/-- A computation that runs alike whether or not the engine drains after an output. -/
def DrainBlind (m : Engine α) : Prop := ∀ svc d w, m.exec (svc.draining d) w = m.exec svc w

lemma drainBlind_pure (a : α) : DrainBlind (pure a : Engine α) := fun _ _ _ => rfl
lemma drainBlind_throw (h : Halt) : DrainBlind (throw h : Engine α) := fun _ _ _ => rfl
lemma drainBlind_get : DrainBlind (get : Engine World) := fun _ _ _ => rfl
lemma drainBlind_modify (f : World → World) : DrainBlind (modify f : Engine Unit) := fun _ _ _ => rfl

lemma drainBlind_read_bind {f : Services → Engine β} (hf : ∀ svc d, f (svc.draining d) = f svc)
    (hb : ∀ svc, DrainBlind (f svc)) : DrainBlind (read >>= f) := by
  intro svc d w
  simp only [exec_bind, exec_read]
  rw [hf]
  exact hb svc svc d w

lemma DrainBlind.bind {m : Engine α} {f : α → Engine β} (hm : DrainBlind m) (hf : ∀ a, DrainBlind (f a)) :
    DrainBlind (m >>= f) := by
  intro svc d w
  rw [exec_bind, exec_bind, hm]
  rcases m.exec svc w with ⟨_ | a, w'⟩
  · rfl
  · exact hf a svc d w'

variable {frame : Frame} {spec : NodeSpec} {ctx : Members} {req : Request}

lemma callBackend_drainBlind {b : BackendExecutor} {server : ServerConfig} :
    DrainBlind (callBackend frame b spec ctx server) := by
  unfold callBackend
  dsimp only
  refine (drainBlind_modify _).bind fun _ => drainBlind_get.bind fun w => ?_
  split
  · split
    · exact (drainBlind_modify _).bind fun _ => (drainBlind_throw _).bind fun _ => drainBlind_pure _
    · exact (drainBlind_modify _).bind fun _ => drainBlind_pure _
  · exact (drainBlind_modify _).bind fun _ => drainBlind_pure _

lemma discoverFields_drainBlind {processId raw : String} {c : ProcessConfig} :
    DrainBlind (discoverFields processId raw spec c) := by
  unfold discoverFields
  split
  · exact drainBlind_pure _
  · exact drainBlind_pure _
  · exact (drainBlind_modify _).bind fun _ => drainBlind_pure _

lemma scope_drainBlind : DrainBlind (scope ctx) := by
  unfold scope
  exact drainBlind_get.bind fun _ => drainBlind_read_bind (fun _ _ => rfl) fun _ => drainBlind_pure _

lemma processCall_drainBlind {c : ProcessConfig} : DrainBlind (processCall req frame spec c ctx) := by
  unfold processCall
  refine drainBlind_read_bind (fun _ _ => rfl) fun svc => ?_
  split
  · exact drainBlind_pure _
  refine drainBlind_get.bind fun w => ?_
  split
  · exact drainBlind_pure _
  refine scope_drainBlind.bind fun _ => ?_
  split
  · exact drainBlind_pure _
  split
  · exact drainBlind_pure _
  refine callBackend_drainBlind.bind fun reply => ?_
  cases reply with
  | error e =>
    dsimp only
    split <;> exact drainBlind_pure _
  | ok raw =>
    dsimp only
    split
    · exact discoverFields_drainBlind.bind fun _ => drainBlind_pure _
    · exact (drainBlind_pure _).bind fun _ => drainBlind_pure _

variable {nested : Request → Frame → Engine ExecutionResult} {flowName : String} {node : GraphNode}

lemma runNode_drainBlind (hn : ∀ c, node.config ≠ .ok (.subprocess c)) :
    DrainBlind (runNode nested req frame flowName node ctx) := by
  unfold runNode
  refine drainBlind_read_bind (fun _ _ => rfl) fun svc => ?_
  split
  · unfold invalidConfig
    split
    · exact drainBlind_pure _
    · exact drainBlind_pure _
    · exact drainBlind_pure _
    · exact drainBlind_throw _
  · exact processCall_drainBlind.bind fun _ => by split <;> exact drainBlind_pure _
  · split
    · exact drainBlind_throw _
    · split
      · exact drainBlind_throw _
      · exact drainBlind_get.bind fun _ => drainBlind_pure _
  · refine scope_drainBlind.bind fun _ => ?_
    split
    · exact drainBlind_pure _
    · exact drainBlind_pure _
    · exact drainBlind_throw _
  · exact absurd ‹_› (hn _)
  · exact scope_drainBlind.bind fun _ => drainBlind_pure _
  · exact drainBlind_pure _
  · exact drainBlind_pure _
  · exact drainBlind_pure _

lemma runAudited_drainBlind (hn : ∀ c, node.config ≠ .ok (.subprocess c)) :
    DrainBlind (runAudited nested req frame flowName node ctx) := by
  unfold runAudited noteExecuting record
  exact (drainBlind_modify _).bind fun _ => (runNode_drainBlind hn).bind fun _ =>
    (drainBlind_modify _).bind fun _ => drainBlind_pure _

lemma nodeRun_draining {svc : Services} {d : Bool} {w w' : World} {r : NodeReport}
    (hn : ∀ c, node.config ≠ .ok (.subprocess c)) :
    NodeRun nested req frame flowName (svc.draining d) node ctx w r w' ↔
      frame.cancelled w.clock = false ∧ (runAudited nested req frame flowName node ctx).exec svc w = (.ok r, w') := by
  unfold NodeRun
  rw [runAudited_drainBlind hn]

/-! ### Answers along a trace -/

@[simp] lemma answers_nil : answers [] = [] := rfl

@[simp] lemma answers_append (tr tr' : List (Nat × NodeReport)) :
    answers (tr ++ tr') = answers tr ++ answers tr' :=
  List.filterMap_append

@[simp] lemma answers_cons (x : Nat × NodeReport) (tr : List (Nat × NodeReport)) :
    answers (x :: tr) = x.2.route.answer?.toList ++ answers tr := by
  cases h : x.2.route.answer? <;> simp [answers, h]

lemma answers_dropLast {tr : List (Nat × NodeReport)} (h : answers tr = []) : answers tr.dropLast = [] := by
  simp only [answers, List.filterMap_eq_nil_iff] at h ⊢
  exact fun x hx => h x (List.dropLast_subset _ hx)

/-- The nodes of a trace up to and with the first that answered, or all of them when none did. -/
def upToFirstAnswer : List (Nat × NodeReport) → List (Nat × NodeReport)
  | [] => []
  | x :: xs => if x.2.route.answer?.isSome then [x] else x :: upToFirstAnswer xs

lemma upToFirstAnswer_of_answers_nil {tr : List (Nat × NodeReport)} (h : answers tr = []) :
    upToFirstAnswer tr = tr := by
  induction tr with
  | nil => rfl
  | cons x xs ih =>
    cases hx : x.2.route.answer? with
    | none =>
      rw [answers_cons, hx] at h
      simp [upToFirstAnswer, hx, ih h]
    | some a => simp [hx] at h

lemma upToFirstAnswer_cut {pre rest : List (Nat × NodeReport)} {x : Nat × NodeReport} (hpre : answers pre = [])
    (hx : x.2.route.answer?.isSome) : upToFirstAnswer (pre ++ x :: rest) = pre ++ [x] := by
  induction pre with
  | nil => simp [upToFirstAnswer, hx]
  | cons y ys ih =>
    cases hy : y.2.route.answer? with
    | none =>
      rw [answers_cons, hy] at hpre
      simp [upToFirstAnswer, hy, ih hpre]
    | some a => simp [hy] at hpre

end Engine

/-! ### The two loops in lockstep -/

/-- No node of the graph runs another flow. -/
def FlowGraph.NestsNone (g : FlowGraph) : Prop := ∀ i n, g.node? i = some n → ∀ c, n.config ≠ .ok (.subprocess c)

namespace Traversal

variable {σ : Type} {g : FlowGraph} {drain : Bool} {ran : GraphNode → Members → σ → NodeReport → σ → Prop}
  {t₀ t₁ t : Traversal} {s₀ s₁ s : σ} {tr₁ tr : List (Nat × NodeReport)}

lemma Runs.append (h₁ : Runs g drain ran t₀ s₀ tr₁ t₁ s₁) (h : Runs g drain ran t₁ s₁ tr t s) :
    Runs g drain ran t₀ s₀ (tr₁ ++ tr) t s := by
  induction h with
  | refl => simpa using h₁
  | tail _ hi hn hg hran ih => simpa using ih.tail hi hn hg hran

end Traversal

namespace Engine

open Traversal

variable {nested : Request → Frame → Engine ExecutionResult} {req : Request} {frame : Frame}
  {flowName : String} {g : FlowGraph}

/-- **Up to its first answer the loop runs alike whether or not it drains.** In a graph whose
nodes run no other flow, from a state with no answer yet, the loop runs under both settings the
same nodes with the same reports through the same worlds, up to and with the first node that
answers. When no node answers, the two loops end alike, returned or halted; otherwise the loop
that does not drain stops there, and the one that drains goes on from there. -/
lemma traverse_until_answer (svc : Services) (hflat : g.NestsNone)
    {fuel : Nat} {t : Traversal} {w : World} (ht : Inv g t) (hans : t.answer = none)
    (hfuel : g.nodes.length < fuel + t.visited.length) :
    ∃ tr t' w', Runs g true (NodeRun nested req frame flowName (svc.draining true)) t w tr t' w' ∧
      ((answers tr = [] ∧
          (traverse nested req frame flowName g fuel t).exec (svc.draining false) w =
            (traverse nested req frame flowName g fuel t).exec (svc.draining true) w ∧
          Ended nested req frame flowName (svc.draining true) g t' w'
            ((traverse nested req frame flowName g fuel t).exec (svc.draining true) w)) ∨
        (∃ pre x, tr = pre ++ [x] ∧ answers pre = [] ∧ x.2.route.answer?.isSome ∧
          (traverse nested req frame flowName g fuel t).exec (svc.draining false) w = (.ok t', w') ∧
          (traverse nested req frame flowName g fuel t).exec (svc.draining true) w =
            (traverse nested req frame flowName g (fuel - tr.length) t').exec (svc.draining true) w')) := by
  induction fuel generalizing t w with
  | zero =>
    have := ht.length_le
    omega
  | succ fuel ih =>
    cases hpend : t.pending with
    | nil =>
      refine ⟨[], t, w, .refl, Or.inl ⟨rfl, ?_, ?_⟩⟩
      · simp [traverse, hpend]
      · simp [traverse, hpend, Ended, Stopped]
    | cons i rest =>
      have hi : t.pending.head? = some i := by simp [hpend]
      obtain ⟨hfresh, n, hn⟩ := ht.head hi
      have hblind : DrainBlind (runAudited nested req frame flowName n t.context) :=
        runAudited_drainBlind (hflat i n hn)
      -- a cancelled token stops both loops where they take the node
      cases hk : frame.cancelled w.clock
      case true =>
        refine ⟨[], t, w, .refl, Or.inl ⟨rfl, ?_, ?_⟩⟩
        · rw [traverse_exec_cancelled hi hk, traverse_exec_cancelled hi hk]
        · rw [traverse_exec_cancelled hi hk]
          exact ⟨i, n, hi, hn, Or.inl rfl, .inl ⟨hk, rfl, rfl⟩⟩
      -- both loops run the lowest pending node, and it runs alike
      have hT : (traverse nested req frame flowName g (fuel + 1) t).exec (svc.draining true) w = _ :=
        traverse_exec_node hi hk hfresh hn (Or.inl rfl)
      have hF : (traverse nested req frame flowName g (fuel + 1) t).exec (svc.draining false) w = _ :=
        traverse_exec_node hi hk hfresh hn (Or.inr hans)
      rw [hT, hF, hblind svc true, hblind svc false]
      rcases hr : (runAudited nested req frame flowName n t.context).exec svc w with ⟨_ | r, w₁⟩
      · refine ⟨[], t, w, .refl, Or.inl ⟨rfl, rfl, i, n, hi, hn, Or.inl rfl, .inr ⟨hk, ?_⟩⟩⟩
        rw [hblind]
        exact hr
      · have hnode : NodeRun nested req frame flowName (svc.draining true) n t.context w r w₁ :=
          (nodeRun_draining (hflat i n hn)).2 ⟨hk, hr⟩
        have hstep : Runs g true (NodeRun nested req frame flowName (svc.draining true)) t w [(i, r)]
            (t.visit g i r) w₁ := by
          simpa using (Runs.refl : Runs g true (NodeRun nested req frame flowName (svc.draining true))
            t w [] t w).tail hi hn (Or.inl rfl) hnode
        cases hroute : r.route.answer? with
        | some a =>
          -- an output answered: the loop that does not drain stops here
          refine ⟨[(i, r)], t.visit g i r, w₁, hstep, Or.inr ⟨[], (i, r), rfl, rfl, by simp [hroute], ?_, ?_⟩⟩
          · simp [hroute]
          · simp
        | none =>
          have hans' : (t.visit g i r).answer = none := by simp [hroute, hans]
          have hfuel' : g.nodes.length < fuel + (t.visit g i r).visited.length := by
            simp only [visit_visited, List.length_cons]
            omega
          obtain ⟨tr, t', w', hrun, hcases⟩ := ih (ht.step hi) hans' hfuel'
          refine ⟨(i, r) :: tr, t', w', by simpa using hstep.append hrun, ?_⟩
          simp only [hans', or_true, if_true]
          rcases hcases with ⟨hnil, hF, hend⟩ | ⟨pre, x, rfl, hpre, hx, hF, hT⟩
          · exact Or.inl ⟨by simpa [hroute] using hnil, hF, hend⟩
          · refine Or.inr ⟨(i, r) :: pre, x, rfl, by simpa [hroute] using hpre, hx, hF, ?_⟩
            simpa using hT

variable {svc : Services}

lemma runs_undrained (hflat : g.NestsNone)
    {t₀ t : Traversal} {w₀ w : World} {tr : List (Nat × NodeReport)} (h₀ : t₀.answer = none)
    (h : Runs g true (NodeRun nested req frame flowName (svc.draining true)) t₀ w₀ tr t w)
    (hpre : answers tr.dropLast = []) :
    Runs g false (NodeRun nested req frame flowName (svc.draining false)) t₀ w₀ tr t w := by
  induction h with
  | refl => exact .refl
  | @tail tr t w i n r w' hrun hi hn _ hnode ih =>
    rw [List.dropLast_concat] at hpre
    have hnone : t.answer = none := by
      rw [hrun.answer, h₀, Option.or_none]
      simpa [answers] using congrArg List.getLast? hpre
    -- the node ran alike under the setting that does not drain
    exact (ih (answers_dropLast hpre)).tail hi hn (Or.inr hnone)
      ((nodeRun_draining (hflat i n hn)).2 ((nodeRun_draining (hflat i n hn)).1 hnode))

/-! ### Whole runs -/

open Traversal in
/-- What a run of `req` that loaded `st` did, whether it returned or halted: it ran the nodes of
`tr` in order from the entry's edges, and then `o` is the result read off where its loop
stopped, or the halt where the loop took its next node: the token cancelled, or the node's. -/
def RanTo (nested : Request → Frame → Engine ExecutionResult) (req : Request) (frame : Frame)
    (svc : Services) (w : World) (st : Start) (tr : List (Nat × NodeReport)) :
    Except Halt ExecutionResult × World → Prop
  | (.ok res, w') => ∃ t w₁, Runs st.graph svc.config.drainAfterOutput (NodeRun nested req frame st.flowName svc)
      (initial st.graph st.context) (entered req st w) tr t w₁ ∧ Stopped svc.config.drainAfterOutput t ∧
      res = t.result req ∧ w' = { w₁ with audit := w₁.audit ++ [runRecord req st.flowName t] }
  | (.error h, w') => ∃ t w₁, Runs st.graph svc.config.drainAfterOutput (NodeRun nested req frame st.flowName svc)
      (initial st.graph st.context) (entered req st w) tr t w₁ ∧ ∃ i n, t.pending.head? = some i ∧
      st.graph.node? i = some n ∧
      (frame.cancelled w₁.clock = true ∧ h = .fault .cancelled ∧ w' = w₁ ∨
        frame.cancelled w₁.clock = false ∧ (runAudited nested req frame st.flowName n t.context).exec svc w₁ = (.error h, w'))

variable {w : World} {st : Start}

lemma ranTo_of_ended {tr : List (Nat × NodeReport)} {t : Traversal} {w₁ : World}
    (hload : Start.load svc w.store req = .ok st)
    (hrun : Runs st.graph svc.config.drainAfterOutput (NodeRun nested req frame st.flowName svc)
      (initial st.graph st.context) (entered req st w) tr t w₁)
    (hend : Ended nested req frame st.flowName svc st.graph t w₁
      ((traverse nested req frame st.flowName st.graph (st.graph.nodes.length + 1)
        (initial st.graph st.context)).exec svc (entered req st w))) :
    RanTo nested req frame svc w st tr ((runWith nested req frame).exec svc w) := by
  rw [runWith_exec, hload]
  dsimp only
  rcases hx : (traverse nested req frame st.flowName st.graph (st.graph.nodes.length + 1)
    (initial st.graph st.context)).exec svc (entered req st w) with ⟨h | t', w'⟩ <;> rw [hx] at hend
  · obtain ⟨i, n, hi, hn, -, hhalt⟩ := hend
    exact ⟨t, w₁, hrun, i, n, hi, hn, hhalt⟩
  · obtain ⟨rfl, rfl, hstop⟩ := hend
    exact ⟨t', w', hrun, hstop, rfl, rfl⟩

lemma RanTo.undrained {tr : List (Nat × NodeReport)} {o : Except Halt ExecutionResult × World}
    (hflat : st.graph.NestsNone) (h : RanTo nested req frame (svc.draining true) w st tr o) (hnil : answers tr = []) :
    RanTo nested req frame (svc.draining false) w st tr o := by
  rcases o with ⟨h | res, w'⟩
  · obtain ⟨t, w₁, hrun, i, n, hi, hn, hhalt⟩ := h
    have hblind : DrainBlind (runAudited nested req frame st.flowName n t.context) :=
      runAudited_drainBlind (hflat i n hn)
    refine ⟨t, w₁, runs_undrained hflat initial_answer hrun (answers_dropLast hnil), i, n, hi, hn, ?_⟩
    rw [hblind] at hhalt ⊢
    exact hhalt
  · obtain ⟨t, w₁, hrun, hstop, hres, hw⟩ := h
    -- the drained loop stopped with nothing pending, which stops the other one too
    have hpend : t.pending = [] := by simpa [Stopped] using hstop
    exact ⟨t, w₁, runs_undrained hflat initial_answer hrun (answers_dropLast hnil), Or.inl hpend, hres, hw⟩

lemma Start.nestsNone (hload : Start.load svc w.store req = .ok st)
    (hflat : ∀ n ∈ st.graph.nodes, n.kind ≠ .subprocess) : st.graph.NestsNone := by
  intro i n hn c hc
  obtain ⟨-, ⟨d, -, hg⟩, -⟩ := Start.load_eq_ok hload
  have hfit := FlowGraph.decoded_of_build (hg ▸ hn) _ hc
  have hk : n.kind = .subprocess := by cases hk : n.kind <;> simp_all [NodeConfig.Fits]
  exact hflat n (List.mem_of_getElem? hn) hk

/-- **A run that does not drain is the run that drains, cut at its first output.** Let a flow
that loads have no node that runs another flow. The run that drains after an output runs the
nodes of some trace `tr` and ends, returned or halted; the run that does not drain runs the
nodes of `tr` up to and with the first output, and ends there. When `tr` reaches no output, the
two runs are one, down to the world they leave. Otherwise the run that does not drain completes
with the answer of that first output, however the run that drains goes on. -/
theorem undrained_run_stops_at_first_output (hload : Start.load svc w.store req = .ok st)
    (hflat : ∀ n ∈ st.graph.nodes, n.kind ≠ .subprocess) :
    ∃ tr, RanTo nested req frame (svc.draining true) w st tr ((runWith nested req frame).exec (svc.draining true) w) ∧
      RanTo nested req frame (svc.draining false) w st (upToFirstAnswer tr)
        ((runWith nested req frame).exec (svc.draining false) w) ∧
      (answers tr = [] →
        (runWith nested req frame).exec (svc.draining false) w = (runWith nested req frame).exec (svc.draining true) w) ∧
      ∀ a, (answers tr).head? = some a →
        ((runWith nested req frame).exec (svc.draining false) w).1 =
          .ok (ExecutionResult.completed req.processId req.trigger a) := by
  have hflat' : st.graph.NestsNone := Start.nestsNone hload hflat
  have hloadT : Start.load (svc.draining true) w.store req = .ok st := hload
  have hloadF : Start.load (svc.draining false) w.store req = .ok st := hload
  obtain ⟨e, he, hlt⟩ := Start.entry_lt hload
  have h₀ : Inv st.graph (initial st.graph st.context) := inv_initial he hlt
  have hfuel : st.graph.nodes.length < st.graph.nodes.length + 1 + (initial st.graph st.context).visited.length := by
    omega
  obtain ⟨tr, t, w₁, hrun, hcases⟩ := traverse_until_answer svc hflat' h₀ initial_answer hfuel
  rcases hcases with ⟨hnil, hF, hend⟩ | ⟨pre, x, rfl, hpre, hx, hF, hT⟩
  · -- no output answered: the two runs are one
    have hsame : (runWith nested req frame).exec (svc.draining false) w =
        (runWith nested req frame).exec (svc.draining true) w := by
      rw [runWith_exec, runWith_exec, hloadT, hloadF]
      dsimp only
      rw [hF]
    have hranT := ranTo_of_ended hloadT hrun hend
    refine ⟨tr, hranT, ?_, fun _ => hsame, fun a ha => by simp [hnil] at ha⟩
    rw [upToFirstAnswer_of_answers_nil hnil, hsame]
    exact hranT.undrained hflat' hnil
  · -- an output answered: the run that does not drain stops there, the other goes on from there
    obtain ⟨a, ha⟩ := Option.isSome_iff_exists.1 hx
    have hans : t.answer = some a := by
      have h := hrun.answer
      change t.answer = (answers (pre ++ [x])).getLast?.or (initial st.graph st.context).answer at h
      rw [h]
      simp [hpre, ha]
    have hfuel' : st.graph.nodes.length < st.graph.nodes.length + 1 - (pre ++ [x]).length + t.visited.length := by
      have hlen := hrun.length_le h₀
      have hvis : t.visited.length = (pre ++ [x]).length + 1 := by
        rw [hrun.visited, initial_visited he]
        simp
      rw [initial_visited he, List.length_singleton] at hlen
      omega
    obtain ⟨tr', t', w', hrun', hend'⟩ :=
      traverse_runs h₀ hrun (Or.inl (Services.draining_drainAfterOutput svc true)) hfuel'
    have hresF : (runWith nested req frame).exec (svc.draining false) w =
        (.ok (t.result req), { w₁ with audit := w₁.audit ++ [runRecord req st.flowName t] }) := by
      rw [runWith_exec, hloadF]
      dsimp only
      rw [hF]
    refine ⟨pre ++ [x] ++ tr', ranTo_of_ended hloadT hrun' (by rw [hT]; exact hend'), ?_, ?_, ?_⟩
    · rw [List.append_assoc, List.singleton_append, upToFirstAnswer_cut hpre hx, hresF]
      exact ⟨t, w₁, runs_undrained hflat' initial_answer hrun (by simpa using hpre),
        Or.inr ⟨rfl, by simp [hans]⟩, rfl, rfl⟩
    · intro hnil
      simp [ha] at hnil
    · intro a' ha'
      have haa : a' = a := by simpa [hpre, ha] using ha'.symm
      rw [hresF]
      simp [Traversal.result, hans, haa]

/-- The sample flow, whose entry leads to one output, runs under both settings as the drained
run cut at its first output. -/
theorem sample_run_stops_at_first_output :
    ∃ st, Start.load {} sampleWorld.store sampleRequest = .ok st ∧
      ∃ tr, RanTo (runFlow 10) sampleRequest (Frame.root {} sampleRequest) (({} : Services).draining true)
          sampleWorld st tr
          ((runWith (runFlow 10) sampleRequest (Frame.root {} sampleRequest)).exec (({} : Services).draining true)
            sampleWorld) ∧
        RanTo (runFlow 10) sampleRequest (Frame.root {} sampleRequest) (({} : Services).draining false)
          sampleWorld st (upToFirstAnswer tr)
          ((runWith (runFlow 10) sampleRequest (Frame.root {} sampleRequest)).exec (({} : Services).draining false)
            sampleWorld) ∧
        (answers tr = [] →
          (runWith (runFlow 10) sampleRequest (Frame.root {} sampleRequest)).exec (({} : Services).draining false)
              sampleWorld =
            (runWith (runFlow 10) sampleRequest (Frame.root {} sampleRequest)).exec (({} : Services).draining true)
              sampleWorld) ∧
        ∀ a, (answers tr).head? = some a →
          ((runWith (runFlow 10) sampleRequest (Frame.root {} sampleRequest)).exec
              (({} : Services).draining false) sampleWorld).1 =
            .ok (ExecutionResult.completed sampleRequest.processId sampleRequest.trigger a) := by
  have htags : (Start.load {} sampleWorld.store sampleRequest).toOption.map
      (fun st => st.graph.nodes.map (·.kind.tag)) = some ["entrada", "salida"] := by
    decide +kernel
  rcases hx : Start.load {} sampleWorld.store sampleRequest with e | st
  · rw [hx] at htags
    cases htags
  · rw [hx] at htags
    have hflat : ∀ n ∈ st.graph.nodes, n.kind ≠ .subprocess := by
      intro n hn hk
      have hmem : "subproceso" ∈ st.graph.nodes.map (·.kind.tag) := List.mem_map.2 ⟨n, hn, by rw [hk]; rfl⟩
      simp only [Except.toOption, Option.map_some, Option.some.injEq] at htags
      rw [htags] at hmem
      simp at hmem
    exact ⟨st, rfl, undrained_run_stops_at_first_output hx hflat⟩

/-! ### A subprocess node -/

/-- A store with a flow `p` whose subprocess node `b` runs `h` and goes on to the output `c`
(which answers `z = 1`) or the error output `d`, and the flow `h`, whose entry leads to two
outputs, the second of which answers an error code. -/
def nestedWorld : World :=
  { store := { flows := [
      { id := "p", text := "\x7b\"nodes\":[\x7b\"id\":\"a\",\"type\":\"entrada\"\x7d,\x7b\"id\":\"b\",\"type\":\"subproceso\",\"data\":\x7b\"procesoId\":\"h\"\x7d\x7d,\x7b\"id\":\"c\",\"type\":\"salida\",\"data\":\x7b\"asignaciones\":\x7b\"c\":[\x7b\"destino\":\"z\",\"tipo\":\"literal\",\"valor\":\"1\"\x7d]\x7d\x7d\x7d,\x7b\"id\":\"d\",\"type\":\"salidaError\"\x7d],\"edges\":[\x7b\"source\":\"a\",\"target\":\"b\"\x7d,\x7b\"source\":\"b\",\"target\":\"c\"\x7d,\x7b\"source\":\"b\",\"target\":\"d\"\x7d]\x7d" },
      { id := "h", text := "\x7b\"nodes\":[\x7b\"id\":\"a\",\"type\":\"entrada\"\x7d,\x7b\"id\":\"b\",\"type\":\"salida\"\x7d,\x7b\"id\":\"c\",\"type\":\"salida\",\"data\":\x7b\"asignaciones\":\x7b\"c\":[\x7b\"destino\":\"codigoError\",\"tipo\":\"literal\",\"valor\":\"1\"\x7d]\x7d\x7d\x7d],\"edges\":[\x7b\"source\":\"a\",\"target\":\"b\"\x7d,\x7b\"source\":\"a\",\"target\":\"c\"\x7d]\x7d" }] } }

/-- A request to run `p` with no input. -/
def nestedRequest : Request := { processId := "p", input := [] }

/-- The nested run drains too. Draining, `h` answers with its second output, whose error code
sends `p` to its error output `d`; not draining, `h` answers with its first output and `p` goes
on to `c`. The run that does not drain is then no prefix of the run that drains, and does not
answer as the first output of that run does. -/
theorem nested_run_drains_too :
    (execute (({} : Services).draining true) nestedWorld nestedRequest).2.executed =
        [("p", "a"), ("p", "b"), ("h", "a"), ("h", "b"), ("h", "c"), ("p", "d")] ∧
      (execute (({} : Services).draining false) nestedWorld nestedRequest).2.executed =
        [("p", "a"), ("p", "b"), ("h", "a"), ("h", "b"), ("p", "c")] ∧
      ((execute (({} : Services).draining true) nestedWorld nestedRequest).1.toOption.map fun r =>
        (r.status.code, (r.data.getD []).map fun m => (m.1, m.2.plain))) = some (0, []) ∧
      ((execute (({} : Services).draining false) nestedWorld nestedRequest).1.toOption.map fun r =>
        (r.status.code, (r.data.getD []).map fun m => (m.1, m.2.plain))) = some (0, [("z", "1")]) := by
  decide +kernel

end Engine

end IntegrationFlow
