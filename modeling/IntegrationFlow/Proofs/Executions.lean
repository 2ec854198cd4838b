import Mathlib.Algebra.BigOperators.Ring.Finset
import IntegrationFlow.Proofs.FlowText
import IntegrationFlow.Proofs.Faults

/-!
How many nodes a chain of runs starts: each run starts its nodes at most once, and a run `k`
levels above the deepest starts at most `N * (1 + B (k - 1))`, so a chain starts at most
`∑ d ≤ D, N ^ (d + 1)` nodes. `N` survives the schema written back onto a node.
-/

namespace IntegrationFlow

/-- How many nodes a stored flow has: those of its definition, or none when its text does not
read. -/
def FlowRecord.nodeCount (r : FlowRecord) : Nat :=
  match FlowDefinition.parse r.text with
  | .ok d => d.nodes.length
  | .error _ => 0

namespace Store

/-- The most nodes a flow stored in `s` has. -/
def maxNodes (s : Store) : Nat := (s.flows.map FlowRecord.nodeCount).foldr max 0

lemma nodeCount_le_maxNodes {s : Store} {r : FlowRecord} (hr : r ∈ s.flows) : r.nodeCount ≤ s.maxNodes := by
  unfold maxNodes
  generalize s.flows = fs at hr
  induction fs with
  | nil => cases hr
  | cons f fs ih =>
    rw [List.map_cons, List.foldr_cons]
    rcases List.mem_cons.1 hr with rfl | hr
    · exact le_max_left _ _
    · exact (ih hr).trans (le_max_right _ _)

lemma flowsWithin_maxNodes (s : Store) : s.FlowsWithin s.maxNodes := by
  intro r hr d hd
  have hcount : r.nodeCount = d.nodes.length := by simp [FlowRecord.nodeCount, hd]
  exact hcount ▸ nodeCount_le_maxNodes hr

end Store

/-- The bound on the nodes a run `k` levels above the deepest one starts, with those of the
runs it nests, when no stored flow has more than `n` nodes. -/
def nestedBound (n k : Nat) : Nat := ∑ d ∈ Finset.range (k + 1), n ^ (d + 1)

lemma nestedBound_zero (n : Nat) : nestedBound n 0 = n := by
  simp [nestedBound]

lemma nestedBound_succ (n k : Nat) : nestedBound n (k + 1) = n * (1 + nestedBound n k) := by
  unfold nestedBound
  rw [Finset.sum_range_succ', mul_add, mul_one, Finset.mul_sum, zero_add, pow_one, add_comm]
  congr 1
  exact Finset.sum_congr rfl fun d _ => pow_succ' n (d + 1)

lemma Invocation.depth_lt_of_check {node target : String} {parent : Invocation} {maxDepth : Nat}
    (h : Invocation.check node target parent maxDepth = .ok ()) : parent.depth < maxDepth := by
  unfold Invocation.check at h
  split_ifs at h with hblank hdepth
  exact Nat.lt_of_not_le hdepth

@[simp] lemma Invocation.depth_child (parent : Invocation) (processId : String) :
    (parent.child processId).depth = parent.depth + 1 := rfl

@[simp] lemma Invocation.depth_root (processId : String) : (Invocation.root processId).depth = 0 := rfl

lemma Start.record_mem {svc : Services} {store : Store} {req : Request} {st : Start}
    (h : Start.load svc store req = .ok st) : st.record ∈ store.flows := by
  obtain ⟨hr, -⟩ := Engine.Start.load_eq_ok h
  unfold Start.record? at hr
  split at hr
  · rename_i r hload
    cases hr
    exact Store.mem_of_loadFlow hload
  · cases hr
  · cases hr

lemma Start.nodes_le {svc : Services} {store : Store} {req : Request} {st : Start} {n : Nat}
    (hs : store.FlowsWithin n) (h : Start.load svc store req = .ok st) : st.graph.nodes.length ≤ n := by
  obtain ⟨-, ⟨d, hd, hg⟩, -⟩ := Engine.Start.load_eq_ok h
  rw [hg, FlowGraph.build_nodes, List.length_map]
  exact hs _ (Start.record_mem h) d hd

namespace Engine

variable {α β : Type} {svc : Services} {n c c₁ c₂ : Nat}

/-- From every world whose stored flows have at most `n` nodes, `m` starts at most `c` nodes
and leaves the stored flows within `n` nodes, whether it returns or halts. -/
def Starts (svc : Services) (n c : Nat) (m : Engine α) : Prop :=
  ∀ w, w.store.FlowsWithin n →
    (m.exec svc w).2.store.FlowsWithin n ∧ (m.exec svc w).2.executed.length ≤ w.executed.length + c

lemma starts_pure (a : α) : Starts svc n 0 (pure a : Engine α) := fun _ hw => ⟨hw, by simp⟩

lemma starts_throw (h : Halt) : Starts svc n 0 (throw h : Engine α) := fun _ hw => ⟨hw, by simp⟩

lemma starts_get : Starts svc n 0 (get : Engine World) := fun _ hw => ⟨hw, by simp⟩

lemma starts_modify {f : World → World} (hs : ∀ w, w.store.FlowsWithin n → (f w).store.FlowsWithin n)
    (he : ∀ w, (f w).executed.length ≤ w.executed.length + c) : Starts svc n c (modify f) :=
  fun w hw => ⟨hs w hw, he w⟩

lemma starts_record (e : LogEntry) : Starts svc n 0 (record e) :=
  starts_modify (fun _ hw => hw) fun _ => le_refl _

lemma starts_noteExecuting (req : Request) (node : GraphNode) : Starts svc n 1 (noteExecuting req node) :=
  starts_modify (fun _ hw => hw) fun _ => by simp

lemma starts_read_bind {f : Services → Engine β} (hf : Starts svc n c (f svc)) :
    Starts svc n c (read >>= f) := by
  intro w hw
  simpa [exec_bind] using hf w hw

namespace Starts

variable {m : Engine α} {f : α → Engine β}

lemma mono (hm : Starts svc n c₁ m) (h : c₁ ≤ c₂) : Starts svc n c₂ m := fun w hw =>
  ⟨(hm w hw).1, (hm w hw).2.trans (by omega)⟩

lemma bind (hm : Starts svc n c₁ m) (hf : ∀ a, Starts svc n c₂ (f a)) : Starts svc n (c₁ + c₂) (m >>= f) := by
  intro w hw
  rw [exec_bind]
  obtain ⟨hs, he⟩ := hm w hw
  rcases hx : m.exec svc w with ⟨_ | a, w₁⟩ <;> simp only [hx] at hs he ⊢
  · exact ⟨hs, by omega⟩
  · obtain ⟨hs', he'⟩ := hf a w₁ hs
    exact ⟨hs', by omega⟩

lemma free_bind (hm : Starts svc n 0 m) (hf : ∀ a, Starts svc n c (f a)) : Starts svc n c (m >>= f) :=
  (hm.bind hf).mono (by omega)

lemma bind_free (hm : Starts svc n c m) (hf : ∀ a, Starts svc n 0 (f a)) : Starts svc n c (m >>= f) :=
  hm.bind hf

lemma map (g : α → β) (hm : Starts svc n c m) : Starts svc n c (g <$> m) := by
  rw [map_eq_pure_bind]
  exact hm.bind_free fun a => starts_pure (g a)

lemma tryCatch {handler : Halt → Engine α} (hm : Starts svc n c₁ m) (hh : ∀ h, Starts svc n c₂ (handler h)) :
    Starts svc n (c₁ + c₂) (tryCatch m handler) := by
  intro w hw
  rw [exec_tryCatch]
  obtain ⟨hs, he⟩ := hm w hw
  rcases hx : m.exec svc w with ⟨h | a, w₁⟩ <;> simp only [hx] at hs he ⊢
  · obtain ⟨hs', he'⟩ := hh h w₁ hs
    exact ⟨hs', by omega⟩
  · exact ⟨hs, by omega⟩

end Starts

variable {nested : Request → Frame → Engine ExecutionResult} {req : Request} {frame : Frame}
  {spec : NodeSpec} {ctx : Members}

/-! ### One node -/

lemma callBackend_starts {b : BackendExecutor} {server : ServerConfig} :
    Starts svc n 0 (callBackend frame b spec ctx server) := by
  unfold callBackend
  dsimp only
  have hcall : Starts svc n 0 (modify fun w : World =>
      { w with calls := w.calls ++ [⟨spec.id, spec.objectName, server.id, ctx⟩] }) :=
    starts_modify (fun _ hw => hw) fun _ => le_refl _
  have hclock (t : Nat) : Starts svc n 0 (modify fun w : World => { w with clock := t }) :=
    starts_modify (fun _ hw => hw) fun _ => le_refl _
  refine hcall.free_bind fun _ => starts_get.free_bind fun w => ?_
  split
  · split
    · exact (hclock _).free_bind fun _ => (starts_throw _).free_bind fun _ => starts_pure _
    · exact (hclock _).free_bind fun _ => starts_pure _
  · exact (hclock _).free_bind fun _ => starts_pure _

lemma discoverFields_starts {processId raw : String} {c : ProcessConfig} :
    Starts svc n 0 (discoverFields processId raw spec c) := by
  unfold discoverFields
  split
  · exact starts_pure _
  · exact starts_pure _
  · refine (starts_modify (fun w hw => ?_) fun w => ?_).free_bind fun _ => starts_pure _
    · split
      · rename_i s hu
        exact hw.updateNode hu
      · exact hw
    · split <;> exact le_refl _

lemma scope_starts : Starts svc n 0 (scope ctx) := by
  unfold scope
  exact starts_get.free_bind fun _ => starts_read_bind (starts_pure _)

lemma processCall_starts {c : ProcessConfig} : Starts svc n 0 (processCall req frame spec c ctx) := by
  unfold processCall
  refine starts_read_bind ?_
  split
  · exact starts_pure _
  refine starts_get.free_bind fun w => ?_
  split
  · exact starts_pure _
  refine scope_starts.free_bind fun _ => ?_
  split
  · exact starts_pure _
  split
  · exact starts_pure _
  refine callBackend_starts.free_bind fun reply => ?_
  cases reply with
  | error e =>
    dsimp only
    split <;> exact starts_pure _
  | ok raw =>
    dsimp only
    split
    · exact discoverFields_starts.bind_free fun _ => starts_pure _
    · exact (starts_pure _).free_bind fun _ => starts_pure _

lemma invoke_starts {cfg : SubprocessConfig}
    (hn : frame.invocation.depth < svc.config.maxSubprocessDepth → ∀ req' frame',
      frame'.invocation.depth = frame.invocation.depth + 1 → Starts svc n c (nested req' frame')) :
    Starts svc n c (invoke nested req frame spec cfg ctx) := by
  unfold invoke
  refine starts_read_bind ?_
  split
  · exact (starts_pure _).mono (Nat.zero_le _)
  rename_i hcheck
  have hlt := Invocation.depth_lt_of_check hcheck
  refine starts_get.free_bind fun w => ?_
  refine (((hn hlt _ _ (by simp)).map _).tryCatch fun _ => starts_pure _).bind_free fun outcome => ?_
  split
  · split
    · exact starts_pure _
    · exact starts_throw _
  · exact starts_pure _
  · exact starts_pure _
  · split <;> exact starts_pure _

lemma runNode_starts {flowName : String} {node : GraphNode}
    (hn : frame.invocation.depth < svc.config.maxSubprocessDepth → ∀ req' frame',
      frame'.invocation.depth = frame.invocation.depth + 1 → Starts svc n c (nested req' frame')) :
    Starts svc n c (runNode nested req frame flowName node ctx) := by
  have hfree : ∀ {m : Engine NodeReport}, Starts svc n 0 m → Starts svc n c m := fun h => h.mono (Nat.zero_le _)
  unfold runNode
  refine starts_read_bind ?_
  split
  · unfold invalidConfig
    split
    · exact hfree (starts_pure _)
    · exact hfree (starts_pure _)
    · exact hfree (starts_pure _)
    · exact hfree (starts_throw _)
  · exact hfree (processCall_starts.free_bind fun _ => by split <;> exact starts_pure _)
  · split
    · exact hfree (starts_throw _)
    · split
      · exact hfree (starts_throw _)
      · exact hfree (starts_get.free_bind fun _ => starts_pure _)
  · refine hfree (scope_starts.free_bind fun _ => ?_)
    split
    · exact starts_pure _
    · exact starts_pure _
    · exact starts_throw _
  · exact (invoke_starts hn).bind_free fun _ => by split <;> exact starts_pure _
  · exact hfree (scope_starts.free_bind fun _ => starts_pure _)
  · exact hfree (starts_pure _)
  · exact hfree (starts_pure _)
  · exact hfree (starts_pure _)

lemma runAudited_starts {flowName : String} {node : GraphNode}
    (hn : frame.invocation.depth < svc.config.maxSubprocessDepth → ∀ req' frame',
      frame'.invocation.depth = frame.invocation.depth + 1 → Starts svc n c (nested req' frame')) :
    Starts svc n (1 + c) (runAudited nested req frame flowName node ctx) := by
  unfold runAudited
  exact (starts_noteExecuting req node).bind fun _ =>
    (runNode_starts hn).bind_free fun _ => (starts_record _).free_bind fun _ => starts_pure _

/-! ### The loop and the run -/

open Traversal

lemma Inv.visited_lt {g : FlowGraph} {t : Traversal} {i : Nat} (h : Inv g t) (hi : t.pending.head? = some i) :
    t.visited.length < g.nodes.length := by
  have hle := (h.step (r := ⟨.routed false, [], [], none⟩) hi).length_le
  rw [visit_visited, List.length_cons] at hle
  exact hle

lemma traverse_starts {flowName : String} {g : FlowGraph}
    (hn : frame.invocation.depth < svc.config.maxSubprocessDepth → ∀ req' frame',
      frame'.invocation.depth = frame.invocation.depth + 1 → Starts svc n c (nested req' frame'))
    (fuel : Nat) (t : Traversal) (ht : Inv g t) :
    Starts svc n ((g.nodes.length - t.visited.length) * (1 + c)) (traverse nested req frame flowName g fuel t) := by
  induction fuel generalizing t with
  | zero => exact (starts_pure _).mono (Nat.zero_le _)
  | succ fuel ih =>
    unfold traverse
    split
    · exact (starts_pure _).mono (Nat.zero_le _)
    rename_i i rest hpend
    have hi : t.pending.head? = some i := by simp [hpend]
    obtain ⟨hfresh, node, hnode⟩ := ht.head hi
    have hc : t.visited.contains i = false := by simpa using hfresh
    refine starts_get.free_bind fun w => ?_
    split
    · exact (starts_throw _).mono (Nat.zero_le _)
    rw [hc, hnode]
    simp only [Bool.false_eq_true, if_false]
    -- the node costs `1 + c`, and the rest of the loop one node fewer
    have hlt := Inv.visited_lt ht hi
    have hrest : ∀ report, Starts svc n ((g.nodes.length - (t.visited.length + 1)) * (1 + c))
        (traverse nested req frame flowName g fuel (t.visit g i report)) := fun report => by
      simpa using ih (t.visit g i report) (ht.step hi)
    have hcost : (1 + c) + (g.nodes.length - (t.visited.length + 1)) * (1 + c) ≤
        (g.nodes.length - t.visited.length) * (1 + c) := by
      rw [show g.nodes.length - t.visited.length = g.nodes.length - (t.visited.length + 1) + 1 by omega,
        Nat.succ_mul, Nat.add_comm]
    refine (Starts.bind (runAudited_starts hn)
      (show ∀ report, Starts svc n ((g.nodes.length - (t.visited.length + 1)) * (1 + c)) _ from
        fun report => ?_)).mono hcost
    split
    · exact starts_read_bind (by split; exacts [hrest report, (starts_pure _).mono (Nat.zero_le _)])
    · exact hrest report

lemma runWith_starts
    (hn : frame.invocation.depth < svc.config.maxSubprocessDepth → ∀ req' frame',
      frame'.invocation.depth = frame.invocation.depth + 1 → Starts svc n c (nested req' frame')) :
    Starts svc n (n * (1 + c)) (runWith nested req frame) := by
  intro w hw
  rw [runWith_exec]
  cases hl : Start.load svc w.store req with
  | error e => exact ⟨hw, by simp⟩
  | ok st =>
    dsimp only
    obtain ⟨e, he, hlt⟩ := Start.entry_lt hl
    have hN := Start.nodes_le hw hl
    have hloop : Starts svc n ((st.graph.nodes.length - (initial st.graph st.context).visited.length) * (1 + c))
        (traverse nested req frame st.flowName st.graph (st.graph.nodes.length + 1) (initial st.graph st.context)) :=
      traverse_starts hn _ _ (inv_initial he hlt)
    replace hloop := hloop (entered req st w) hw
    rw [initial_visited he, List.length_singleton] at hloop
    -- the entry, then at most `N - 1` nodes of the loop
    have hcount : 1 + (st.graph.nodes.length - 1) * (1 + c) ≤ n * (1 + c) := by
      calc 1 + (st.graph.nodes.length - 1) * (1 + c)
        _ ≤ (1 + c) + (st.graph.nodes.length - 1) * (1 + c) := by omega
        _ = st.graph.nodes.length * (1 + c) := by
          obtain ⟨k, hk⟩ : ∃ k, st.graph.nodes.length = k + 1 := ⟨st.graph.nodes.length - 1, by omega⟩
          rw [hk, Nat.add_sub_cancel, Nat.add_one_mul, Nat.add_comm]
        _ ≤ n * (1 + c) := Nat.mul_le_mul_right _ hN
    rcases hx : (traverse nested req frame st.flowName st.graph (st.graph.nodes.length + 1)
      (Traversal.initial st.graph st.context)).exec svc (entered req st w) with ⟨_ | t, w₁⟩ <;>
      rw [hx] at hloop <;> simp only [entered, List.length_append, List.length_singleton] at hloop ⊢
    · exact ⟨hloop.1, by omega⟩
    · exact ⟨hloop.1, by omega⟩

lemma runFlow_starts (fuel : Nat) :
    ∀ req frame, frame.invocation.depth ≤ svc.config.maxSubprocessDepth →
      Starts svc n (nestedBound n (svc.config.maxSubprocessDepth - frame.invocation.depth)) (runFlow fuel req frame) := by
  induction fuel with
  | zero => exact fun _ _ _ => (starts_throw _).mono (Nat.zero_le _)
  | succ fuel ih =>
    intro req frame hle
    rcases Nat.lt_or_ge frame.invocation.depth svc.config.maxSubprocessDepth with hlt | hge
    · -- a nested run is one level deeper, within the bound for that level
      obtain ⟨k, hk⟩ : ∃ k, svc.config.maxSubprocessDepth - frame.invocation.depth = k + 1 :=
        ⟨svc.config.maxSubprocessDepth - frame.invocation.depth - 1, by omega⟩
      rw [hk, nestedBound_succ]
      refine runWith_starts fun _ req' frame' hd => ?_
      have hk' : svc.config.maxSubprocessDepth - frame'.invocation.depth = k := by omega
      simpa [hk'] using ih req' frame' (by omega)
    · -- at the deepest level the guard lets nothing nest
      have hd : svc.config.maxSubprocessDepth - frame.invocation.depth = 0 := by omega
      rw [hd, nestedBound_zero]
      have hlast : Starts svc n (n * (1 + 0)) (runWith (runFlow fuel) req frame) :=
        runWith_starts fun h => absurd h (by omega)
      exact hlast.mono (by simp)

lemma execute_world (svc : Services) (world : World) (req : Request) :
    (execute svc world req).2 =
      ((runFlow (svc.config.maxSubprocessDepth + 1) req (Frame.root svc req)).exec svc world).2 := by
  rw [execute, executeWith, Frame.ofCaller_none]
  rcases (runFlow (svc.config.maxSubprocessDepth + 1) req (Frame.root svc req)).exec svc world with
    ⟨(_ | _) | _, w⟩ <;> rfl

/-- **Each node at most once, and a bounded number of nodes in all.** A run that returns ran
the nodes of its loop each at most once, never its entry again, at most one fewer than its
graph has, and its loop stopped by itself: nothing was left pending, or an output answered and
the engine does not drain. A run that starts a chain starts, with all the runs nested in it,
at most `∑ d ≤ D, N ^ (d + 1)` nodes, `D` the deepest nesting allowed and `N` the most nodes a
stored flow has, whether it returns or fails. -/
theorem runs_start_each_node_once :
    (∀ (nested : Request → Frame → Engine ExecutionResult) req frame svc w res w',
      (runWith nested req frame).exec svc w = (.ok res, w') →
      ∃ st tr t e, Ran nested req frame svc w res w' st tr t ∧ st.graph.entry = some e ∧
        (tr.map Prod.fst).Nodup ∧ e ∉ tr.map Prod.fst ∧ tr.length + 1 ≤ st.graph.nodes.length ∧
        Stopped svc.config.drainAfterOutput t) ∧
    ∀ svc world req, (execute svc world req).2.executed.length ≤
      world.executed.length +
        ∑ d ∈ Finset.range (svc.config.maxSubprocessDepth + 1), world.store.maxNodes ^ (d + 1) := by
  refine ⟨fun nested req frame svc w res w' h => ?_, fun svc world req => ?_⟩
  · obtain ⟨st, tr, t, hran⟩ := runWith_ok h
    obtain ⟨e, he, hlt⟩ := Start.entry_lt hran.load
    obtain ⟨w₁, hruns, -⟩ := hran.runs
    have h₀ : Inv st.graph (initial st.graph st.context) := inv_initial he hlt
    obtain ⟨hnodup, hfresh⟩ := hruns.nodup h₀
    have hlen := hruns.length_le h₀
    rw [initial_visited he, List.length_singleton] at hlen
    refine ⟨st, tr, t, e, hran, he, hnodup, fun hmem => ?_, hlen, hran.stopped⟩
    exact hfresh e hmem (by rw [initial_visited he]; exact List.mem_singleton_self e)
  · -- the root run is at depth 0, as many levels above the deepest as nesting allows
    have hroot : Starts svc world.store.maxNodes (nestedBound world.store.maxNodes svc.config.maxSubprocessDepth)
        (runFlow (svc.config.maxSubprocessDepth + 1) req (Frame.root svc req)) := by
      simpa [Frame.root] using runFlow_starts (svc.config.maxSubprocessDepth + 1) req (Frame.root svc req)
        (by simp [Frame.root])
    rw [execute_world]
    exact (hroot world (Store.flowsWithin_maxNodes _)).2

end Engine

end IntegrationFlow
