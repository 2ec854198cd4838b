import IntegrationFlow.Proofs.Routing

/-!
The result of a run: completed with the first answer (the last, when draining), failed when a
failure selected no edge, and incomplete otherwise.
-/

namespace IntegrationFlow

lemma Route.answer?_isSome {k : NodeKind} {o : Route} (h : o.Fits k) : o.answer?.isSome = k.isOutput := by
  cases k <;> cases o <;> simp_all [Route.Fits, Route.answer?, NodeKind.isOutput]

lemma Route.kind_of_errored {k : NodeKind} {o : Route} (h : o.Fits k) (he : o.errored = true) :
    k = .process ∨ k = .splitter ∨ k = .subprocess := by
  cases k <;> cases o <;> simp_all [Route.Fits, Route.errored]

/-- Node `i` of `g` failed as a process, a splitter or a subprocess, and its outcome `o`
selected no edge: the failure was not routed. -/
def FlowGraph.Stranded (g : FlowGraph) (i : Nat) (o : Route) : Prop :=
  (∃ n, g.node? i = some n ∧ (n.kind = .process ∨ n.kind = .splitter ∨ n.kind = .subprocess)) ∧
    o.errored = true ∧ ∀ j, ¬ g.Selected i o j

namespace Engine

open Traversal

/-- The answers the nodes of a run gave, in the order they ran. -/
def answers (tr : List (Nat × NodeReport)) : List Members :=
  tr.filterMap fun x => x.2.route.answer?

/-- The context a run ends with: the last node's, or the entry's when no node ran. -/
def finalContext (st : Start) (tr : List (Nat × NodeReport)) : Members :=
  (tr.getLast?.map fun x => x.2.context).getD st.context

variable {nested : Request → Frame → Engine ExecutionResult} {req : Request} {frame : Frame}
  {svc : Services} {w w' : World} {res : ExecutionResult} {st : Start}
  {tr : List (Nat × NodeReport)} {t : Traversal}

section Ran

variable (h : Ran nested req frame svc w res w' st tr t)
include h

lemma Ran.answers_ne_nil_iff :
    answers tr ≠ [] ↔ ∃ x ∈ tr, ∃ n, st.graph.node? x.1 = some n ∧ n.kind.isOutput = true := by
  obtain ⟨e, he, -⟩ := Start.entry_lt h.load
  have hfit : ∀ x ∈ tr, ∃ n, st.graph.node? x.1 = some n ∧ x.2.route.Fits n.kind :=
    fun x hx => h.fits he (List.mem_cons_of_mem _ (List.mem_map_of_mem hx))
  rw [answers, Ne, List.filterMap_eq_nil_iff, not_forall]
  constructor
  · rintro ⟨x, hx⟩
    obtain ⟨hmem, hsome⟩ := Classical.not_imp.1 hx
    obtain ⟨n, hn, hf⟩ := hfit x hmem
    refine ⟨x, hmem, n, hn, ?_⟩
    rw [← Route.answer?_isSome hf, Option.isSome_iff_ne_none]
    exact hsome
  · rintro ⟨x, hmem, n, hn, hout⟩
    obtain ⟨n', hn', hf⟩ := hfit x hmem
    obtain rfl : n' = n := Option.some.inj (hn'.symm.trans hn)
    refine ⟨x, Classical.not_imp.2 ⟨hmem, fun hnone => ?_⟩⟩
    rw [← Route.answer?_isSome hf, hnone] at hout
    cases hout

lemma Ran.answer : t.answer = (answers tr).getLast? := by
  obtain ⟨w₁, hrun, -⟩ := h.runs
  rw [hrun.answer, initial_answer, Option.or_none, answers]

lemma Ran.answer_first (hd : svc.config.drainAfterOutput = false) : t.answer = (answers tr).head? := by
  obtain ⟨w₁, hrun, -⟩ := h.runs
  have hle : (answers tr).length ≤ 1 := hrun.answers_le_one hd initial_answer
  rw [h.answer]
  -- a list of at most one answer has it first and last
  match answers tr, hle with
  | [], _ => rfl
  | [_], _ => rfl
  | _ :: _ :: _, hle => simp at hle

lemma Ran.context : t.context = finalContext st tr := by
  obtain ⟨w₁, hrun, -⟩ := h.runs
  rw [hrun.context, initial_context, finalContext]

lemma Ran.unrouted_iff : t.unrouted = true ↔ ∃ x ∈ tr, st.graph.Stranded x.1 x.2.route := by
  obtain ⟨e, he, -⟩ := Start.entry_lt h.load
  obtain ⟨w₁, hrun, -⟩ := h.runs
  rw [hrun.unrouted, initial_unrouted, Bool.false_or, List.any_eq_true]
  refine exists_congr fun x => and_congr_right fun hx => ?_
  obtain ⟨n, hn, hf⟩ := h.fits he (List.mem_cons_of_mem _ (List.mem_map_of_mem hx))
  -- no taken edge is no selected edge, and only the three routing kinds fail
  have hsel : (taken st.graph x.1 x.2.route.follows).isEmpty = true ↔ ∀ j, ¬ st.graph.Selected x.1 x.2.route j := by
    simp only [List.isEmpty_iff, FlowGraph.selected_iff_taken hn hf, not_exists, not_and,
      List.eq_nil_iff_forall_not_mem]
    exact ⟨fun h j l hl _ => h l hl, fun h l hl => h _ l hl rfl⟩
  rw [Bool.and_eq_true, hsel]
  constructor
  · rintro ⟨herr, hnone⟩
    exact ⟨⟨n, hn, Route.kind_of_errored hf herr⟩, herr, hnone⟩
  · rintro ⟨-, herr, hnone⟩
    exact ⟨herr, hnone⟩

end Ran

/-- **The three results.** A run that returns either ran outputs and completed with the first
answer (the last when the loop drains), or ran none and failed because a process, a splitter or
a subprocess failed with no edge to route along, reporting the error fields and message of its
final context, or ran none, stranded no node, and is incomplete. -/
theorem runWith_result (h : (runWith nested req frame).exec svc w = (.ok res, w')) :
    ∃ st tr t, Ran nested req frame svc w res w' st tr t ∧
      (((∃ x ∈ tr, ∃ n, st.graph.node? x.1 = some n ∧ n.kind.isOutput = true) ∧
          res.status = .completed ∧ res.message = "OK" ∧
          res.data = if svc.config.drainAfterOutput then (answers tr).getLast? else (answers tr).head?) ∨
        ((∀ x ∈ tr, ∀ n, st.graph.node? x.1 = some n → n.kind.isOutput = false) ∧
          (∃ x ∈ tr, st.graph.Stranded x.1 x.2.route) ∧ res.status = .failed ∧
          res.message = "node execution error: " ++ (finalContext st tr).text "mensajeError" ∧
          res.data = some (finalContext st tr).errorFields) ∨
        ((∀ x ∈ tr, ∀ n, st.graph.node? x.1 = some n → n.kind.isOutput = false) ∧
          (¬ ∃ x ∈ tr, st.graph.Stranded x.1 x.2.route) ∧ res.status = .incomplete ∧
          res.data = none)) := by
  obtain ⟨st, tr, t, hran⟩ := runWith_ok h
  refine ⟨st, tr, t, hran, ?_⟩
  have hout := hran.answers_ne_nil_iff
  rw [hran.result, Traversal.result]
  cases hans : t.answer with
  | some data =>
    -- an output answered
    have hne : answers tr ≠ [] := by
      intro hnil
      rw [hran.answer, hnil] at hans
      cases hans
    refine Or.inl ⟨hout.1 hne, rfl, rfl, ?_⟩
    cases hd : svc.config.drainAfterOutput
    · rw [← hran.answer_first hd, hans]; rfl
    · rw [← hran.answer, hans]; rfl
  | none =>
    -- no output ran
    have hnil : answers tr = [] := by
      rw [hran.answer, List.getLast?_eq_none_iff] at hans
      exact hans
    have hno : ∀ x ∈ tr, ∀ n, st.graph.node? x.1 = some n → n.kind.isOutput = false := by
      intro x hx n hn
      cases hk : n.kind.isOutput
      · rfl
      · exact absurd hnil (hout.2 ⟨x, hx, n, hn, hk⟩)
    simp only
    rw [← hran.context]
    cases hu : t.unrouted
    · refine Or.inr (Or.inr ⟨hno, fun hs => ?_, rfl, rfl⟩)
      rw [← hran.unrouted_iff, hu] at hs
      cases hs
    · exact Or.inr (Or.inl ⟨hno, hran.unrouted_iff.1 hu, rfl, rfl, rfl⟩)

theorem sample_result_cases :
    ∃ res w', (runWith (runFlow 10) sampleRequest (Frame.root {} sampleRequest)).exec {} sampleWorld =
        (.ok res, w') ∧
      ∃ st tr t, Ran (runFlow 10) sampleRequest (Frame.root {} sampleRequest) {} sampleWorld res w' st tr t ∧
      (((∃ x ∈ tr, ∃ n, st.graph.node? x.1 = some n ∧ n.kind.isOutput = true) ∧
          res.status = .completed ∧ res.message = "OK" ∧
          res.data = if ({} : Services).config.drainAfterOutput then (answers tr).getLast? else (answers tr).head?) ∨
        ((∀ x ∈ tr, ∀ n, st.graph.node? x.1 = some n → n.kind.isOutput = false) ∧
          (∃ x ∈ tr, st.graph.Stranded x.1 x.2.route) ∧ res.status = .failed ∧
          res.message = "node execution error: " ++ (finalContext st tr).text "mensajeError" ∧
          res.data = some (finalContext st tr).errorFields) ∨
        ((∀ x ∈ tr, ∀ n, st.graph.node? x.1 = some n → n.kind.isOutput = false) ∧
          (¬ ∃ x ∈ tr, st.graph.Stranded x.1 x.2.route) ∧ res.status = .incomplete ∧
          res.data = none)) := by
  have hok : ((runWith (runFlow 10) sampleRequest (Frame.root {} sampleRequest)).exec {} sampleWorld).1.isOk =
      true := by
    decide +kernel
  rcases hx : (runWith (runFlow 10) sampleRequest (Frame.root {} sampleRequest)).exec {} sampleWorld with
    ⟨_ | res, w'⟩
  · rw [hx] at hok
    cases hok
  · exact ⟨res, w', rfl, runWith_result hx⟩

end Engine

end IntegrationFlow
