import IntegrationFlow.Proofs.Routing
import IntegrationFlow.Proofs.Members

/-!
Which failures stop a run: a flow that cannot be loaded, a node that cannot fail softly, or
the caller's token cancelled when the loop takes a node. A run halts on a deadline only at the
depth its frame holds (`KeepsDeadlines`), so a run that starts a chain never does.
-/

namespace IntegrationFlow

/-- Running node `n` stops the run with `e`: it is an entry, a condition or an output whose
data does not decode, or a condition with no expression or a blank one. -/
def GraphNode.Faults (n : GraphNode) (e : FlowError) : Prop :=
  (∃ msg, n.config = .error msg ∧
      (n.kind = .entry ∨ n.kind = .condition ∨ n.kind = .output ∨ n.kind = .errorOutput) ∧
      e = .invalidNode n.spec.id msg) ∨
    (∃ c, n.config = .ok (.condition c) ∧ (∀ x, c.expression = some x → Text.isBlankText x = true) ∧
      e = .invalidNode n.spec.id "condition node has no expression")

lemma FlowGraph.known_of_config_error {d : FlowDefinition} {i : Nat} {n : GraphNode} {msg : String}
    (h : (FlowGraph.build d).node? i = some n) (hc : n.config = .error msg) (tag : String) :
    n.kind ≠ .unknown tag := by
  simp only [FlowGraph.node?, FlowGraph.build_nodes, List.getElem?_map, Option.map_eq_some_iff] at h
  obtain ⟨spec, -, rfl⟩ := h
  intro hk
  simp only [GraphNode.ofSpec] at hc hk
  simp [hk, NodeConfig.decode, Except.mapError] at hc

/-- The depth of the deadline a frame holds, if any. -/
def Frame.deadlineDepth (f : Frame) : Option Nat := f.deadline.map Prod.snd

/-- A halt on the deadline of depth `d?`. -/
def Halt.OnDeadline (d? : Option Nat) : Halt → Prop
  | .deadline d => d? = some d
  | .fault _ => False
  | .panic _ => False

/-- A fault, a panic, or a halt on the deadline of depth `d?`. -/
def Halt.Within (d? : Option Nat) : Halt → Prop
  | .deadline d => d? = some d
  | .fault _ => True
  | .panic _ => True

/-- What stops a run at a node: one of its faults, the deadline of the frame, or a panic of a
splitter node. -/
def Halt.AtNode (n : GraphNode) (d? : Option Nat) (h : Halt) : Prop :=
  (∃ e, h = .fault e ∧ n.Faults e) ∨ Halt.OnDeadline d? h ∨
    ∃ p c, h = .panic p ∧ n.config = .ok (.splitter c)

lemma Halt.within_of_atNode {n : GraphNode} {d? : Option Nat} {h : Halt} (hh : Halt.AtNode n d? h) :
    Halt.Within d? h := by
  rcases hh with ⟨e, rfl, -⟩ | hd | ⟨p, c, rfl, -⟩
  · trivial
  · cases h with
    | deadline d => exact hd
    | fault e => exact hd.elim
    | panic p => exact hd.elim
  · trivial

/-- A node's report records its failure in the context it hands on: an error it reports is
the detail of a context whose three error fields were set, and an outcome that failed carries an
error code. -/
def NodeReport.Recorded (r : NodeReport) : Prop :=
  (∀ d, r.error = some d → ∃ (code message : String) (ctx : Members), r.context = ctx.setError code message d) ∧
    (r.route.errored = true → (r.context.get? "codigoError").isSome)

lemma NodeReport.recorded_of_clean {r : NodeReport} (he : r.error = none) (hr : r.route.errored = false) :
    r.Recorded :=
  ⟨fun d hd => by simp [he] at hd, fun h => by simp [hr] at h⟩

lemma ExecutionResult.code_of_errorCode {res : ExecutionResult} (h : res.errorCode.isSome) :
    ((res.data.getD []).get? "codigoError").isSome := by
  unfold ExecutionResult.errorCode at h
  cases hd : res.data with
  | none => simp [hd] at h
  | some data =>
    cases hc : data.get? "codigoError" with
    | none => simp [hd, hc] at h
    | some v => simp [hc]

lemma ConditionConfig.decide_error {engine : Expr.ScriptEngine} {reg : FunctionRegistry} {tables : Tables} {nodeId expression : String} {ctx : Members}
    {c : ConditionConfig} {id : ConditionIdentity} {d : String}
    (h : (c.decide engine reg tables nodeId expression ctx id).error = some d) :
    (c.decide engine reg tables nodeId expression ctx id).context = ctx.setError "99" "Error al evaluar condición" d := by
  unfold ConditionConfig.decide at h ⊢
  split at h
  · simp only [Option.some.injEq] at h
    simp [h]
  · split at h <;> simp at h

namespace Engine

variable {α β : Type} {svc : Services} {w : World}

@[simp] lemma exec_tryCatch (x : Engine α) (handler : Halt → Engine α) :
    (tryCatch x handler).exec svc w =
      match x.exec svc w with
      | (.ok a, w') => (.ok a, w')
      | (.error h, w') => (handler h).exec svc w' := by
  unfold exec
  dsimp only [tryCatch, MonadExcept.tryCatch, tryCatchThe, MonadExceptOf.tryCatch, ExceptT.tryCatch,
    ExceptT.mk, ReaderT.run, ExceptT.run, bind, StateT.bind, StateT.run]
  rcases x svc w with ⟨_ | _, w'⟩ <;> rfl

/-- Every halt of `m` satisfies `P`. -/
def Halts (P : Halt → Prop) (m : Engine α) : Prop :=
  ∀ svc w h w', m.exec svc w = (.error h, w') → P h

/-- `m` can return `a`. -/
def Returns (m : Engine α) (a : α) : Prop := ∃ svc w w', m.exec svc w = (.ok a, w')

variable {P Q : Halt → Prop}

lemma halts_pure (a : α) : Halts P (pure a : Engine α) := by
  intro svc w h w' hx
  simp at hx

lemma halts_read : Halts P (read : Engine Services) := by
  intro svc w h w' hx
  simp at hx

lemma halts_get : Halts P (get : Engine World) := by
  intro svc w h w' hx
  simp at hx

lemma halts_modify (f : World → World) : Halts P (modify f : Engine Unit) := by
  intro svc w h w' hx
  simp at hx

lemma halts_throw {h : Halt} (hp : P h) : Halts P (throw h : Engine α) := by
  intro svc w h' w' hx
  simp only [exec_throw, Prod.mk.injEq, Except.error.injEq] at hx
  exact hx.1 ▸ hp

namespace Halts

lemma bind {m : Engine α} {f : α → Engine β} (hm : Halts P m) (hf : ∀ a, Returns m a → Halts P (f a)) :
    Halts P (m >>= f) := by
  intro svc w h w' hx
  rw [exec_bind] at hx
  rcases hm' : m.exec svc w with ⟨_ | a, w₁⟩ <;> rw [hm'] at hx
  · simp only [Prod.mk.injEq, Except.error.injEq] at hx
    obtain ⟨rfl, rfl⟩ := hx
    exact hm svc w _ _ hm'
  · exact hf a ⟨svc, w, w₁, hm'⟩ svc w₁ h w' hx

lemma map {m : Engine α} (f : α → β) (hm : Halts P m) : Halts P (f <$> m) := by
  rw [map_eq_pure_bind]
  exact hm.bind fun a _ => halts_pure (f a)

lemma mono {m : Engine α} (hm : Halts P m) (hpq : ∀ h, P h → Q h) : Halts Q m :=
  fun svc w h w' hx => hpq h (hm svc w h w' hx)

end Halts

/-! ### Deadlines -/

/-- Runs through `nested` halt on a deadline only at the depth of their frame's deadline. -/
def KeepsDeadlines (nested : Request → Frame → Engine ExecutionResult) : Prop :=
  ∀ req frame, Halts (Halt.Within frame.deadlineDepth) (nested req frame)

variable {nested : Request → Frame → Engine ExecutionResult} {req : Request} {frame : Frame}
  {spec : NodeSpec} {ctx : Members}

lemma callBackend_halts {b : BackendExecutor} {server : ServerConfig} :
    Halts (Halt.OnDeadline frame.deadlineDepth) (callBackend frame b spec ctx server) := by
  unfold callBackend
  refine (halts_modify _).bind fun _ _ => halts_get.bind fun w _ => ?_
  split
  · rename_i t depth hd
    dsimp only
    split
    · refine (halts_modify _).bind fun _ _ => (halts_throw ?_).bind fun _ _ => halts_pure _
      simp [Halt.OnDeadline, Frame.deadlineDepth, hd]
    · exact (halts_modify _).bind fun _ _ => halts_pure _
  · exact (halts_modify _).bind fun _ _ => halts_pure _

lemma processCall_halts {c : ProcessConfig} :
    Halts (Halt.OnDeadline frame.deadlineDepth) (processCall req frame spec c ctx) := by
  unfold processCall scope discoverFields
  -- only the backend call halts; every other step reads, writes or returns
  refine halts_read.bind fun svc _ => ?_
  split
  · exact halts_pure _
  refine halts_get.bind fun w _ => ?_
  split
  · exact halts_pure _
  refine (halts_get.bind fun _ _ => halts_read.bind fun _ _ => halts_pure _).bind fun _ _ => ?_
  split
  · exact halts_pure _
  split
  · exact halts_pure _
  refine callBackend_halts.bind fun reply _ => ?_
  -- after the call the answer is stored and its fields derived, which never halts
  cases reply with
  | error e =>
    dsimp only
    split <;> exact halts_pure _
  | ok raw =>
    dsimp only
    split
    · refine Halts.bind ?_ fun _ _ => halts_pure _
      split
      · exact halts_pure _
      · exact halts_pure _
      · exact (halts_modify _).bind fun _ _ => halts_pure _
    · exact (halts_pure _).bind fun _ _ => halts_pure _

lemma invoke_halts (hn : KeepsDeadlines nested) {c : SubprocessConfig} :
    Halts (Halt.OnDeadline frame.deadlineDepth) (invoke nested req frame spec c ctx) := by
  unfold invoke
  refine halts_read.bind fun svc _ => ?_
  split
  · exact halts_pure _
  refine halts_get.bind fun w _ => ?_
  refine Halts.bind (Halts.mono (P := fun _ => False) ?_ fun _ h => h.elim) fun outcome hout => ?_
  · intro svc' w' h w'' hx
    simp only [exec_tryCatch] at hx
    split at hx <;> simp at hx
  split
  · rename_i depth
    split
    · exact halts_pure _
    refine halts_throw ?_
    rename_i hne
    -- the nested run halted on the deadline it was given, which is not its own
    obtain ⟨svc', w', w'', hx⟩ := hout
    simp only [exec_tryCatch, exec_map] at hx
    rcases hnx : (nested _ _).exec svc' w' with ⟨_ | h, w₁⟩ <;> rw [hnx] at hx
    · simp only [Prod.mk.injEq, exec_pure, Except.ok.injEq, Except.error.injEq] at hx
      obtain ⟨rfl, -⟩ := hx
      have hw := hn _ _ svc' w' _ _ hnx
      simp only [Halt.Within, Frame.deadlineDepth] at hw
      simp only [Halt.OnDeadline, Frame.deadlineDepth]
      split at hw
      · rename_i d hd
        split at hw
        · simpa [hd] using hw
        · simp only [Option.map_some, Option.some.injEq] at hw
          exact absurd (by simp [← hw]) hne
      · simp only [Option.map_some, Option.some.injEq] at hw
        exact absurd (by simp [← hw]) hne
    · simp at hx
  · exact halts_pure _
  · exact halts_pure _
  · split <;> exact halts_pure _

section Node

variable {flowName : String} {n : GraphNode}

lemma runNode_halts (hn : KeepsDeadlines nested) (hu : ∀ msg tag, n.config = .error msg → n.kind ≠ .unknown tag) :
    Halts (Halt.AtNode n frame.deadlineDepth) (runNode nested req frame flowName n ctx) := by
  have hdl : ∀ h, Halt.OnDeadline frame.deadlineDepth h → Halt.AtNode n frame.deadlineDepth h :=
    fun _ h => Or.inr (Or.inl h)
  unfold runNode
  refine halts_read.bind fun svc _ => ?_
  split
  · -- data that does not decode faults every kind but the three that fail softly
    rename_i msg hc
    unfold invalidConfig
    split
    · exact halts_pure _
    · exact halts_pure _
    · exact halts_pure _
    · rename_i hp hs hsub
      refine halts_throw (Or.inl ⟨_, rfl, Or.inl ⟨msg, hc, ?_, rfl⟩⟩)
      cases hk : n.kind <;> simp_all
  · exact (processCall_halts.mono hdl).bind fun _ _ => by split <;> exact halts_pure _
  · rename_i c hc
    split
    · exact halts_throw (Or.inl ⟨_, rfl, Or.inr ⟨c, hc, by simp_all, rfl⟩⟩)
    · rename_i x hx
      split
      · exact halts_throw (Or.inl ⟨_, rfl, Or.inr ⟨c, hc, by simp_all, rfl⟩⟩)
      · exact halts_get.bind fun _ _ => halts_pure _
  · -- a splitter panics only when its join cannot allocate the text
    rename_i c hc
    refine (halts_get.bind fun _ _ => halts_read.bind fun _ _ => halts_pure _).bind fun _ _ => ?_
    split
    · exact halts_pure _
    · exact halts_pure _
    · exact halts_throw (Or.inr (Or.inr ⟨_, c, rfl, hc⟩))
  · exact ((invoke_halts hn).mono hdl).bind fun _ _ => by split <;> exact halts_pure _
  · exact (halts_get.bind fun _ _ => halts_read.bind fun _ _ => halts_pure _).bind fun _ _ => halts_pure _
  · exact halts_pure _
  · exact halts_pure _
  · exact halts_pure _

lemma runAudited_halts (hn : KeepsDeadlines nested)
    (hu : ∀ msg tag, n.config = .error msg → n.kind ≠ .unknown tag) :
    Halts (Halt.AtNode n frame.deadlineDepth) (runAudited nested req frame flowName n ctx) := by
  unfold runAudited noteExecuting record
  exact (halts_modify _).bind fun _ _ => (runNode_halts hn hu).bind fun _ _ =>
    (halts_modify _).bind fun _ _ => halts_pure _

lemma runNode_of_faults {e : FlowError} (hf : n.Faults e) :
    (runNode nested req frame flowName n ctx).exec svc w = (.error (.fault e), w) := by
  rcases hf with ⟨msg, hc, hk, rfl⟩ | ⟨c, hc, hblank, rfl⟩
  · rw [exec_runNode_invalid hc, exec_invalidConfig]
    rcases hk with hk | hk | hk | hk <;> rw [hk]
  · rw [exec_runNode_condition hc]
    cases hx : c.expression with
    | none => rfl
    | some x => simp [hblank x hx]

end Node

lemma returns_ofExcept {r : Except FlowError α} {a : α} (h : Returns (ofExcept r) a) : r = .ok a := by
  obtain ⟨svc, w, w', hx⟩ := h
  cases r with
  | error e => simp at hx
  | ok b => simp only [exec_ofExcept, Prod.mk.injEq, Except.ok.injEq] at hx; rw [hx.1]

lemma Start.known_of_config_error {store : Store} {st : Start} (h : Start.load svc store req = .ok st)
    {i : Nat} {n : GraphNode} (hn : st.graph.node? i = some n) :
    ∀ msg tag, n.config = .error msg → n.kind ≠ .unknown tag := by
  intro msg tag hc
  obtain ⟨-, ⟨d, -, hg⟩, -⟩ := Start.load_eq_ok h
  rw [hg] at hn
  exact FlowGraph.known_of_config_error hn hc tag

lemma traverse_halts {flowName : String} {g : FlowGraph} (hn : KeepsDeadlines nested)
    (hu : ∀ i n, g.node? i = some n → ∀ msg tag, n.config = .error msg → n.kind ≠ .unknown tag)
    (fuel : Nat) (t : Traversal) :
    Halts (Halt.Within frame.deadlineDepth) (traverse nested req frame flowName g fuel t) := by
  induction fuel generalizing t with
  | zero => exact halts_pure _
  | succ fuel ih =>
    unfold traverse
    split
    · exact halts_pure _
    -- the token stops the loop with a fault of the run
    refine halts_get.bind fun w _ => ?_
    split
    · exact halts_throw trivial
    split
    · exact ih _
    split
    · exact ih _
    rename_i hnode
    refine ((runAudited_halts hn (hu _ _ hnode)).mono fun _ => Halt.within_of_atNode).bind
      fun report _ => ?_
    split
    · exact halts_read.bind fun _ _ => by split <;> first | exact ih _ | exact halts_pure _
    · exact ih _

lemma runWith_halts (hn : KeepsDeadlines nested) :
    Halts (Halt.Within frame.deadlineDepth) (runWith nested req frame) := by
  unfold runWith noteExecuting record
  refine halts_read.bind fun svc _ => halts_get.bind fun w _ => ?_
  refine Halts.bind ?_ fun st hst => ?_
  · unfold ofExcept
    split
    · exact halts_pure _
    · exact halts_throw trivial
  have hl := returns_ofExcept hst
  refine (halts_modify _).bind fun _ _ => (halts_modify _).bind fun _ _ => (traverse_halts hn ?_ _ _).bind
    fun _ _ => (halts_modify _).bind fun _ _ => halts_pure _
  exact fun i n hn' => Start.known_of_config_error hl hn'

lemma runFlow_keepsDeadlines : ∀ fuel, KeepsDeadlines (runFlow fuel)
  | 0 => fun _ _ => halts_throw trivial
  | fuel + 1 => fun _ _ => runWith_halts (runFlow_keepsDeadlines fuel)

/-! ### Failures that do not stop a run -/

/-- Every value `m` returns satisfies `Q`. -/
def Yields (Q : α → Prop) (m : Engine α) : Prop := ∀ a, Returns m a → Q a

lemma yields_pure {Q : α → Prop} {a : α} (h : Q a) : Yields Q (pure a : Engine α) := by
  rintro b ⟨svc, w, w', hx⟩
  simp only [exec_pure, Prod.mk.injEq, Except.ok.injEq] at hx
  exact hx.1 ▸ h

lemma yields_throw {Q : α → Prop} {h : Halt} : Yields Q (throw h : Engine α) := by
  rintro b ⟨svc, w, w', hx⟩
  simp at hx

lemma Yields.bind {Q : β → Prop} {m : Engine α} {f : α → Engine β}
    (hf : ∀ a, Returns m a → Yields Q (f a)) : Yields Q (m >>= f) := by
  rintro b ⟨svc, w, w', hx⟩
  rw [exec_bind] at hx
  rcases hm : m.exec svc w with ⟨_ | a, w₁⟩ <;> rw [hm] at hx
  · simp at hx
  · exact hf a ⟨svc, w, w₁, hm⟩ b ⟨svc, w₁, w', hx⟩

lemma invoke_yields_code {c : SubprocessConfig} :
    Yields (fun o => ∀ ctx' applied, o = .ok (true, ctx', applied) → (ctx'.get? "codigoError").isSome)
      (invoke nested req frame spec c ctx) := by
  unfold invoke
  refine Yields.bind fun svc _ => ?_
  split
  · exact yields_pure (by simp)
  refine Yields.bind fun w _ => Yields.bind fun outcome _ => ?_
  split
  · split
    · exact yields_pure (by simp)
    · exact yields_throw
  · exact yields_pure (by simp)
  · exact yields_pure (by simp)
  · split
    · -- an answer routes as a failure only when it carries a code, which it hands on
      refine yields_pure fun ctx' applied h => ?_
      simp only [Except.ok.injEq, Prod.mk.injEq] at h
      obtain ⟨hcode, rfl, rfl⟩ := h
      exact Members.isSome_get?_extend_right (ExecutionResult.code_of_errorCode (by simp [hcode]))
    · exact yields_pure (by simp)
    · -- a failed nested run hands on its three error fields
      refine yields_pure fun ctx' applied h => ?_
      simp only [Except.ok.injEq, Prod.mk.injEq] at h
      obtain ⟨-, rfl, rfl⟩ := h
      simp [Members.get?_insert_of_ne]

lemma softFailure_recorded (route : Route) (code message detail : String) :
    (softFailure route (ctx.setError code message detail) detail).Recorded := by
  refine ⟨fun d hd => ⟨code, message, ctx, ?_⟩, fun _ => by simp [softFailure]⟩
  simp only [softFailure, Option.some.injEq] at hd
  rw [← hd]
  rfl

lemma runNode_recorded {flowName : String} {n : GraphNode} {r : NodeReport} {w' : World}
    (h : (runNode nested req frame flowName n ctx).exec svc w = (.ok r, w')) : r.Recorded := by
  cases hc : n.config with
  | error msg =>
    rw [exec_runNode_invalid hc, exec_invalidConfig] at h
    split at h <;> simp only [Prod.mk.injEq, Except.ok.injEq, reduceCtorEq, false_and] at h <;>
      exact h.1 ▸ softFailure_recorded _ _ _ _
  | ok c =>
    cases c with
    | process c =>
      rw [exec_runNode_process hc] at h
      rcases hp : (processCall req frame n.spec c ctx).exec svc w with ⟨_ | ⟨ctx', _ | applied⟩, w₁⟩ <;>
        simp only [hp, Prod.mk.injEq, reduceCtorEq, false_and, Except.ok.injEq] at h
      · exact h.1 ▸ softFailure_recorded _ _ _ _
      · exact h.1 ▸ NodeReport.recorded_of_clean rfl rfl
    | condition c =>
      rw [exec_runNode_condition hc] at h
      split at h
      · simp at h
      · split at h
        · simp at h
        · simp only [Prod.mk.injEq, Except.ok.injEq] at h
          rw [← h.1]
          exact ⟨fun d hd => ⟨_, _, _, ConditionConfig.decide_error hd⟩, fun he => by simp [Route.errored] at he⟩
    | splitter c =>
      rw [exec_runNode_splitter hc] at h
      split at h <;> simp only [Prod.mk.injEq, Except.ok.injEq, reduceCtorEq, false_and] at h
      · exact h.1 ▸ NodeReport.recorded_of_clean rfl rfl
      · exact h.1 ▸ softFailure_recorded _ _ _ _
    | subprocess c =>
      rw [exec_runNode_subprocess hc] at h
      rcases hp : (invoke nested req frame n.spec c ctx).exec svc w with
        ⟨_ | _ | ⟨errored, ctx', applied⟩, w₁⟩ <;>
        simp only [hp, Prod.mk.injEq, reduceCtorEq, false_and, Except.ok.injEq] at h
      · exact h.1 ▸ softFailure_recorded _ _ _ _
      · rw [← h.1]
        refine ⟨fun d hd => by simp at hd, fun he => ?_⟩
        simp only [Route.errored] at he
        subst he
        exact invoke_yields_code _ ⟨svc, w, w₁, hp⟩ ctx' applied rfl
    | output g =>
      rw [exec_runNode_output hc] at h
      simp only [Prod.mk.injEq, Except.ok.injEq] at h
      exact h.1 ▸ NodeReport.recorded_of_clean rfl rfl
    | errorOutput ps =>
      rw [exec_runNode_errorOutput hc] at h
      simp only [Prod.mk.injEq, Except.ok.injEq] at h
      exact h.1 ▸ NodeReport.recorded_of_clean rfl rfl
    | entry c =>
      rw [exec_runNode_passThrough (.inl ⟨c, hc⟩)] at h
      simp only [Prod.mk.injEq, Except.ok.injEq] at h
      exact h.1 ▸ NodeReport.recorded_of_clean rfl rfl
    | unknown =>
      rw [exec_runNode_passThrough (.inr hc)] at h
      simp only [Prod.mk.injEq, Except.ok.injEq] at h
      exact h.1 ▸ NodeReport.recorded_of_clean rfl rfl

/-! ### Runs that start a chain -/

section Root

open Traversal

variable {world : World} {e : FlowError} {cancelAt : Option Nat}

lemma executeWith_error_iff_fault :
    (executeWith svc world req cancelAt).1 = .error e ↔
      ((runWith (runFlow svc.config.maxSubprocessDepth) req (Frame.ofCaller svc req cancelAt)).exec svc world).1 =
        .error (.fault e) := by
  have hroot : Halts (Halt.Within (Frame.ofCaller svc req cancelAt).deadlineDepth)
      (runWith (runFlow svc.config.maxSubprocessDepth) req (Frame.ofCaller svc req cancelAt)) :=
    runWith_halts (runFlow_keepsDeadlines _)
  unfold executeWith
  simp only [runFlow]
  rcases hx : (runWith (runFlow svc.config.maxSubprocessDepth) req (Frame.ofCaller svc req cancelAt)).exec svc world
    with ⟨h | res, w'⟩
  · cases h with
    | fault e' => simp
    | deadline d =>
      exact absurd (hroot svc world _ _ hx) (by simp [Halt.Within, Frame.deadlineDepth, Frame.ofCaller, Frame.root])
    | panic p => simp
  · simp

lemma traverse_root_fault_iff {st : Start} (hl : Start.load svc world.store req = .ok st) :
    ((traverse (runFlow svc.config.maxSubprocessDepth) req (Frame.ofCaller svc req cancelAt) st.flowName st.graph
        (st.graph.nodes.length + 1) (initial st.graph st.context)).exec svc (entered req st world)).1 =
        .error (.fault e) ↔
      ∃ tr t w₁ i n,
        Runs st.graph svc.config.drainAfterOutput
          (NodeRun (runFlow svc.config.maxSubprocessDepth) req (Frame.ofCaller svc req cancelAt) st.flowName svc)
          (initial st.graph st.context) (entered req st world) tr t w₁ ∧
        t.pending.head? = some i ∧ st.graph.node? i = some n ∧
        (svc.config.drainAfterOutput = true ∨ t.answer = none) ∧
        (cancelAt.any (· ≤ w₁.clock) = true ∧ e = .cancelled ∨ cancelAt.any (· ≤ w₁.clock) = false ∧ n.Faults e) := by
  obtain ⟨entry, he, hlt⟩ := Start.entry_lt hl
  have h₀ : Inv st.graph (initial st.graph st.context) := inv_initial he hlt
  constructor
  · -- the loop stopped where it took a node: the token was cancelled, or the node faulted
    intro hx
    obtain ⟨tr, t, w₁, hrun, hend⟩ :=
      traverse_from_entry (runFlow svc.config.maxSubprocessDepth) (Frame.ofCaller svc req cancelAt) hl
    rcases hres : (traverse (runFlow svc.config.maxSubprocessDepth) req (Frame.ofCaller svc req cancelAt)
      st.flowName st.graph (st.graph.nodes.length + 1) (initial st.graph st.context)).exec svc (entered req st world)
      with ⟨h | t', w'⟩
    · rw [hres] at hx hend
      obtain rfl : h = .fault e := by simpa using hx
      obtain ⟨i, n, hi, hn, hg, ⟨hk, hh, -⟩ | ⟨hk, hnode⟩⟩ := hend
      · cases hh
        exact ⟨tr, t, w₁, i, n, hrun, hi, hn, hg, .inl ⟨by simpa using hk, rfl⟩⟩
      · have hat := runAudited_halts (runFlow_keepsDeadlines svc.config.maxSubprocessDepth)
          (Start.known_of_config_error hl hn) svc w₁ _ _ hnode
        rcases hat with ⟨e', he', hf⟩ | hd | ⟨p, c, hp, -⟩
        · cases he'
          exact ⟨tr, t, w₁, i, n, hrun, hi, hn, hg, .inr ⟨by simpa using hk, hf⟩⟩
        · exact hd.elim
        · cases hp
    · rw [hres] at hx
      cases hx
  · -- the loop replays the run up to the node it stops at
    rintro ⟨tr, t, w₁, i, n, hrun, hi, hn, hg, hstop⟩
    have hlen := hrun.length_le h₀
    rw [initial_visited he, List.length_singleton] at hlen
    obtain ⟨k, hk⟩ : ∃ k, st.graph.nodes.length + 1 = k + 1 + tr.length := ⟨st.graph.nodes.length - tr.length, by omega⟩
    rw [hk, traverse_replay h₀ hrun hg]
    rcases hstop with ⟨hc, rfl⟩ | ⟨hc, hf⟩
    · rw [traverse_exec_cancelled hi (by simpa using hc)]
    · rw [traverse_exec_node hi (by simpa using hc) ((hrun.inv h₀).head hi).1 hn hg, exec_runAudited,
        runNode_of_faults hf]

/-- **Which failures stop a run.** A run that starts a chain fails with `e` exactly when its
flow cannot be loaded, or when its loop takes a node after the caller cancelled the token, `e`
being the cancellation, or before, and the node faults with `e`. Every other failure of a node
leaves the run going. -/
lemma executeWith_error_iff :
    (executeWith svc world req cancelAt).1 = .error e ↔
      Start.load svc world.store req = .error e ∨
      ∃ st tr t w₁ i n, Start.load svc world.store req = .ok st ∧
        Runs st.graph svc.config.drainAfterOutput
          (NodeRun (runFlow svc.config.maxSubprocessDepth) req (Frame.ofCaller svc req cancelAt) st.flowName svc)
          (initial st.graph st.context) (entered req st world) tr t w₁ ∧
        t.pending.head? = some i ∧ st.graph.node? i = some n ∧
        (svc.config.drainAfterOutput = true ∨ t.answer = none) ∧
        (cancelAt.any (· ≤ w₁.clock) = true ∧ e = .cancelled ∨ cancelAt.any (· ≤ w₁.clock) = false ∧ n.Faults e) := by
  rw [executeWith_error_iff_fault, runWith_exec]
  cases hl : Start.load svc world.store req with
  | error e' => simp
  | ok st =>
    have hloop := @traverse_root_fault_iff svc req world e cancelAt st hl
    rcases hx : (traverse (runFlow svc.config.maxSubprocessDepth) req (Frame.ofCaller svc req cancelAt) st.flowName
      st.graph (st.graph.nodes.length + 1) (initial st.graph st.context)).exec svc (entered req st world)
      with ⟨h | t', w'⟩
    all_goals
      rw [hx] at hloop
      simpa [hx] using hloop

lemma execute_error_iff :
    (execute svc world req).1 = .error e ↔
      Start.load svc world.store req = .error e ∨
      ∃ st tr t w₁ i n, Start.load svc world.store req = .ok st ∧
        Runs st.graph svc.config.drainAfterOutput
          (NodeRun (runFlow svc.config.maxSubprocessDepth) req (Frame.root svc req) st.flowName svc)
          (initial st.graph st.context) (entered req st world) tr t w₁ ∧
        t.pending.head? = some i ∧ st.graph.node? i = some n ∧
        (svc.config.drainAfterOutput = true ∨ t.answer = none) ∧ n.Faults e := by
  rw [execute, executeWith_error_iff, Frame.ofCaller_none]
  simp

lemma executeWith_ok_recorded {res : ExecutionResult} {w' : World}
    (h : executeWith svc world req cancelAt = (.ok res, w')) :
    ∃ st tr t, Ran (runFlow svc.config.maxSubprocessDepth) req (Frame.ofCaller svc req cancelAt) svc world res w' st tr t ∧
      ∀ x ∈ tr, x.2.Recorded := by
  have hrun : (runWith (runFlow svc.config.maxSubprocessDepth) req (Frame.ofCaller svc req cancelAt)).exec svc world =
      (.ok res, w') := by
    unfold executeWith at h
    simp only [runFlow] at h
    rcases hx : (runWith (runFlow svc.config.maxSubprocessDepth) req (Frame.ofCaller svc req cancelAt)).exec svc world
      with ⟨hh | res', w''⟩ <;> rw [hx] at h
    · cases hh <;> simp at h
    · simp only [Prod.mk.injEq, RunOutcome.ok.injEq] at h
      rw [h.1, h.2]
  obtain ⟨st, tr, t, hran⟩ := runWith_ok hrun
  refine ⟨st, tr, t, hran, fun x hx => ?_⟩
  obtain ⟨w₁, hruns, -⟩ := hran.runs
  obtain ⟨n, ctx, s₁, s₂, -, hnode⟩ := hruns.mem_trace hx
  obtain ⟨w₃, hx'⟩ := hnode.runNode_ok
  exact runNode_recorded hx'

/-- **Which failures stop a run.** A run that starts a chain, whose caller cancels its token at
`cancelAt` (or never), fails with `e` exactly when its flow cannot be loaded, or when its loop
takes a node after the caller cancelled, `e` being the cancellation, or before, and the node
faults with `e`. Every other failure leaves it going: when it returns, each node that ran
recorded the failures it survived in the context it handed on. -/
theorem execute_fails_only_on_faults :
    (∀ e, (executeWith svc world req cancelAt).1 = .error e ↔
      Start.load svc world.store req = .error e ∨
      ∃ st tr t w₁ i n, Start.load svc world.store req = .ok st ∧
        Runs st.graph svc.config.drainAfterOutput
          (NodeRun (runFlow svc.config.maxSubprocessDepth) req (Frame.ofCaller svc req cancelAt) st.flowName svc)
          (initial st.graph st.context) (entered req st world) tr t w₁ ∧
        t.pending.head? = some i ∧ st.graph.node? i = some n ∧
        (svc.config.drainAfterOutput = true ∨ t.answer = none) ∧
        (cancelAt.any (· ≤ w₁.clock) = true ∧ e = .cancelled ∨ cancelAt.any (· ≤ w₁.clock) = false ∧ n.Faults e)) ∧
    ∀ res w', executeWith svc world req cancelAt = (.ok res, w') →
      ∃ st tr t, Ran (runFlow svc.config.maxSubprocessDepth) req (Frame.ofCaller svc req cancelAt) svc world res w' st tr t ∧
        ∀ x ∈ tr, x.2.Recorded :=
  ⟨fun _ => executeWith_error_iff, fun _ _ h => executeWith_ok_recorded h⟩

/-- A caller who cancels at once stops the run of the sample flow where its loop takes the
output node. -/
example : (match (executeWith {} sampleWorld sampleRequest (some 0)).1 with
    | .error .cancelled => true
    | _ => false) = true := by
  decide +kernel

end Root

end Engine

end IntegrationFlow
