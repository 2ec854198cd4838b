import IntegrationFlow.Proofs.Faults
import IntegrationFlow.Proofs.EntryFields

/-!
How a nested run leaves its node: an answer is stored over the context, a run that reached no
output or failed sets the three error fields, and a nested fault sets them to `SUB_ERROR`.
The guard, the nested run's own time-out and its panic are errors of the node.
-/

namespace IntegrationFlow

namespace Members

/-- The context `ctx'` keeps every member of `ctx` except the three error fields, which hold
`code`, `message` and `detail`. -/
def ErrorsSet (ctx ctx' : Members) (code message detail : Json) : Prop :=
  ctx'.get? "codigoError" = some code ∧ ctx'.get? "mensajeError" = some message ∧
    ctx'.get? "detalleError" = some detail ∧
    ∀ k, k ≠ "codigoError" → k ≠ "mensajeError" → k ≠ "detalleError" → ctx'.get? k = ctx.get? k

/-- The context `ctx'` is `ctx` with the members of `data` stored over it, the last member of a
key winning. -/
def Overlaid (ctx ctx' data : Members) : Prop :=
  ∀ k, ctx'.get? k = (data.reverse.lookup k).or (ctx.get? k)

variable {ctx : Members}

lemma errorsSet_setError (code message detail : String) :
    ErrorsSet ctx (ctx.setError code message detail) (.str code) (.str message) (.str detail) := by
  refine ⟨by simp, by simp, by simp, fun k h₁ h₂ h₃ => ?_⟩
  simp [setError, get?_insert_of_ne _ _ h₁, get?_insert_of_ne _ _ h₂, get?_insert_of_ne _ _ h₃]

lemma get?_foldl_insert (keys : List String) (f : String → Json) (m : Members) (k : String) :
    (keys.foldl (fun m k => m.insert k (f k)) m).get? k = if k ∈ keys then some (f k) else m.get? k := by
  induction keys generalizing m with
  | nil => simp
  | cons k' keys ih =>
    rw [List.foldl_cons, ih]
    by_cases hk : k ∈ keys
    · simp [hk]
    · by_cases hk' : k = k'
      · subst hk'
        simp
      · simp [hk, hk', get?_insert_of_ne _ _ hk']

lemma errorsSet_foldl_insert (f : String → Json) :
    ErrorsSet ctx (["codigoError", "mensajeError", "detalleError"].foldl (fun m k => m.insert k (f k)) ctx)
      (f "codigoError") (f "mensajeError") (f "detalleError") := by
  refine ⟨by rw [get?_foldl_insert]; simp, by rw [get?_foldl_insert]; simp, by rw [get?_foldl_insert]; simp,
    fun k h₁ h₂ h₃ => ?_⟩
  rw [get?_foldl_insert]
  simp [h₁, h₂, h₃]

lemma overlaid_extend (data : Members) : Overlaid ctx (ctx.extend data) data :=
  fun k => get?_extend ctx data k

end Members

/-- The time a nested run of `c` is given: its own time-out, else the engine's default. -/
def SubprocessConfig.timeoutFor (c : SubprocessConfig) (svc : Services) : Nat :=
  c.timeoutMs.getD svc.config.defaultSubprocessTimeoutMs

/-- The request of the nested run a node starts: the values the node passes on, on its run's
channel and trace. -/
def SubprocessConfig.childRequest (c : SubprocessConfig) (req : Request) (ctx : Members) : Request :=
  { processId := c.processId, input := c.assignments.passedOn ctx, channel := req.channel,
    trigger := "subproceso", traceId := req.traceId }

/-- The frame of the nested run of `processId` started at time `now` with `timeoutMs` to run:
one level deeper, stopped at the earlier of its parent's deadline and its own. -/
def Frame.nestedFor (frame : Frame) (processId : String) (timeoutMs now : Nat) : Frame :=
  let child := frame.invocation.child processId
  let own := (now + timeoutMs, child.depth)
  { frame with invocation := child,
               deadline := frame.deadline.elim (some own) fun d => if d.1 ≤ own.1 then some d else some own }

/-- What a node makes of the nested run of flow `processId` that finished with `R`: whether the
node failed, the context it hands on and the values it reports. -/
def ExecutionResult.settle (R : ExecutionResult) (processId : String) (ctx : Members) : Bool × Members × Members :=
  match R.status with
  | .completed => (R.errorCode.isSome, ctx.extend (R.data.getD []), R.data.getD [])
  | .incomplete =>
    (true, ctx.setError "98" R.message ("subprocess " ++ processId ++ " did not reach an output node"), [])
  | .failed =>
    (true, ["codigoError", "mensajeError", "detalleError"].foldl
      (fun m k => m.insert k (((R.data.getD []).get? k).getD (.str ""))) ctx, R.data.getD [])

namespace ExecutionResult

variable {R : ExecutionResult} {processId : String} {ctx : Members}

lemma errorCode_isSome_iff :
    R.errorCode.isSome = true ↔ ∃ v, (R.data.getD []).get? "codigoError" = some v ∧ ¬Text.isBlankText v.plain := by
  unfold errorCode
  cases R.data with
  | none => simp
  | some d =>
    simp only [Option.bind_some, Option.getD_some]
    cases d.get? "codigoError" with
    | none => simp
    | some v => by_cases hb : Text.isBlankText v.plain <;> simp [hb]

lemma settle_completed (hs : R.status = .completed) :
    R.settle processId ctx = (R.errorCode.isSome, ctx.extend (R.data.getD []), R.data.getD []) := by
  simp [settle, hs]

lemma settle_incomplete (hs : R.status = .incomplete) :
    R.settle processId ctx =
      (true, ctx.setError "98" R.message ("subprocess " ++ processId ++ " did not reach an output node"), []) := by
  simp [settle, hs]

lemma settle_failed (hs : R.status = .failed) :
    R.settle processId ctx =
      (true, ["codigoError", "mensajeError", "detalleError"].foldl
        (fun m k => m.insert k (((R.data.getD []).get? k).getD (.str ""))) ctx, R.data.getD []) := by
  simp [settle, hs]

end ExecutionResult

namespace Engine

/-- What a node makes of the outcome of its nested run and the world after it: a halt on the
nested run's own deadline is a time-out of the node, any other deadline stops the node too, a
panic is an error of the node with the text `panicked` gives it, a fault is recorded in the
error fields, and a result is settled. -/
def afterNested (c : SubprocessConfig) (childDepth timeoutMs : Nat) (panicked : Panic → String) (ctx : Members) :
    Except Halt ExecutionResult × World → Except Halt (Except SubprocessError (Bool × Members × Members)) × World
  | (.error (.deadline d), w) =>
    if d == childDepth then (.ok (.error (.timeout c.processId timeoutMs)), w) else (.error (.deadline d), w)
  | (.error (.panic p), w) => (.ok (.error (.failed c.processId (panicked p))), w)
  | (.error (.fault e), w) => (.ok (.ok (true, ctx.setError "SUB_ERROR" "Error en subproceso" e.message, [])), w)
  | (.ok R, w) => (.ok (.ok (R.settle c.processId ctx)), w)

variable {nested : Request → Frame → Engine ExecutionResult} {req : Request} {frame : Frame}
  {spec : NodeSpec} {c : SubprocessConfig} {ctx : Members} {svc : Services} {w : World}

lemma afterNested_own_deadline (d t : Nat) (f : Panic → String) (w₁ : World) :
    afterNested c d t f ctx (.error (.deadline d), w₁) = (.ok (.error (.timeout c.processId t)), w₁) := by
  simp [afterNested]

lemma afterNested_other_deadline {k d : Nat} (hk : k ≠ d) (t : Nat) (f : Panic → String) (w₁ : World) :
    afterNested c d t f ctx (.error (.deadline k), w₁) = (.error (.deadline k), w₁) := by
  simp [afterNested, hk]

lemma exec_invoke_guard {e : SubprocessError}
    (hg : Invocation.check spec.id c.processId frame.invocation svc.config.maxSubprocessDepth = .error e) :
    (invoke nested req frame spec c ctx).exec svc w = (.ok (.error e), w) := by
  simp only [invoke, exec_bind, exec_read, hg]
  rfl

lemma exec_invoke_run
    (hg : Invocation.check spec.id c.processId frame.invocation svc.config.maxSubprocessDepth = .ok ()) :
    (invoke nested req frame spec c ctx).exec svc w =
      afterNested c (frame.invocation.child c.processId).depth (c.timeoutFor svc) svc.panickedTask ctx
        ((nested (c.childRequest req ctx) (frame.nestedFor c.processId (c.timeoutFor svc) w.clock)).exec svc w) := by
  -- with the parent's deadline split, the frame the node builds and `nestedFor` agree term for term
  obtain ⟨inv, user, role, dl⟩ := frame
  rcases dl with _ | d
  on_goal 2 => by_cases hle : d.1 ≤ w.clock + c.timeoutMs.getD svc.config.defaultSubprocessTimeoutMs
  all_goals
    simp only [invoke, exec_bind, exec_read, exec_get, exec_tryCatch, exec_map, Frame.nestedFor,
      SubprocessConfig.childRequest, SubprocessConfig.timeoutFor, Option.elim, *, if_true, if_false]
    generalize (nested _ _).exec svc w = x
    rcases x with ⟨(e | k | p) | R, w₁⟩
    · rfl
    · -- only whether the halt is at the child's depth matters, so that depth stays abstract
      generalize (inv.child c.processId).depth = dc
      by_cases hk : k = dc
      · subst hk
        simp [afterNested_own_deadline]
      · simp [afterNested_other_deadline hk, hk]
    · rfl
    · cases hs : R.status <;> simp [afterNested, ExecutionResult.settle, hs]

/-- **How a nested run leaves its node.** A failing guard is the node's error and nothing runs.
Once the guard passes, the nested run gets the node's request and a frame one level deeper, and
what it gives decides the node's outcome, changing the context in no other way: an answer is
stored over the context and fails the node exactly when its `codigoError` reads as a non-blank
text; a run that reached no output sets the error fields to `98`, its message and the flow it
ran; a failed run copies its own three error fields, an absent one as an empty text; a fault
sets them to `SUB_ERROR`; all but an answer fail the node. The nested run's own time running out
is the node's time-out error, its panic is the node's error with the runtime's text, and a
deadline higher up stops the node. -/
theorem invoke_changes_context :
    (∀ e, Invocation.check spec.id c.processId frame.invocation svc.config.maxSubprocessDepth = .error e →
      (invoke nested req frame spec c ctx).exec svc w = (.ok (.error e), w)) ∧
    (Invocation.check spec.id c.processId frame.invocation svc.config.maxSubprocessDepth = .ok () →
      ∀ o w₁, (nested (c.childRequest req ctx) (frame.nestedFor c.processId (c.timeoutFor svc) w.clock)).exec svc w =
        (o, w₁) →
      (∀ R, o = .ok R → R.status = .completed → ∃ errored ctx',
        (invoke nested req frame spec c ctx).exec svc w = (.ok (.ok (errored, ctx', R.data.getD [])), w₁) ∧
        (errored = true ↔ ∃ v, (R.data.getD []).get? "codigoError" = some v ∧ ¬Text.isBlankText v.plain) ∧
        ctx.Overlaid ctx' (R.data.getD [])) ∧
      (∀ R, o = .ok R → R.status = .incomplete → ∃ ctx',
        (invoke nested req frame spec c ctx).exec svc w = (.ok (.ok (true, ctx', [])), w₁) ∧
        ctx.ErrorsSet ctx' (.str "98") (.str R.message)
          (.str ("subprocess " ++ c.processId ++ " did not reach an output node"))) ∧
      (∀ R, o = .ok R → R.status = .failed → ∃ ctx',
        (invoke nested req frame spec c ctx).exec svc w = (.ok (.ok (true, ctx', R.data.getD [])), w₁) ∧
        ctx.ErrorsSet ctx' (((R.data.getD []).get? "codigoError").getD (.str ""))
          (((R.data.getD []).get? "mensajeError").getD (.str ""))
          (((R.data.getD []).get? "detalleError").getD (.str ""))) ∧
      (∀ e, o = .error (.fault e) → ∃ ctx',
        (invoke nested req frame spec c ctx).exec svc w = (.ok (.ok (true, ctx', [])), w₁) ∧
        ctx.ErrorsSet ctx' (.str "SUB_ERROR") (.str "Error en subproceso") (.str e.message)) ∧
      (o = .error (.deadline (frame.invocation.child c.processId).depth) →
        (invoke nested req frame spec c ctx).exec svc w = (.ok (.error (.timeout c.processId (c.timeoutFor svc))), w₁)) ∧
      (∀ k, k ≠ (frame.invocation.child c.processId).depth → o = .error (.deadline k) →
        (invoke nested req frame spec c ctx).exec svc w = (.error (.deadline k), w₁)) ∧
      (∀ p, o = .error (.panic p) →
        (invoke nested req frame spec c ctx).exec svc w = (.ok (.error (.failed c.processId (svc.panickedTask p))), w₁))) := by
  refine ⟨fun e hg => exec_invoke_guard hg, fun hg o w₁ hrun => ?_⟩
  rw [exec_invoke_run hg, hrun]
  refine ⟨?_, ?_, ?_, ?_, ?_, ?_, ?_⟩
  · rintro R rfl hs
    refine ⟨_, _, by rw [afterNested, ExecutionResult.settle_completed hs], ExecutionResult.errorCode_isSome_iff,
      Members.overlaid_extend _⟩
  · rintro R rfl hs
    exact ⟨_, by rw [afterNested, ExecutionResult.settle_incomplete hs], Members.errorsSet_setError _ _ _⟩
  · rintro R rfl hs
    exact ⟨_, by rw [afterNested, ExecutionResult.settle_failed hs], Members.errorsSet_foldl_insert _⟩
  · rintro e rfl
    exact ⟨_, rfl, Members.errorsSet_setError _ _ _⟩
  · rintro rfl
    exact afterNested_own_deadline _ _ _ _
  · rintro k hk rfl
    exact afterNested_other_deadline hk _ _ _
  · rintro p rfl
    rfl

/-- A nested run that answers with a `codigoError` fails its node; the answer is stored over the
node's context. -/
theorem nested_answer_with_code_fails_node :
    let R := ExecutionResult.completed "h" "subproceso" [("codigoError", .str "E1"), ("x", .str "v")]
    let frame : Frame := { invocation := Invocation.root "p", user := "u", role := "" }
    let c : SubprocessConfig := { processId := "h" }
    let ctx : Members := [("x", .str "old"), ("y", .str "kept")]
    let w : World := { store := {} }
    Invocation.check "n" c.processId frame.invocation (({} : Services).config.maxSubprocessDepth) = .ok () ∧
      ∃ errored ctx',
        (invoke (fun _ _ => pure R) { processId := "p", input := [] } frame { id := "n", type := "subproceso" } c ctx).exec
          {} w = (.ok (.ok (errored, ctx', R.data.getD [])), w) ∧
        (errored = true ↔ ∃ v, (R.data.getD []).get? "codigoError" = some v ∧ ¬Text.isBlankText v.plain) ∧
        ctx.Overlaid ctx' (R.data.getD []) := by
  intro R frame c ctx w
  have hb : Text.isBlankText "h" = false := by decide
  have hg : Invocation.check "n" c.processId frame.invocation (({} : Services).config.maxSubprocessDepth) = .ok () := by
    simp [Invocation.check, hb, Invocation.isActive, frame, c, Invocation.root]
  exact ⟨hg, (invoke_changes_context.2 hg (.ok R) w rfl).1 R rfl rfl⟩

end Engine

end IntegrationFlow
