import IntegrationFlow.Proofs.NestedOutcome
import IntegrationFlow.Proofs.Schema
import IntegrationFlow.Proofs.GroupResolution

/-!
What condition, process and splitter nodes change in the context. A condition stores its
verdict and never its bindings; a process node stores its assignments, the answer and the
fields read from it; a failed join keeps the assignments it resolved.
-/

namespace IntegrationFlow

namespace Members

variable {a b : Members} {k : String} {v : Json}

lemma extend_append (a : Members) (l₁ l₂ : List (String × Json)) : a.extend (l₁ ++ l₂) = (a.extend l₁).extend l₂ := by
  simp [extend, List.foldl_append]

lemma get?_insert_same (h : a.get? k = some v) (k' : String) : (a.insert k v).get? k' = a.get? k' := by
  by_cases hk : k' = k
  · subst hk
    rw [get?_insert_self, h]
  · exact get?_insert_of_ne a v hk

lemma get?_foldl_restore {α β : Type} {F : Members × β → α → Members × β} (k : String) (v : Json)
    (hF : ∀ acc x, (F acc x).1 = acc.1 ∨ (F acc x).1 = acc.1.insert k v) (xs : List α) :
    ∀ acc : Members × β, acc.1.get? k = some v → ∀ k', (xs.foldl F acc).1.get? k' = acc.1.get? k' := by
  induction xs with
  | nil => exact fun _ _ _ => rfl
  | cons x xs ih =>
    intro acc hacc k'
    -- one step keeps every lookup, so `k` still holds `v` for the steps after it
    have hstep : ∀ k', (F acc x).1.get? k' = acc.1.get? k' := by
      rcases hF acc x with h | h <;> rw [h]
      · exact fun _ => rfl
      · exact get?_insert_same hacc
    rw [List.foldl_cons, ih (F acc x) (by rw [hstep]; exact hacc), hstep]

lemma setError_eq_extend (m : Members) (code message detail : String) :
    m.setError code message detail =
      m.extend [("codigoError", .str code), ("mensajeError", .str message), ("detalleError", .str detail)] := rfl

lemma overlaid_of_get? {ctx ctx' : Members} {l : List (String × Json)} (h : ∀ k, ctx'.get? k = (ctx.extend l).get? k) :
    ctx.Overlaid ctx' l :=
  fun k => (h k).trans (get?_extend ctx l k)

lemma get?_extend_congr (h : ∀ k, a.get? k = b.get? k) (l : List (String × Json)) (k : String) :
    (a.extend l).get? k = (b.extend l).get? k := by
  rw [get?_extend, get?_extend, h]

end Members

/-! ### Conditions -/

/-- What a condition node writes for a verdict, in order: the verdict under `cumple`,
`resultado` and `resultado_<node>`, the object `{cumple: verdict}` under `fullOutput`, and, for a
verdict of false, the error fields of code `66`. -/
def verdictWrites (nodeId : String) (met : Bool) : Members :=
  [("cumple", .bool met), ("resultado", .bool met), ("resultado_" ++ nodeId, .bool met),
    ("fullOutput", .obj [("cumple", .bool met)])] ++
  if met then []
  else [("codigoError", .str "66"), ("mensajeError", .str "La condición no se cumple"),
    ("detalleError", .str "cumple=false")]

namespace ConditionConfig

variable {engine : Expr.ScriptEngine} {reg : FunctionRegistry} {tables : Tables} {expression : String} {c : ConditionConfig}
  {ctx : Members} {id : ConditionIdentity}

lemma get?_verdict {met : Bool} {name : String} {v : Json} (h : Members.get? [("cumple", .bool met)] name = some v) :
    name = "cumple" ∧ v = .bool met := by
  rw [Members.get?_cons] at h
  split at h
  · exact ⟨‹_›, (Option.some.inj h).symm⟩
  · simp at h

lemma cumple_ne_resultado (nodeId : String) : "cumple" ≠ "resultado_" ++ nodeId := by
  intro h
  have hlen := congrArg String.length h
  simp only [String.length_append] at hlen
  have : "cumple".length = 6 := rfl
  have : "resultado_".length = 10 := rfl
  omega

lemma decide_of_ok (nodeId : String) {met : Bool}
    (h : Expr.evaluateCondition engine reg { context := c.bindings ctx id, tables } expression = .ok met) :
    (c.decide engine reg tables nodeId expression ctx id).met = met ∧
      (c.decide engine reg tables nodeId expression ctx id).error = none ∧
      ctx.Overlaid (c.decide engine reg tables nodeId expression ctx id).context (verdictWrites nodeId met) := by
  -- `cumple` is stored first, under a key no later store of the verdict uses
  have hcumple : (ctx.extend [("cumple", .bool met), ("resultado", .bool met), ("resultado_" ++ nodeId, .bool met),
      ("fullOutput", .obj [("cumple", .bool met)])]).get? "cumple" = some (.bool met) := by
    simp only [Members.extend, List.foldl_cons, List.foldl_nil]
    rw [Members.get?_insert_of_ne _ _ (by decide), Members.get?_insert_of_ne _ _ (cumple_ne_resultado nodeId),
      Members.get?_insert_of_ne _ _ (by decide), Members.get?_insert_self]
  unfold decide
  rw [h]
  dsimp only
  generalize hfold : List.foldl _ _ c.outputParams = R
  -- the output parameters find only `cumple` in the verdict, and store it again
  have hkeep : ∀ k, R.1.get? k = (ctx.extend [("cumple", .bool met), ("resultado", .bool met),
      ("resultado_" ++ nodeId, .bool met), ("fullOutput", .obj [("cumple", .bool met)])]).get? k := by
    rw [← hfold]
    refine Members.get?_foldl_restore "cumple" (.bool met) (fun acc p => ?_) _ _ hcumple
    split
    · rename_i v hv
      obtain ⟨hn, rfl⟩ := get?_verdict hv
      exact .inr (by rw [hn])
    · exact .inl rfl
  cases met
  · refine ⟨rfl, rfl, Members.overlaid_of_get? fun k => ?_⟩
    rw [if_neg Bool.false_ne_true, Members.setError_eq_extend, Members.get?_extend_congr hkeep, ← Members.extend_append]
    rfl
  · exact ⟨rfl, rfl, Members.overlaid_of_get? hkeep⟩

lemma decide_of_error (nodeId : String) {err : ResolveError}
    (h : Expr.evaluateCondition engine reg { context := c.bindings ctx id, tables } expression = .error err) :
    (c.decide engine reg tables nodeId expression ctx id).met = false ∧
      (c.decide engine reg tables nodeId expression ctx id).error = some err.message ∧
      ctx.ErrorsSet (c.decide engine reg tables nodeId expression ctx id).context
        (.str "99") (.str "Error al evaluar condición") (.str err.message) := by
  unfold decide
  rw [h]
  exact ⟨rfl, rfl, Members.errorsSet_setError _ _ _⟩

end ConditionConfig

/-! ### Process nodes -/

/-- How a process node reads its backend's raw answer: the object or array it parses to, and an
empty object for anything else, or for text that does not parse. -/
def answerDocument (raw : String) : Json :=
  match Json.parse raw with
  | .ok (.obj m) => .obj m
  | .ok (.arr xs) => .arr xs
  | _ => .obj []

/-- What storing a backend's raw answer writes, in order: the text under `FullOutput`, and its
reading as a document under `fullOutput_<node>` and `fullOutput`. -/
def answerWrites (nodeId raw : String) : Members :=
  [("FullOutput", .str raw), ("fullOutput_" ++ nodeId, answerDocument raw), ("fullOutput", answerDocument raw)]

lemma Members.storeFullOutput_eq (ctx : Members) (nodeId raw : String) :
    ctx.storeFullOutput nodeId raw = (ctx.extend (answerWrites nodeId raw), answerDocument raw) := rfl

namespace Engine

variable {svc : Services} {w : World} {nested : Request → Frame → Engine ExecutionResult}
  {req : Request} {frame : Frame} {flowName : String} {n : GraphNode} {ctx : Members}

/-- **What a condition node changes.** A condition node with an expression that is not blank runs
without touching the world and branches on its verdict. The bindings it evaluates against, with
the reserved keys of who runs which flow and its input parameters converted, never reach the
context: a verdict is recorded over the context under `cumple`, `resultado`, `resultado_<node>`
and `fullOutput`, with the error fields of code `66` when it is false, and every other key keeps
its value; an expression that fails to evaluate sets the three error fields to `99`, its message
and the fault, changes no other key, and takes the false branch. -/
theorem condition_node_records_verdict {c : ConditionConfig} {e : String} (hc : n.config = .ok (.condition c))
    (he : c.expression = some e) (hb : Text.isBlankText e = false) :
    let verdict := Expr.evaluateCondition svc.scripts svc.functions
      { context := c.bindings ctx (conditionIdentity svc req frame flowName), tables := w.store.tables } e
    ∃ r, (runNode nested req frame flowName n ctx).exec svc w = (.ok r, w) ∧
      (∀ met, verdict = .ok met →
        r.route = .branch met ∧ r.error = none ∧ ctx.Overlaid r.context (verdictWrites n.spec.id met)) ∧
      (∀ err, verdict = .error err →
        r.route = .branch false ∧ r.error = some err.message ∧
          ctx.ErrorsSet r.context (.str "99") (.str "Error al evaluar condición") (.str err.message)) := by
  intro verdict
  rw [exec_runNode_condition hc, he]
  simp only [hb, Bool.false_eq_true, if_false]
  refine ⟨_, rfl, fun met hv => ?_, fun err hv => ?_⟩
  · obtain ⟨hmet, herr, hctx⟩ := ConditionConfig.decide_of_ok n.spec.id hv
    exact ⟨by rw [hmet], herr, hctx⟩
  · obtain ⟨hmet, herr, hctx⟩ := ConditionConfig.decide_of_error n.spec.id hv
    exact ⟨by rw [hmet], herr, hctx⟩

/-- A condition that converts its input `x` to a number for its evaluation leaves the text of `x`
in the context, whatever the verdict. -/
theorem condition_keeps_converted_input :
    let c : ConditionConfig := { expression := some "x > 1", inputParams := [{ name := "x", kind := "int" }] }
    let n : GraphNode := { spec := { id := "c", type := "condicion" }, kind := .condition, config := .ok (.condition c) }
    let req : Request := { processId := "p", input := [] }
    let frame : Frame := { invocation := Invocation.root "p", user := "u", role := "" }
    let w : World := { store := {} }
    n.config = .ok (.condition c) ∧ c.expression = some "x > 1" ∧ Text.isBlankText "x > 1" = false ∧
      ∃ r, (runNode (fun _ _ => throw (.deadline 0)) req frame "f" n [("x", .str "5")]).exec {} w = (.ok r, w) ∧
        r.context.get? "x" = some (.str "5") := by
  intro c n req frame w
  have hc : n.config = .ok (.condition c) := rfl
  have he : c.expression = some "x > 1" := rfl
  have hb : Text.isBlankText "x > 1" = false := by decide
  obtain ⟨r, hrun, hok, herr⟩ := @condition_node_records_verdict {} w (fun _ _ => throw (.deadline 0)) req frame "f" n
    [("x", .str "5")] c "x > 1" hc he hb
  refine ⟨hc, he, hb, r, hrun, ?_⟩
  generalize Expr.evaluateCondition _ _ _ _ = verdict at hok herr
  cases verdict with
  | ok met =>
    rw [(hok met rfl).2.2 "x"]
    cases met <;> rfl
  | error err => exact (herr err rfl).2.2.2.2.2 "x" (by decide) (by decide) (by decide)

section Process

variable {spec : NodeSpec} {c : ProcessConfig}

@[simp] lemma exec_scope : (scope ctx).exec svc w = (.ok { context := ctx, tables := w.store.tables, ambient := svc.ambient }, w) :=
  rfl

lemma callBackend_returns {b : BackendExecutor} {server : ServerConfig} {x : Except BackendError String} {w₁ : World}
    (h : (callBackend frame b spec ctx server).exec svc w = (.ok x, w₁)) : x = (b.answer spec ctx server).outcome := by
  unfold callBackend at h
  simp only [exec_bind, exec_modify, exec_get] at h
  -- past the deadline the call halts; otherwise it returns the answer
  split at h
  · split at h
    · simp [exec_bind, exec_map] at h
    · simp only [exec_bind, exec_modify, exec_pure, Prod.mk.injEq, Except.ok.injEq] at h
      exact h.1.symm
  · simp only [exec_bind, exec_modify, exec_pure, Prod.mk.injEq, Except.ok.injEq] at h
    exact h.1.symm

lemma discoverFields_returns {processId raw : String} {fields : List FieldDef} {w₁ : World}
    (h : (discoverFields processId raw spec c).exec svc w = (.ok fields, w₁)) :
    fields = c.outputParams ∨ Schema.discover raw c.responseType c.parentTag = .ok fields := by
  rw [exec_discoverFields] at h
  split at h <;> simp only [Prod.mk.injEq, Except.ok.injEq] at h
  · exact .inl h.1.symm
  · exact .inl h.1.symm
  · rename_i hd
    exact .inr (h.1 ▸ hd)

lemma exec_processCall_blank (hb : Text.isBlankText c.serverId = true) :
    (processCall req frame spec c ctx).exec svc w = (.ok (ctx, .error (.configuration "servidorId is not set")), w) := by
  simp only [processCall, exec_bind, exec_read, hb, if_true, exec_pure]

lemma exec_processCall_server {e : StoreError} (hb : Text.isBlankText c.serverId = false)
    (hs : w.store.loadServer c.serverId = .error e) :
    (processCall req frame spec c ctx).exec svc w = (.ok (ctx, .error (.server c.serverId e)), w) := by
  simp only [processCall, exec_bind, exec_read, exec_get, hb, hs, Bool.false_eq_true, if_false, exec_pure]

variable {server : ServerConfig}

lemma exec_processCall_resolve {e : ResolveError} (hb : Text.isBlankText c.serverId = false)
    (hs : w.store.loadServer c.serverId = .ok server)
    (hr : c.assignments.resolve svc.functions ⟨ctx, w.store.tables, svc.ambient⟩ .propagate = .error e) :
    (processCall req frame spec c ctx).exec svc w = (.ok (ctx, .error (.resolve e)), w) := by
  simp only [processCall, exec_bind, exec_read, exec_get, exec_scope, hb, hs, Bool.false_eq_true, if_false]
  simp only [hr, exec_pure]

lemma exec_processCall_unsupported {applied : Members} {e : NodeError} (hb : Text.isBlankText c.serverId = false)
    (hs : w.store.loadServer c.serverId = .ok server)
    (hr : c.assignments.resolve svc.functions ⟨ctx, w.store.tables, svc.ambient⟩ .propagate = .ok applied)
    (hg : svc.backends.get server.serverType = .error e) :
    (processCall req frame spec c ctx).exec svc w = (.ok (ctx.extend applied, .error e), w) := by
  simp only [processCall, exec_bind, exec_read, exec_get, exec_scope, hb, hs, Bool.false_eq_true, if_false]
  simp only [hr, hg, exec_pure]

/-- **After the backend call.** The context holds the resolved assignments, then, when the
backend answered, the answer stored, and on success the fields copied out of the answer. -/
lemma processCall_called {applied ctx' : Members} {b : BackendExecutor} {r : Except NodeError Members} {w' : World}
    (hb : Text.isBlankText c.serverId = false) (hs : w.store.loadServer c.serverId = .ok server)
    (hr : c.assignments.resolve svc.functions ⟨ctx, w.store.tables, svc.ambient⟩ .propagate = .ok applied)
    (hg : svc.backends.get server.serverType = .ok b)
    (h : (processCall req frame spec c ctx).exec svc w = (.ok (ctx', r), w')) :
    let reply := (b.answer spec (ctx.extend applied) server).outcome
    (∀ e, reply = .error e → e.rawOutput? = none → ctx.Overlaid ctx' applied) ∧
    (∀ e raw, reply = .error e → e.rawOutput? = some raw → ctx.Overlaid ctx' (applied ++ answerWrites spec.id raw)) ∧
    (∀ raw, reply = .ok raw → ∃ fields,
      (fields = c.outputParams ∨ c.parseFullOutput = true ∧ Schema.discover raw c.responseType c.parentTag = .ok fields) ∧
      ctx.Overlaid ctx' (applied ++ answerWrites spec.id raw ++ Schema.extract (answerDocument raw) fields c.parentTag)) := by
  dsimp only
  simp only [processCall, exec_bind, exec_read, exec_get, exec_scope, hb, hs, Bool.false_eq_true, if_false] at h
  simp only [hr, hg, exec_bind] at h
  -- the call halts, or returns the answer
  rcases hcall : (callBackend frame b spec (ctx.extend applied) server).exec svc w with ⟨_ | x, w₁⟩
  · rw [hcall] at h
    cases h
  rw [hcall, callBackend_returns hcall] at h
  dsimp only at h
  generalize (b.answer spec (ctx.extend applied) server).outcome = reply at h ⊢
  cases reply with
  | error e =>
    simp only [exec_pure, Prod.mk.injEq, Except.ok.injEq] at h
    refine ⟨fun e' he hraw => ?_, fun e' raw he hraw => ?_, fun raw hok => by cases hok⟩ <;> cases he
    · rw [hraw] at h
      rw [← h.1.1]
      exact Members.overlaid_extend applied
    · rw [hraw] at h
      dsimp only at h
      rw [Members.storeFullOutput_eq] at h
      rw [← h.1.1, ← Members.extend_append]
      exact Members.overlaid_extend _
  | ok raw =>
    refine ⟨fun e he => (by cases he), fun e raw he => (by cases he), fun raw' hok => ?_⟩
    cases hok
    dsimp only at h
    rw [Members.storeFullOutput_eq] at h
    -- the context the fields are copied into, whichever fields they are
    have hstored : ∀ fields : List FieldDef, ctx.Overlaid
        (((ctx.extend applied).extend (answerWrites spec.id raw)).extend
          (Schema.extract (answerDocument raw) fields c.parentTag))
        (applied ++ answerWrites spec.id raw ++ Schema.extract (answerDocument raw) fields c.parentTag) := by
      intro fields
      rw [← Members.extend_append, ← Members.extend_append, List.append_assoc]
      exact Members.overlaid_extend _
    cases hp : c.parseFullOutput
    · simp only [hp, Bool.false_eq_true, if_false, exec_bind, exec_pure, Prod.mk.injEq, Except.ok.injEq] at h
      exact ⟨c.outputParams, .inl rfl, h.1.1 ▸ hstored _⟩
    · simp only [hp, if_true, exec_bind] at h
      rcases hd : (discoverFields req.processId raw spec c).exec svc w₁ with ⟨_ | fields, w₂⟩
      · rw [hd] at h
        cases h
      rw [hd] at h
      simp only [exec_pure, Prod.mk.injEq, Except.ok.injEq] at h
      refine ⟨fields, ?_, h.1.1 ▸ hstored _⟩
      rcases discoverFields_returns hd with hdecl | hdisc
      · exact .inl hdecl
      · exact .inr ⟨rfl, hdisc⟩

lemma processCall_stopped {ctx' : Members} {r : Except NodeError Members} {w' : World}
    (hstop : Text.isBlankText c.serverId = true ∨ (∃ e, w.store.loadServer c.serverId = .error e) ∨
      ∃ e, c.assignments.resolve svc.functions ⟨ctx, w.store.tables, svc.ambient⟩ .propagate = .error e)
    (h : (processCall req frame spec c ctx).exec svc w = (.ok (ctx', r), w')) : ctx' = ctx := by
  cases hb : Text.isBlankText c.serverId with
  | true =>
    rw [exec_processCall_blank hb] at h
    simp only [Prod.mk.injEq, Except.ok.injEq] at h
    exact h.1.1.symm
  | false =>
    cases hs : w.store.loadServer c.serverId with
    | error e =>
      rw [exec_processCall_server hb hs] at h
      simp only [Prod.mk.injEq, Except.ok.injEq] at h
      exact h.1.1.symm
    | ok server =>
      cases hr : c.assignments.resolve svc.functions ⟨ctx, w.store.tables, svc.ambient⟩ .propagate with
      | error e =>
        rw [exec_processCall_resolve hb hs hr] at h
        simp only [Prod.mk.injEq, Except.ok.injEq] at h
        exact h.1.1.symm
      | ok applied =>
        -- the node got past all three checks, so none of them stopped it
        exfalso
        rcases hstop with hb' | ⟨e, hs'⟩ | ⟨e, hr'⟩
        · rw [hb] at hb'
          cases hb'
        · rw [hs] at hs'
          cases hs'
        · rw [hr] at hr'
          cases hr'

/-- **What a process node changes.** A process node leaves the context as it was when it names
no server, its server cannot be loaded, or one of its assignments fails, which under `propagate`
is a fault other than a missing field. Otherwise the resolved assignments are stored over the
context first, and with no backend for the server's type nothing else is. After the backend call,
an answer that carries no text adds nothing; a text, answered or carried by a failure, is stored
under `FullOutput`, and its reading as a document under `fullOutput_<node>` and `fullOutput`. On
success the declared fields, or those derived from the answer, found in the document below the
parent tag are stored last. Every other key keeps its value. -/
theorem process_call_changes_context {ctx' : Members} {r : Except NodeError Members} {w' : World}
    (h : (processCall req frame spec c ctx).exec svc w = (.ok (ctx', r), w')) :
    let scope : CallScope := ⟨ctx, w.store.tables, svc.ambient⟩
    ((Text.isBlankText c.serverId = true ∨ (∃ e, w.store.loadServer c.serverId = .error e) ∨
        ∃ e, c.assignments.resolve svc.functions scope .propagate = .error e) → ctx' = ctx) ∧
    (∀ e, c.assignments.resolve svc.functions scope .propagate = .error e → ∀ f, e ≠ .fieldNotFound f) ∧
    ∀ server applied, Text.isBlankText c.serverId = false → w.store.loadServer c.serverId = .ok server →
      c.assignments.resolve svc.functions scope .propagate = .ok applied →
      ((∃ e, svc.backends.get server.serverType = .error e) → ctx.Overlaid ctx' applied) ∧
      ∀ b, svc.backends.get server.serverType = .ok b →
        let reply := (b.answer spec (ctx.extend applied) server).outcome
        (∀ e, reply = .error e → e.rawOutput? = none → ctx.Overlaid ctx' applied) ∧
        (∀ e raw, reply = .error e → e.rawOutput? = some raw →
          ctx.Overlaid ctx' (applied ++ answerWrites spec.id raw)) ∧
        (∀ raw, reply = .ok raw → ∃ fields,
          (fields = c.outputParams ∨
            c.parseFullOutput = true ∧ Schema.discover raw c.responseType c.parentTag = .ok fields) ∧
          ctx.Overlaid ctx' (applied ++ answerWrites spec.id raw ++
            Schema.extract (answerDocument raw) fields c.parentTag)) := by
  intro scope
  refine ⟨fun hstop => processCall_stopped hstop h, fun e he => ?_, fun server applied hb hs hr => ⟨?_, ?_⟩⟩
  · -- the walk stops at an assignment that fails other than by a missing field
    obtain ⟨-, a, -, -, hstop, -⟩ := AssignmentGroups.exists_first_stop (AssignmentGroups.findSome?_fault_of_error he)
    exact hstop.2.2
  · rintro ⟨e, hg⟩
    rw [exec_processCall_unsupported hb hs hr hg] at h
    simp only [Prod.mk.injEq, Except.ok.injEq] at h
    rw [← h.1.1]
    exact Members.overlaid_extend applied
  · exact fun b hg => processCall_called hb hs hr hg h

/-- A process node whose backend answers the object with `a` set to `1` copies `a` into the
context and keeps `x`. -/
theorem process_answer_copied :
    let c : ProcessConfig := { serverId := "s", outputParams := [{ name := "a" }] }
    let spec : NodeSpec := { id := "p", type := "proceso", data := [("objeto", .str "o")] }
    let svc : Services := { backends := [("rest", BackendExecutor.scripted "rest" [("o", .str "\x7b\"a\":1\x7d")])] }
    let w : World := { store := { servers := [{ id := "s", serverType := "rest", host := "h" }] } }
    let frame : Frame := { invocation := Invocation.root "f", user := "u", role := "" }
    ∃ ctx' r w', (processCall { processId := "f", input := [] } frame spec c [("x", .str "1")]).exec svc w =
        (.ok (ctx', r), w') ∧
      (ctx'.get? "a").map Json.plain = some "1" ∧ (ctx'.get? "x").map Json.plain = some "1" := by
  intro c spec svc w frame
  -- the frame has no deadline, so the call does not halt
  obtain ⟨⟨ctx', r⟩, w', h⟩ : ∃ p w', (processCall { processId := "f", input := [] } frame spec c
      [("x", .str "1")]).exec svc w = (.ok p, w') := by
    rcases hx : (processCall { processId := "f", input := [] } frame spec c [("x", .str "1")]).exec svc w
      with ⟨halt | p, w'⟩
    · have hh := processCall_halts svc w _ w' hx
      cases halt <;> simp [Halt.OnDeadline, Frame.deadlineDepth, frame] at hh
    · exact ⟨p, w', rfl⟩
  have hb : Text.isBlankText c.serverId = false := by decide
  obtain ⟨-, -, hcall⟩ := process_call_changes_context h
  obtain ⟨fields, hfields, hctx⟩ := ((hcall { id := "s", serverType := "rest", host := "h" } [] hb rfl rfl).2
    (BackendExecutor.scripted "rest" [("o", .str "\x7b\"a\":1\x7d")]) rfl).2.2 "\x7b\"a\":1\x7d" rfl
  -- the node does not ask for the schema, so the declared fields are copied
  have hdecl : fields = c.outputParams := by
    rcases hfields with h | ⟨hp, -⟩
    · exact h
    · cases hp
  subst hdecl
  refine ⟨ctx', r, w', h, ?_, ?_⟩ <;> rw [hctx] <;> decide +kernel

end Process

end Engine

/-! ### Splitters -/

namespace Splitter

lemma apply_error_context {codecs : Codecs} {reg : FunctionRegistry} {scope : CallScope} {c : SplitterConfig}
    {ctx' : Members} {e : NodeError} (h : apply codecs reg scope c = .ok (ctx', .error e)) :
    ctx' = scope.context ∨
      Text.toLower ((nonBlank c.mode).getD "descomponer") = "unir" ∧
      ∃ produced, c.assignments.resolve reg scope .skip = .ok produced ∧
        join c (scope.context.extend produced) = .ok (.error e) ∧ ctx' = scope.context.extend produced := by
  unfold apply at h
  dsimp only at h
  split at h
  · -- a split merges its fields only once it succeeded
    left
    split at h <;> simp_all
  · rename_i hmode
    split at h
    · left
      simp_all
    · rename_i produced hres
      -- only a join that returns a fault leaves the splitter failed
      rcases hjoin : join c (scope.context.extend produced) with p | e' | joined <;>
        simp only [hjoin, Except.map, Except.ok.injEq, Prod.mk.injEq, Except.error.injEq, reduceCtorEq,
          and_false] at h
      obtain ⟨rfl, rfl⟩ := h
      exact .inr ⟨hmode, produced, hres, hjoin, rfl⟩
  · left
    simp_all

lemma apply_unir_without_segments :
    apply .standard .standard ⟨[], [], {}⟩
        { mode := some "unir", assignments := [("g", [{ kind := .literal, value := .str "x", destination := "a" }])] } =
      .ok ([("a", .str "x")], .error (.splitter "segmentosFijos must be set to join fixed-width fields")) := by
  have hunir : Text.toLower "unir" = "unir" := by decide
  have hplano : Text.toLower "plano" = "plano" := by decide
  have hmode : Text.isBlankText "unir" = false := by decide
  have hdest : Text.isBlankText "a" = false := by decide
  simp [Splitter.apply, nonBlank, AssignmentGroups.resolve, AssignmentGroups.flatten, Assignment.resolve,
    join, hunir, hplano, hmode, hdest, Members.insert, Members.extend, pure, Except.pure, throw, throwThe,
    MonadExceptOf.throw, bind, Except.bind, Except.map]

/-- A join that fails after its assignment resolved: the splitter fails, and the context it leaves
holds the value the assignment stored. -/
theorem failed_join_keeps_assignment :
    let scope : CallScope := ⟨[], [], {}⟩
    let c : SplitterConfig :=
      { mode := some "unir", assignments := [("g", [{ kind := .literal, value := .str "x", destination := "a" }])] }
    apply .standard .standard scope c =
        .ok ([("a", .str "x")], .error (.splitter "segmentosFijos must be set to join fixed-width fields")) ∧
      ∀ ctx' e, apply .standard .standard scope c = .ok (ctx', .error e) → ctx' ≠ scope.context := by
  intro scope c
  refine ⟨apply_unir_without_segments, fun ctx' e h => ?_⟩
  rw [apply_unir_without_segments] at h
  simp only [Except.ok.injEq, Prod.mk.injEq] at h
  rw [← h.1]
  simp [scope]

end Splitter

namespace Engine

variable {svc : Services} {w : World} {nested : Request → Frame → Engine ExecutionResult}
  {req : Request} {frame : Frame} {flowName : String} {n : GraphNode} {ctx : Members}

/-- **What a failed splitter leaves.** When the splitter of a splitter node fails, the node fails
softly and records the `SPLITTER_ERROR` fields over the context the splitter left. That is the
context it was given, unless the splitter joins (`unir`): its assignments, which pass over
faults, then resolved, and the values they produced were stored before the join failed, and stay. -/
theorem failed_splitter_context {c : SplitterConfig} (hc : n.config = .ok (.splitter c)) {ctx' : Members}
    {e : NodeError} (he : Splitter.apply svc.codecs svc.functions ⟨ctx, w.store.tables, svc.ambient⟩ c = .ok (ctx', .error e)) :
    (runNode nested req frame flowName n ctx).exec svc w =
        (.ok (softFailure (.routed true) (ctx'.setError "SPLITTER_ERROR" "Error en splitter" e.message) e.message), w) ∧
      (ctx' = ctx ∨
        Text.toLower ((Splitter.nonBlank c.mode).getD "descomponer") = "unir" ∧
        ∃ produced, c.assignments.resolve svc.functions ⟨ctx, w.store.tables, svc.ambient⟩ .skip = .ok produced ∧
          Splitter.join c (ctx.extend produced) = .ok (.error e) ∧ ctx' = ctx.extend produced) :=
  ⟨by rw [exec_runNode_splitter hc, he], Splitter.apply_error_context he⟩

/-- A splitter node whose join fails after its assignment resolved records the error fields over
a context that holds the assignment's value. -/
theorem failed_join_node_keeps_assignment :
    let c : SplitterConfig :=
      { mode := some "unir", assignments := [("g", [{ kind := .literal, value := .str "x", destination := "a" }])] }
    let n : GraphNode := { spec := { id := "s", type := "splitter" }, kind := .splitter, config := .ok (.splitter c) }
    let req : Request := { processId := "p", input := [] }
    let frame : Frame := { invocation := Invocation.root "p", user := "u", role := "" }
    let w : World := { store := {} }
    let e : NodeError := .splitter "segmentosFijos must be set to join fixed-width fields"
    let svc : Services := {}
    let ctx' : Members := [("a", .str "x")]
    n.config = .ok (.splitter c) ∧ Splitter.apply svc.codecs svc.functions ⟨[], w.store.tables, svc.ambient⟩ c = .ok (ctx', .error e) ∧
      (runNode (fun _ _ => throw (.deadline 0)) req frame "f" n []).exec svc w =
          (.ok (softFailure (.routed true) (ctx'.setError "SPLITTER_ERROR" "Error en splitter" e.message) e.message), w) ∧
        (ctx' = [] ∨
          Text.toLower ((Splitter.nonBlank c.mode).getD "descomponer") = "unir" ∧
          ∃ produced, c.assignments.resolve svc.functions ⟨[], w.store.tables, svc.ambient⟩ .skip = .ok produced ∧
            Splitter.join c (Members.extend [] produced) = .ok (.error e) ∧ ctx' = Members.extend [] produced) := by
  intro c n req frame w e svc ctx'
  have hc : n.config = .ok (.splitter c) := rfl
  have he : Splitter.apply svc.codecs svc.functions ⟨[], w.store.tables, svc.ambient⟩ c = .ok (ctx', .error e) :=
    Splitter.apply_unir_without_segments
  exact ⟨hc, he, @failed_splitter_context svc w (fun _ _ => throw (.deadline 0)) req frame "f" n [] c hc ctx' e he⟩

end Engine

end IntegrationFlow
