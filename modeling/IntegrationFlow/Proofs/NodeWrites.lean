import IntegrationFlow.Proofs.Schema
import Mathlib.Data.List.Forall2
import Mathlib.Data.List.Induction

/-!
Nodes written into a stored flow: a write fails exactly when the flow is missing, its text does
not read, or no node has the id, and changes nothing else. When the text reads back, a run of
writes is known without running it (`Store.writeNodes_eq_afterWrites`).
-/

namespace IntegrationFlow

/-- The last of the written nodes with an id. -/
def lastWithId (us : List NodeSpec) (id : String) : Option NodeSpec := us.reverse.find? (·.id == id)

namespace FlowDefinition

/-- A definition whose text reads back as itself. -/
def ReadsBack (d : FlowDefinition) : Prop := parse d.text = .ok d

/-- `d'` is `d` with some of its nodes replaced, each by a node of `us` with the same id. -/
structure Substitutes (d : FlowDefinition) (us : List NodeSpec) (d' : FlowDefinition) : Prop where
  id : d'.id = d.id
  name : d'.name = d.name
  edges : d'.edges = d.edges
  nodes : List.Forall₂ (fun m m' => m' = m ∨ m'.id = m.id ∧ m' ∈ us) d.nodes d'.nodes

/-- The definition with the nodes of `us` written in: the first node with each id becomes the
last node of `us` with that id, and every other node stays. -/
def withWritten (d : FlowDefinition) (us : List NodeSpec) : FlowDefinition :=
  { d with nodes := d.nodes.mapIdx fun i m =>
      if d.nodes.findIdx? (·.id == m.id) = some i then (lastWithId us m.id).getD m else m }

end FlowDefinition

namespace Store

/-- Writes a node into a stored flow as the engine does: a write that fails leaves the store as
it was. -/
def writeNode (s : Store) (p : String) (n : NodeSpec) : Store :=
  match s.updateNode p n with
  | .ok s' => s'
  | .error _ => s

/-- Writes nodes into a stored flow one after another. -/
def writeNodes (s : Store) (p : String) (us : List NodeSpec) : Store :=
  us.foldl (fun s n => s.writeNode p n) s

/-- The store that writing `us` leaves, the flow read as `r` with definition `d`: unchanged
when no node of `us` has an id of `d`, else holding the text of `d` with `us` written in. -/
def afterWrites (s : Store) (r : FlowRecord) (d : FlowDefinition) (us : List NodeSpec) : Store :=
  if us.any (fun n => d.nodes.any (·.id == n.id)) then s.insertFlow { r with text := (d.withWritten us).text }
  else s

end Store

/-! ### The last node written with an id -/

section LastWithId

variable {us pre post : List NodeSpec} {n n₁ n₂ u : NodeSpec} {x : String}

lemma lastWithId_append_self : lastWithId (us ++ [n]) n.id = some n := by
  simp [lastWithId]

lemma lastWithId_append_of_ne (h : n.id ≠ x) : lastWithId (us ++ [n]) x = lastWithId us x := by
  simp [lastWithId, h]

lemma lastWithId_swap (h : n₁.id ≠ n₂.id) :
    lastWithId (pre ++ n₁ :: n₂ :: post) x = lastWithId (pre ++ n₂ :: n₁ :: post) x := by
  by_cases h₁ : n₁.id = x <;> by_cases h₂ : n₂.id = x
  · exact absurd (h₁.trans h₂.symm) h
  all_goals simp [lastWithId, List.find?_append, h₁, h₂]

lemma id_of_lastWithId (h : lastWithId us x = some u) : u.id = x := by
  simpa using List.find?_some h

lemma mem_of_lastWithId (h : lastWithId us x = some u) : u ∈ us :=
  List.mem_reverse.1 (List.mem_of_find?_eq_some h)

lemma lastWithId_eq_none (h : ∀ n ∈ us, n.id ≠ x) : lastWithId us x = none := by
  rw [lastWithId, List.find?_eq_none]
  intro n hn
  simpa using h n (List.mem_reverse.1 hn)

lemma findIdx?_id_eq_none_iff {ms : List NodeSpec} :
    ms.findIdx? (·.id == x) = none ↔ ∀ m ∈ ms, m.id ≠ x := by
  simp [List.findIdx?_eq_none_iff]

lemma id_getD_lastWithId (m : NodeSpec) : ((lastWithId us m.id).getD m).id = m.id := by
  cases h : lastWithId us m.id with
  | none => rfl
  | some u => exact id_of_lastWithId h

end LastWithId

/-! ### The definition with nodes written in -/

namespace FlowDefinition

variable {d : FlowDefinition} {us pre post : List NodeSpec} {n n₁ n₂ : NodeSpec}

@[simp] lemma length_withWritten : (d.withWritten us).nodes.length = d.nodes.length := by
  simp [withWritten]

lemma map_id_withWritten : (d.withWritten us).nodes.map (·.id) = d.nodes.map (·.id) := by
  apply List.ext_getElem (by simp)
  intro j h₁ h₂
  simp only [withWritten, List.getElem_map, List.getElem_mapIdx]
  split_ifs
  · exact id_getD_lastWithId _
  · rfl

lemma findIdx?_withWritten (x : String) :
    (d.withWritten us).nodes.findIdx? (·.id == x) = d.nodes.findIdx? (·.id == x) := by
  have h := congrArg (List.findIdx? (· == x))
    (map_id_withWritten : (d.withWritten us).nodes.map (·.id) = d.nodes.map (·.id))
  simpa [List.findIdx?_map, Function.comp_def] using h

lemma withWritten_of_not_any (h : us.any (fun n => d.nodes.any (·.id == n.id)) = false) :
    d.withWritten us = d := by
  have hnone : ∀ m ∈ d.nodes, lastWithId us m.id = none := by
    intro m hm
    apply lastWithId_eq_none
    intro n hn hid
    exact List.any_eq_false.1 h n hn (List.any_eq_true.2 ⟨m, hm, by simp [hid]⟩)
  cases d with
  | mk id name nodes edges =>
    simp only [withWritten, mk.injEq, true_and, and_true]
    apply List.ext_getElem (by simp)
    intro j h₁ h₂
    simp [hnone _ (List.getElem_mem h₂)]

lemma withWritten_append_of_findIdx? {i : Nat} (hi : d.nodes.findIdx? (·.id == n.id) = some i) :
    d.withWritten (us ++ [n]) = { d.withWritten us with nodes := (d.withWritten us).nodes.set i n } := by
  obtain ⟨hlt, hid, -⟩ := List.findIdx?_eq_some_iff_getElem.1 hi
  simp only [withWritten, mk.injEq, true_and, and_true]
  apply List.ext_getElem (by simp)
  intro j h₁ h₂
  simp only [List.getElem_mapIdx, List.getElem_set]
  by_cases hj : i = j
  · subst hj
    have hidi : d.nodes[i].id = n.id := by simpa using hid
    rw [if_pos rfl, if_pos (by rw [hidi]; exact hi), hidi, lastWithId_append_self, Option.getD_some]
  · -- another place: only a first node of another id is replaced, and not by `n`
    have hj' : j < d.nodes.length := by simpa using h₁
    rw [if_neg hj]
    split_ifs with hfirst
    · have hne : n.id ≠ d.nodes[j].id := by
        intro heq
        rw [← heq, hi] at hfirst
        exact hj (Option.some.inj hfirst)
      rw [lastWithId_append_of_ne hne]
    · rfl

lemma withWritten_append_of_not_any (h : d.nodes.any (·.id == n.id) = false) :
    d.withWritten (us ++ [n]) = d.withWritten us := by
  simp only [withWritten, mk.injEq, true_and, and_true]
  rw [List.mapIdx_eq_mapIdx_iff]
  intro j hj
  have hne : n.id ≠ d.nodes[j].id := by
    intro heq
    exact List.any_eq_false.1 h _ (List.getElem_mem hj) (by simp [heq])
  rw [lastWithId_append_of_ne hne]

lemma withWritten_swap (h : n₁.id ≠ n₂.id) :
    d.withWritten (pre ++ n₁ :: n₂ :: post) = d.withWritten (pre ++ n₂ :: n₁ :: post) := by
  simp only [withWritten, lastWithId_swap h]

lemma substitutes_withWritten : d.Substitutes us (d.withWritten us) where
  id := rfl
  name := rfl
  edges := rfl
  nodes := by
    -- each node stays, or becomes the last node of `us` with its id
    rw [List.forall₂_iff_get]
    refine ⟨by simp, fun j h₁ h₂ => ?_⟩
    simp only [List.get_eq_getElem, withWritten, List.getElem_mapIdx]
    split_ifs
    · cases hl : lastWithId us d.nodes[j].id with
      | none => exact .inl rfl
      | some u => exact .inr ⟨id_of_lastWithId hl, mem_of_lastWithId hl⟩
    · exact .inl rfl

lemma substitutes_self : d.Substitutes us d :=
  ⟨rfl, rfl, rfl, List.forall₂_same.2 fun _ _ => .inl rfl⟩

lemma Substitutes.mono {d' : FlowDefinition} {vs : List NodeSpec} (h : d.Substitutes us d')
    (hsub : ∀ n ∈ us, n ∈ vs) : d.Substitutes vs d' :=
  ⟨h.id, h.name, h.edges, h.nodes.imp fun _ _ hm => hm.imp_right fun hm => ⟨hm.1, hsub _ hm.2⟩⟩

end FlowDefinition

/-! ### Stored records -/

namespace Store

variable {s : Store} {p q : String} {r : FlowRecord} {d : FlowDefinition} {n : NodeSpec}

lemma loadFlow_insertFlow_of_ne {r : FlowRecord} (h : q ≠ r.id) : (s.insertFlow r).loadFlow q = s.loadFlow q := by
  unfold insertFlow loadFlow
  split_ifs with hany
  · -- a record replaced had the id of `r`, so it is not the one looked for
    have hfind : ((fun f : FlowRecord => f.id == q) ∘ fun f => if f.id == r.id then r else f) =
        fun f => f.id == q := by
      funext f
      by_cases hf : f.id = r.id <;> simp [hf]
    rw [← List.map_reverse, List.find?_map, hfind]
    cases hx : s.flows.reverse.find? (·.id == q) with
    | none => rfl
    | some f =>
      have hf : f.id = q := by simpa using List.find?_some hx
      simp [hf, h]
  · simp [Ne.symm h]

lemma insertFlow_servers (r : FlowRecord) : (s.insertFlow r).servers = s.servers := by
  unfold insertFlow
  split_ifs <;> rfl

lemma insertFlow_tables (r : FlowRecord) : (s.insertFlow r).tables = s.tables := by
  unfold insertFlow
  split_ifs <;> rfl

lemma insertFlow_insertFlow {r₁ r₂ : FlowRecord} (h : r₁.id = r₂.id) :
    (s.insertFlow r₁).insertFlow r₂ = s.insertFlow r₂ := by
  unfold insertFlow
  by_cases hany : s.flows.any (·.id == r₁.id)
  · have hany₂ : (s.flows.map fun f => if f.id == r₁.id then r₁ else f).any (·.id == r₂.id) := by
      obtain ⟨f, hf, hfid⟩ := List.any_eq_true.1 hany
      exact List.any_eq_true.2 ⟨r₁, List.mem_map.2 ⟨f, hf, by simp [hfid]⟩, by simp [h]⟩
    rw [if_pos hany, if_pos hany₂, if_pos (h ▸ hany), List.map_map]
    congr 2
    funext f
    by_cases hf : f.id = r₂.id <;> simp [hf, h]
  · have hany₂ : (s.flows ++ [r₁]).any (·.id == r₂.id) := by simp [h]
    rw [if_neg hany, if_pos hany₂, if_neg (h ▸ hany), List.map_append]
    -- only the appended record has the id
    have hkeep : s.flows.map (fun f => if f.id == r₂.id then r₂ else f) = s.flows := by
      rw [List.map_congr_left (g := id), List.map_id]
      intro f hf
      have : ¬f.id = r₂.id := fun hid => hany (List.any_eq_true.2 ⟨f, hf, by simp [hid, h]⟩)
      simp [this]
    rw [hkeep]
    simp [h]

lemma loadFlow_eq_error_iff {e : StoreError} :
    s.loadFlow p = .error e ↔ (∀ r ∈ s.flows, r.id ≠ p) ∧ e = .notFound "flow" p := by
  unfold loadFlow
  cases h : s.flows.reverse.find? (·.id == p) with
  | none =>
    have hnone : ∀ r ∈ s.flows, r.id ≠ p := by
      intro r hr hid
      exact List.find?_eq_none.1 h r (List.mem_reverse.2 hr) (by simp [hid])
    simp only [Except.error.injEq]
    exact ⟨fun he => ⟨hnone, he.symm⟩, fun h => h.2.symm⟩
  | some r =>
    have hr : r ∈ s.flows := List.mem_reverse.1 (List.mem_of_find?_eq_some h)
    have hid : r.id = p := by simpa using List.find?_some h
    simp only [reduceCtorEq, false_iff, not_and]
    intro hall
    exact absurd hid (hall r hr)

/-! ### One write -/

lemma updateNode_of_loadFlow_error {e : StoreError} (h : s.loadFlow p = .error e) :
    s.updateNode p n = .error e := by
  simp [updateNode, h, bind, Except.bind]

section Read

variable (hr : s.loadFlow p = .ok r)
include hr

lemma updateNode_of_parse_error {fe : FlowError} (hd : FlowDefinition.parse r.text = .error fe) :
    s.updateNode p n = .error (.invalid fe.message) := by
  simp [updateNode, hr, hd, bind, Except.bind, throw, throwThe, MonadExceptOf.throw]

variable (hd : FlowDefinition.parse r.text = .ok d)
include hd

lemma updateNode_of_findIdx? {i : Nat} (hi : d.nodes.findIdx? (·.id == n.id) = some i) :
    s.updateNode p n = .ok (s.insertFlow { r with text := { d with nodes := d.nodes.set i n }.text }) := by
  simp [updateNode, hr, hd, hi, bind, Except.bind, pure, Except.pure]

lemma updateNode_of_findIdx?_none (hi : d.nodes.findIdx? (·.id == n.id) = none) :
    s.updateNode p n = .error (.notFound "node" n.id) := by
  simp [updateNode, hr, hd, hi, bind, Except.bind, pure, Except.pure, throw, throwThe, MonadExceptOf.throw]

lemma writeNode_of_findIdx? {i : Nat} (hi : d.nodes.findIdx? (·.id == n.id) = some i) :
    s.writeNode p n = s.insertFlow { r with text := { d with nodes := d.nodes.set i n }.text } := by
  rw [writeNode, updateNode_of_findIdx? hr hd hi]

lemma writeNode_of_findIdx?_none (hi : d.nodes.findIdx? (·.id == n.id) = none) : s.writeNode p n = s := by
  rw [writeNode, updateNode_of_findIdx?_none hr hd hi]

lemma definition_of_read : s.definition p = .ok d := by
  simp [definition, hr, hd, bind, Except.bind, pure, Except.pure]

end Read

/-- **A write fails** exactly when the flow is missing, its stored text does not read, or no node
of it has the id of the node written, each with its own fault. -/
theorem updateNode_eq_error_iff {e : StoreError} : s.updateNode p n = .error e ↔
    ((∀ r ∈ s.flows, r.id ≠ p) ∧ e = .notFound "flow" p) ∨
    (∃ r fe, s.loadFlow p = .ok r ∧ FlowDefinition.parse r.text = .error fe ∧ e = .invalid fe.message) ∨
    (∃ r d, s.loadFlow p = .ok r ∧ FlowDefinition.parse r.text = .ok d ∧ (∀ m ∈ d.nodes, m.id ≠ n.id) ∧
      e = .notFound "node" n.id) := by
  constructor
  · -- the fault tells which step of the write failed
    intro h
    cases hr : s.loadFlow p with
    | error e₀ =>
      rw [updateNode_of_loadFlow_error hr] at h
      cases h
      exact .inl (loadFlow_eq_error_iff.1 hr)
    | ok r =>
      cases hd : FlowDefinition.parse r.text with
      | error fe =>
        rw [updateNode_of_parse_error hr hd] at h
        cases h
        exact .inr (.inl ⟨r, fe, rfl, hd, rfl⟩)
      | ok d =>
        cases hi : d.nodes.findIdx? (·.id == n.id) with
        | none =>
          rw [updateNode_of_findIdx?_none hr hd hi] at h
          cases h
          exact .inr (.inr ⟨r, d, rfl, hd, findIdx?_id_eq_none_iff.1 hi, rfl⟩)
        | some i =>
          rw [updateNode_of_findIdx? hr hd hi] at h
          cases h
  · rintro (hmiss | ⟨r, fe, hr, hd, rfl⟩ | ⟨r, d, hr, hd, hno, rfl⟩)
    · exact updateNode_of_loadFlow_error (loadFlow_eq_error_iff.2 hmiss)
    · exact updateNode_of_parse_error hr hd
    · exact updateNode_of_findIdx?_none hr hd (findIdx?_id_eq_none_iff.2 hno)

lemma writeNode_eq (s : Store) (p : String) (n : NodeSpec) :
    s.writeNode p n = s ∨ ∃ r : FlowRecord, r.id = p ∧ s.writeNode p n = s.insertFlow r := by
  cases hr : s.loadFlow p with
  | error e => exact .inl (by rw [writeNode, updateNode_of_loadFlow_error hr])
  | ok r =>
    cases hd : FlowDefinition.parse r.text with
    | error fe => exact .inl (by rw [writeNode, updateNode_of_parse_error hr hd])
    | ok d =>
      cases hi : d.nodes.findIdx? (·.id == n.id) with
      | none => exact .inl (writeNode_of_findIdx?_none hr hd hi)
      | some i =>
        refine .inr ⟨_, ?_, writeNode_of_findIdx? hr hd hi⟩
        show r.id = p
        exact loadFlow_id hr

/-- **What writes leave alone**: the servers, the tables and every other flow. -/
theorem writeNodes_frame (s : Store) (p : String) (us : List NodeSpec) :
    (s.writeNodes p us).servers = s.servers ∧ (s.writeNodes p us).tables = s.tables ∧
      ∀ q, q ≠ p → (s.writeNodes p us).loadFlow q = s.loadFlow q := by
  induction us generalizing s with
  | nil => exact ⟨rfl, rfl, fun _ _ => rfl⟩
  | cons n us ih =>
    obtain ⟨hserv, htab, hload⟩ := ih (s.writeNode p n)
    refine ⟨hserv.trans ?_, htab.trans ?_, fun q hq => (hload q hq).trans ?_⟩
    all_goals
      rcases writeNode_eq s p n with h | ⟨r, hid, h⟩ <;> rw [h]
    · exact insertFlow_servers r
    · exact insertFlow_tables r
    · exact loadFlow_insertFlow_of_ne (hid ▸ hq)

/-! ### A run of writes -/

lemma writeNodes_append_single (s : Store) (p : String) (us : List NodeSpec) (n : NodeSpec) :
    s.writeNodes p (us ++ [n]) = (s.writeNodes p us).writeNode p n := by
  simp [writeNodes]

section Run

variable {us : List NodeSpec} (hr : s.loadFlow p = .ok r) (hd : FlowDefinition.parse r.text = .ok d)
include hr hd

lemma read_afterWrites (hrt : (d.withWritten us).ReadsBack) :
    ∃ r₀ : FlowRecord, (s.afterWrites r d us).loadFlow p = .ok r₀ ∧
      FlowDefinition.parse r₀.text = .ok (d.withWritten us) ∧
      ∀ t : String, (s.afterWrites r d us).insertFlow { r₀ with text := t } = s.insertFlow { r with text := t } := by
  unfold afterWrites
  split_ifs with hany
  · refine ⟨{ r with text := (d.withWritten us).text }, ?_, hrt, fun t => insertFlow_insertFlow rfl⟩
    rw [← loadFlow_id hr]
    exact loadFlow_insertFlow _
  · rw [FlowDefinition.withWritten_of_not_any (by simpa using hany)]
    exact ⟨r, hr, hd, fun _ => rfl⟩

/-- **One more write** into the store that the writes so far left. -/
lemma writeNode_afterWrites (hrt : (d.withWritten us).ReadsBack) :
    (s.afterWrites r d us).writeNode p n = s.afterWrites r d (us ++ [n]) := by
  obtain ⟨r₀, hr₀, hd₀, hover⟩ := read_afterWrites hr hd hrt
  cases hi : d.nodes.findIdx? (·.id == n.id) with
  | none =>
    have hn : d.nodes.any (·.id == n.id) = false := by
      rw [← List.findIdx?_isSome, hi]
      rfl
    rw [writeNode_of_findIdx?_none hr₀ hd₀ (by rw [FlowDefinition.findIdx?_withWritten, hi])]
    simp only [afterWrites, List.any_append, List.any_cons, List.any_nil, hn, Bool.or_false,
      FlowDefinition.withWritten_append_of_not_any hn]
  | some i =>
    have hn : d.nodes.any (·.id == n.id) = true := by
      rw [← List.findIdx?_isSome, hi]
      rfl
    rw [writeNode_of_findIdx? hr₀ hd₀ (by rw [FlowDefinition.findIdx?_withWritten, hi]), hover,
      ← FlowDefinition.withWritten_append_of_findIdx? hi]
    simp only [afterWrites, List.any_append, List.any_cons, List.any_nil, hn, Bool.or_false,
      Bool.or_true, if_true]

/-- **A run of writes** into a flow whose written definitions read back leaves the store
`afterWrites`. -/
theorem writeNodes_eq_afterWrites (hrt : ∀ d', d.Substitutes us d' → d'.ReadsBack) :
    s.writeNodes p us = s.afterWrites r d us := by
  induction us using List.reverseRecOn with
  | nil => simp [writeNodes, afterWrites]
  | append_singleton us n ih =>
    have hsub : ∀ d', d.Substitutes us d' → d.Substitutes (us ++ [n]) d' :=
      fun d' h => h.mono fun m hm => List.mem_append_left _ hm
    rw [writeNodes_append_single, ih fun d' h => hrt d' (hsub d' h),
      writeNode_afterWrites hr hd (hrt _ (hsub _ FlowDefinition.substitutes_withWritten))]

lemma definition_afterWrites (hrt : (d.withWritten us).ReadsBack) :
    (s.afterWrites r d us).definition p = .ok (d.withWritten us) := by
  obtain ⟨r₀, hr₀, hd₀, -⟩ := read_afterWrites hr hd hrt
  exact definition_of_read hr₀ hd₀

end Run

lemma afterWrites_swap {pre post : List NodeSpec} {n₁ n₂ : NodeSpec} (h : n₁.id ≠ n₂.id) :
    s.afterWrites r d (pre ++ n₂ :: n₁ :: post) = s.afterWrites r d (pre ++ n₁ :: n₂ :: post) := by
  simp only [afterWrites, FlowDefinition.withWritten_swap (Ne.symm h), List.any_append, List.any_cons,
    Bool.or_left_comm]

/-- **Writing nodes into a stored flow.** A write fails exactly on a missing flow, a text that
does not read or a missing node, and writes change nothing but their flow. When the definitions
that the writes can make read back, a run of writes leaves `afterWrites`: the stored definition
has each first node of an id replaced by the last node written with that id, and writes of
different ids commute. -/
theorem writeNodes_replace_first_by_last :
    (∀ (s : Store) (p : String) (n : NodeSpec) (e : StoreError), s.updateNode p n = .error e ↔
      ((∀ r ∈ s.flows, r.id ≠ p) ∧ e = .notFound "flow" p) ∨
      (∃ r fe, s.loadFlow p = .ok r ∧ FlowDefinition.parse r.text = .error fe ∧ e = .invalid fe.message) ∨
      (∃ r d, s.loadFlow p = .ok r ∧ FlowDefinition.parse r.text = .ok d ∧ (∀ m ∈ d.nodes, m.id ≠ n.id) ∧
        e = .notFound "node" n.id)) ∧
    (∀ (s : Store) (p : String) (us : List NodeSpec),
      (s.writeNodes p us).servers = s.servers ∧ (s.writeNodes p us).tables = s.tables ∧
        ∀ q, q ≠ p → (s.writeNodes p us).loadFlow q = s.loadFlow q) ∧
    (∀ (s : Store) (p : String) (r : FlowRecord) (d : FlowDefinition) (us : List NodeSpec),
      s.loadFlow p = .ok r → FlowDefinition.parse r.text = .ok d →
      (∀ d', d.Substitutes us d' → d'.ReadsBack) →
      s.writeNodes p us = s.afterWrites r d us ∧
      (s.writeNodes p us).definition p = .ok (d.withWritten us) ∧
      ∀ pre n₁ n₂ post, us = pre ++ n₁ :: n₂ :: post → n₁.id ≠ n₂.id →
        s.writeNodes p (pre ++ n₂ :: n₁ :: post) = s.writeNodes p us) := by
  refine ⟨fun s p n e => updateNode_eq_error_iff, writeNodes_frame, fun s p r d us hr hd hrt => ?_⟩
  have hrun := writeNodes_eq_afterWrites hr hd hrt
  refine ⟨hrun, ?_, ?_⟩
  · rw [hrun]
    exact definition_afterWrites hr hd (hrt _ FlowDefinition.substitutes_withWritten)
  · rintro pre n₁ n₂ post rfl hne
    -- the swapped run writes the same nodes, so its definitions read back too
    have hperm := (List.Perm.swap n₁ n₂ post).append_left pre
    have hrt' : ∀ d', d.Substitutes (pre ++ n₂ :: n₁ :: post) d' → d'.ReadsBack :=
      fun d' h => hrt d' (h.mono fun m hm => hperm.mem_iff.1 hm)
    rw [writeNodes_eq_afterWrites hr hd hrt', hrun, afterWrites_swap hne]

end Store

/-! ### A flow of two nodes -/

namespace FlowDefinition

/-- Whether a node holds no data and no place. -/
def bareNode (m : NodeSpec) : Bool := m.data.isEmpty && m.position.isNone

/-- What a definition with bare nodes and no edges is determined by, in a form that can be
compared. -/
def outline (d : FlowDefinition) : String × String × List (String × String) × Bool × Bool :=
  (d.id, d.name, d.nodes.map (fun m => (m.id, m.type)), d.nodes.all bareNode, d.edges.isEmpty)

lemma nodes_eq_of_outline {ms ms' : List NodeSpec}
    (h : ms'.map (fun m => (m.id, m.type)) = ms.map (fun m => (m.id, m.type)))
    (hb : ms.all bareNode = true) (hb' : ms'.all bareNode = true) : ms' = ms := by
  induction ms generalizing ms' with
  | nil => simpa using h
  | cons m ms ih =>
    cases ms' with
    | nil => cases h
    | cons m' ms' =>
      simp only [List.map_cons, List.cons.injEq, Prod.mk.injEq] at h
      simp only [List.all_cons, Bool.and_eq_true] at hb hb'
      rw [ih h.2 hb.2 hb'.2]
      -- two bare nodes with one id and one type are one node
      obtain ⟨id, type, data, position⟩ := m
      obtain ⟨id', type', data', position'⟩ := m'
      simp_all [bareNode, List.isEmpty_iff, Option.isNone_iff_eq_none]

lemma eq_of_outline {d d' : FlowDefinition} (h : d'.outline = d.outline) (hb : d.nodes.all bareNode = true)
    (he : d.edges = []) : d' = d := by
  obtain ⟨id, name, nodes, edges⟩ := d
  obtain ⟨id', name', nodes', edges'⟩ := d'
  simp only [outline, Prod.mk.injEq] at h he hb
  obtain ⟨rfl, rfl, hnodes, hb', hedges⟩ := h
  subst he
  have hedges' : edges' = [] := List.isEmpty_iff.1 hedges
  rw [nodes_eq_of_outline hnodes hb (hb'.trans hb), hedges']

lemma readsBack_of_outline {d : FlowDefinition} (hb : d.nodes.all bareNode = true) (he : d.edges = [])
    (h : ((parse d.text).toOption.any fun d' => d'.outline == d.outline) = true) : d.ReadsBack := by
  obtain ⟨d', hd', ho⟩ := (Option.any_eq_true _ _).1 h
  have hparse : parse d.text = .ok d' := by
    cases hp : parse d.text with
    | error e =>
      rw [hp] at hd'
      cases hd'
    | ok x =>
      rw [hp] at hd'
      cases hd'
      rfl
  rw [ReadsBack, hparse, eq_of_outline (beq_iff_eq.1 ho) hb he]

end FlowDefinition

/-- A flow of two nodes of one type. -/
def pairFlow : FlowDefinition := { id := "p", nodes := [{ id := "a", type := "x" }, { id := "b", type := "x" }] }

/-- Writes of both nodes of `pairFlow`, each with a type of its own. -/
def pairWrites : List NodeSpec := [{ id := "a", type := "y" }, { id := "b", type := "z" }]

/-- A store holding `pairFlow` as `p`. -/
def pairStore : Store := { flows := [{ id := "p", text := pairFlow.text }] }

lemma pairFlow_readsBack : ∀ d', pairFlow.Substitutes pairWrites d' → d'.ReadsBack := by
  rintro ⟨id, name, nodes, edges⟩ ⟨hid, hname, hedges, hnodes⟩
  simp only at hid hname hedges
  subst hid hname hedges
  -- each of the two nodes stays or becomes the node written with its id
  have hplace : ∀ m m' : NodeSpec, (m' = m ∨ m'.id = m.id ∧ m' ∈ pairWrites) →
      m' ∈ m :: pairWrites.filter (·.id == m.id) := by
    rintro m m' (rfl | ⟨hid, hm⟩)
    · exact List.mem_cons_self
    · exact List.mem_cons_of_mem _ (List.mem_filter.2 ⟨hm, by simp [hid]⟩)
  obtain _ | ⟨h₁, _ | ⟨h₂, _ | _⟩⟩ := hnodes
  have h₁ := hplace _ _ h₁
  have h₂ := hplace _ _ h₂
  simp [pairWrites] at h₁ h₂
  rcases h₁ with rfl | rfl <;> rcases h₂ with rfl | rfl
  all_goals exact FlowDefinition.readsBack_of_outline (by decide) rfl (by decide +kernel)

/-- Writing both nodes of `pairFlow` replaces both, and in either order the store ends the same. -/
theorem pair_writes_commute :
    pairStore.loadFlow "p" = .ok { id := "p", text := pairFlow.text } ∧
      FlowDefinition.parse pairFlow.text = .ok pairFlow ∧
      (∀ d', pairFlow.Substitutes pairWrites d' → d'.ReadsBack) ∧
      (pairStore.writeNodes "p" pairWrites).definition "p" = .ok { pairFlow with nodes := pairWrites } ∧
      pairStore.writeNodes "p" [{ id := "b", type := "z" }, { id := "a", type := "y" }] =
        pairStore.writeNodes "p" pairWrites := by
  have hr : pairStore.loadFlow "p" = .ok { id := "p", text := pairFlow.text } := rfl
  have hd : FlowDefinition.parse pairFlow.text = .ok pairFlow :=
    pairFlow_readsBack _ FlowDefinition.substitutes_self
  obtain ⟨-, hdef, hswap⟩ :=
    Store.writeNodes_replace_first_by_last.2.2 pairStore "p" _ pairFlow pairWrites hr hd pairFlow_readsBack
  have hnodes : pairFlow.withWritten pairWrites = { pairFlow with nodes := pairWrites } := rfl
  exact ⟨hr, hd, pairFlow_readsBack, hnodes ▸ hdef, hswap [] _ _ [] rfl (by decide)⟩

end IntegrationFlow
