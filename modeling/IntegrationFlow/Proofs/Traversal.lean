import Mathlib.Data.List.Nodup
import IntegrationFlow.Engine.Run

/-!
The traversal loop of a run, read as a relation `Runs` over its runs. The invariant `Inv`
(pending nodes ascend, none has run, all are nodes of the graph) makes the head of the pending
set a fresh node, so no node runs twice.
-/

namespace IntegrationFlow

/-! ### Pending sets -/

@[simp] lemma mem_insertSorted {i x : Nat} {l : List Nat} : x ∈ insertSorted i l ↔ x = i ∨ x ∈ l := by
  induction l with
  | nil => simp [insertSorted]
  | cons j js ih =>
    unfold insertSorted
    split_ifs with hlt heq
    · simp
    · subst heq
      simp only [List.mem_cons]
      constructor
      · intro h
        exact Or.inr h
      · rintro (rfl | h)
        · exact Or.inl rfl
        · exact h
    · simp only [List.mem_cons, ih]
      tauto

lemma pairwise_insertSorted {i : Nat} {l : List Nat} (h : l.Pairwise (· < ·)) :
    (insertSorted i l).Pairwise (· < ·) := by
  induction l with
  | nil => simp [insertSorted]
  | cons j js ih =>
    rw [List.pairwise_cons] at h
    unfold insertSorted
    split_ifs with hlt heq
    · -- `i` goes in front of a list that already ascends from `j`
      refine List.Pairwise.cons ?_ (List.Pairwise.cons h.1 h.2)
      intro x hx
      rcases List.mem_cons.1 hx with rfl | hx
      · exact hlt
      · exact Nat.lt_trans hlt (h.1 x hx)
    · exact List.Pairwise.cons h.1 h.2
    · refine List.Pairwise.cons ?_ (ih h.2)
      intro x hx
      rcases mem_insertSorted.1 hx with rfl | hx
      · omega
      · exact h.1 x hx

namespace Traversal

lemma mem_foldl_insert {vis : List Nat} {p : Nat} :
    ∀ (ls : List Link) (acc : List Nat),
      p ∈ ls.foldl (fun q l => if vis.contains l.target then q else insertSorted l.target q) acc ↔
        p ∈ acc ∨ (p ∉ vis ∧ ∃ l ∈ ls, l.target = p)
  | [], acc => by simp
  | l :: ls, acc => by
    rw [List.foldl_cons, mem_foldl_insert ls]
    by_cases hv : l.target ∈ vis
    · have hc : vis.contains l.target = true := List.contains_iff_mem.2 hv
      simp only [hc, if_true, List.mem_cons, exists_eq_or_imp]
      constructor
      · rintro (h | ⟨h1, h2⟩)
        · exact Or.inl h
        · exact Or.inr ⟨h1, Or.inr h2⟩
      · rintro (h | ⟨h1, rfl | h2⟩)
        · exact Or.inl h
        · exact absurd hv h1
        · exact Or.inr ⟨h1, h2⟩
    · have hc : vis.contains l.target = false := by simpa using hv
      simp only [hc, Bool.false_eq_true, if_false, mem_insertSorted, List.mem_cons,
        exists_eq_or_imp]
      constructor
      · rintro ((rfl | h) | ⟨h1, h2⟩)
        · exact Or.inr ⟨hv, Or.inl rfl⟩
        · exact Or.inl h
        · exact Or.inr ⟨h1, Or.inr h2⟩
      · rintro (h | ⟨h1, rfl | h2⟩)
        · exact Or.inl (Or.inr h)
        · exact Or.inl (Or.inl rfl)
        · exact Or.inr ⟨h1, h2⟩

lemma pairwise_foldl_insert {vis : List Nat} :
    ∀ (ls : List Link) {acc : List Nat}, acc.Pairwise (· < ·) →
      (ls.foldl (fun q l => if vis.contains l.target then q else insertSorted l.target q) acc).Pairwise (· < ·)
  | [], _, h => h
  | l :: ls, acc, h => by
    rw [List.foldl_cons]
    apply pairwise_foldl_insert ls
    split
    · exact h
    · exact pairwise_insertSorted h

variable {g : FlowGraph} {s i p : Nat} {f : EdgeSpec → GraphNode → Bool} {t : Traversal}

lemma mem_taken {l : Link} :
    l ∈ taken g s f ↔ l ∈ g.outgoing s ∧ ∃ n, g.node? l.target = some n ∧ f l.edge n = true := by
  unfold taken
  rw [List.mem_filter]
  constructor
  · rintro ⟨hl, hf⟩
    refine ⟨hl, ?_⟩
    cases hn : g.node? l.target with
    | none => simp [hn] at hf
    | some n => exact ⟨n, rfl, by simpa [hn] using hf⟩
  · rintro ⟨hl, n, hn, hf⟩
    exact ⟨hl, by simp [hn, hf]⟩

lemma target_lt_of_mem_taken {l : Link} (h : l ∈ taken g s f) : l.target < g.nodes.length := by
  obtain ⟨-, n, hn, -⟩ := mem_taken.1 h
  exact (List.getElem?_eq_some_iff.1 hn).1

@[simp] lemma enqueue_visited : (enqueue g s f t).1.visited = t.visited := rfl
@[simp] lemma enqueue_context : (enqueue g s f t).1.context = t.context := rfl
@[simp] lemma enqueue_applied : (enqueue g s f t).1.applied = t.applied := rfl
@[simp] lemma enqueue_answer : (enqueue g s f t).1.answer = t.answer := rfl
@[simp] lemma enqueue_unrouted : (enqueue g s f t).1.unrouted = t.unrouted := rfl
@[simp] lemma enqueue_taken : (enqueue g s f t).2 = (taken g s f).length := rfl

lemma mem_enqueue_pending :
    p ∈ (enqueue g s f t).1.pending ↔ p ∈ t.pending ∨ (p ∉ t.visited ∧ ∃ l ∈ taken g s f, l.target = p) :=
  mem_foldl_insert _ _

lemma pairwise_enqueue_pending (h : t.pending.Pairwise (· < ·)) :
    (enqueue g s f t).1.pending.Pairwise (· < ·) :=
  pairwise_foldl_insert _ h

end Traversal

/-! ### Outcomes -/

namespace Route

/-- The edges an outcome follows, given the edge and its target node. -/
def follows : Route → EdgeSpec → GraphNode → Bool
  | .routed errored => fun e _ => e.follows errored
  | .branch met => fun e _ => e.handle == some (toString met)
  | .nested errored => fun e target =>
    match target.kind with
    | .output => !errored
    | .errorOutput => errored
    | _ => e.follows errored
  | .answer _ => fun _ _ => false

/-- Whether an outcome is a failure that routes as one. -/
def errored : Route → Bool
  | .routed e | .nested e => e
  | _ => false

/-- The answer an outcome gives, if it is one. -/
def answer? : Route → Option Members
  | .answer data => some data
  | _ => none

end Route

namespace Traversal

variable {g : FlowGraph} {s i p : Nat} {t : Traversal} {r : NodeReport} {o : Route}

@[simp] lemma route_visited : (route g s t o).visited = t.visited := by cases o <;> rfl
@[simp] lemma route_context : (route g s t o).context = t.context := by cases o <;> rfl
@[simp] lemma route_applied : (route g s t o).applied = t.applied := by cases o <;> rfl

lemma taken_none : taken g s (fun _ _ => false) = [] := by
  simp only [taken, List.filter_eq_nil_iff]
  intro l _
  split <;> simp

lemma route_pending : (route g s t o).pending = (enqueue g s o.follows t).1.pending := by
  cases o with
  | answer data => simp [route, enqueue, Route.follows, taken_none]
  | _ => rfl

@[simp] lemma route_answer : (route g s t o).answer = o.answer?.or t.answer := by
  cases o <;> rfl

@[simp] lemma route_unrouted :
    (route g s t o).unrouted = (t.unrouted || (o.errored && (taken g s o.follows).isEmpty)) := by
  cases o with
  | routed e | nested e =>
    simp only [route, Route.errored, Route.follows, enqueue_unrouted, enqueue_taken]
    generalize taken g s _ = ls
    cases ls <;> rfl
  | _ => simp [route, Route.errored]

@[simp] lemma visit_visited : (t.visit g i r).visited = i :: t.visited := by simp [visit]
@[simp] lemma visit_context : (t.visit g i r).context = r.context := by simp [visit]
@[simp] lemma visit_applied : (t.visit g i r).applied = t.applied.extend r.applied := by simp [visit]
@[simp] lemma visit_answer : (t.visit g i r).answer = r.route.answer?.or t.answer := by simp [visit]

@[simp] lemma visit_unrouted :
    (t.visit g i r).unrouted =
      (t.unrouted || (r.route.errored && (taken g i r.route.follows).isEmpty)) := by
  simp [visit]

lemma mem_visit_pending :
    p ∈ (t.visit g i r).pending ↔
      p ∈ t.pending.tail ∨ (p ∉ i :: t.visited ∧ ∃ l ∈ taken g i r.route.follows, l.target = p) := by
  simp only [visit, route_pending]
  exact mem_enqueue_pending

/-! ### Runs of the loop -/

/-- The loop has nothing left to do: no node is pending, or an output answered and the engine
does not drain. -/
def Stopped (drain : Bool) (t : Traversal) : Prop :=
  t.pending = [] ∨ (drain = false ∧ t.answer.isSome)

/-- Runs of the loop from `t₀` in state `s₀`, with the nodes executed in order and their
reports, where the loop stands and the state reached. A step runs the lowest pending node,
unless an output answered and the engine does not drain; `ran n ctx s r s'` says what running
node `n` against context `ctx` in state `s` may report and leave. -/
inductive Runs {σ : Type} (g : FlowGraph) (drain : Bool)
    (ran : GraphNode → Members → σ → NodeReport → σ → Prop) (t₀ : Traversal) (s₀ : σ) :
    List (Nat × NodeReport) → Traversal → σ → Prop
  | refl : Runs g drain ran t₀ s₀ [] t₀ s₀
  | tail {tr t s i n r s'} : Runs g drain ran t₀ s₀ tr t s → t.pending.head? = some i →
      g.node? i = some n → (drain = true ∨ t.answer = none) → ran n t.context s r s' →
      Runs g drain ran t₀ s₀ (tr ++ [(i, r)]) (t.visit g i r) s'

/-- What every state of the loop keeps. -/
structure Inv (g : FlowGraph) (t : Traversal) : Prop where
  sorted : t.pending.Pairwise (· < ·)
  fresh : ∀ p ∈ t.pending, p ∉ t.visited
  pending_lt : ∀ p ∈ t.pending, p < g.nodes.length
  nodup : t.visited.Nodup
  visited_lt : ∀ v ∈ t.visited, v < g.nodes.length

lemma entry_follows : (Route.routed false).follows = fun e _ => !e.onError := by
  funext e _
  simp only [Route.follows, EdgeSpec.follows]
  cases e.onError <;> rfl

section Initial

variable {ctx : Members} {e : Nat}

@[simp] lemma initial_answer : (initial g ctx).answer = none := rfl
@[simp] lemma initial_unrouted : (initial g ctx).unrouted = false := rfl
@[simp] lemma initial_context : (initial g ctx).context = ctx := rfl

lemma initial_visited (he : g.entry = some e) : (initial g ctx).visited = [e] := by
  simp [initial, he]

lemma mem_initial_pending (he : g.entry = some e) :
    p ∈ (initial g ctx).pending ↔ p ≠ e ∧ ∃ l ∈ taken g e (Route.routed false).follows, l.target = p := by
  simp only [initial, he, Option.getD_some, mem_enqueue_pending, List.not_mem_nil, false_or,
    List.mem_singleton, entry_follows]

lemma inv_initial (he : g.entry = some e) (hlt : e < g.nodes.length) : Inv g (initial g ctx) := by
  refine ⟨?_, ?_, ?_, ?_, ?_⟩
  · exact pairwise_enqueue_pending List.Pairwise.nil
  · intro p hp
    rw [initial_visited he, List.mem_singleton]
    exact ((mem_initial_pending he).1 hp).1
  · intro p hp
    obtain ⟨-, l, hl, rfl⟩ := (mem_initial_pending he).1 hp
    exact target_lt_of_mem_taken hl
  · simp [initial]
  · intro v hv
    rw [initial_visited he, List.mem_singleton] at hv
    exact hv ▸ hlt

end Initial

lemma Inv.step (h : Inv g t) (hi : t.pending.head? = some i) : Inv g (t.visit g i r) := by
  obtain ⟨rest, hpend⟩ : ∃ rest, t.pending = i :: rest := by
    cases hp : t.pending with
    | nil => simp [hp] at hi
    | cons j js => simp only [hp, List.head?_cons, Option.some.injEq] at hi; exact ⟨js, hi ▸ rfl⟩
  have hsorted := h.sorted
  rw [hpend, List.pairwise_cons] at hsorted
  have hi_fresh : i ∉ t.visited := h.fresh i (by simp [hpend])
  have hi_lt : i < g.nodes.length := h.pending_lt i (by simp [hpend])
  refine ⟨?_, ?_, ?_, ?_, ?_⟩
  · simp only [Traversal.visit, route_pending]
    exact pairwise_enqueue_pending (by simpa [hpend] using hsorted.2)
  · intro p hp
    rcases mem_visit_pending.1 hp with hp | ⟨hp, -⟩
    · -- a node behind `i` comes after it, and had not run
      rw [hpend, List.tail_cons] at hp
      have hne : p ≠ i := by have := hsorted.1 p hp; omega
      simpa [hne] using h.fresh p (by simp [hpend, hp])
    · simpa using hp
  · intro p hp
    rcases mem_visit_pending.1 hp with hp | ⟨-, l, hl, rfl⟩
    · exact h.pending_lt p (by rw [hpend] at hp ⊢; exact List.mem_cons_of_mem _ hp)
    · exact target_lt_of_mem_taken hl
  · simpa using ⟨hi_fresh, h.nodup⟩
  · intro v hv
    rcases List.mem_cons.1 (by simpa using hv) with rfl | hv
    · exact hi_lt
    · exact h.visited_lt v hv

lemma Inv.length_le (h : Inv g t) : t.visited.length ≤ g.nodes.length := by
  have hsub : t.visited ⊆ List.range g.nodes.length := fun v hv => List.mem_range.2 (h.visited_lt v hv)
  simpa using h.nodup.length_le_of_subset hsub

lemma Inv.head (h : Inv g t) (hi : t.pending.head? = some i) :
    i ∉ t.visited ∧ ∃ n, g.node? i = some n := by
  have hmem : i ∈ t.pending := List.mem_of_head? hi
  refine ⟨h.fresh i hmem, ?_⟩
  have hlt := h.pending_lt i hmem
  exact ⟨g.nodes[i], List.getElem?_eq_getElem hlt⟩

section Runs

variable {σ : Type} {drain : Bool} {ran : GraphNode → Members → σ → NodeReport → σ → Prop}
  {t₀ : Traversal} {s₀ s : σ} {tr : List (Nat × NodeReport)}

lemma Runs.inv (h₀ : Inv g t₀) (h : Runs g drain ran t₀ s₀ tr t s) : Inv g t := by
  induction h with
  | refl => exact h₀
  | tail _ hi _ _ _ ih => exact ih.step hi

lemma Runs.visited (h : Runs g drain ran t₀ s₀ tr t s) :
    t.visited = (tr.map Prod.fst).reverse ++ t₀.visited := by
  induction h with
  | refl => simp
  | tail _ _ _ _ _ ih => simp [ih]

lemma Runs.nodup (h₀ : Inv g t₀) (h : Runs g drain ran t₀ s₀ tr t s) :
    (tr.map Prod.fst).Nodup ∧ ∀ x ∈ tr.map Prod.fst, x ∉ t₀.visited := by
  have hnd := (h.inv h₀).nodup
  rw [h.visited, List.nodup_append] at hnd
  refine ⟨List.nodup_reverse.1 hnd.1, fun x hx hx₀ => ?_⟩
  exact hnd.2.2 x (List.mem_reverse.2 hx) x hx₀ rfl

lemma Runs.length_le (h₀ : Inv g t₀) (h : Runs g drain ran t₀ s₀ tr t s) :
    tr.length + t₀.visited.length ≤ g.nodes.length := by
  have hlen := (h.inv h₀).length_le
  rw [h.visited, List.length_append, List.length_reverse, List.length_map] at hlen
  exact hlen

lemma Runs.mem_trace (h : Runs g drain ran t₀ s₀ tr t s) {x : Nat × NodeReport} (hx : x ∈ tr) :
    ∃ n ctx s₁ s₂, g.node? x.1 = some n ∧ ran n ctx s₁ x.2 s₂ := by
  induction h with
  | refl => simp at hx
  | @tail tr t s i n r s' _ _ hn _ hran ih =>
    rcases List.mem_append.1 hx with hx | hx
    · exact ih hx
    · rw [List.mem_singleton.1 hx]
      exact ⟨n, t.context, s, s', hn, hran⟩

lemma Runs.sponsored (h : Runs g drain ran t₀ s₀ tr t s) :
    ∀ p ∈ t.pending, p ∈ t₀.pending ∨ ∃ y ∈ tr, ∃ l ∈ taken g y.1 y.2.route.follows, l.target = p := by
  induction h with
  | refl => exact fun p hp => Or.inl hp
  | @tail tr t s i n r s' _ _ _ _ _ ih =>
    intro p hp
    rcases mem_visit_pending.1 hp with hp | ⟨-, l, hl, rfl⟩
    · rcases ih p (List.mem_of_mem_tail hp) with h₀ | ⟨y, hy, hl⟩
      · exact Or.inl h₀
      · exact Or.inr ⟨y, List.mem_append_left _ hy, hl⟩
    · exact Or.inr ⟨(i, r), by simp, l, hl, rfl⟩

lemma Runs.sound (h : Runs g drain ran t₀ s₀ tr t s) {pre post : List (Nat × NodeReport)}
    {x : Nat × NodeReport} (hx : tr = pre ++ x :: post) :
    x.1 ∈ t₀.pending ∨ ∃ y ∈ pre, ∃ l ∈ taken g y.1 y.2.route.follows, l.target = x.1 := by
  induction h generalizing post with
  | refl => simp at hx
  | @tail tr t s i n r s' hrun hi _ _ _ ih =>
    rcases List.eq_nil_or_concat post with rfl | ⟨post', z, rfl⟩
    · -- the node that ran last was the lowest pending one
      obtain ⟨rfl, hlast⟩ := List.append_inj' hx (by simp)
      obtain rfl : (i, r) = x := List.singleton_inj.1 hlast
      exact hrun.sponsored i (List.mem_of_head? hi)
    · have hx' : tr ++ [(i, r)] = (pre ++ x :: post') ++ [z] := by simpa using hx
      exact ih (List.append_inj' hx' rfl).1

lemma Runs.closed (h : Runs g drain ran t₀ s₀ tr t s) :
    (∀ p, p ∈ t₀.visited ∨ p ∈ t₀.pending → p ∈ t.visited ∨ p ∈ t.pending) ∧
      ∀ y ∈ tr, ∀ l ∈ taken g y.1 y.2.route.follows, l.target ∈ t.visited ∨ l.target ∈ t.pending := by
  -- one step moves the lowest pending node to the run ones and adds the targets it takes
  have keep : ∀ {t : Traversal} {i : Nat} {r : NodeReport}, t.pending.head? = some i → ∀ p,
      p ∈ t.visited ∨ p ∈ t.pending → p ∈ (t.visit g i r).visited ∨ p ∈ (t.visit g i r).pending := by
    intro t i r hi p hp
    obtain ⟨rest, hpend⟩ : ∃ rest, t.pending = i :: rest := by
      cases hq : t.pending with
      | nil => simp [hq] at hi
      | cons j js => simp only [hq, List.head?_cons, Option.some.injEq] at hi; exact ⟨js, hi ▸ rfl⟩
    rw [visit_visited, mem_visit_pending, hpend, List.tail_cons]
    rw [hpend, List.mem_cons] at hp
    rcases hp with hp | rfl | hp
    · exact Or.inl (List.mem_cons_of_mem _ hp)
    · exact Or.inl List.mem_cons_self
    · exact Or.inr (Or.inl hp)
  induction h with
  | refl => exact ⟨fun p hp => hp, fun y hy => by simp at hy⟩
  | @tail tr t s i n r s' _ hi _ _ _ ih =>
    refine ⟨fun p hp => keep hi p (ih.1 p hp), fun y hy l hl => ?_⟩
    rcases List.mem_append.1 hy with hy | hy
    · exact keep hi _ (ih.2 y hy l hl)
    · rw [List.mem_singleton.1 hy] at hl
      by_cases hv : l.target ∈ i :: t.visited
      · exact Or.inl (by simpa using hv)
      · exact Or.inr (mem_visit_pending.2 (Or.inr ⟨hv, l, hl, rfl⟩))

lemma Runs.answer (h : Runs g drain ran t₀ s₀ tr t s) :
    t.answer = (tr.filterMap fun x => x.2.route.answer?).getLast?.or t₀.answer := by
  induction h with
  | refl => simp
  | @tail tr t s i n r s' _ _ _ _ _ ih =>
    rw [visit_answer, ih, List.filterMap_append, List.getLast?_append]
    cases hr : r.route.answer? <;> simp [hr]

lemma Runs.answers_le_one (h : Runs g drain ran t₀ s₀ tr t s) (hd : drain = false)
    (h₀ : t₀.answer = none) : (tr.filterMap fun x => x.2.route.answer?).length ≤ 1 := by
  induction h with
  | refl => simp
  | @tail tr t s i n r s' hrun _ _ hgo _ _ =>
    -- before the last step no answer was given, or the loop would have stopped
    have hnone : t.answer = none := by simpa [hd] using hgo
    rw [hrun.answer, h₀, Option.or_none, List.getLast?_eq_none_iff] at hnone
    rw [List.filterMap_append, hnone, List.nil_append]
    cases hr : r.route.answer? <;> simp [hr]

lemma Runs.context (h : Runs g drain ran t₀ s₀ tr t s) :
    t.context = (tr.getLast?.map fun x => x.2.context).getD t₀.context := by
  induction h with
  | refl => simp
  | tail => simp

lemma Runs.unrouted (h : Runs g drain ran t₀ s₀ tr t s) :
    t.unrouted = (t₀.unrouted ||
      tr.any fun x => x.2.route.errored && (taken g x.1 x.2.route.follows).isEmpty) := by
  induction h with
  | refl => simp
  | tail _ _ _ _ _ ih => simp [ih, Bool.or_assoc]

end Runs

end Traversal

end IntegrationFlow
