import IntegrationFlow.Proofs.Members
import Mathlib.Tactic.Lemma

/-!
The entry fields of a flow run in a stable sort on `orden`, a missing one sorting as the
largest signed 64-bit number, and resolve left to right, each seeing the input overridden by
the fields before it (`resolve_eq_resolveAfter`).
-/

namespace IntegrationFlow

namespace Members

lemma extend_append_singleton (a : Members) (l : List (String × Json)) (k : String) (v : Json) :
    a.extend (l ++ [(k, v)]) = (a.extend l).insert k v := by
  simp [extend, List.foldl_append]

lemma get?_extend (a : Members) (l : List (String × Json)) (k : String) :
    (a.extend l).get? k = (l.reverse.lookup k).or (a.get? k) := by
  induction l generalizing a with
  | nil => rfl
  | cons p l ih =>
    obtain ⟨k', v⟩ := p
    have hstep : a.extend ((k', v) :: l) = (a.insert k' v).extend l := rfl
    rw [hstep, ih, List.reverse_cons, List.lookup_append, Option.or_assoc]
    by_cases hk : k = k'
    · subst hk
      simp [List.lookup_cons_self]
    · simp [get?_insert_of_ne _ _ hk, List.lookup_cons, beq_false_of_ne hk]

lemma get?_ofList (l : List (String × Json)) (k : String) : (ofList l).get? k = l.reverse.lookup k := by
  simp [ofList, get?_extend]

end Members

namespace EntryField

/-- Where a field sorts: its `orden`, or the last place without one. -/
def sortKey (f : EntryField) : Int := f.order.getD lastOrder

/-- The order the fields are documented to run in: ascending `orden`, every field with an
`orden` before every field without one. -/
def Precedes (a b : EntryField) : Prop :=
  match a.order, b.order with
  | some m, some n => m ≤ n
  | some _, none => True
  | none, some _ => False
  | none, none => True

instance (a b : EntryField) : Decidable (Precedes a b) := by
  unfold Precedes
  split <;> infer_instance

/-- The value a field takes after the fields that gave `done`: its assignment resolved against
the input overridden by those values, or without one the input's own value of its name. -/
def valueAfter (reg : FunctionRegistry) (tables : Tables) (ambient : Ambient) (input : Members)
    (done : List (String × Json)) (f : EntryField) : Except FlowError Json :=
  match f.assignment with
  | some a =>
    match a.resolve reg { context := input.extend done, tables, ambient } with
    | .ok v => .ok v
    | .error e => .error (.entryField f.name e)
  | none =>
    match input.get? f.name with
    | some v => .ok v
    | none => .error (.missingRequiredField f.name)

end EntryField

namespace EntryConfig

/-! ### The order of the fields -/

section Order

variable (c : EntryConfig)

lemma ordered_eq_mergeSort : c.ordered = c.fields.mergeSort fun a b => decide (a.sortKey ≤ b.sortKey) := rfl

lemma ordered_perm : c.ordered.Perm c.fields := List.mergeSort_perm _ _

lemma sortKey_le_trans (a b d : EntryField) (hab : decide (a.sortKey ≤ b.sortKey) = true)
    (hbd : decide (b.sortKey ≤ d.sortKey) = true) : decide (a.sortKey ≤ d.sortKey) = true := by
  simp only [decide_eq_true_eq] at *
  omega

lemma sortKey_le_total (a b : EntryField) : (decide (a.sortKey ≤ b.sortKey) || decide (b.sortKey ≤ a.sortKey)) = true := by
  simp only [Bool.or_eq_true, decide_eq_true_eq]
  omega

lemma ordered_sorted : c.ordered.Pairwise fun a b => a.sortKey ≤ b.sortKey := by
  rw [ordered_eq_mergeSort]
  simpa only [decide_eq_true_eq] using List.pairwise_mergeSort sortKey_le_trans sortKey_le_total c.fields

/-- **Ties keep their order**: the fields of one sort key run in declaration order. -/
lemma ordered_stable (k : Int) :
    c.ordered.filter (·.sortKey = k) = c.fields.filter (·.sortKey = k) := by
  -- the fields of one key are sorted already, so they stay a sublist of the sorted fields
  have hsorted : (c.fields.filter (·.sortKey = k)).Pairwise fun a b => decide (a.sortKey ≤ b.sortKey) = true := by
    refine List.pairwise_of_forall_mem_list fun a ha b hb => ?_
    simp only [List.mem_filter, decide_eq_true_eq] at ha hb
    simp [ha.2, hb.2]
  have hsub := List.sublist_mergeSort sortKey_le_trans sortKey_le_total hsorted (List.filter_sublist (l := c.fields))
  have hsub' := hsub.filter (·.sortKey = k)
  rw [List.filter_filter, List.filter_congr (q := (·.sortKey = k)) (by simp), ← ordered_eq_mergeSort] at hsub'
  exact (hsub'.eq_of_length ((c.ordered_perm.filter _).length_eq.symm)).symm

variable {c}

/-- No field has the largest `orden` or one beyond it. -/
def OrdersBelowLast (c : EntryConfig) : Prop := ∀ f ∈ c.fields, ∀ n ∈ f.order, n < EntryField.lastOrder

instance : Decidable c.OrdersBelowLast := inferInstanceAs (Decidable (∀ f ∈ c.fields, _))

lemma precedes_of_sortKey_le (hc : c.OrdersBelowLast) {a b : EntryField} (hb : b ∈ c.fields)
    (h : a.sortKey ≤ b.sortKey) : EntryField.Precedes a b := by
  unfold EntryField.Precedes
  unfold EntryField.sortKey at h
  split
  · simp_all
  · trivial
  · -- a field without an orden sorts last, so the one after it has the largest orden
    rename_i n ha hb'
    have := hc b hb n hb'
    simp_all [EntryField.lastOrder]
    omega
  · trivial

lemma sortKey_eq_iff (hc : c.OrdersBelowLast) {f : EntryField} (hf : f ∈ c.fields) (o : Option Int)
    (ho : ∀ n ∈ o, n < EntryField.lastOrder) :
    f.order = o ↔ f.sortKey = o.getD EntryField.lastOrder := by
  unfold EntryField.sortKey
  cases hfo : f.order with
  | none =>
    cases o with
    | none => simp
    | some n =>
      have hn := ho n rfl
      simp only [reduceCtorEq, Option.getD_none, Option.getD_some, false_iff]
      omega
  | some m =>
    have hm := hc f hf m hfo
    cases o with
    | none =>
      simp only [reduceCtorEq, Option.getD_none, Option.getD_some, false_iff]
      omega
    | some n => simp

lemma ordered_documented (hc : c.OrdersBelowLast) :
    c.ordered.Pairwise EntryField.Precedes ∧
      (∀ n, c.ordered.filter (·.order = some n) = c.fields.filter (·.order = some n)) ∧
      c.ordered.filter (·.order = none) = c.fields.filter (·.order = none) := by
  have hmem : ∀ {f}, f ∈ c.ordered → f ∈ c.fields := fun hf => c.ordered_perm.mem_iff.1 hf
  -- each class of the documented order is the class of one sort key, on both lists
  have hclass : ∀ o : Option Int, (∀ n ∈ o, n < EntryField.lastOrder) →
      c.ordered.filter (·.order = o) = c.fields.filter (·.order = o) := by
    intro o ho
    rw [List.filter_congr (l := c.ordered) (q := (·.sortKey = o.getD EntryField.lastOrder))
        (fun f hf => by simp [sortKey_eq_iff hc (hmem hf) o ho]),
      List.filter_congr (l := c.fields) (q := (·.sortKey = o.getD EntryField.lastOrder))
        (fun f hf => by simp [sortKey_eq_iff hc hf o ho]),
      ordered_stable]
  refine ⟨c.ordered_sorted.imp_of_mem fun _ hb h => precedes_of_sortKey_le hc (hmem hb) h, fun n => ?_,
    hclass none (by simp)⟩
  by_cases hn : n < EntryField.lastOrder
  · exact hclass (some n) (by simpa using hn)
  · -- no field has such an orden
    have hnone : ∀ f ∈ c.fields, f.order ≠ some n := fun f hf hfo => hn (hc f hf n hfo)
    rw [List.filter_eq_nil_iff.2 fun f hf => by simpa using hnone f (hmem hf),
      List.filter_eq_nil_iff.2 fun f hf => by simpa using hnone f hf]

end Order

/-! ### Resolving the fields in turn -/

section Resolve

variable (reg : FunctionRegistry) (tables : Tables) (ambient : Ambient) (input : Members)

/-- Fields resolved one after another, after fields that gave `done`: the names and values of
all of them in order, or the first failure. -/
def resolveAfter (done : List (String × Json)) : List EntryField → Except FlowError (List (String × Json))
  | [] => .ok done
  | f :: fs =>
    match EntryField.valueAfter reg tables ambient input done f with
    | .ok v => resolveAfter (done ++ [(f.name, v)]) fs
    | .error e => .error e

lemma foldlM_entry_step {step : Members × Members → EntryField → Except FlowError (Members × Members)}
    (hstep : ∀ done f, step (input.extend done, Members.ofList done) f =
      (EntryField.valueAfter reg tables ambient input done f).map fun v =>
        (input.extend (done ++ [(f.name, v)]), Members.ofList (done ++ [(f.name, v)])))
    (fs : List EntryField) (done : List (String × Json)) :
    fs.foldlM step (input.extend done, Members.ofList done) =
      (resolveAfter reg tables ambient input done fs).map fun d => (input.extend d, Members.ofList d) := by
  induction fs generalizing done with
  | nil => rfl
  | cons f fs ih =>
    rw [List.foldlM_cons, hstep, resolveAfter]
    cases EntryField.valueAfter reg tables ambient input done f with
    | error e => rfl
    | ok v => exact ih (done ++ [(f.name, v)])

lemma foldlM_entry_start {step : Members × Members → EntryField → Except FlowError (Members × Members)}
    (hstep : ∀ done f, step (input.extend done, Members.ofList done) f =
      (EntryField.valueAfter reg tables ambient input done f).map fun v =>
        (input.extend (done ++ [(f.name, v)]), Members.ofList (done ++ [(f.name, v)])))
    (fs : List EntryField) :
    fs.foldlM step (input, []) =
      (resolveAfter reg tables ambient input [] fs).map fun d => (input.extend d, Members.ofList d) :=
  foldlM_entry_step reg tables ambient input hstep fs []

/-- **Resolution is a pass in the sorted order**: each field sees the input overridden by the
values before it, and the context holds the values of all fields. -/
theorem resolve_eq_resolveAfter (c : EntryConfig) :
    c.resolve reg tables ambient input = (resolveAfter reg tables ambient input [] c.ordered).map Members.ofList := by
  dsimp only [EntryConfig.resolve]
  rw [foldlM_entry_start reg tables ambient input ?step]
  · cases resolveAfter reg tables ambient input [] c.ordered <;> rfl
  case step =>
    intro done f
    simp only [Members.extend_append_singleton, Members.ofList, EntryField.valueAfter]
    rcases f with ⟨name, kind, _ | a, order⟩ <;> dsimp only
    · cases input.get? name <;> rfl
    · cases a.resolve reg { context := input.extend done, tables, ambient } <;> rfl

lemma resolveAfter_names {done d : List (String × Json)} {fs : List EntryField}
    (h : resolveAfter reg tables ambient input done fs = .ok d) :
    ∃ new, d = done ++ new ∧ new.map Prod.fst = fs.map (·.name) := by
  induction fs generalizing done with
  | nil => exact ⟨[], by simpa [resolveAfter] using h.symm, rfl⟩
  | cons f fs ih =>
    rw [resolveAfter] at h
    cases hv : EntryField.valueAfter reg tables ambient input done f with
    | error e => simp [hv] at h
    | ok v =>
      rw [hv] at h
      obtain ⟨new, rfl, hnames⟩ := ih h
      exact ⟨(f.name, v) :: new, by simp, by simp [hnames]⟩

lemma resolve_ok_context {c : EntryConfig} {ctx : Members} (h : c.resolve reg tables ambient input = .ok ctx) :
    ∃ done : List (String × Json), done.map Prod.fst = c.ordered.map (·.name) ∧
      ∀ k, ctx.get? k = done.reverse.lookup k ∧ ((ctx.get? k).isSome ↔ k ∈ c.fields.map (·.name)) := by
  rw [resolve_eq_resolveAfter] at h
  cases hr : resolveAfter reg tables ambient input [] c.ordered with
  | error e =>
    rw [hr] at h
    cases h
  | ok done =>
    rw [hr] at h
    have hctx : ctx = Members.ofList done := by cases h; rfl
    obtain ⟨new, hnew, hnames⟩ := resolveAfter_names reg tables ambient input hr
    rw [List.nil_append] at hnew
    rw [← hnew] at hnames
    refine ⟨done, hnames, fun k => ⟨by rw [hctx, Members.get?_ofList], ?_⟩⟩
    rw [hctx, Members.get?_ofList, List.lookup_isSome_iff, ← (c.ordered_perm.map _).mem_iff, ← hnames]
    simp only [List.mem_reverse, beq_iff_eq, List.mem_map]
    constructor
    · rintro ⟨p, hp, rfl⟩
      exact ⟨p, hp, rfl⟩
    · rintro ⟨p, hp, rfl⟩
      exact ⟨p, hp, rfl⟩

end Resolve

/-! ### The order and the pass together -/

/-- **Entry fields.** The fields run sorted by `orden`, a field without one sorting last, ties
in declaration order; when no field has the largest `orden`, this is ascending `orden`, the
fields with one before those without, each class in declaration order. Each field resolves
against the input overridden by the fields before it, one without an assignment reads the
input, and the first failure is the answer; the context holds exactly the declared names, each
with the value of the last field of that name. -/
theorem entry_fields_resolve_in_order (c : EntryConfig) (reg : FunctionRegistry) (tables : Tables)
    (ambient : Ambient) (input : Members) :
    (c.ordered.Perm c.fields ∧ c.ordered.Pairwise (fun a b => a.sortKey ≤ b.sortKey) ∧
        ∀ k, c.ordered.filter (·.sortKey = k) = c.fields.filter (·.sortKey = k)) ∧
    (c.OrdersBelowLast →
        c.ordered.Pairwise EntryField.Precedes ∧
        (∀ n, c.ordered.filter (·.order = some n) = c.fields.filter (·.order = some n)) ∧
        c.ordered.filter (·.order = none) = c.fields.filter (·.order = none)) ∧
    c.resolve reg tables ambient input = (resolveAfter reg tables ambient input [] c.ordered).map Members.ofList ∧
    (∀ ctx, c.resolve reg tables ambient input = .ok ctx →
        ∃ done : List (String × Json), done.map Prod.fst = c.ordered.map (·.name) ∧
          ∀ k, ctx.get? k = done.reverse.lookup k ∧ ((ctx.get? k).isSome ↔ k ∈ c.fields.map (·.name))) :=
  ⟨⟨c.ordered_perm, c.ordered_sorted, c.ordered_stable⟩, fun hc => ordered_documented hc,
    resolve_eq_resolveAfter reg tables ambient input c, fun _ h => resolve_ok_context reg tables ambient input h⟩

/-- Fields named `u`, `p` and `q`: `u` read from the input, `p` a literal at `orden` 2, and `q`
at `orden` 1 a copy of `u`. They run `q`, `p`, `u`, and the input's other key is dropped. -/
theorem sample_entry_fields_in_order :
    let u : EntryField := { name := "u" }
    let p : EntryField := { name := "p", order := some 2, assignment := some { kind := .literal, value := .str "lit" } }
    let q : EntryField := { name := "q", order := some 1, assignment := some { kind := .field, value := .str "u" } }
    let c : EntryConfig := { fields := [u, p, q] }
    let input : Members := [("u", .str "in"), ("z", .str "other")]
    c.OrdersBelowLast ∧ c.ordered.Pairwise EntryField.Precedes ∧
      c.resolve .standard [] {} input = .ok [("p", .str "lit"), ("q", .str "in"), ("u", .str "in")] ∧
      ∃ done : List (String × Json), done.map Prod.fst = c.ordered.map (·.name) ∧
        ∀ k, Members.get? [("p", .str "lit"), ("q", .str "in"), ("u", .str "in")] k = done.reverse.lookup k := by
  intro u p q c input
  have hc : c.OrdersBelowLast := by decide
  have hres : c.resolve .standard [] {} input = .ok [("p", .str "lit"), ("q", .str "in"), ("u", .str "in")] := by
    rw [resolve_eq_resolveAfter]
    simp [c, u, p, q, EntryConfig.ordered, List.mergeSort, EntryField.lastOrder]
    rfl
  have hall := entry_fields_resolve_in_order c .standard [] {} input
  obtain ⟨done, hnames, hget⟩ := hall.2.2.2 _ hres
  exact ⟨hc, (hall.2.1 hc).1, hres, done, hnames, fun k => (hget k).1⟩

/-- **A field at the largest `orden` runs among the fields without one**, in declaration
order: declared after `a`, the field `b` at `orden` 2^63 - 1 (what `1e30` decodes to) runs
after it and copies the literal `a` was given, where running first it would copy the input. -/
theorem last_orden_runs_among_unordered :
    let a : EntryField := { name := "a", assignment := some { kind := .literal, value := .str "x" } }
    let b : EntryField :=
      { name := "b", order := some EntryField.lastOrder, assignment := some { kind := .field, value := .str "a" } }
    let c : EntryConfig := { fields := [a, b] }
    let input : Members := [("a", .str "in")]
    c.ordered = [a, b] ∧ ¬EntryField.Precedes a b ∧
      c.resolve .standard [] {} input = .ok [("a", .str "x"), ("b", .str "x")] ∧
      (resolveAfter .standard [] {} input [] [b, a]).map Members.ofList = .ok [("a", .str "x"), ("b", .str "in")] := by
  intro a b c input
  have hord : c.ordered = [a, b] := by simp [c, a, b, EntryConfig.ordered, List.mergeSort]
  refine ⟨hord, by simp [a, b, EntryField.Precedes], ?_, ?_⟩
  · rw [resolve_eq_resolveAfter, hord]
    simp [a, b, input, resolveAfter, EntryField.valueAfter, Assignment.resolve]
    rfl
  · simp [a, b, input, resolveAfter, EntryField.valueAfter, Assignment.resolve]
    rfl

end EntryConfig

end IntegrationFlow
