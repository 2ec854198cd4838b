import IntegrationFlow.Proofs.EntryFields
import Mathlib.Data.List.Basic

/-!
Resolving groups of assignments against one scope: under `storeNull` and `skip` the walk
never fails and keeps the last value of each destination (`resolve_goes_on`); under
`propagate` it fails with the first fault that is not a missing field (`resolve_propagate`).
-/

namespace IntegrationFlow

namespace AssignmentGroups

variable (reg : FunctionRegistry) (scope : CallScope)

/-- One step of the walk, as `resolve` takes it. -/
def resolveStep (onFailure : OnFailure) (acc : Members) (a : Assignment) : Except ResolveError Members :=
  if Text.isBlankText a.destination then pure acc
  else match a.resolve reg scope with
    | .ok v => pure (acc.insert a.destination v)
    | .error (.fieldNotFound _) => pure acc
    | .error e => match onFailure with
      | .propagate => throw e
      | .storeNull => pure (acc.insert a.destination .null)
      | .skip => pure acc

lemma resolve_eq_foldlM (g : AssignmentGroups) (onFailure : OnFailure) :
    resolve reg scope g onFailure = g.flatten.foldlM (resolveStep reg scope onFailure) [] := rfl

/-- The fault with which an assignment stops a walk under `propagate`: it has a destination
and fails other than by a missing context field. -/
def Stops (a : Assignment) (e : ResolveError) : Prop :=
  ¬Text.isBlankText a.destination ∧ a.resolve reg scope = .error e ∧ ∀ f, e ≠ .fieldNotFound f

/-- The fault an assignment stops a walk under `propagate` with, if any. -/
def fault? (a : Assignment) : Option ResolveError :=
  if Text.isBlankText a.destination then none
  else match a.resolve reg scope with
    | .ok _ => none
    | .error (.fieldNotFound _) => none
    | .error e => some e

/-- What an assignment writes under a policy: its value, `null` for a fault that the policy
stores, or nothing. -/
def written (onFailure : OnFailure) (a : Assignment) : Option (String × Json) :=
  if Text.isBlankText a.destination then none
  else match a.resolve reg scope with
    | .ok v => some (a.destination, v)
    | .error (.fieldNotFound _) => none
    | .error _ => match onFailure with
      | .storeNull => some (a.destination, .null)
      | .propagate | .skip => none

variable {reg scope}

lemma fault?_eq_some_iff {a : Assignment} {e : ResolveError} : fault? reg scope a = some e ↔ Stops reg scope a e := by
  unfold fault? Stops
  split_ifs with hb
  · simp [hb]
  · split
    · simp_all
    · -- a missing field stops nothing
      rename_i name hres
      simp only [hres, Except.error.injEq, reduceCtorEq, false_iff]
      rintro ⟨-, rfl, hne⟩
      exact hne name rfl
    · rename_i e' hne hres
      simp only [hres, Option.some.injEq, Except.error.injEq]
      constructor
      · rintro rfl
        exact ⟨by simp [hb], rfl, hne⟩
      · rintro ⟨-, rfl, -⟩
        rfl

lemma written_of_fault?_none {a : Assignment} (h : fault? reg scope a = none) (onFailure : OnFailure) :
    written reg scope onFailure a = written reg scope .skip a := by
  unfold fault? at h
  unfold written
  split_ifs
  · rfl
  · split <;> simp_all

lemma written_storeNull_of_skip {a : Assignment} {p : String × Json} (h : written reg scope .skip a = some p) :
    written reg scope .storeNull a = some p := by
  unfold written at h ⊢
  split_ifs at h ⊢
  split at h <;> simp_all

lemma resolveStep_goes_on {onFailure : OnFailure} (hp : onFailure ≠ .propagate) (acc : Members) (a : Assignment) :
    resolveStep reg scope onFailure acc a = .ok (acc.extend (written reg scope onFailure a).toList) := by
  unfold resolveStep written
  split_ifs
  · rfl
  · split
    · rfl
    · rfl
    · cases onFailure <;> simp_all <;> rfl

lemma resolveStep_propagate (acc : Members) (a : Assignment) :
    resolveStep reg scope .propagate acc a =
      match fault? reg scope a with
      | some e => .error e
      | none => .ok (acc.extend (written reg scope .skip a).toList) := by
  unfold resolveStep fault? written
  split_ifs
  · rfl
  · split <;> rfl

lemma foldlM_goes_on {onFailure : OnFailure} (hp : onFailure ≠ .propagate) (acc : Members) (l : List Assignment) :
    l.foldlM (resolveStep reg scope onFailure) acc = .ok (acc.extend (l.filterMap (written reg scope onFailure))) := by
  induction l generalizing acc with
  | nil => rfl
  | cons a l ih =>
    rw [List.foldlM_cons, resolveStep_goes_on hp]
    show l.foldlM _ _ = _
    rw [ih]
    cases hw : written reg scope onFailure a <;> simp [hw, Members.extend]

lemma foldlM_propagate (acc : Members) (l : List Assignment) :
    l.foldlM (resolveStep reg scope .propagate) acc =
      match l.findSome? (fault? reg scope) with
      | some e => .error e
      | none => .ok (acc.extend (l.filterMap (written reg scope .skip))) := by
  induction l generalizing acc with
  | nil => rfl
  | cons a l ih =>
    rw [List.foldlM_cons, resolveStep_propagate, List.findSome?_cons]
    cases hf : fault? reg scope a with
    | some e => rfl
    | none =>
      show l.foldlM _ _ = _
      rw [ih]
      cases hw : written reg scope .skip a <;> simp [hw, Members.extend]

lemma mem_keys_iff {m : Members} {k : String} : k ∈ m.keys ↔ (m.get? k).isSome := by
  induction m with
  | nil => simp [Members.keys]
  | cons p m ih =>
    obtain ⟨k', v⟩ := p
    rw [Members.get?_cons]
    by_cases hk : k = k'
    · simp [Members.keys, hk]
    · simpa [Members.keys, hk] using ih

lemma mem_keys_ofList {l : List (String × Json)} {k : String} : k ∈ (Members.ofList l).keys ↔ k ∈ l.map Prod.fst := by
  rw [mem_keys_iff, Members.get?_ofList]
  have h := mem_keys_iff (m := l.reverse) (k := k)
  simp only [Members.keys, Members.get?, List.map_reverse, List.mem_reverse] at h
  exact h.symm

lemma resolve_goes_on_eq {onFailure : OnFailure} (hp : onFailure ≠ .propagate) (g : AssignmentGroups) :
    resolve reg scope g onFailure = .ok (Members.ofList (g.flatten.filterMap (written reg scope onFailure))) := by
  rw [resolve_eq_foldlM, foldlM_goes_on hp]
  rfl

/-- **Going on past faults.** Under `storeNull` and `skip` the walk never fails, and each
destination holds the value of the last assignment that writes to it. -/
theorem resolve_goes_on {onFailure : OnFailure} (hp : onFailure ≠ .propagate) (g : AssignmentGroups) :
    ∃ M, resolve reg scope g onFailure = .ok M ∧
      ∀ k, M.get? k = ((g.flatten.filterMap (written reg scope onFailure)).reverse.lookup k) := by
  exact ⟨_, resolve_goes_on_eq hp g, Members.get?_ofList _⟩

/-- **Propagating faults.** Under `propagate` the walk fails with the first fault that is not a
missing field, and otherwise gives what `skip` gives. -/
theorem resolve_propagate (g : AssignmentGroups) :
    resolve reg scope g .propagate =
      match g.flatten.findSome? (fault? reg scope) with
      | some e => .error e
      | none => resolve reg scope g .skip := by
  rw [resolve_eq_foldlM, foldlM_propagate, resolve_goes_on_eq (by simp)]
  rfl

lemma resolve_of_findSome?_none {g : AssignmentGroups} (hf : g.flatten.findSome? (fault? reg scope) = none)
    (onFailure : OnFailure) : resolve reg scope g onFailure = resolve reg scope g .skip := by
  cases onFailure with
  | propagate => rw [resolve_propagate, hf]
  | storeNull =>
    rw [resolve_goes_on_eq (by simp), resolve_goes_on_eq (by simp)]
    congr 2
    exact List.filterMap_congr fun a ha => written_of_fault?_none (List.findSome?_eq_none_iff.1 hf a ha) _
  | skip => rfl

lemma findSome?_fault_of_ok {g : AssignmentGroups} {M : Members} (hM : resolve reg scope g .propagate = .ok M) :
    g.flatten.findSome? (fault? reg scope) = none := by
  rw [resolve_propagate] at hM
  cases hf : g.flatten.findSome? (fault? reg scope) with
  | none => rfl
  | some e => rw [hf] at hM; cases hM

lemma findSome?_fault_of_error {g : AssignmentGroups} {e : ResolveError}
    (he : resolve reg scope g .propagate = .error e) : g.flatten.findSome? (fault? reg scope) = some e := by
  rw [resolve_propagate] at he
  cases hf : g.flatten.findSome? (fault? reg scope) with
  | none => rw [hf, resolve_goes_on_eq (by simp)] at he; cases he
  | some e' => rw [hf] at he; cases he; rfl

lemma exists_first_stop {l : List Assignment} {e : ResolveError} (hf : l.findSome? (fault? reg scope) = some e) :
    ∃ pre a post, l = pre ++ a :: post ∧ Stops reg scope a e ∧ ∀ b ∈ pre, ∀ e', ¬Stops reg scope b e' := by
  obtain ⟨pre, a, post, hsplit, ha, hpre⟩ := List.findSome?_eq_some_iff.1 hf
  refine ⟨pre, a, post, hsplit, fault?_eq_some_iff.1 ha, fun b hb e' hstop => ?_⟩
  have hnone := hpre b hb
  rw [fault?_eq_some_iff.2 hstop] at hnone
  cases hnone

lemma keys_skip_subset_storeNull (g : AssignmentGroups) {Ms Mn : Members}
    (hs : resolve reg scope g .skip = .ok Ms) (hn : resolve reg scope g .storeNull = .ok Mn) : Ms.keys ⊆ Mn.keys := by
  rw [resolve_goes_on_eq (by simp)] at hs hn
  cases hs
  cases hn
  intro k hk
  rw [mem_keys_ofList] at hk ⊢
  obtain ⟨⟨k', v⟩, hp, rfl⟩ := List.mem_map.1 hk
  obtain ⟨a, ha, hw⟩ := List.mem_filterMap.1 hp
  exact List.mem_map.2 ⟨(k', v), List.mem_filterMap.2 ⟨a, ha, written_storeNull_of_skip hw⟩, rfl⟩

/-- **The three policies.** Under `storeNull` and `skip` the walk never fails, and a destination
holds the value of the last assignment that writes to it, each assignment resolved against the
one scope. When `propagate` succeeds, the other two give the same members. When it fails, it
fails with the first fault in the walk that is not a missing field. Every key `skip` gives,
`storeNull` gives too. -/
theorem resolve_groups_policies (g : AssignmentGroups) :
    (∀ onFailure, onFailure ≠ .propagate → ∃ M, resolve reg scope g onFailure = .ok M ∧
      ∀ k, M.get? k = ((g.flatten.filterMap (written reg scope onFailure)).reverse.lookup k)) ∧
    (∀ M, resolve reg scope g .propagate = .ok M →
      resolve reg scope g .storeNull = .ok M ∧ resolve reg scope g .skip = .ok M) ∧
    (∀ e, resolve reg scope g .propagate = .error e →
      ∃ pre a post, g.flatten = pre ++ a :: post ∧ Stops reg scope a e ∧ ∀ b ∈ pre, ∀ e', ¬Stops reg scope b e') ∧
    (∀ Ms Mn, resolve reg scope g .skip = .ok Ms → resolve reg scope g .storeNull = .ok Mn → Ms.keys ⊆ Mn.keys) := by
  refine ⟨fun _ hp => resolve_goes_on hp g, fun M hM => ?_, fun e he => exists_first_stop (findSome?_fault_of_error he),
    fun Ms Mn hs hn => keys_skip_subset_storeNull g hs hn⟩
  -- no assignment stops the walk, so every policy gives what `propagate` gave
  have hf := findSome?_fault_of_ok hM
  have hskip : resolve reg scope g .skip = .ok M := by rw [← resolve_of_findSome?_none hf .propagate, hM]
  exact ⟨by rw [resolve_of_findSome?_none hf, hskip], hskip⟩

/-- A missing field is passed over, and the walk under `propagate` stops at the assignment of an
unknown kind after it, before the literal that follows. -/
theorem groups_stop_at_unknown_kind :
    let g : AssignmentGroups :=
      [("a", [{ kind := .field, value := .str "nope", destination := "x" }]),
       ("b", [{ kind := .unsupported "otro", destination := "y" },
         { kind := .literal, value := .str "1", destination := "z" }])]
    let scope : CallScope := { context := [], tables := [] }
    resolve .standard scope g .propagate = .error (.unsupportedAssignmentType "otro") ∧
      ∃ pre a post, g.flatten = pre ++ a :: post ∧ Stops .standard scope a (.unsupportedAssignmentType "otro") ∧
        ∀ b ∈ pre, ∀ e', ¬Stops .standard scope b e' := by
  intro g scope
  have h : resolve .standard scope g .propagate = .error (.unsupportedAssignmentType "otro") := rfl
  exact ⟨h, (resolve_groups_policies g).2.2.1 _ h⟩

end AssignmentGroups

/-! ### The input of a nested run

A node that runs another flow passes on only field copies and literals (`passedOn`), by a walk
of its own. That walk is `resolve` over those two kinds alone: no policy ever applies to them,
since a literal never fails and a field fails only by being missing.
-/

namespace Assignment

/-- Whether an assignment copies a context field or gives a literal. -/
def isCopyOrLiteral (a : Assignment) : Bool :=
  match a.kind with
  | .field | .literal => true
  | _ => false

/-- What a nested run is passed for one assignment: the context field it copies, when present,
or its literal, under its destination. -/
def passedValue (ctx : Members) (a : Assignment) : Option (String × Json) :=
  if Text.isBlankText a.destination then none
  else match a.kind with
    | .field => (ctx.get? a.valueText).map (a.destination, ·)
    | .literal => some (a.destination, a.value)
    | _ => none

lemma passedValue_of_not_isCopyOrLiteral {a : Assignment} (h : a.isCopyOrLiteral = false) (ctx : Members) :
    a.passedValue ctx = none := by
  unfold passedValue
  unfold isCopyOrLiteral at h
  split_ifs
  · rfl
  · split <;> simp_all

end Assignment

namespace AssignmentGroups

variable {reg : FunctionRegistry} {scope : CallScope}

/-- The groups with their field copies and literals only. -/
def copiesAndLiterals (g : AssignmentGroups) : AssignmentGroups :=
  g.map fun p => (p.1, p.2.filter Assignment.isCopyOrLiteral)

lemma flatten_copiesAndLiterals (g : AssignmentGroups) :
    g.copiesAndLiterals.flatten = g.flatten.filter Assignment.isCopyOrLiteral := by
  simp [copiesAndLiterals, flatten, List.filter_flatMap, List.flatMap_map]

lemma foldl_extend_filterMap {α : Type} {f : Members → α → Members} {w : α → Option (String × Json)}
    (hf : ∀ acc a, f acc a = acc.extend (w a).toList) (l : List α) (acc : Members) :
    l.foldl f acc = acc.extend (l.filterMap w) := by
  induction l generalizing acc with
  | nil => rfl
  | cons a l ih =>
    rw [List.foldl_cons, ih, hf]
    cases hw : w a <;> simp [hw, Members.extend]

lemma passedOn_eq_ofList (g : AssignmentGroups) (ctx : Members) :
    g.passedOn ctx = Members.ofList (g.flatten.filterMap (Assignment.passedValue ctx)) := by
  unfold passedOn
  refine foldl_extend_filterMap (fun acc a => ?_) _ _
  unfold Assignment.passedValue
  by_cases hb : Text.isBlankText a.destination
  · simp [hb, Members.extend]
  · -- only a present field and a literal write
    cases a.kind with
    | field => cases ctx.get? a.valueText <;> simp [hb, Members.extend]
    | _ => simp [hb, Members.extend]

lemma kind_of_isCopyOrLiteral {a : Assignment} (h : a.isCopyOrLiteral = true) :
    a.kind = .field ∨ a.kind = .literal := by
  unfold Assignment.isCopyOrLiteral at h
  split at h
  · rename_i hk; exact .inl hk
  · rename_i hk; exact .inr hk
  · cases h

lemma resolve_of_isCopyOrLiteral {a : Assignment} (h : a.isCopyOrLiteral = true)
    (hb : ¬Text.isBlankText a.destination) :
    (∃ v, a.resolve reg scope = .ok v ∧ a.passedValue scope.context = some (a.destination, v)) ∨
      (a.resolve reg scope = .error (.fieldNotFound a.valueText) ∧ a.passedValue scope.context = none) := by
  unfold Assignment.passedValue
  rw [if_neg hb]
  rcases kind_of_isCopyOrLiteral h with hk | hk
  · cases hv : scope.context.get? a.valueText with
    | none => exact .inr ⟨by simp [Assignment.resolve, hk, hv], by simp [hk]⟩
    | some v => exact .inl ⟨v, by simp [Assignment.resolve, hk, hv], by simp [hk]⟩
  · exact .inl ⟨a.value, by simp [Assignment.resolve, hk], by simp [hk]⟩

lemma fault?_of_isCopyOrLiteral {a : Assignment} (h : a.isCopyOrLiteral = true) : fault? reg scope a = none := by
  unfold fault?
  split_ifs with hb
  · rfl
  · rcases resolve_of_isCopyOrLiteral h hb with ⟨v, hv, -⟩ | ⟨hv, -⟩ <;> rw [hv]

lemma written_of_isCopyOrLiteral {a : Assignment} (h : a.isCopyOrLiteral = true) :
    written reg scope .skip a = a.passedValue scope.context := by
  unfold written
  split_ifs with hb
  · simp [Assignment.passedValue, hb]
  · rcases resolve_of_isCopyOrLiteral h hb with ⟨v, hv, hp⟩ | ⟨hv, hp⟩ <;> rw [hv, hp]

/-- **The input of a nested run is a resolution.** What a node passes on to the flow it runs is
what resolving its field copies and literals gives, under every policy and against any scope
with that context: the same destinations and values, the same missing fields and blank
destinations passed over, and the same last write for a destination written twice. -/
theorem resolve_copiesAndLiterals (g : AssignmentGroups) (onFailure : OnFailure) :
    resolve reg scope g.copiesAndLiterals onFailure = .ok (g.passedOn scope.context) := by
  have hcopies : ∀ a ∈ g.copiesAndLiterals.flatten, a.isCopyOrLiteral = true := by
    intro a ha
    rw [flatten_copiesAndLiterals] at ha
    exact (List.mem_filter.1 ha).2
  have hnone : g.copiesAndLiterals.flatten.findSome? (fault? reg scope) = none :=
    List.findSome?_eq_none_iff.2 fun a ha => fault?_of_isCopyOrLiteral (hcopies a ha)
  rw [resolve_of_findSome?_none hnone, resolve_goes_on_eq (by simp), passedOn_eq_ofList,
    flatten_copiesAndLiterals, List.filterMap_filter]
  congr 2
  refine List.filterMap_congr fun a _ => ?_
  cases hc : a.isCopyOrLiteral
  · simp [Assignment.passedValue_of_not_isCopyOrLiteral hc]
  · simp [written_of_isCopyOrLiteral hc]

end AssignmentGroups

end IntegrationFlow
