import Mathlib.Data.List.Nodup
import IntegrationFlow.Engine.Invocation

/-!
Chains of nested runs: the guard passes exactly when the flow is named, the chain has room
and the flow is not running in it. `WellFormed`, which the root has and every child inherits,
bounds a chain by `maxDepth` and keeps it free of cycles.
-/

namespace IntegrationFlow

namespace Invocation

variable {i parent : Invocation} {node target p : String} {maxDepth : Nat}

/-- The runs a chain reaches from a root when each nested run starts after the guard let it. -/
inductive Reachable (maxDepth : Nat) : Invocation → Prop
  | root (processId : String) : Reachable maxDepth (root processId)
  | child {parent : Invocation} {node target : String} : Reachable maxDepth parent →
      check node target parent maxDepth = .ok () → Reachable maxDepth (parent.child target)

@[simp] lemma isActive_eq_true_iff : i.isActive p = true ↔ i.processId = p ∨ p ∈ i.callStack := by
  simp [isActive]

/-! ### The guard -/

lemma check_eq_ok_iff :
    check node target parent maxDepth = .ok () ↔
      Text.isBlankText target = false ∧ parent.depth < maxDepth ∧ target ≠ parent.processId ∧
        target ∉ parent.callStack := by
  unfold check
  split_ifs with hblank hdeep hactive
  · simp [hblank]
  · simp only [false_iff, not_and]
    intro _ hlt
    omega
  · simp only [false_iff, not_and]
    rw [isActive_eq_true_iff] at hactive
    rintro - - hself hstack
    rcases hactive with h | h
    · exact hself h.symm
    · exact hstack h
  · rw [isActive_eq_true_iff, not_or] at hactive
    simp only [Bool.not_eq_true] at hblank
    exact iff_of_true rfl ⟨hblank, by omega, fun h => hactive.1 h.symm, hactive.2⟩

lemma check_of_blank (h : Text.isBlankText target = true) :
    check node target parent maxDepth = .error (.missingId node) := by
  simp [check, h]

lemma check_of_full (hb : Text.isBlankText target = false) (h : maxDepth ≤ parent.depth) :
    check node target parent maxDepth = .error (.maxDepthExceeded (parent.depth + 1) maxDepth) := by
  simp [check, hb, h]

lemma check_of_active (hb : Text.isBlankText target = false) (hd : parent.depth < maxDepth)
    (h : target = parent.processId ∨ target ∈ parent.callStack) :
    check node target parent maxDepth = .error (.recursionDetected target parent.chain) := by
  have hactive : parent.isActive target = true := by
    rw [isActive_eq_true_iff]
    rcases h with h | h
    · exact Or.inl h.symm
    · exact Or.inr h
  simp [check, hb, Nat.not_le.2 hd, hactive]

/-! ### The invariant of a chain -/

/-- What every run of a chain keeps: its depth counts the runs above it and stays within the
bound, its parent is the last of them, and no flow occurs twice down to it. -/
structure WellFormed (maxDepth : Nat) (i : Invocation) : Prop where
  depth_eq : i.depth = i.callStack.length
  depth_le : i.depth ≤ maxDepth
  parent_eq : i.parentProcessId = i.callStack.getLast?
  nodup : (i.callStack ++ [i.processId]).Nodup

lemma wellFormed_root (p : String) : WellFormed maxDepth (root p) :=
  ⟨rfl, Nat.zero_le _, rfl, by simp [root]⟩

lemma WellFormed.child (h : WellFormed maxDepth parent)
    (hc : check node target parent maxDepth = .ok ()) : WellFormed maxDepth (parent.child target) := by
  obtain ⟨-, hroom, hself, hstack⟩ := check_eq_ok_iff.1 hc
  have hfresh : target ∉ parent.callStack ++ [parent.processId] := by
    simpa [not_or] using ⟨hstack, hself⟩
  refine ⟨?_, ?_, ?_, ?_⟩
  · simp [Invocation.child, h.depth_eq]
  · simp only [Invocation.child]
    omega
  · simp [Invocation.child]
  · simp only [Invocation.child]
    exact List.nodup_append.2 ⟨h.nodup, List.nodup_singleton _,
      fun a ha b hb => by rw [List.mem_singleton.1 hb]; exact fun hab => hfresh (hab ▸ ha)⟩

lemma Reachable.wellFormed (h : Reachable maxDepth i) : WellFormed maxDepth i := by
  induction h with
  | root p => exact wellFormed_root p
  | child _ hc ih => exact ih.child hc

/-- **The guard keeps chains short and free of cycles.** Every run reached from a root by
starting nested runs only where the guard lets them is at most `maxDepth` levels deep, with a
depth that counts the runs above it and a parent that is the last of them, and no flow occurs
twice in its chain. The guard passes exactly when the target is named, there is room for one
more level and the target is not running in the chain; otherwise it reports, in this order, a
missing target, the depth the run would have had, or the cycle. -/
theorem guarded_chains_bounded_acyclic :
    (∀ maxDepth i, Reachable maxDepth i →
      i.depth = i.callStack.length ∧ i.depth ≤ maxDepth ∧ i.parentProcessId = i.callStack.getLast? ∧
        (i.callStack ++ [i.processId]).Nodup) ∧
    (∀ node target parent maxDepth, check node target parent maxDepth = .ok () ↔
      Text.isBlankText target = false ∧ parent.depth < maxDepth ∧ target ≠ parent.processId ∧
        target ∉ parent.callStack) ∧
    (∀ node target parent maxDepth, Text.isBlankText target = true →
      check node target parent maxDepth = .error (.missingId node)) ∧
    (∀ node target parent maxDepth, Text.isBlankText target = false → maxDepth ≤ parent.depth →
      check node target parent maxDepth = .error (.maxDepthExceeded (parent.depth + 1) maxDepth)) ∧
    (∀ node target parent maxDepth, Text.isBlankText target = false → parent.depth < maxDepth →
      target = parent.processId ∨ target ∈ parent.callStack →
      check node target parent maxDepth = .error (.recursionDetected target parent.chain)) := by
  refine ⟨fun maxDepth i h => ?_, fun _ _ _ _ => check_eq_ok_iff, fun _ _ _ _ => check_of_blank,
    fun _ _ _ _ => check_of_full, fun _ _ _ _ => check_of_active⟩
  have hw := h.wellFormed
  exact ⟨hw.depth_eq, hw.depth_le, hw.parent_eq, hw.nodup⟩

/-- The chain `a → b` under a bound of two levels is reached through the guard, and keeps its
bookkeeping. -/
theorem chain_ab_well_formed :
    Reachable 2 ((root "a").child "b") ∧
      ((root "a").child "b").depth = ((root "a").child "b").callStack.length ∧
      ((root "a").child "b").depth ≤ 2 ∧
      ((root "a").child "b").parentProcessId = ((root "a").child "b").callStack.getLast? ∧
      (((root "a").child "b").callStack ++ [((root "a").child "b").processId]).Nodup := by
  have hr : Reachable 2 ((root "a").child "b") := @Reachable.child 2 (root "a") "n" "b" (.root "a") rfl
  exact ⟨hr, guarded_chains_bounded_acyclic.1 2 _ hr⟩

end Invocation

end IntegrationFlow
