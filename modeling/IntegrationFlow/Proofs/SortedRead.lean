import IntegrationFlow.Proofs.ReadWritten
import IntegrationFlow.Flow.Definition
import Mathlib.Data.String.Basic

/-!
Documents read with sorted keys: the reader stores every member with `Members.insert`, so every
object it reads lists its members in strictly ascending key order, by the induction on the
reader's steps of `ReadWritten`.
-/

namespace IntegrationFlow

namespace Members

/-- The keys ascend strictly, so no key is there twice. -/
def Ascending (m : Members) : Prop := m.Pairwise fun a b => a.1 < b.1

variable {m : Members} {k : String} {v : Json}

lemma mem_insert {p : String × Json} (h : p ∈ m.insert k v) : p = (k, v) ∨ p ∈ m := by
  induction m with
  | nil => simpa [insert] using h
  | cons q r ih =>
    obtain ⟨k', v'⟩ := q
    simp only [insert] at h
    split_ifs at h with hlt heq
    · simpa using h
    · rcases List.mem_cons.1 h with rfl | h
      · exact .inl rfl
      · exact .inr (List.mem_cons_of_mem _ h)
    · rcases List.mem_cons.1 h with rfl | h
      · exact .inr List.mem_cons_self
      · rcases ih h with rfl | h
        · exact .inl rfl
        · exact .inr (List.mem_cons_of_mem _ h)

lemma Ascending.insert (hm : m.Ascending) : (m.insert k v).Ascending := by
  induction m with
  | nil => simp [Members.insert, Ascending]
  | cons q r ih =>
    obtain ⟨k', v'⟩ := q
    rw [Ascending, List.pairwise_cons] at hm
    simp only [Members.insert]
    split_ifs with hlt heq
    · -- the new key goes in front of keys that already ascend from `k'`
      refine List.Pairwise.cons ?_ (List.Pairwise.cons hm.1 hm.2)
      intro p hp
      rcases List.mem_cons.1 hp with rfl | hp
      · exact hlt
      · exact lt_trans hlt (hm.1 p hp)
    · subst heq
      exact List.Pairwise.cons hm.1 hm.2
    · have hgt : k' < k := lt_of_le_of_ne (not_lt.1 hlt) (Ne.symm heq)
      refine List.Pairwise.cons ?_ (ih hm.2)
      intro p hp
      rcases mem_insert hp with rfl | hp
      · exact hgt
      · exact hm.1 p hp

end Members

namespace Json

/-- Every object of the document, at any depth, has ascending keys. -/
inductive SortedKeys : Json → Prop
  | null : SortedKeys .null
  | bool (b : Bool) : SortedKeys (.bool b)
  | num (n : Number) : SortedKeys (.num n)
  | str (s : String) : SortedKeys (.str s)
  | arr {xs : List Json} : (∀ x ∈ xs, SortedKeys x) → SortedKeys (.arr xs)
  | obj {kvs : Members} : kvs.Ascending → (∀ p ∈ kvs, SortedKeys p.2) → SortedKeys (.obj kvs)

lemma sortedKeys_arr_iff {xs : List Json} : SortedKeys (.arr xs) ↔ ∀ x ∈ xs, SortedKeys x :=
  ⟨fun | .arr h => h, .arr⟩

lemma sortedKeys_obj_iff {kvs : Members} :
    SortedKeys (.obj kvs) ↔ kvs.Ascending ∧ ∀ p ∈ kvs, SortedKeys p.2 :=
  ⟨fun | .obj h₁ h₂ => ⟨h₁, h₂⟩, fun h => .obj h.1 h.2⟩

lemma SortedKeys.insert {kvs : Members} {k : String} {v : Json} (hkvs : SortedKeys (.obj kvs))
    (hv : SortedKeys v) : SortedKeys (.obj (kvs.insert k v)) := by
  rw [sortedKeys_obj_iff] at hkvs ⊢
  refine ⟨hkvs.1.insert, fun p hp => ?_⟩
  rcases Members.mem_insert hp with rfl | hp
  · exact hv
  · exact hkvs.2 p hp

end Json

namespace Reader

open Json

section Reads

variable {r r' : Reader}

lemma fst_of_map_const {x : Except DataError Reader} {v b : α} (h : (x.map fun r => (v, r)) = .ok (b, r')) :
    b = v := by
  cases x with
  | error e => cases h
  | ok a =>
    simp only [Except.map, Except.ok.injEq, Prod.mk.injEq] at h
    exact h.1.symm

lemma fst_of_map {x : Except DataError (α × Reader)} {g : α → β} {b : β}
    (h : (x.map fun p => (g p.1, p.2)) = .ok (b, r')) : ∃ a, x = .ok (a, r') ∧ b = g a := by
  cases x with
  | error e => cases h
  | ok p =>
    simp only [Except.map, Except.ok.injEq, Prod.mk.injEq] at h
    exact ⟨p.1, by rw [← h.2], h.1.symm⟩

end Reads

/-- A document read with `fuel` steps is sorted. -/
def ValueSorted (fuel : Nat) : Prop :=
  ∀ depth (r r' : Reader) (j : Json), value fuel depth r = .ok (j, r') → j.SortedKeys

/-- Array items read with `fuel` steps after sorted ones are sorted. -/
def ItemsSorted (fuel : Nat) : Prop :=
  ∀ depth first (acc xs : List Json) (r r' : Reader), (∀ x ∈ acc, x.SortedKeys) →
    items fuel depth first acc r = .ok (xs, r') → ∀ x ∈ xs, x.SortedKeys

/-- Object members read with `fuel` steps into a sorted object give a sorted object. -/
def MembersSorted (fuel : Nat) : Prop :=
  ∀ depth first (acc kvs : Members) (r r' : Reader), SortedKeys (.obj acc) →
    members fuel depth first acc r = .ok (kvs, r') → SortedKeys (.obj kvs)

lemma valueSorted_succ {fuel : Nat} (hitems : ItemsSorted fuel) (hmembers : MembersSorted fuel) :
    ValueSorted (fuel + 1) := by
  intro depth r r' j h
  rw [value] at h
  dsimp only at h
  split at h
  · cases h
  rename_i c cs _
  -- the first character chooses the kind of value: each test that fails passes to the next
  by_cases hn : c = 'n'
  · rw [if_pos hn] at h
    rw [fst_of_map_const h]
    exact .null
  rw [if_neg hn] at h
  by_cases ht : c = 't'
  · rw [if_pos ht] at h
    rw [fst_of_map_const h]
    exact .bool true
  rw [if_neg ht] at h
  by_cases hf : c = 'f'
  · rw [if_pos hf] at h
    rw [fst_of_map_const h]
    exact .bool false
  rw [if_neg hf] at h
  by_cases hminus : c = '-'
  · rw [if_pos hminus] at h
    obtain ⟨n, -, rfl⟩ := fst_of_map h
    exact .num n
  rw [if_neg hminus] at h
  by_cases hdigit : (digit? c).isSome
  · rw [if_pos hdigit] at h
    obtain ⟨n, -, rfl⟩ := fst_of_map h
    exact .num n
  rw [if_neg hdigit] at h
  by_cases hquote : c = '"'
  · rw [if_pos hquote] at h
    obtain ⟨s, -, rfl⟩ := fst_of_map h
    exact .str s
  rw [if_neg hquote] at h
  by_cases hopen : c = '['
  · -- an array: its items are read with the steps left
    rw [if_pos hopen] at h
    split at h
    · cases h
    split at h
    · rename_i xs r₁ hxs
      rw [fst_of_map_const h]
      exact .arr (hitems _ _ _ _ _ _ (by simp) hxs)
    · cases h
  rw [if_neg hopen] at h
  by_cases hbrace : c = '\x7b'
  · -- an object: its members are stored from none with the steps left
    rw [if_pos hbrace] at h
    split at h
    · cases h
    split at h
    · rename_i kvs r₁ hkvs
      rw [fst_of_map_const h]
      exact hmembers _ _ _ _ _ _ (.obj List.Pairwise.nil (by simp)) hkvs
    · cases h
  rw [if_neg hbrace] at h
  cases h

lemma items_succ_inv {fuel depth : Nat} {first : Bool} {acc xs : List Json}
    (h : items (fuel + 1) depth first acc r = .ok (xs, r')) :
    xs = acc.reverse ∨ ∃ r₁ x r₂, value fuel depth r₁ = .ok (x, r₂) ∧ items fuel depth false (x :: acc) r₂ = .ok (xs, r') := by
  rw [items] at h
  dsimp only at h
  repeat' split at h
  all_goals first
    | exact .inl (Prod.mk.inj (Except.ok.inj h)).1.symm
    | exact .inr ⟨_, _, _, by assumption, h⟩
    | cases h

lemma members_succ_inv {fuel depth : Nat} {first : Bool} {acc kvs : Members}
    (h : members (fuel + 1) depth first acc r = .ok (kvs, r')) :
    kvs = acc ∨ ∃ k r₁ v r₂, value fuel depth r₁ = .ok (v, r₂) ∧
      members fuel depth false (acc.insert k v) r₂ = .ok (kvs, r') := by
  rw [members] at h
  dsimp only at h
  repeat' split at h
  all_goals first
    | exact .inl (Prod.mk.inj (Except.ok.inj h)).1.symm
    | exact .inr ⟨_, _, _, _, by assumption, h⟩
    | cases h

lemma itemsSorted_succ {fuel : Nat} (hvalue : ValueSorted fuel) (hitems : ItemsSorted fuel) :
    ItemsSorted (fuel + 1) := by
  intro depth first acc xs r r' hacc h
  rcases items_succ_inv h with rfl | ⟨r₁, x, r₂, hx, h⟩
  · simpa using hacc
  · refine hitems _ _ _ _ _ _ (fun y hy => ?_) h
    rcases List.mem_cons.1 hy with rfl | hy
    · exact hvalue _ _ _ _ hx
    · exact hacc y hy

lemma membersSorted_succ {fuel : Nat} (hvalue : ValueSorted fuel) (hmembers : MembersSorted fuel) :
    MembersSorted (fuel + 1) := by
  intro depth first acc kvs r r' hacc h
  rcases members_succ_inv h with rfl | ⟨k, r₁, v, r₂, hv, h⟩
  · exact hacc
  · exact hmembers _ _ _ _ _ _ (hacc.insert (hvalue _ _ _ _ hv)) h

/-- **The reader sorts.** Whatever the text, with any number of steps, a document read is
sorted, and so are array items and object members read after sorted ones. -/
theorem read_sortedKeys (fuel : Nat) : ValueSorted fuel ∧ ItemsSorted fuel ∧ MembersSorted fuel := by
  induction fuel with
  | zero =>
    refine ⟨?_, ?_, ?_⟩
    · intro depth r r' j h
      simp [value] at h
    · intro depth first acc xs r r' _ h
      simp [items] at h
    · intro depth first acc kvs r r' _ h
      simp [members] at h
  | succ fuel ih =>
    obtain ⟨hv, hi, hm⟩ := ih
    exact ⟨valueSorted_succ hi hm, itemsSorted_succ hv hi, membersSorted_succ hv hm⟩

end Reader

theorem Json.parse_sortedKeys {s : String} {j : Json} (h : Json.parse s = .ok j) : j.SortedKeys := by
  unfold Json.parse at h
  dsimp only at h
  cases hread : Reader.value (Reader.fuelFor (Reader.ofString s).rest.length) Reader.maxDepth (Reader.ofString s) with
  | error e =>
    rw [hread] at h
    cases h
  | ok p =>
    obtain ⟨j', r⟩ := p
    rw [hread] at h
    change (fun _ => j') <$> r.finish = .ok j at h
    have hj : j' = j := by
      cases hfin : r.finish with
      | error e =>
        rw [hfin] at h
        cases h
      | ok u =>
        rw [hfin] at h
        exact Except.ok.inj h
    exact hj ▸ (Reader.read_sortedKeys _).1 _ _ _ _ hread

/-! ### Typed reads -/

namespace TextDecoder

/-- Every value `d` reads has `P`. -/
def Yields (P : α → Prop) (d : TextDecoder α) : Prop :=
  ∀ fuel depth (r r' : Reader) a, d fuel depth r = .ok (a, r') → P a

/-- Reading a field into a record that has `I` gives a record that has `I`. -/
def Field.Keeps (I : σ → Prop) (f : Field σ) : Prop :=
  ∀ st fuel depth (r r' : Reader) st', I st → f.read st fuel depth r = .ok (st', r') → I st'

lemma yields_members : Yields Members.Ascending members := by
  intro fuel depth r r' kvs h
  unfold members at h
  dsimp only at h
  split at h
  · cases h
  · split at h
    · cases h
    · split at h
      · rename_i kvs' r₁ hm
        rw [Reader.fst_of_map_const h]
        exact (Json.sortedKeys_obj_iff.1 ((Reader.read_sortedKeys _).2.2 _ _ _ _ _ _
          (.obj List.Pairwise.nil (by simp)) hm)).1
      · cases h
  · cases h

lemma Field.keeps_map {I : σ → Prop} {P : α → Prop} {f : Field σ} {d : TextDecoder α} (upd : σ → α → σ)
    (hread : ∀ st fuel depth r, f.read st fuel depth r = (d fuel depth r).map fun p => (upd st p.1, p.2))
    (hd : Yields P d) (hI : ∀ st v, I st → P v → I (upd st v)) : f.Keeps I := by
  intro st fuel depth r r' st' hst h
  rw [hread] at h
  obtain ⟨v, hv, rfl⟩ := Reader.fst_of_map h
  exact hI st v hst (hd _ _ _ _ _ hv)

lemma Field.keeps_map_of_forall {I : σ → Prop} {f : Field σ} {d : TextDecoder α} (upd : σ → α → σ)
    (hread : ∀ st fuel depth r, f.read st fuel depth r = (d fuel depth r).map fun p => (upd st p.1, p.2))
    (hI : ∀ st v, I st → I (upd st v)) : f.Keeps I :=
  Field.keeps_map (P := fun _ => True) upd hread (fun _ _ _ _ _ _ => trivial) fun st v h _ => hI st v h

lemma items_yields {P : α → Prop} {d : TextDecoder α} (hd : Yields P d) :
    ∀ fuel depth first (acc xs : List α) (r r' : Reader), (∀ x ∈ acc, P x) →
      items d fuel depth first acc r = .ok (xs, r') → ∀ x ∈ xs, P x := by
  intro fuel
  induction fuel with
  | zero =>
    intro depth first acc xs r r' _ h
    simp [items] at h
  | succ fuel ih =>
    intro depth first acc xs r r' hacc h
    rw [items] at h
    split at h
    · cases h
    · -- the closing bracket: the items read so far
      obtain ⟨rfl, -⟩ := Prod.mk.inj (Except.ok.inj h)
      simpa using hacc
    · split at h
      · cases h
      · split at h
        · rename_i x r₂ hx
          exact ih _ _ _ _ _ _ (List.forall_mem_cons.2 ⟨hd _ _ _ _ _ hx, hacc⟩) h
        · cases h

lemma list_yields {P : α → Prop} {d : TextDecoder α} (hd : Yields P d) :
    Yields (fun xs => ∀ x ∈ xs, P x) (list d) := by
  intro fuel depth r r' xs h
  unfold list at h
  dsimp only at h
  split at h
  · cases h
  · split at h
    · cases h
    · split at h
      · rename_i ys r₁ hys
        rw [Reader.fst_of_map_const h]
        exact items_yields hd _ _ _ _ _ _ _ (by simp) hys
      · cases h
  · cases h

lemma mem_of_findField {fields : List (Field σ)} {k : String} {i : Nat} {f : Field σ}
    (h : findField fields k = some (i, f)) : f ∈ fields := by
  unfold findField at h
  obtain ⟨⟨f', i'⟩, hfind, hfi⟩ := Option.map_eq_some_iff.1 h
  obtain ⟨rfl, rfl⟩ := Prod.mk.inj hfi
  exact List.fst_mem_of_mem_zipIdx (List.mem_of_find?_eq_some hfind)

section Records

variable {fields : List (Field σ)} {I : σ → Prop}

lemma recordMembers_keeps (hf : ∀ f ∈ fields, f.Keeps I) :
    ∀ fuel depth first seen st (r : Reader) st' seen' r', I st →
      recordMembers fields fuel depth first seen st r = .ok (st', seen', r') → I st' := by
  intro fuel
  induction fuel with
  | zero =>
    intro depth first seen st r st' seen' r' _ h
    simp [recordMembers] at h
  | succ fuel ih =>
    intro depth first seen st r st' seen' r' hst h
    rw [recordMembers] at h
    repeat' split at h
    all_goals first
      | exact (Prod.mk.inj (Except.ok.inj h)).1 ▸ hst
      | exact ih _ _ _ _ _ _ _ _ hst h
      | exact ih _ _ _ _ _ _ _ _ (hf _ (mem_of_findField ‹_›) _ _ _ _ _ _ hst ‹_›) h
      | cases h

lemma recordItems_keeps (hf : ∀ f ∈ fields, f.Keeps I) {expect : String} :
    ∀ (fs : List (Field σ × Nat)), (∀ p ∈ fs, p.1 ∈ fields) → ∀ fuel depth first st (r : Reader) st' r', I st →
      recordItems expect fs fuel depth first st r = .ok (st', r') → I st' := by
  intro fs
  induction fs with
  | nil =>
    intro _ fuel depth first st r st' r' hst h
    obtain ⟨rfl, -⟩ := Prod.mk.inj (Except.ok.inj h)
    exact hst
  | cons p fs ih =>
    intro hfs fuel depth first st r st' r' hst h
    obtain ⟨f, i⟩ := p
    have hrest : ∀ p ∈ fs, p.1 ∈ fields := fun p hp => hfs p (List.mem_cons_of_mem _ hp)
    cases fuel with
    | zero => simp [recordItems] at h
    | succ fuel =>
      rw [recordItems] at h
      repeat' split at h
      all_goals first
        | exact ih hrest _ _ _ _ _ _ _ hst h
        | exact ih hrest _ _ _ _ _ _ _ (hf f (hfs _ List.mem_cons_self) _ _ _ _ _ _ hst ‹_›) h
        | cases h

lemma record_yields {what : String} {init : σ} (hI : I init) (hf : ∀ f ∈ fields, f.Keeps I) :
    Yields I (record what fields init) := by
  intro fuel depth r r' st h
  unfold record at h
  dsimp only at h
  repeat' split at h
  all_goals first
    | cases h
    | exact Reader.fst_of_map_const h ▸ recordMembers_keeps hf _ _ _ _ _ _ _ _ _ hI ‹_›
    | exact Reader.fst_of_map_const h ▸ recordItems_keeps hf _
        (fun p hp => List.fst_mem_of_mem_zipIdx hp) _ _ _ _ _ _ _ hI ‹_›

end Records

end TextDecoder

namespace FlowDefinition

open TextDecoder

lemma readNode_yields : Yields (fun n : NodeSpec => n.data.Ascending) readNode := by
  refine record_yields List.Pairwise.nil ?_
  simp only [List.mem_cons, List.not_mem_nil, or_false]
  rintro f (rfl | rfl | rfl | rfl)
  · exact Field.keeps_map_of_forall (fun n v => { n with id := v }) (fun _ _ _ _ => rfl) fun _ _ h => h
  · exact Field.keeps_map_of_forall (fun n v => { n with type := v }) (fun _ _ _ _ => rfl) fun _ _ h => h
  · exact Field.keeps_map (fun n v => { n with data := v }) (fun _ _ _ _ => rfl) yields_members fun _ _ _ h => h
  · exact Field.keeps_map_of_forall (fun n v => { n with position := v }) (fun _ _ _ _ => rfl) fun _ _ h => h

lemma readFlow_yields : Yields (fun d : FlowDefinition => ∀ n ∈ d.nodes, n.data.Ascending) readFlow := by
  refine record_yields (by simp) ?_
  simp only [List.mem_cons, List.not_mem_nil, or_false]
  rintro f (rfl | rfl | rfl | rfl)
  · exact Field.keeps_map_of_forall (fun d v => { d with id := v }) (fun _ _ _ _ => rfl) fun _ _ h => h
  · exact Field.keeps_map_of_forall (fun d v => { d with name := v }) (fun _ _ _ _ => rfl) fun _ _ h => h
  · exact Field.keeps_map (fun d v => { d with nodes := v }) (fun _ _ _ _ => rfl) (list_yields readNode_yields)
      fun _ _ _ h => h
  · exact Field.keeps_map_of_forall (fun d v => { d with edges := v }) (fun _ _ _ _ => rfl) fun _ _ h => h

/-- **Stored nodes carry sorted data.** Every node of a definition read from text has its
data in ascending key order. -/
theorem parse_data_ascending {text : String} {d : FlowDefinition} (h : parse text = .ok d) :
    ∀ n ∈ d.nodes, n.data.Ascending := by
  unfold parse at h
  split at h
  · rename_i d' hrun
    obtain rfl : d' = d := Except.ok.inj h
    unfold TextDecoder.run at hrun
    dsimp only at hrun
    cases hread : readFlow (Reader.fuelFor (Reader.ofString text).rest.length) Reader.maxDepth (Reader.ofString text) with
    | error e =>
      rw [hread] at hrun
      cases hrun
    | ok p =>
      obtain ⟨d'', r⟩ := p
      rw [hread] at hrun
      change (fun _ => d'') <$> r.finish = .ok d' at hrun
      have hd : d'' = d' := by
        cases hfin : r.finish with
        | error e =>
          rw [hfin] at hrun
          cases hrun
        | ok u =>
          rw [hfin] at hrun
          exact Except.ok.inj hrun
      exact hd ▸ readFlow_yields _ _ _ _ _ hread
  · cases h

end FlowDefinition

end IntegrationFlow
