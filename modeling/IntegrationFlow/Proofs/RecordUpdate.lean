import IntegrationFlow.Proofs.SortedRead
import IntegrationFlow.Proofs.Execution

/-!
Decoding a record after one member changes: when one member of an object with ascending keys
is stored anew, the decoded record changes only by that member's field (`fromMembers_insert`).
-/

namespace IntegrationFlow

namespace Members

variable {m : Members} {k : String} {v : Json}

lemma insert_split (hm : m.Ascending) :
    ∃ pre post, (∀ p ∈ pre, p.1 < k) ∧ (∀ p ∈ post, k < p.1) ∧ m.insert k v = pre ++ (k, v) :: post ∧
      (m = pre ++ post ∨ ∃ old, m = pre ++ (k, old) :: post) := by
  induction m with
  | nil => exact ⟨[], [], by simp, by simp, rfl, .inl rfl⟩
  | cons q r ih =>
    obtain ⟨k', v'⟩ := q
    rw [Ascending, List.pairwise_cons] at hm
    simp only [insert]
    split_ifs with hlt heq
    · refine ⟨[], (k', v') :: r, by simp, ?_, rfl, .inl rfl⟩
      intro p hp
      rcases List.mem_cons.1 hp with rfl | hp
      · exact hlt
      · exact lt_trans hlt (hm.1 p hp)
    · subst heq
      exact ⟨[], r, by simp, hm.1, rfl, .inr ⟨v', rfl⟩⟩
    · have hgt : k' < k := lt_of_le_of_ne (not_lt.1 hlt) (Ne.symm heq)
      obtain ⟨pre, post, hpre, hpost, hins, hcases⟩ := ih hm.2
      refine ⟨(k', v') :: pre, post, ?_, hpost, by rw [hins]; rfl, ?_⟩
      · intro p hp
        rcases List.mem_cons.1 hp with rfl | hp
        · exact hgt
        · exact hpre p hp
      · rcases hcases with h | ⟨old, h⟩
        · exact .inl (by rw [h]; rfl)
        · exact .inr ⟨old, by rw [h]; rfl⟩

end Members

namespace Decoder

variable {σ : Type} {fields : List (Field σ)}

/-- One member stored into a record being decoded, as `fromMembers` stores it: a member of no
field is skipped, a field given twice is a fault, and the field's index is noted as given. -/
def memberStep (fields : List (Field σ)) (acc : σ × List Nat) (kv : String × Json) :
    Except DataError (σ × List Nat) :=
  match findField fields kv.1 with
  | none => .ok acc
  | some (i, f) =>
    if acc.2.contains i then .error ⟨.duplicateField f.name, none⟩
    else (fun st => (st, i :: acc.2)) <$> f.store acc.1 kv.2

lemma memberStep_none {acc : σ × List Nat} {kv : String × Json} (h : findField fields kv.1 = none) :
    memberStep fields acc kv = .ok acc := by
  simp [memberStep, h]

lemma memberStep_some {acc : σ × List Nat} {kv : String × Json} {i : Nat} {f : Field σ}
    (h : findField fields kv.1 = some (i, f)) :
    memberStep fields acc kv = if acc.2.contains i then .error ⟨.duplicateField f.name, none⟩
      else (fun st => (st, i :: acc.2)) <$> f.store acc.1 kv.2 := by
  simp only [memberStep, h]

lemma memberStep_eq_ok {st st' : σ} {seen seen' : List Nat} {p : String × Json}
    (h : memberStep fields (st, seen) p = .ok (st', seen')) :
    (findField fields p.1 = none ∧ st' = st ∧ seen' = seen) ∨
      ∃ i f, findField fields p.1 = some (i, f) ∧ seen.contains i = false ∧ f.store st p.2 = .ok st' ∧
        seen' = i :: seen := by
  cases hfind : findField fields p.1 with
  | none =>
    rw [memberStep_none hfind] at h
    obtain ⟨rfl, rfl⟩ := Prod.mk.inj (Except.ok.inj h)
    exact .inl ⟨rfl, rfl, rfl⟩
  | some q =>
    obtain ⟨i, f⟩ := q
    rw [memberStep_some hfind] at h
    split at h
    · cases h
    · rename_i hnot
      cases hst : f.store st p.2 with
      | error e =>
        rw [hst] at h
        cases h
      | ok s =>
        rw [hst] at h
        obtain ⟨rfl, rfl⟩ := Prod.mk.inj (Except.ok.inj h)
        exact .inr ⟨i, f, rfl, Bool.eq_false_iff.2 hnot, hst, rfl⟩

lemma memberStep_fresh {st : σ} {seen : List Nat} {p : String × Json} {i : Nat} {f : Field σ}
    (hfind : findField fields p.1 = some (i, f)) (hfresh : seen.contains i = false) :
    memberStep fields (st, seen) p = (fun st' => (st', i :: seen)) <$> f.store st p.2 := by
  rw [memberStep_some hfind]
  simp only [hfresh, Bool.false_eq_true, if_false]

/-- The check `fromMembers` makes after the members: no field without a default is missing. -/
def missing (fields : List (Field σ)) (seen : List Nat) : Option (Field σ × Nat) :=
  fields.zipIdx.find? fun (f, i) => !f.hasDefault && !seen.contains i

lemma fromMembers_eq (init : σ) (kvs : Members) :
    fromMembers fields init kvs = (do
      let (st, seen) ← kvs.foldlM (memberStep fields) (init, [])
      match missing fields seen with
      | some (f, _) => .error ⟨.missingField f.name, none⟩
      | none => .ok st) := rfl

lemma record_obj (what : String) (init : σ) (kvs : Members) :
    record what fields init (.obj kvs) = fromMembers fields init kvs := rfl

lemma findField_spec {k : String} {i : Nat} {f : Field σ} (h : findField fields k = some (i, f)) :
    fields[i]? = some f ∧ (f.name == k || f.aliases.contains k) = true := by
  unfold findField at h
  obtain ⟨⟨f', i'⟩, hfind, hfi⟩ := Option.map_eq_some_iff.1 h
  obtain ⟨rfl, rfl⟩ := Prod.mk.inj hfi
  refine ⟨List.mem_zipIdx_iff_getElem?.1 (List.mem_of_find?_eq_some hfind), ?_⟩
  simpa using List.find?_some hfind

lemma findField_named (hnoAlias : ∀ f ∈ fields, f.aliases = []) {k : String} {i : Nat} {f : Field σ}
    (h : findField fields k = some (i, f)) : fields[i]? = some f ∧ f.name = k := by
  obtain ⟨hfi, hfk⟩ := findField_spec h
  exact ⟨hfi, by simpa [hnoAlias f (List.mem_of_getElem? hfi)] using hfk⟩

lemma findField_isSome {k : String} {f : Field σ} (hf : f ∈ fields) (hname : f.name = k) :
    (findField fields k).isSome := by
  obtain ⟨i, hi⟩ := List.mem_iff_getElem?.1 hf
  unfold findField
  rw [Option.isSome_map, List.find?_isSome]
  exact ⟨(f, i), List.mem_zipIdx_iff_getElem?.2 hi, by simp [hname]⟩

lemma foldlM_seen : ∀ (l : Members) (st st' : σ) (seen seen' : List Nat),
    l.foldlM (memberStep fields) (st, seen) = .ok (st', seen') →
      ∃ added, seen' = added ++ seen ∧ ∀ j ∈ added, ∃ p ∈ l, ∃ f, findField fields p.1 = some (j, f) := by
  intro l
  induction l with
  | nil =>
    intro st st' seen seen' h
    obtain ⟨-, rfl⟩ := Prod.mk.inj (Except.ok.inj h)
    exact ⟨[], rfl, by simp⟩
  | cons p l ih =>
    intro st st' seen seen' h
    rw [List.foldlM_cons] at h
    obtain ⟨⟨st₁, seen₁⟩, hstep, h⟩ := Engine.bind_eq_ok h
    obtain ⟨added, rfl, hadded⟩ := ih _ _ _ _ h
    have htail : ∀ j ∈ added, ∃ q ∈ p :: l, ∃ f, findField fields q.1 = some (j, f) := by
      intro j hj
      obtain ⟨q, hq, hfq⟩ := hadded j hj
      exact ⟨q, List.mem_cons_of_mem _ hq, hfq⟩
    rcases memberStep_eq_ok hstep with ⟨-, -, rfl⟩ | ⟨i, f, hfind, -, -, rfl⟩
    · exact ⟨added, rfl, htail⟩
    · refine ⟨added ++ [i], by simp, fun j hj => ?_⟩
      rcases List.mem_append.1 hj with hj | hj
      · exact htail j hj
      · rw [List.mem_singleton.1 hj]
        exact ⟨p, List.mem_cons_self, f, hfind⟩

section Update

variable {k : String} {i : Nat} {g : σ → σ}

lemma foldlM_update (hother : ∀ k' i' f', k' ≠ k → findField fields k' = some (i', f') →
      i' ≠ i ∧ ∀ st j, f'.store (g st) j = g <$> f'.store st j) :
    ∀ (l : Members), (∀ p ∈ l, p.1 ≠ k) → ∀ (st c : σ) (seen₁ seen₂ seen' : List Nat),
      (∀ j, j ≠ i → (j ∈ seen₂ ↔ j ∈ seen₁)) →
      l.foldlM (memberStep fields) (st, seen₁) = .ok (c, seen') →
      ∃ added, seen' = added ++ seen₁ ∧ l.foldlM (memberStep fields) (g st, seen₂) = .ok (g c, added ++ seen₂) := by
  intro l
  induction l with
  | nil =>
    intro _ st c seen₁ seen₂ seen' _ h
    obtain ⟨rfl, rfl⟩ := Prod.mk.inj (Except.ok.inj h)
    exact ⟨[], rfl, rfl⟩
  | cons p l ih =>
    intro hl st c seen₁ seen₂ seen' hagree h
    have hlk : ∀ q ∈ l, q.1 ≠ k := fun q hq => hl q (List.mem_cons_of_mem _ hq)
    rw [List.foldlM_cons] at h ⊢
    obtain ⟨⟨st₁, s₁⟩, hstep, hrest⟩ := Engine.bind_eq_ok h
    rcases memberStep_eq_ok hstep with ⟨hfind, rfl, rfl⟩ | ⟨i', f', hfind, hfresh, hst, rfl⟩
    · -- a member of no field: both runs skip it
      rw [memberStep_none hfind]
      exact ih hlk _ _ _ _ _ hagree hrest
    · -- a member of another field: the second run stores it into the updated record
      obtain ⟨hi', hcomm⟩ := hother _ _ _ (hl p List.mem_cons_self) hfind
      have hfresh₂ : seen₂.contains i' = false := by
        rw [← hfresh]
        exact Bool.eq_iff_iff.2 (by simp [hagree i' hi'])
      have hagree' : ∀ j, j ≠ i → (j ∈ i' :: seen₂ ↔ j ∈ i' :: seen₁) := by
        intro j hj
        simp only [List.mem_cons, hagree j hj]
      obtain ⟨added, rfl, hnew⟩ := ih hlk _ _ _ _ _ hagree' hrest
      refine ⟨added ++ [i'], by simp, ?_⟩
      rw [memberStep_fresh hfind hfresh₂, hcomm, hst, List.append_assoc, List.singleton_append]
      exact hnew

lemma missing_eq_none_of_subset {seen seen' : List Nat} (h : missing fields seen = none)
    (hsub : ∀ j ∈ seen, j ∈ seen') : missing fields seen' = none := by
  unfold missing at h ⊢
  rw [List.find?_eq_none] at h ⊢
  intro x hx hmiss
  apply h x hx
  simp only [List.contains_eq_mem, Bool.and_eq_true, Bool.not_eq_eq_eq_not, Bool.not_true,
    decide_eq_false_iff_not] at hmiss ⊢
  exact ⟨hmiss.1, fun hj => hmiss.2 (hsub _ hj)⟩

lemma fromMembers_of_fold {init st : σ} {kvs : Members} {seen : List Nat}
    (h : kvs.foldlM (memberStep fields) (init, []) = .ok (st, seen)) (hmiss : missing fields seen = none) :
    fromMembers fields init kvs = .ok st := by
  rw [fromMembers_eq, h]
  show (match missing fields seen with
    | some (f, _) => .error ⟨.missingField f.name, none⟩
    | none => .ok st : Except DataError σ) = _
  rw [hmiss]

lemma fromMembers_eq_ok {init c : σ} {kvs : Members} :
    fromMembers fields init kvs = .ok c ↔
      ∃ seen, kvs.foldlM (memberStep fields) (init, []) = .ok (c, seen) ∧ missing fields seen = none := by
  constructor
  · intro h
    rw [fromMembers_eq] at h
    obtain ⟨⟨st, seen⟩, hfold, hcheck⟩ := Engine.bind_eq_ok h
    dsimp only at hcheck
    split at hcheck
    · cases hcheck
    · obtain rfl := Except.ok.inj hcheck
      exact ⟨seen, hfold, ‹_›⟩
  · rintro ⟨seen, hfold, hmiss⟩
    exact fromMembers_of_fold hfold hmiss

/-- **Decoding after one member changes.** Storing a value under a key of an object with
ascending keys changes the record it decodes to only by an update `g`: when the field of that
key stores the value as `g` does and whatever it stored before is overridden by `g`, and every
other field stores into an updated record as into the record and then updates it. -/
theorem fromMembers_insert {init c : σ} {m : Members} {v : Json} (hm : m.Ascending)
    (hnoAlias : ∀ f ∈ fields, f.aliases = []) (hfound : ∃ f ∈ fields, f.name = k)
    (hkey : ∀ f ∈ fields, f.name = k →
      (∀ st, f.store st v = .ok (g st)) ∧ ∀ st j st', f.store st j = .ok st' → g st' = g st)
    (hother : ∀ f ∈ fields, f.name ≠ k → ∀ st j, f.store (g st) j = g <$> f.store st j)
    (h : fromMembers fields init m = .ok c) : fromMembers fields init (m.insert k v) = .ok (g c) := by
  -- the field of the key, and the index it is noted under
  obtain ⟨f₀, hf₀, hname₀⟩ := hfound
  obtain ⟨⟨i, f⟩, hk⟩ := Option.isSome_iff_exists.1 (findField_isSome hf₀ hname₀)
  obtain ⟨hfi, hfname⟩ := findField_named hnoAlias hk
  obtain ⟨hnew, hold⟩ := hkey f (List.mem_of_getElem? hfi) hfname
  have hother' : ∀ k' i' f', k' ≠ k → findField fields k' = some (i', f') →
      i' ≠ i ∧ ∀ st j, f'.store (g st) j = g <$> f'.store st j := by
    intro k' i' f' hne hk'
    obtain ⟨hfi', hfname'⟩ := findField_named hnoAlias hk'
    refine ⟨?_, hother f' (List.mem_of_getElem? hfi') (hfname' ▸ hne)⟩
    rintro rfl
    obtain rfl : f' = f := Option.some.inj (hfi'.symm.trans hfi)
    exact hne (hfname'.symm.trans hfname)
  -- the members before the key, the key, and those after it
  obtain ⟨pre, post, hpre, hpost, hins, hcases⟩ := Members.insert_split (v := v) hm
  have hpost' : ∀ p ∈ post, p.1 ≠ k := fun p hp => ne_of_gt (hpost p hp)
  -- the members before the key give no field under the key's index
  have hfresh : ∀ {s₁ : σ} {seen₁ : List Nat}, pre.foldlM (memberStep fields) (init, []) = .ok (s₁, seen₁) →
      seen₁.contains i = false := by
    intro s₁ seen₁ hpreF
    obtain ⟨added, rfl, hadded⟩ := foldlM_seen pre _ _ _ _ hpreF
    rw [List.append_nil, Bool.eq_false_iff]
    intro hi
    obtain ⟨p, hp, f', hp'⟩ := hadded i (by simpa using hi)
    exact (hother' _ _ _ (ne_of_lt (hpre p hp)) hp').1 rfl
  obtain ⟨seen, hfold, hmiss⟩ := fromMembers_eq_ok.1 h
  rw [hins]
  -- the new members run as the old ones up to the key, store the new value, then go on
  have hnewRun : ∀ {s₁ seen₁}, pre.foldlM (memberStep fields) (init, []) = .ok (s₁, seen₁) →
      (pre ++ (k, v) :: post).foldlM (memberStep fields) (init, []) =
        post.foldlM (memberStep fields) (g s₁, i :: seen₁) := by
    intro s₁ seen₁ hpreF
    rw [List.foldlM_append, hpreF]
    show ((k, v) :: post).foldlM (memberStep fields) (s₁, seen₁) = _
    rw [List.foldlM_cons, memberStep_fresh hk (hfresh hpreF), hnew]
    rfl
  obtain ⟨rest, rfl, hrestEq⟩ : ∃ rest, m = pre ++ rest ∧ (rest = post ∨ ∃ old, rest = (k, old) :: post) := by
    rcases hcases with h | ⟨old, h⟩
    · exact ⟨post, h, .inl rfl⟩
    · exact ⟨_, h, .inr ⟨old, rfl⟩⟩
  rw [List.foldlM_append] at hfold
  obtain ⟨⟨s₁, seen₁⟩, hpreF, hrest⟩ := Engine.bind_eq_ok hfold
  rcases hrestEq with hr | ⟨old, hr⟩ <;> rw [hr] at hrest
  · -- the key was not there: the new run also gives its field
    obtain ⟨added, rfl, hpostN⟩ := foldlM_update hother' post hpost' s₁ c seen₁ (i :: seen₁) _
      (fun j hj => by simp [hj]) hrest
    refine fromMembers_of_fold ((hnewRun hpreF).trans hpostN) (missing_eq_none_of_subset hmiss ?_)
    intro j hj
    rcases List.mem_append.1 hj with hj | hj <;> simp [hj]
  · -- the key was there: its old value is overridden by the update
    rw [List.foldlM_cons, memberStep_fresh hk (hfresh hpreF)] at hrest
    cases hst : f.store s₁ old with
    | error e =>
      rw [hst] at hrest
      cases hrest
    | ok s₁' =>
      rw [hst] at hrest
      obtain ⟨added, rfl, hpostN⟩ := foldlM_update hother' post hpost' s₁' c (i :: seen₁) (i :: seen₁) _
        (fun _ _ => Iff.rfl) hrest
      rw [hold s₁ old s₁' hst] at hpostN
      exact fromMembers_of_fold ((hnewRun hpreF).trans hpostN) hmiss

end Update

end Decoder

end IntegrationFlow
