import IntegrationFlow.Proofs.ReadWritten

/-!
Reading written records: the typed decoders of the flow text read a written value up to where
its text ends, and a record's read keeps any invariant each of its fields keeps.
-/

namespace IntegrationFlow

namespace TextDecoder

open Reader

variable {α σ : Type} {r r' : Reader} {rest : List Char}

/-- A read by `d` that starts at the text `t`, with text after it that closes it, stops where `t`
ends when it succeeds. -/
def StopsAfter (d : TextDecoder α) (t : List Char) : Prop :=
  ∀ fuel depth (r r' : Reader) rest a, r.rest = t ++ rest → Closes rest → d fuel depth r = .ok (a, r') →
    r'.rest = rest

lemma string_quote (s : String) (fuel depth : Nat) (h : r.rest = (quote false s).toList ++ rest) :
    ∃ r', string fuel depth r = .ok (s, r') ∧ r'.rest = rest := by
  obtain ⟨q, hq⟩ : ∃ q, (quote false s).toList = '"' :: q := ⟨_, by rw [quote_toList, List.cons_append]⟩
  have h' : r.rest = '"' :: (q ++ rest) := by rw [h, hq]; rfl
  unfold string
  rw [skipWs_of_cons h' (by decide)]
  dsimp only
  rw [h']
  exact str_quote_written s (show '"' :: (q ++ rest) = (quote false s).toList ++ rest by rw [hq, List.cons_append])

lemma stopsAfter_string (s : String) : StopsAfter string (quote false s).toList := by
  intro fuel depth r r' rest a hr _ h
  obtain ⟨r₁, h₁, hr₁⟩ := string_quote s fuel depth hr
  rw [h₁] at h
  obtain ⟨-, rfl⟩ := Prod.mk.inj (Except.ok.inj h)
  exact hr₁

lemma stopsAfter_single {t : List Char} (ht : SignedNumber t) : StopsAfter single t := by
  intro fuel depth r r' rest a hr hc h
  obtain ⟨i, f, e, hn, rfl | rfl⟩ := ht
  · obtain ⟨d, ds, rfl⟩ := List.exists_cons_of_ne_nil hn.whole.1
    have hd := hn.whole.2 d List.mem_cons_self
    unfold single at h
    rw [skipWs_of_cons (by rw [hr]; rfl) (not_blank_of_digit hd).1] at h
    dsimp only at h
    rw [hr] at h
    simp only [List.cons_append, List.append_assoc] at h
    split at h
    · cases h
    · rename_i cs hcs
      obtain ⟨rfl, -⟩ := List.cons.inj hcs
      simp [digit?] at hd
    · rename_i c tl _ hcs
      obtain ⟨rfl, -⟩ := List.cons.inj hcs
      simp only [hd, if_true] at h
      obtain ⟨n, hx⟩ := ok_of_map h
      exact number_rest hn hc (by rw [hr]) hx
  · unfold single at h
    rw [skipWs_of_cons hr (by decide)] at h
    dsimp only at h
    rw [hr] at h
    simp only [List.cons_append] at h
    obtain ⟨n, hx⟩ := ok_of_map h
    exact number_rest hn hc (by simp) hx

lemma stopsAfter_members (kvs : Members) : StopsAfter members ((Json.obj kvs).render).toList := by
  intro fuel depth r r' rest a hr _ h
  have hr' : r.rest = '\x7b' :: (membersText true kvs ++ '\x7d' :: rest) := by
    simpa [Json.render, Json.renderWith, membersText] using hr
  unfold members at h
  rw [skipWs_of_cons hr' (by decide)] at h
  dsimp only at h
  rw [hr'] at h
  simp only at h
  split at h
  · simp at h
  · split at h
    · rename_i m r₁ hm
      rw [endMap_of_cons ((read_written fuel).2.2 _ _ _ _ _ r₁ rest m rfl hm)] at h
      obtain ⟨-, rfl⟩ := Prod.mk.inj (Except.ok.inj h)
      rfl
    · cases h

lemma stopsAfter_optional {d : TextDecoder α} {t : List Char} {c : Char} (hd : StopsAfter d t)
    (ht : t.head? = some c) (hb : NotBlank c) (hn : c ≠ 'n') : StopsAfter (optional d) t := by
  intro fuel depth r r' rest a hr hc h
  obtain ⟨cs, rfl⟩ : ∃ cs, t = c :: cs := by
    cases t with
    | nil => cases ht
    | cons c' cs => obtain rfl := Option.some.inj ht; exact ⟨cs, rfl⟩
  unfold optional at h
  rw [skipWs_of_cons (by rw [hr]; rfl) hb] at h
  dsimp only at h
  rw [hr] at h
  split at h
  · rename_i tl hcs
    exact absurd (List.cons.inj hcs).1 hn
  · obtain ⟨b, hx⟩ := ok_of_map h
    exact hd fuel depth r r' rest b hr hc hx

/-- Texts joined by commas: the first as it is, or each after a comma. -/
def joinText (first : Bool) (ts : List (List Char)) : List Char :=
  if first then [','].intercalate ts else ts.flatMap (',' :: ·)

lemma joinText_nil (first : Bool) : joinText first [] = [] := by
  cases first <;> rfl

lemma joinText_cons (first : Bool) (t : List Char) (ts : List (List Char)) :
    joinText first (t :: ts) = (if first then [] else [',']) ++ t ++ joinText false ts := by
  cases first
  · simp [joinText]
  · induction ts generalizing t with
    | nil => simp [joinText]
    | cons t' ts ih =>
      have ht := ih t'
      simp only [joinText, if_true, List.nil_append] at ht ⊢
      rw [List.intercalate_cons_cons, ht]
      simp

lemma joinText_cons_head (first : Bool) (c : Char) (tl : List Char) (ts : List (List Char)) (more : List Char) :
    ∃ cs, joinText first ((c :: tl) :: ts) ++ more = (if first then c else ',') :: cs := by
  rw [joinText_cons]
  cases first <;> simp

lemma closes_joinText (ts : List (List Char)) {c : Char} (hc : c = ']' ∨ c = '\x7d') :
    Closes (joinText false ts ++ c :: rest) := by
  cases ts with
  | nil => rcases hc with rfl | rfl <;> simp [joinText_nil, Closes]
  | cons t ts => simp [joinText_cons, Closes]

lemma itemSeparator_first : r.itemSeparator true = .ok r := by
  unfold itemSeparator
  split <;> rfl

lemma itemSeparator_comma {c : Char} {cs : List Char} (h : r.rest = ',' :: c :: cs) (hb : NotBlank c)
    (hc : c ≠ ']') : r.itemSeparator false = .ok (r.step ',' (c :: cs)) := by
  unfold itemSeparator
  rw [h]
  simp only [Bool.false_eq_true, if_false]
  rw [skipWs_of_cons (by rfl) hb]
  split
  · rename_i tl heq
    exact absurd (List.cons.inj heq).1 hc
  · rename_i heq
    cases heq
  · rfl

lemma items_succ {d : TextDecoder α} {fuel depth : Nat} {first : Bool} {acc : List α} {c : Char}
    {cs : List Char} (h : r.rest = c :: cs) (hb : NotBlank c) (hc : c ≠ ']') :
    items d (fuel + 1) depth first acc r = match r.itemSeparator first with
      | .error e => .error e
      | .ok r => match d fuel depth r with
        | .ok (x, r) => items d fuel depth false (x :: acc) r
        | .error e => .error e := by
  conv => lhs; unfold items
  rw [skipWs_of_cons h hb]
  dsimp only
  rw [h]
  split
  · rename_i heq
    cases heq
  · rename_i tl heq
    exact absurd (List.cons.inj heq).1 hc
  · rfl

lemma items_written {d : TextDecoder α} {ts : List (List Char)} (hd : ∀ t ∈ ts, StopsAfter d t)
    (hhead : ∀ t ∈ ts, t.head? = some '\x7b') {fuel depth : Nat} {first : Bool} {acc ys : List α}
    (hr : r.rest = joinText first ts ++ ']' :: rest) (h : items d fuel depth first acc r = .ok (ys, r')) :
    r'.rest = ']' :: rest ∧ ys.length = acc.length + ts.length := by
  induction ts generalizing fuel first acc r with
  | nil =>
    rw [joinText_nil, List.nil_append] at hr
    cases fuel with
    | zero => simp [items] at h
    | succ fuel =>
      unfold items at h
      rw [skipWs_of_cons hr (by decide)] at h
      dsimp only at h
      rw [hr] at h
      obtain ⟨rfl, rfl⟩ := Prod.mk.inj (Except.ok.inj h)
      exact ⟨hr, by simp⟩
  | cons t ts ih =>
    obtain ⟨tl, rfl⟩ : ∃ tl, t = '\x7b' :: tl := by
      have := hhead t List.mem_cons_self
      cases t with
      | nil => cases this
      | cons c cs => obtain rfl := Option.some.inj this; exact ⟨cs, rfl⟩
    cases fuel with
    | zero => simp [items] at h
    | succ fuel =>
      have hr₀ := hr
      rw [joinText_cons] at hr
      -- past the separator the reader stands at the item
      obtain ⟨r₁, hr₁, hsep⟩ : ∃ r₁ : Reader, r₁.rest = '\x7b' :: tl ++ joinText false ts ++ ']' :: rest ∧
          r.itemSeparator first = .ok r₁ := by
        cases first
        · simp only [Bool.false_eq_true, if_false, List.cons_append, List.nil_append, List.append_assoc] at hr
          exact ⟨_, by simp, itemSeparator_comma hr (by decide) (by decide)⟩
        · exact ⟨r, by simpa using hr, itemSeparator_first⟩
      obtain ⟨cs, hcs⟩ := joinText_cons_head first '\x7b' tl ts (']' :: rest)
      rw [hcs] at hr₀
      rw [items_succ hr₀ (by cases first <;> decide) (by cases first <;> decide), hsep] at h
      simp only at h
      split at h
      · rename_i x r₂ hx
        have hr₂ := hd _ List.mem_cons_self fuel depth r₁ r₂ _ x (by rw [hr₁, List.append_assoc])
          (closes_joinText ts (Or.inl rfl)) hx
        obtain ⟨hend, hlen⟩ := ih (fun t ht => hd t (List.mem_cons_of_mem _ ht))
          (fun t ht => hhead t (List.mem_cons_of_mem _ ht)) hr₂ h
        exact ⟨hend, by simp [hlen]; omega⟩
      · cases h

lemma list_written {d : TextDecoder α} {ts : List (List Char)} (hd : ∀ t ∈ ts, StopsAfter d t)
    (hhead : ∀ t ∈ ts, t.head? = some '\x7b') {fuel depth : Nat} {ys : List α}
    (hr : r.rest = '[' :: (joinText true ts ++ ']' :: rest)) (h : list d fuel depth r = .ok (ys, r')) :
    r'.rest = rest ∧ ys.length = ts.length := by
  unfold list at h
  rw [skipWs_of_cons hr (by decide)] at h
  dsimp only at h
  rw [hr] at h
  simp only at h
  split at h
  · simp at h
  · split at h
    · rename_i xs r₁ hxs
      obtain ⟨hend, hlen⟩ := items_written hd hhead rfl hxs
      rw [endSeq_of_cons hend] at h
      obtain ⟨rfl, rfl⟩ := Prod.mk.inj (Except.ok.inj h)
      exact ⟨rfl, by simpa using hlen⟩
    · cases h

lemma stopsAfter_list {d : TextDecoder α} {ts : List (List Char)} (hd : ∀ t ∈ ts, StopsAfter d t)
    (hhead : ∀ t ∈ ts, t.head? = some '\x7b') : StopsAfter (list d) ('[' :: (joinText true ts ++ [']'])) := by
  intro fuel depth r r' rest a hr _ h
  exact (list_written hd hhead (by simpa using hr) h).1

/-! ### Records -/

/-- The text of a member: its key, a colon and the text of its value. -/
def memberChars (p : String × List Char) : List Char := (quote false p.1).toList ++ ':' :: p.2

/-- The text of a record written member by member. -/
def recordChars (ps : List (String × List Char)) : List Char :=
  '\x7b' :: (joinText true (ps.map memberChars) ++ ['\x7d'])

lemma memberChars_eq (p : String × List Char) : ∃ q, memberChars p = '"' :: (q ++ ':' :: p.2) :=
  ⟨(p.1.toList.flatMap fun c => (escapeChar false c).toList) ++ ['"'], by simp [memberChars, quote_toList]⟩

/-- A field that reads the text `t` up to its end and keeps `I` of the record being read. -/
def Field.StopsAfter (I : σ → Prop) (f : Field σ) (t : List Char) : Prop :=
  ∀ st fuel depth (r r' : Reader) rest st', I st → r.rest = t ++ rest → Closes rest →
    f.read st fuel depth r = .ok (st', r') → r'.rest = rest ∧ I st'

lemma Field.stopsAfter_map {I : σ → Prop} {f : Field σ} {d : TextDecoder α} {t : List Char}
    (upd : σ → α → σ) (hread : ∀ st fuel depth r, f.read st fuel depth r = (d fuel depth r).map fun p => (upd st p.1, p.2))
    (hd : TextDecoder.StopsAfter d t) (hI : ∀ st v, I st → I (upd st v)) : f.StopsAfter I t := by
  intro st fuel depth r r' rest st' hst hr hc h
  rw [hread] at h
  obtain ⟨v, hv⟩ := ok_of_map h
  have hst' : st' = upd st v := by
    rw [hv] at h
    exact (Prod.mk.inj (Except.ok.inj h)).1.symm
  exact ⟨hd fuel depth r r' rest v hr hc hv, hst' ▸ hI st v hst⟩

lemma memberSeparator_first : r.memberSeparator true = .ok r := by
  unfold memberSeparator
  split <;> rfl

lemma memberSeparator_comma {c : Char} {cs : List Char} (h : r.rest = ',' :: c :: cs) (hb : NotBlank c) :
    r.memberSeparator false = .ok (r.step ',' (c :: cs)) := by
  unfold memberSeparator
  rw [h]
  simp only [Bool.false_eq_true, if_false]
  rw [skipWs_of_cons (by rfl) hb]

lemma recordMembers_key {fields : List (Field σ)} {fuel depth : Nat} {first : Bool} {seen : List Nat}
    {st : σ} {k : String} {i : Nat} {f : Field σ} {c : Char} {cs more : List Char} {r₁ : Reader}
    {res : σ × List Nat × Reader}
    (h : r.rest = c :: cs) (hb : NotBlank c) (hc : c ≠ '\x7d') (hsep : r.memberSeparator first = .ok r₁)
    (hr₁ : r₁.rest = (quote false k).toList ++ ':' :: more) (hf : findField fields k = some (i, f))
    (hok : recordMembers fields (fuel + 1) depth first seen st r = .ok res) :
    ∃ r₂ st' r₃, r₂.rest = more ∧ f.read st fuel depth r₂ = .ok (st', r₃) ∧
      recordMembers fields fuel depth false (i :: seen) st' r₃ = .ok res := by
  obtain ⟨q, hq⟩ : ∃ q, (quote false k).toList = '"' :: q := ⟨_, by rw [quote_toList, List.cons_append]⟩
  have hr₁' : r₁.rest = '"' :: (q ++ ':' :: more) := by rw [hr₁, hq]; rfl
  obtain ⟨r₂, hstr, hr₂⟩ := str_quote_written (r := r₁) k
    (show '"' :: (q ++ ':' :: more) = (quote false k).toList ++ ':' :: more by rw [hq, List.cons_append])
  unfold recordMembers at hok
  rw [skipWs_of_cons h hb] at hok
  dsimp only at hok
  rw [h] at hok
  split at hok
  · rename_i heq
    cases heq
  · rename_i tl heq
    exact absurd (List.cons.inj heq).1 hc
  rw [hsep] at hok
  simp only at hok
  rw [hr₁'] at hok
  simp only [hstr, hf, colon_of_cons hr₂] at hok
  -- a field given twice is a fault, so the field is new and reads the value
  split at hok
  · cases hok
  split at hok
  · rename_i st' r₃ hread
    exact ⟨r₂.step ':' more, st', r₃, rfl, hread, hok⟩
  · cases hok

lemma recordMembers_written {fields : List (Field σ)} {I : σ → Prop} {ps : List (String × List Char)}
    (hps : ∀ p ∈ ps, ∃ i f, findField fields p.1 = some (i, f) ∧ f.StopsAfter I p.2)
    {fuel depth : Nat} {first : Bool} {seen seen' : List Nat} {st st' : σ} (hI : I st)
    (hr : r.rest = joinText first (ps.map memberChars) ++ '\x7d' :: rest)
    (h : recordMembers fields fuel depth first seen st r = .ok (st', seen', r')) :
    r'.rest = '\x7d' :: rest ∧ I st' := by
  induction ps generalizing fuel first seen st r with
  | nil =>
    rw [List.map_nil, joinText_nil, List.nil_append] at hr
    cases fuel with
    | zero => simp [recordMembers] at h
    | succ fuel =>
      unfold recordMembers at h
      rw [skipWs_of_cons hr (by decide)] at h
      dsimp only at h
      rw [hr] at h
      obtain ⟨rfl, -, rfl⟩ : st = st' ∧ seen = seen' ∧ r = r' := by simpa using h
      exact ⟨hr, hI⟩
  | cons p ps ih =>
    obtain ⟨i, f, hf, hft⟩ := hps p List.mem_cons_self
    cases fuel with
    | zero => simp [recordMembers] at h
    | succ fuel =>
      obtain ⟨q, hq⟩ := memberChars_eq p
      obtain ⟨cs, hcs⟩ := joinText_cons_head first '"' (q ++ ':' :: p.2) (ps.map memberChars) ('\x7d' :: rest)
      have hr₀ : r.rest = (if first then '"' else ',') :: cs := by rw [hr, List.map_cons, hq, hcs]
      rw [List.map_cons, joinText_cons] at hr
      -- past the separator the reader stands at the key
      obtain ⟨r₁, hr₁, hsep⟩ : ∃ r₁ : Reader,
          r₁.rest = memberChars p ++ joinText false (ps.map memberChars) ++ '\x7d' :: rest ∧
          r.memberSeparator first = .ok r₁ := by
        cases first
        · rw [hq] at hr
          simp only [Bool.false_eq_true, if_false, List.cons_append, List.nil_append, List.append_assoc] at hr
          exact ⟨_, by simp [hq], memberSeparator_comma hr (by decide)⟩
        · exact ⟨r, by simpa using hr, memberSeparator_first⟩
      obtain ⟨r₂, st₁, r₃, hr₂, hread, hnext⟩ := recordMembers_key hr₀ (by cases first <;> decide)
        (by cases first <;> decide) hsep (by rw [hr₁, memberChars, List.append_assoc, List.append_assoc]; rfl) hf h
      obtain ⟨hr₃, hI₁⟩ := hft st fuel depth r₂ r₃ _ st₁ hI (by rw [hr₂]; rfl) (closes_joinText _ (Or.inr rfl)) hread
      exact ih (fun p hp => hps p (List.mem_cons_of_mem _ hp)) hI₁ hr₃ hnext

lemma record_written {what : String} {fields : List (Field σ)} {init : σ} {I : σ → Prop} (hI : I init)
    {ps : List (String × List Char)}
    (hps : ∀ p ∈ ps, ∃ i f, findField fields p.1 = some (i, f) ∧ f.StopsAfter I p.2)
    {fuel depth : Nat} {a : σ} (hr : r.rest = recordChars ps ++ rest)
    (h : record what fields init fuel depth r = .ok (a, r')) : r'.rest = rest ∧ I a := by
  have hr' : r.rest = '\x7b' :: (joinText true (ps.map memberChars) ++ '\x7d' :: rest) := by
    simpa [recordChars] using hr
  unfold record at h
  rw [skipWs_of_cons hr' (by decide)] at h
  dsimp only at h
  rw [hr'] at h
  simp only at h
  split at h
  · simp at h
  · split at h
    · cases h
    · rename_i st seen r₁ hm
      obtain ⟨hend, hI'⟩ := recordMembers_written hps hI rfl hm
      split at h
      · cases h
      · rw [endMap_of_cons hend] at h
        obtain ⟨rfl, rfl⟩ := Prod.mk.inj (Except.ok.inj h)
        exact ⟨rfl, hI'⟩

lemma stopsAfter_record {what : String} {fields : List (Field σ)} {init : σ} {ps : List (String × List Char)}
    (hps : ∀ p ∈ ps, ∃ i f, findField fields p.1 = some (i, f) ∧ f.StopsAfter (fun _ => True) p.2) :
    StopsAfter (record what fields init) (recordChars ps) := by
  intro fuel depth r r' rest a hr _ h
  exact (record_written trivial hps hr h).1

end TextDecoder

end IntegrationFlow
