import IntegrationFlow.Proofs.SoapFaults

/-!
Fields of a request envelope read back by the element reader, by key and trimmed, when the
names are read as written (`envelope_field_reads_back`); a key holding a blank or a `>` is
read as a shorter name (`blank_key_not_read_back`).
-/

namespace IntegrationFlow.Soap

open Text

/-! ### Names as the reader takes them -/

/-- A name that the element reader reads to its end: no blank and no `>`. -/
def TagWord (s : String) : Prop := ∀ c ∈ s.toList, isWhiteSpace c = false ∧ c ≠ '>'

instance : DecidablePred TagWord := fun s => List.decidableBAll _ s.toList

lemma tagLocalName_of_word {w : List Char} (hw : ∀ c ∈ w, isWhiteSpace c = false ∧ c ≠ ':') :
    tagLocalName w = w := by
  have h : ((w ++ []).dropWhile isWhiteSpace).takeWhile (!isWhiteSpace ·) = w :=
    firstWord_append (fun c hc => (hw c hc).1) (by simp) (.inr rfl)
  rw [List.append_nil] at h
  have hcolon : ∀ c ∈ w.reverse, decide (c ≠ ':') = true := by
    simpa using fun c hc => (hw c hc).2
  have htake : (w.reverse ++ []).takeWhile (fun c => decide (c ≠ ':')) = w.reverse ++ [].takeWhile _ :=
    List.takeWhile_append_of_pos hcolon
  rw [List.append_nil, List.takeWhile_nil, List.append_nil] at htake
  unfold tagLocalName
  dsimp only
  rw [h, htake, List.reverse_reverse]

lemma tagLocalName_append_attrs {w attrs : List Char} (hne : w ≠ []) (hw : ∀ c ∈ w, isWhiteSpace c = false)
    (ha : ∀ c ∈ attrs.head?, isWhiteSpace c = true) : tagLocalName (w ++ attrs) = tagLocalName w := by
  have h₁ := firstWord_append hw ha (.inl hne)
  have h₂ : ((w ++ []).dropWhile isWhiteSpace).takeWhile (!isWhiteSpace ·) = w :=
    firstWord_append hw (by simp) (.inr rfl)
  rw [List.append_nil] at h₂
  unfold tagLocalName
  rw [h₁, h₂]

/-! ### The envelope as tags -/

/-- The tags of an envelope before its fields: the declaration, the envelope, the body, and the
operation with its namespace. -/
def envelopeTags (operation namespace_ : String) : List (List Char × List Char) :=
  [([], "?xml version=\"1.0\" encoding=\"utf-8\"?".toList),
   ([], "soap:Envelope xmlns:soap=\"http://schemas.xmlsoap.org/soap/envelope/\"".toList),
   ([], "soap:Body".toList),
   ([], operation.toList ++ " xmlns=\"".toList ++ (escape namespace_).toList ++ ['"'])]

/-- The tags of a field: its opening tag, then its closing tag after the escaped value. -/
def fieldTags (kv : String × Json) : List (List Char × List Char) :=
  [([], kv.1.toList), ((escape kv.2.plain).toList, '/' :: kv.1.toList)]

/-- The closing tags of the operation, the body and the envelope. -/
def closingTags (operation : String) : List (List Char × List Char) :=
  [([], '/' :: operation.toList), ([], "/soap:Body".toList), ([], "/soap:Envelope".toList)]

lemma tagsText_append (a b : List (List Char × List Char)) : tagsText (a ++ b) = tagsText a ++ tagsText b := by
  simp [tagsText]

lemma tagsText_fieldTags (kv : String × Json) (R : List Char) :
    tagsText (fieldTags kv) ++ R =
      [] ++ '<' :: (kv.1.toList ++ '>' :: ((escape kv.2.plain).toList ++ '<' :: '/' :: (kv.1.toList ++ '>' :: R))) := by
  simp [tagsText, fieldTags]

lemma envelope_toList (operation namespace_ : String) (ctx : Members) :
    (envelope operation namespace_ ctx).toList =
      tagsText (envelopeTags operation namespace_ ++ (ctx.filter fun p => carried p.1 p.2).flatMap fieldTags ++
        closingTags operation) := by
  unfold envelope
  simp only [String.toList_append, String.toList_join, List.flatMap_map, tagsText_append]
  unfold tagsText envelopeTags closingTags fieldTags
  simp [List.flatMap_assoc]

/-! ### Reading a field -/

section Reading

variable {operation namespace_ k : String} {ctx : Members} {v : Json}

/-- What the reader needs to find field `k` of an envelope for `operation` over `ctx`: the
operation is one word, which its tag's first word ends with; `k` is read to its end, opens an
element, has no prefix and is none of the local names of the tags before the fields; and every
other key written is read as itself. -/
structure FieldReadable (operation : String) (ctx : Members) (k : String) : Prop where
  operation_ne : operation ≠ ""
  operation_word : TagWord operation
  key_word : TagWord k
  key_local : ':' ∉ k.toList
  key_opens : ∀ c ∈ k.toList.head?, c ≠ '/' ∧ c ≠ '?' ∧ c ≠ '!'
  key_envelope : k ≠ "Envelope"
  key_body : k ≠ "Body"
  key_operation : k ≠ String.ofList (tagLocalName operation.toList)
  others : ∀ p ∈ ctx, carried p.1 p.2 = true → p.1 ≠ k → TagWord p.1 ∧ ':' ∉ p.1.toList

/-- Tags that the reader passes over on its way to `k`, each after a text without `<`. -/
def PassedOver (k : String) (tags : List (List Char × List Char)) : Prop :=
  ∀ p ∈ tags, '<' ∉ p.1 ∧ '>' ∉ p.2 ∧ SkippedFor k p.2

lemma passedOver_append {k : String} {a b : List (List Char × List Char)} (ha : PassedOver k a)
    (hb : PassedOver k b) : PassedOver k (a ++ b) := by
  intro p hp
  rcases List.mem_append.1 hp with hp | hp
  · exact ha p hp
  · exact hb p hp

lemma envelopeTags_passedOver (hne : operation ≠ "") (hword : TagWord operation) (hE : k ≠ "Envelope")
    (hB : k ≠ "Body") (hO : k ≠ String.ofList (tagLocalName operation.toList)) :
    PassedOver k (envelopeTags operation namespace_) := by
  have hblank : ∀ c ∈ operation.toList, isWhiteSpace c = false := fun c hc => (hword c hc).1
  have hop : '>' ∉ operation.toList := fun hc => (hword _ hc).2 rfl
  have hns : '>' ∉ (escape namespace_).toList := not_mem_escape (by simp [specials]) (by decide) namespace_
  have hattrs : ∀ c ∈ (" xmlns=\"".toList ++ (escape namespace_).toList ++ ['"']).head?, isWhiteSpace c = true := by
    rintro c ⟨⟩
    decide
  intro p hp
  simp only [envelopeTags, List.mem_cons, List.not_mem_nil, or_false] at hp
  rcases hp with rfl | rfl | rfl | rfl
  · exact ⟨by simp, by decide, .inl ⟨_, .inr (.inl rfl)⟩⟩
  · refine ⟨by simp, by decide, .inr ?_⟩
    rw [show String.ofList (tagLocalName "soap:Envelope xmlns:soap=\"http://schemas.xmlsoap.org/soap/envelope/\"".toList) =
      "Envelope" by decide]
    exact hE.symm
  · refine ⟨by simp, by decide, .inr ?_⟩
    rw [show String.ofList (tagLocalName "soap:Body".toList) = "Body" by decide]
    exact hB.symm
  · -- the operation's tag: its first word is the operation, its attributes follow a blank
    refine ⟨by simp, by simp [hop, hns], .inr ?_⟩
    rw [List.append_assoc, List.append_assoc, tagLocalName_append_attrs (by simpa using hne) hblank
      (by simpa using hattrs)]
    exact hO.symm

lemma closingTags_passedOver (hop : '>' ∉ operation.toList) : PassedOver k (closingTags operation) := by
  intro p hp
  simp only [closingTags, List.mem_cons, List.not_mem_nil, or_false] at hp
  rcases hp with rfl | rfl | rfl
  · exact ⟨by simp, by simp [hop], .inl ⟨_, .inl rfl⟩⟩
  · exact ⟨by simp, by decide, .inl ⟨_, .inl rfl⟩⟩
  · exact ⟨by simp, by decide, .inl ⟨_, .inl rfl⟩⟩

lemma elementText_tagsText_none {tags : List (List Char × List Char)} (h : PassedOver k tags) :
    elementText (tagsText tags) k = none := by
  have hlen := length_tagsText tags
  have hrun : elementText.go k ((tagsText tags).length + 1) (tagsText tags ++ []) =
      elementText.go k ((tagsText tags).length + 1 - tags.length) [] := go_tagsText tags (by omega) h []
  rw [List.append_nil] at hrun
  unfold elementText
  rw [hrun]
  -- the fuel left is at least one, and the reader finds no `<` in nothing
  obtain ⟨n, hn⟩ : ∃ n, (tagsText tags).length + 1 - tags.length = n + 1 :=
    ⟨(tagsText tags).length - tags.length, by omega⟩
  rw [hn]
  rfl

lemma fieldTags_passedOver {p : String × Json} (hp : TagWord p.1 ∧ ':' ∉ p.1.toList) (hk : p.1 ≠ k) :
    PassedOver k (fieldTags p) := by
  have hplain : ∀ c ∈ p.1.toList, isWhiteSpace c = false ∧ c ≠ ':' :=
    fun c hc => ⟨(hp.1 c hc).1, fun h => hp.2 (h ▸ hc)⟩
  have hgt : '>' ∉ p.1.toList := fun hc => (hp.1 _ hc).2 rfl
  intro q hq
  simp only [fieldTags, List.mem_cons, List.not_mem_nil, or_false] at hq
  rcases hq with rfl | rfl
  · refine ⟨by simp, hgt, .inr ?_⟩
    rw [tagLocalName_of_word hplain, String.ofList_toList]
    exact hk
  · exact ⟨lt_not_mem_escape _, by simp [hgt], .inl ⟨_, .inl rfl⟩⟩

lemma elementText_fields (h : FieldReadable operation ctx k) (hc : carried k v = true)
    (hk : ctx.get? k = some v) {tags : List (List Char × List Char)} (htags : PassedOver k tags)
    (R : List Char) :
    elementText (tagsText (tags ++ (ctx.filter fun p => carried p.1 p.2).flatMap fieldTags) ++ R) k =
      some (trim v.plain) := by
  have hgt : '>' ∉ k.toList := fun hc => (h.key_word _ hc).2 rfl
  have hname : String.ofList (tagLocalName k.toList) = k := by
    rw [tagLocalName_of_word fun c hc => ⟨(h.key_word c hc).1, fun h' => h.key_local (h' ▸ hc)⟩,
      String.ofList_toList]
  obtain ⟨operation_ne, operation_word, key_word, key_local, key_opens, key_envelope, key_body,
    key_operation, others⟩ := h
  induction ctx generalizing tags with
  | nil => simp [Members.get?] at hk
  | cons p ctx ih =>
    obtain ⟨k', v'⟩ := p
    have hothers : ∀ p ∈ ctx, carried p.1 p.2 = true → p.1 ≠ k → TagWord p.1 ∧ ':' ∉ p.1.toList :=
      fun p hp => others p (List.mem_cons_of_mem _ hp)
    by_cases hkk : k = k'
    · -- the field of `k`: the reader stops at it
      subst hkk
      obtain rfl : v' = v := by simpa [Members.get?] using hk
      rw [List.filter_cons_of_pos (p := fun q : String × Json => carried q.1 q.2) (a := (k, _)) hc, List.flatMap_cons,
        ← List.append_assoc, tagsText_append, tagsText_append, List.append_assoc, List.append_assoc,
        tagsText_fieldTags]
      exact elementText_after htags (by simp) hgt key_opens hname
    · -- another key: its field, if written, joins the tags passed over
      have hk' : Members.get? ctx k = some v := by
        simpa [Members.get?, List.lookup_cons, beq_false_of_ne hkk] using hk
      by_cases hc' : carried k' v' = true
      · rw [List.filter_cons_of_pos (p := fun q : String × Json => carried q.1 q.2) (a := (k', v')) hc',
          List.flatMap_cons, ← List.append_assoc]
        exact ih hk' (passedOver_append htags
          (fieldTags_passedOver (others _ List.mem_cons_self hc' (Ne.symm hkk)) (Ne.symm hkk))) hothers
      · rw [List.filter_cons_of_neg (p := fun q : String × Json => carried q.1 q.2) (a := (k', v')) hc']
        exact ih hk' htags hothers

end Reading

/-- **Fields of an envelope read back.** The element reader finds a carried field of the context
in the request envelope, its value as plain text, trimmed, whatever the namespace and the other
fields, as long as the names are read as written: the operation and the keys have no blank and
no `>`, the keys no colon, and the field's key opens an element and names none of the tags that
come before the fields. -/
theorem envelope_field_reads_back {operation namespace_ k : String} {ctx : Members} {v : Json}
    (h : FieldReadable operation ctx k) (hk : ctx.get? k = some v) (hc : carried k v = true) :
    elementText (envelope operation namespace_ ctx).toList k = some (trim v.plain) := by
  rw [envelope_toList, tagsText_append]
  exact elementText_fields h hc hk
    (envelopeTags_passedOver h.operation_ne h.operation_word h.key_envelope h.key_body h.key_operation) _

/-- The request of a sum: the field `nombre`, whose value has blanks around it and an ampersand,
reads back trimmed past the field `a` before it and a field the envelope leaves out. -/
theorem sample_envelope_field :
    let ctx : Members := [("_interno x", .str "x"), ("a", Json.int 1), ("nombre", .str " A&B ")]
    FieldReadable "Sumar" ctx "nombre" ∧ ctx.get? "nombre" = some (.str " A&B ") ∧
      carried "nombre" (.str " A&B ") = true ∧
      elementText (envelope "Sumar" "http://tempuri.org/" ctx).toList "nombre" = some "A&B" := by
  intro ctx
  have h : FieldReadable "Sumar" ctx "nombre" :=
    ⟨by decide, by decide, by decide, by decide, by rintro c ⟨⟩; decide, by decide, by decide, by decide,
      by decide +kernel⟩
  have hk : ctx.get? "nombre" = some (.str " A&B ") := rfl
  have hc : carried "nombre" (.str " A&B ") = true := by decide +kernel
  refine ⟨h, hk, hc, ?_⟩
  rw [envelope_field_reads_back h hk hc]
  decide

/-- A key with a blank is not read back: the reader takes the word before the blank for the
name of the key's tag, so no tag of the envelope has the whole key as its name. -/
theorem blank_key_not_read_back :
    carried "a b" (.str "v") = true ∧ ':' ∉ "a b".toList ∧ "a b" ≠ "Envelope" ∧ "a b" ≠ "Body" ∧
      "a b" ≠ String.ofList (tagLocalName "Op".toList) ∧
      Members.get? [("a b", .str "v")] "a b" = some (.str "v") ∧
      elementText (envelope "Op" "urn:x" [("a b", .str "v")]).toList "a b" = none := by
  have hc : carried "a b" (.str "v") = true := by decide +kernel
  refine ⟨hc, by decide, by decide, by decide, by decide, rfl, ?_⟩
  have hfields : ([("a b", .str "v")] : Members).filter (fun p => carried p.1 p.2) = [("a b", .str "v")] := by
    simp [hc]
  rw [envelope_toList, hfields]
  refine elementText_tagsText_none (passedOver_append (passedOver_append
    (envelopeTags_passedOver (by decide) (by decide) (by decide) (by decide) (by decide)) ?_)
    (closingTags_passedOver (by decide)))
  -- the field's tag reads as `a`
  intro q hq
  simp only [List.flatMap_cons, List.flatMap_nil, List.append_nil, fieldTags, List.mem_cons, List.not_mem_nil,
    or_false] at hq
  rcases hq with rfl | rfl
  · exact ⟨by simp, by decide, .inr (by decide)⟩
  · exact ⟨lt_not_mem_escape _, by decide, .inl ⟨_, .inl rfl⟩⟩

end IntegrationFlow.Soap
