import IntegrationFlow.Backend.Soap
import Mathlib.Data.List.Basic

/-!
Reading SOAP faults: unescaping undoes escaping (`unescape_escape`), followed through its five
replacements in turn, and a fault response's code and message read back, trimmed
(`parseFault_faultText`).
-/

namespace IntegrationFlow.Soap

open Text

/-! ### Replacing text -/

section Replace

variable {pat rep u : List Char}

lemma replaceAll_nil (pat rep : List Char) : replaceAll pat rep [] = [] := by
  rw [replaceAll]

lemma replaceAll_cons_at_match {c : Char} {cs : List Char} (hp : pat ≠ []) (h : pat <+: c :: cs) :
    replaceAll pat rep (c :: cs) = rep ++ replaceAll pat rep ((c :: cs).drop pat.length) := by
  rw [replaceAll, dif_pos ⟨hp, List.isPrefixOf_iff_prefix.2 h⟩]

lemma replaceAll_cons_no_match {c : Char} {cs : List Char} (h : ¬pat <+: c :: cs) :
    replaceAll pat rep (c :: cs) = c :: replaceAll pat rep cs := by
  rw [replaceAll, dif_neg fun h' => h (List.isPrefixOf_iff_prefix.1 h'.2)]

lemma replaceAll_single (d : Char) (rep cs : List Char) :
    replaceAll [d] rep cs = cs.flatMap fun c => if c = d then rep else [c] := by
  induction cs with
  | nil => exact replaceAll_nil _ _
  | cons c cs ih =>
    by_cases h : c = d
    · subst h
      rw [replaceAll_cons_at_match (by simp) (by simp), List.length_singleton, List.drop_one, List.tail_cons, ih]
      simp
    · rw [replaceAll_cons_no_match (by simpa [eq_comm] using h), ih]
      simp [h]

/-- No occurrence of `pat` starts inside `u`, whatever follows it. -/
def Avoids (pat u : List Char) : Prop := ∀ k < u.length, ∀ R, ¬pat <+: u.drop k ++ R

lemma replaceAll_append_of_avoids (h : Avoids pat u) (R : List Char) :
    replaceAll pat rep (u ++ R) = u ++ replaceAll pat rep R := by
  induction u with
  | nil => rfl
  | cons c u ih =>
    have h₀ : ¬pat <+: c :: (u ++ R) := h 0 (by simp) R
    rw [List.cons_append, replaceAll_cons_no_match h₀, ih fun k hk => h (k + 1) (by simp; omega)]
    rfl

lemma replaceAll_append_self (hp : pat ≠ []) (R : List Char) :
    replaceAll pat rep (pat ++ R) = rep ++ replaceAll pat rep R := by
  obtain ⟨c, p, rfl⟩ := List.exists_cons_of_ne_nil hp
  rw [List.cons_append, replaceAll_cons_at_match hp (by simp),
    ← List.cons_append, List.drop_left]

lemma replaceAll_flatMap {f : Char → List Char} (hp : pat ≠ []) (hf : ∀ x, f x = pat ∨ Avoids pat (f x))
    (cs : List Char) : replaceAll pat rep (cs.flatMap f) = cs.flatMap fun x => if f x = pat then rep else f x := by
  induction cs with
  | nil => exact replaceAll_nil _ _
  | cons x cs ih =>
    rw [List.flatMap_cons, List.flatMap_cons, ← ih]
    rcases hf x with h | h
    · rw [if_pos h, h, replaceAll_append_self hp]
    · by_cases he : f x = pat
      · rw [if_pos he, he, replaceAll_append_self hp]
      · rw [if_neg he, replaceAll_append_of_avoids h]

/-- Whether `u` avoids `pat`, checked place by place: neither is a prefix of the other. -/
def avoids (pat u : List Char) : Bool :=
  (List.range u.length).all fun k => !pat.isPrefixOf (u.drop k) && !(u.drop k).isPrefixOf pat

lemma avoids_spec (h : avoids pat u = true) : Avoids pat u := by
  intro k hk R hpre
  have hk' := List.all_eq_true.1 h k (List.mem_range.2 hk)
  simp only [Bool.and_eq_true, Bool.not_eq_true', ← Bool.not_eq_true, List.isPrefixOf_iff_prefix] at hk'
  rcases List.prefix_or_prefix_of_prefix hpre (List.prefix_append (u.drop k) R) with h' | h'
  · exact hk'.1 h'
  · exact hk'.2 h'

lemma avoids_single {x : Char} (hx : x ≠ '&') (p : List Char) : Avoids ('&' :: p) [x] := by
  intro k hk R hpre
  obtain rfl : k = 0 := by simpa using hk
  exact hx (List.cons_prefix_cons.1 hpre).1.symm

end Replace

/-! ### Escaping, character by character -/

/-- The characters that escaping writes as entities. -/
def specials : List Char := ['&', '<', '>', '"', '\'']

/-- How escaping writes a character: a special one as its entity, any other as itself. -/
def entity (c : Char) : List Char :=
  if c = '&' then "&amp;".toList
  else if c = '<' then "&lt;".toList
  else if c = '>' then "&gt;".toList
  else if c = '"' then "&quot;".toList
  else if c = '\'' then "&apos;".toList
  else [c]

lemma entity_of_not_mem {c : Char} (h : c ∉ specials) : entity c = [c] := by
  simp only [specials, List.mem_cons, List.not_mem_nil, or_false, not_or] at h
  simp [entity, h.1, h.2.1, h.2.2.1, h.2.2.2.1, h.2.2.2.2]

lemma entity_of_mem {c : Char} (h : c ∈ specials) : ∃ p, entity c = '&' :: p ∧ p ≠ [] := by
  simp only [specials, List.mem_cons, List.not_mem_nil, or_false] at h
  rcases h with rfl | rfl | rfl | rfl | rfl <;> simp [entity]

lemma entities_avoid : (specials.all fun x => specials.all fun d => x == d || avoids (entity d) (entity x)) = true := by
  decide

lemma avoids_entity {x d : Char} (hx : x ∈ specials) (hd : d ∈ specials) (hne : x ≠ d) :
    Avoids (entity d) (entity x) := by
  have h := List.all_eq_true.1 (List.all_eq_true.1 entities_avoid x hx) d hd
  simp only [Bool.or_eq_true, beq_iff_eq, hne, false_or] at h
  exact avoids_spec h

lemma escape_toList (s : String) : (escape s).toList = s.toList.flatMap entity := by
  simp only [escape, replaceText, List.foldl_cons, List.foldl_nil, String.toList_ofList]
  simp only [show "&".toList = ['&'] from rfl, show "<".toList = ['<'] from rfl, show ">".toList = ['>'] from rfl,
    show "\"".toList = ['"'] from rfl, show "'".toList = ['\''] from rfl, replaceAll_single, List.flatMap_assoc]
  congr 1
  funext c
  -- the five replacements of one character give its entity
  by_cases h₁ : c = '&'
  · subst h₁; decide
  by_cases h₂ : c = '<'
  · subst h₂; decide
  by_cases h₃ : c = '>'
  · subst h₃; decide
  by_cases h₄ : c = '"'
  · subst h₄; decide
  by_cases h₅ : c = '\''
  · subst h₅; decide
  simp only [entity, if_neg h₁, if_neg h₂, if_neg h₃, if_neg h₄, if_neg h₅, List.flatMap_cons, List.flatMap_nil,
    List.append_nil]

/-! ### Unescaping, stage by stage -/

/-- The text of a character once the entities of `done` are read back. -/
def stage (done : List Char) (c : Char) : List Char := if c ∈ done then [c] else entity c

lemma stage_nil : stage [] = entity := by
  funext c
  simp [stage]

lemma stage_specials {done : List Char} (h : ∀ c ∈ specials, c ∈ done) (c : Char) : stage done c = [c] := by
  unfold stage
  split_ifs with hc
  · rfl
  · exact entity_of_not_mem fun hs => hc (h c hs)

section Stage

variable {d : Char} {done : List Char}

lemma stage_eq_or_avoids (hd : d ∈ specials) (hamp : '&' ∉ done) (x : Char) :
    stage done x = entity d ∨ Avoids (entity d) (stage done x) := by
  obtain ⟨p, hp, -⟩ := entity_of_mem hd
  unfold stage
  split_ifs with hx
  · exact .inr (hp ▸ avoids_single (fun h => hamp (h ▸ hx)) p)
  · by_cases hxd : x = d
    · exact .inl (hxd ▸ rfl)
    by_cases hs : x ∈ specials
    · exact .inr (avoids_entity hs hd hxd)
    · rw [entity_of_not_mem hs, hp]
      refine .inr (avoids_single (fun h => hs ?_) p)
      simp [h, specials]

lemma stage_eq_entity_iff (hd : d ∈ specials) (hnew : d ∉ done) (x : Char) :
    stage done x = entity d ↔ x = d := by
  obtain ⟨p, hp, hpne⟩ := entity_of_mem hd
  constructor
  · intro h
    unfold stage at h
    split_ifs at h with hx
    · -- a single character is no entity
      rw [hp] at h
      cases p with
      | nil => exact absurd rfl hpne
      | cons _ _ => simp at h
    · by_contra hxd
      by_cases hs : x ∈ specials
      · have := avoids_entity hs hd hxd 0 (by rw [h, hp]; simp) []
        simp [h] at this
      · rw [entity_of_not_mem hs, hp] at h
        cases p with
        | nil => exact absurd rfl hpne
        | cons _ _ => simp at h
  · rintro rfl
    simp [stage, hnew]

lemma replaceAll_stage (hd : d ∈ specials) (hnew : d ∉ done) (hamp : '&' ∉ done) (cs : List Char) :
    replaceAll (entity d) [d] (cs.flatMap (stage done)) = cs.flatMap (stage (d :: done)) := by
  obtain ⟨p, hp, -⟩ := entity_of_mem hd
  rw [replaceAll_flatMap (by simp [hp]) (stage_eq_or_avoids hd hamp)]
  congr 1
  funext x
  by_cases hx : x = d
  · subst hx
    simp [stage, hnew]
  · rw [if_neg (mt (stage_eq_entity_iff hd hnew x).1 hx)]
    simp [stage, hx]

end Stage

lemma unescape_toList {t : String} {cs : List Char} (h : t.toList = cs.flatMap entity) :
    (unescape t).toList = cs := by
  simp only [unescape, replaceText, List.foldl_cons, List.foldl_nil, String.toList_ofList, h, ← stage_nil]
  rw [show "&lt;".toList = entity '<' from rfl, show "<".toList = ['<'] from rfl,
    replaceAll_stage (by decide) (by decide) (by decide),
    show "&gt;".toList = entity '>' from rfl, show ">".toList = ['>'] from rfl,
    replaceAll_stage (by decide) (by decide) (by decide),
    show "&quot;".toList = entity '"' from rfl, show "\"".toList = ['"'] from rfl,
    replaceAll_stage (by decide) (by decide) (by decide),
    show "&apos;".toList = entity '\'' from rfl, show "'".toList = ['\''] from rfl,
    replaceAll_stage (by decide) (by decide) (by decide),
    show "&amp;".toList = entity '&' from rfl, show "&".toList = ['&'] from rfl,
    replaceAll_stage (by decide) (by decide) (by decide)]
  rw [funext (stage_specials (by simp [specials])), List.flatMap_singleton']

/-- **Unescaping undoes escaping**, for every text: the ampersand's entity is read back last, so
an escaped `&lt;` is not taken for a `<`. -/
theorem unescape_escape (s : String) : unescape (escape s) = s :=
  String.toList_inj.1 (unescape_toList (escape_toList s))

/-! ### Escaped text, trimmed -/

lemma not_mem_specials_of_blank {c : Char} (h : isWhiteSpace c = true) : c ∉ specials := by
  intro hs
  simp only [specials, List.mem_cons, List.not_mem_nil, or_false] at hs
  rcases hs with rfl | rfl | rfl | rfl | rfl <;> revert h <;> decide

lemma entity_reverse_of_mem {c : Char} (h : c ∈ specials) : ∃ p, (entity c).reverse = ';' :: p := by
  simp only [specials, List.mem_cons, List.not_mem_nil, or_false] at h
  rcases h with rfl | rfl | rfl | rfl | rfl <;> simp [entity]

lemma dropBlanks_flatMap {f : Char → List Char} (hb : ∀ c, isWhiteSpace c = true → f c = [c])
    (hn : ∀ c, isWhiteSpace c = false → ∃ d ds, f c = d :: ds ∧ isWhiteSpace d = false) (cs : List Char) :
    dropBlanks (cs.flatMap f) = (dropBlanks cs).flatMap f := by
  induction cs with
  | nil => rfl
  | cons c cs ih =>
    cases hc : isWhiteSpace c
    · obtain ⟨d, ds, hf, hd⟩ := hn c hc
      rw [List.flatMap_cons, hf, List.cons_append, dropBlanks, if_neg (by simp [hd]), dropBlanks,
        if_neg (by simp [hc]), List.flatMap_cons, hf, List.cons_append]
    · rw [List.flatMap_cons, hb c hc, List.singleton_append, dropBlanks, if_pos hc, ih, dropBlanks, if_pos hc]

lemma dropBlanks_flatMap_entity (cs : List Char) :
    dropBlanks (cs.flatMap entity) = (dropBlanks cs).flatMap entity := by
  refine dropBlanks_flatMap (fun c hc => entity_of_not_mem (not_mem_specials_of_blank hc)) (fun c hc => ?_) cs
  by_cases hs : c ∈ specials
  · obtain ⟨p, hp, -⟩ := entity_of_mem hs
    exact ⟨'&', p, hp, by decide⟩
  · exact ⟨c, [], entity_of_not_mem hs, hc⟩

lemma dropBlanks_flatMap_entity_reverse (cs : List Char) :
    dropBlanks (cs.flatMap (List.reverse ∘ entity)) = (dropBlanks cs).flatMap (List.reverse ∘ entity) := by
  refine dropBlanks_flatMap (fun c hc => by simp [entity_of_not_mem (not_mem_specials_of_blank hc)])
    (fun c hc => ?_) cs
  by_cases hs : c ∈ specials
  · obtain ⟨p, hp⟩ := entity_reverse_of_mem hs
    exact ⟨';', p, hp, by decide⟩
  · exact ⟨c, [], by simp [entity_of_not_mem hs], hc⟩

lemma trim_escape (s : String) : trim (escape s) = escape (trim s) := by
  apply String.toList_inj.1
  rw [escape_toList (trim s)]
  simp only [trim, String.toList_ofList, escape_toList]
  rw [dropBlanks_flatMap_entity, List.reverse_flatMap, dropBlanks_flatMap_entity_reverse, List.reverse_flatMap]
  simp [Function.comp_def]

lemma entities_plain : (specials.all fun x => specials.all fun c => c == '&' || !(entity x).contains c) = true := by
  decide

lemma not_mem_escape {c : Char} (hc : c ∈ specials) (hamp : c ≠ '&') (s : String) : c ∉ (escape s).toList := by
  rw [escape_toList, List.mem_flatMap]
  rintro ⟨x, -, hx⟩
  by_cases hs : x ∈ specials
  · have h := List.all_eq_true.1 (List.all_eq_true.1 entities_plain x hs) c hc
    simp [hamp, hx] at h
  · rw [entity_of_not_mem hs, List.mem_singleton] at hx
    exact hs (hx ▸ hc)

lemma lt_not_mem_escape (s : String) : '<' ∉ (escape s).toList :=
  not_mem_escape (by simp [specials]) (by decide) s

/-! ### The element reader -/

lemma findSub_append {c : Char} {p pre : List Char} (h : c ∉ pre) (post : List Char) :
    findSub (c :: p) (pre ++ c :: (p ++ post)) = some pre.length := by
  induction pre with
  | nil => simp [findSub, List.isPrefixOf_iff_prefix]
  | cons x pre ih =>
    have hx : ¬(c :: p).isPrefixOf (x :: (pre ++ c :: (p ++ post))) = true := by
      rw [List.isPrefixOf_iff_prefix, List.cons_prefix_cons]
      exact fun h' => h (h'.1 ▸ List.mem_cons_self)
    rw [List.cons_append, findSub, if_neg hx, ih fun h' => h (List.mem_cons_of_mem _ h')]
    rfl

lemma findSub_isSome {pat cs : List Char} (h : pat <:+: cs) : (findSub pat cs).isSome := by
  obtain ⟨pre, post, rfl⟩ := h
  induction pre with
  | nil =>
    cases pat with
    | nil => cases post <;> simp [findSub]
    | cons c p => simp [findSub, List.isPrefixOf_iff_prefix]
  | cons x pre ih =>
    rw [List.cons_append, List.cons_append, findSub]
    split
    · rfl
    · simpa using ih

/-- A tag the reader passes over on its way to `name`: a closing tag, a declaration or a
comment, or an element of another local name. -/
def SkippedFor (name : String) (tag : List Char) : Prop :=
  (∃ t, tag = '/' :: t ∨ tag = '?' :: t ∨ tag = '!' :: t) ∨ String.ofList (tagLocalName tag) ≠ name

section Reader

variable {name : String} {fuel : Nat} {rest pre tag after : List Char}

lemma tag_located (hrest : rest = pre ++ '<' :: (tag ++ '>' :: after)) (hpre : '<' ∉ pre) (htag : '>' ∉ tag) :
    findSub ['<'] rest = some pre.length ∧ rest.drop (pre.length + 1) = tag ++ '>' :: after ∧
      findSub ['>'] (tag ++ '>' :: after) = some tag.length ∧ (tag ++ '>' :: after).take tag.length = tag ∧
      (tag ++ '>' :: after).drop (tag.length + 1) = after := by
  refine ⟨by simpa [hrest] using findSub_append (p := []) hpre ((tag ++ '>' :: after)),
    by simp [hrest, List.drop_append], by simpa using findSub_append (p := []) htag after,
    List.take_left' rfl, by simp [List.drop_append]⟩

lemma go_skip (hfuel : 0 < fuel) (hrest : rest = pre ++ '<' :: (tag ++ '>' :: after)) (hpre : '<' ∉ pre)
    (htag : '>' ∉ tag) (hs : SkippedFor name tag) :
    elementText.go name fuel rest = elementText.go name (fuel - 1) after := by
  obtain ⟨fuel, rfl⟩ : ∃ f, fuel = f + 1 := ⟨fuel - 1, by omega⟩
  obtain ⟨h₁, h₂, h₃, h₄, h₅⟩ := tag_located hrest hpre htag
  simp only [elementText.go, h₁, h₂, h₃, h₄, h₅, Nat.add_sub_cancel]
  split
  · rfl
  · rfl
  · rfl
  · rename_i hno₁ hno₂ hno₃
    -- neither a closing tag, a declaration nor a comment: its local name is another one
    rcases hs with ⟨t, ht | ht | ht⟩ | hname
    · exact absurd ht (hno₁ t)
    · exact absurd ht (hno₂ t)
    · exact absurd ht (hno₃ t)
    · simp [hname]

lemma go_match {text more : List Char} (hfuel : 0 < fuel)
    (hrest : rest = pre ++ '<' :: (tag ++ '>' :: (text ++ '<' :: '/' :: more))) (hpre : '<' ∉ pre)
    (htag : '>' ∉ tag) (hopen : ∀ c ∈ tag.head?, c ≠ '/' ∧ c ≠ '?' ∧ c ≠ '!')
    (hname : String.ofList (tagLocalName tag) = name) (htext : '<' ∉ text) :
    elementText.go name fuel rest = some (unescape (trim (String.ofList text))) := by
  obtain ⟨fuel, rfl⟩ : ∃ f, fuel = f + 1 := ⟨fuel - 1, by omega⟩
  obtain ⟨h₁, h₂, h₃, h₄, h₅⟩ := tag_located hrest hpre htag
  have hend : findSub ['<', '/'] (text ++ '<' :: '/' :: more) = some text.length := by
    simpa using findSub_append (p := ['/']) htext more
  simp only [elementText.go, h₁, h₂, h₃, h₄, h₅]
  split
  · exact absurd rfl (hopen '/' rfl).1
  · exact absurd rfl (hopen '?' rfl).2.1
  · exact absurd rfl (hopen '!' rfl).2.2
  · simp [hname, hend, List.take_left' rfl]

/-- Tags the reader passes over, each after a text without `<`. -/
def tagsText (tags : List (List Char × List Char)) : List Char :=
  tags.flatMap fun p => p.1 ++ '<' :: (p.2 ++ ['>'])

lemma go_tagsText (tags : List (List Char × List Char)) (hfuel : tags.length ≤ fuel)
    (hskip : ∀ p ∈ tags, '<' ∉ p.1 ∧ '>' ∉ p.2 ∧ SkippedFor name p.2) (R : List Char) :
    elementText.go name fuel (tagsText tags ++ R) = elementText.go name (fuel - tags.length) R := by
  induction tags generalizing fuel with
  | nil => rfl
  | cons p tags ih =>
    obtain ⟨hgap, htag, hs⟩ := hskip p List.mem_cons_self
    have hrest : tagsText (p :: tags) ++ R = p.1 ++ '<' :: (p.2 ++ '>' :: (tagsText tags ++ R)) := by
      simp [tagsText]
    rw [go_skip (by simp at hfuel; omega) hrest hgap htag hs, ih (by simp at hfuel; omega) fun q hq => hskip q (List.mem_cons_of_mem _ hq)]
    simp only [List.length_cons]
    congr 1
    omega

lemma length_tagsText (tags : List (List Char × List Char)) : tags.length ≤ (tagsText tags).length := by
  induction tags with
  | nil => simp [tagsText]
  | cons p tags ih =>
    simp only [tagsText, List.flatMap_cons, List.length_append, List.length_cons] at ih ⊢
    omega

lemma elementText_after {tags : List (List Char × List Char)} {gap more : List Char} {x : String}
    (hskip : ∀ p ∈ tags, '<' ∉ p.1 ∧ '>' ∉ p.2 ∧ SkippedFor name p.2) (hgap : '<' ∉ gap)
    (htag : '>' ∉ name.toList) (hopen : ∀ c ∈ name.toList.head?, c ≠ '/' ∧ c ≠ '?' ∧ c ≠ '!')
    (hname : String.ofList (tagLocalName name.toList) = name) :
    elementText (tagsText tags ++ (gap ++ '<' :: (name.toList ++ '>' :: ((escape x).toList ++ '<' :: '/' :: more))))
      name = some (trim x) := by
  have hlen := length_tagsText tags
  unfold elementText
  calc _ = elementText.go name (_ - tags.length) _ := go_tagsText tags (by simp; omega) hskip _
    _ = some (unescape (trim (String.ofList (escape x).toList))) :=
        go_match (by simp; omega) rfl hgap htag hopen hname (lt_not_mem_escape x)
    _ = some (trim x) := by rw [String.ofList_toList, trim_escape, unescape_escape]

end Reader

/-! ### Local names -/

lemma firstWord_append {w attrs : List Char} (hw : ∀ c ∈ w, isWhiteSpace c = false)
    (ha : ∀ c ∈ attrs.head?, isWhiteSpace c = true) (hne : w ≠ [] ∨ attrs = []) :
    ((w ++ attrs).dropWhile isWhiteSpace).takeWhile (!isWhiteSpace ·) = w := by
  have hdrop : (w ++ attrs).dropWhile isWhiteSpace = w ++ attrs := by
    rcases hne with hne | rfl
    · obtain ⟨x, xs, rfl⟩ := List.exists_cons_of_ne_nil hne
      rw [List.cons_append, List.dropWhile_cons_of_neg (by simp [hw x List.mem_cons_self])]
    · cases w with
      | nil => rfl
      | cons x xs => rw [List.append_nil, List.dropWhile_cons_of_neg (by simp [hw x List.mem_cons_self])]
  rw [hdrop, List.takeWhile_append_of_pos (by simpa using hw)]
  cases attrs with
  | nil => simp
  | cons a as => simp [ha a rfl]

lemma tagLocalName_append {q word attrs : List Char} (hq : ∀ c ∈ q, isWhiteSpace c = false)
    (hw : ∀ c ∈ word, isWhiteSpace c = false ∧ c ≠ ':') (hne : word ≠ [])
    (ha : ∀ c ∈ attrs.head?, isWhiteSpace c = true) :
    ∃ p, tagLocalName (q ++ word ++ attrs) = p ++ word := by
  have hqw : ∀ c ∈ q ++ word, isWhiteSpace c = false := by
    intro c hc
    rcases List.mem_append.1 hc with h | h
    · exact hq c h
    · exact (hw c h).1
  -- the first word is `q ++ word`: it starts with no blank and the attributes start with one
  have hfirst := firstWord_append hqw ha (.inl (List.append_ne_nil_of_right_ne_nil q hne))
  refine ⟨(q.reverse.takeWhile (· ≠ ':')).reverse, ?_⟩
  unfold tagLocalName
  rw [hfirst]
  dsimp only
  rw [List.reverse_append, List.takeWhile_append_of_pos (by simpa using fun c hc => (hw c hc).2),
    List.reverse_append, List.reverse_reverse]

lemma skippedFor_append {name : String} {q word attrs : List Char} (hq : ∀ c ∈ q, isWhiteSpace c = false)
    (hw : ∀ c ∈ word, isWhiteSpace c = false ∧ c ≠ ':') (hne : word ≠ [])
    (ha : ∀ c ∈ attrs.head?, isWhiteSpace c = true) (hsuf : ¬word <:+ name.toList) :
    SkippedFor name (q ++ word ++ attrs) := by
  refine .inr fun h => hsuf ?_
  obtain ⟨p, hp⟩ := tagLocalName_append hq hw hne ha
  rw [← h, hp, String.toList_ofList]
  exact List.suffix_append p word

/-! ### Fault responses -/

/-- How a fault response is laid out around its code and message: an optional declaration,
the envelope, body and fault elements under one prefix, and the text between the tags. -/
structure FaultLayout where
  /-- The attributes of the `<?xml ...?>` declaration, when there is one. -/
  declaration : Option String := none
  /-- The prefix of the envelope, body and fault elements, with its colon. -/
  qualifier : String := "soap:"
  /-- The attributes of the envelope, its namespace declarations among them. -/
  attributes : String := ""
  beforeEnvelope : String := ""
  beforeBody : String := ""
  beforeFault : String := ""
  beforeCode : String := ""
  beforeMessage : String := ""
  /-- What follows the message: the closing tags, or anything else. -/
  rest : String := ""

namespace FaultLayout

/-- A fault response whose code and message elements hold `code` and `message` as written. -/
def text (l : FaultLayout) (code message : String) : String :=
  (l.declaration.map fun d => "<?xml" ++ d ++ "?>").getD "" ++
    l.beforeEnvelope ++ "<" ++ l.qualifier ++ "Envelope" ++ l.attributes ++ ">" ++
    l.beforeBody ++ "<" ++ l.qualifier ++ "Body>" ++ l.beforeFault ++ "<" ++ l.qualifier ++ "Fault>" ++
    l.beforeCode ++ "<faultcode>" ++ code ++ "</faultcode>" ++
    l.beforeMessage ++ "<faultstring>" ++ message ++ "</faultstring>" ++ l.rest

/-- What a well-formed document keeps to, as far as the reader of elements looks: no `>` in
the declaration, the prefix or the attributes, no blank in the prefix, a blank before the
attributes, and no `<` in the text between tags. -/
structure WellFormed (l : FaultLayout) : Prop where
  declaration : ∀ d ∈ l.declaration, '>' ∉ d.toList
  qualifier : ∀ c ∈ l.qualifier.toList, c ≠ '>' ∧ isWhiteSpace c = false
  attributes : '>' ∉ l.attributes.toList ∧ ∀ c ∈ l.attributes.toList.head?, isWhiteSpace c = true
  gaps : ∀ g ∈ [l.beforeEnvelope, l.beforeBody, l.beforeFault, l.beforeCode, l.beforeMessage], '<' ∉ g.toList

/-- The tags before the code: the declaration, if any, and the envelope, body and fault, each
with the text before it. -/
def openingTags (l : FaultLayout) : List (List Char × List Char) :=
  (l.declaration.map fun d => ([], '?' :: ("xml".toList ++ d.toList ++ ['?']))).toList ++
    [(l.beforeEnvelope.toList, l.qualifier.toList ++ "Envelope".toList ++ l.attributes.toList),
     (l.beforeBody.toList, l.qualifier.toList ++ "Body".toList ++ []),
     (l.beforeFault.toList, l.qualifier.toList ++ "Fault".toList ++ [])]

lemma text_toList (l : FaultLayout) (code message : String) :
    (l.text code message).toList = tagsText l.openingTags ++ (l.beforeCode.toList ++ '<' ::
      ("faultcode".toList ++ '>' :: (code.toList ++ '<' :: '/' :: ("faultcode".toList ++ '>' ::
      (l.beforeMessage.toList ++ '<' :: ("faultstring".toList ++ '>' :: (message.toList ++ '<' :: '/' ::
      ("faultstring".toList ++ '>' :: l.rest.toList)))))))) := by
  unfold text openingTags tagsText
  -- the literals are taken apart only once the text is a flat list of pieces
  cases l.declaration <;>
    simp only [String.toList_append, Option.map_none, Option.map_some, Option.getD_none, Option.getD_some,
      Option.toList_none, Option.toList_some, List.flatMap_cons, List.flatMap_nil, List.append_assoc,
      List.cons_append, List.nil_append, List.append_nil] <;>
    simp

variable {l : FaultLayout} {name : String}

lemma openingTags_skipped (hl : l.WellFormed) (hE : ¬"Envelope".toList <:+ name.toList)
    (hB : ¬"Body".toList <:+ name.toList) (hF : ¬"Fault".toList <:+ name.toList) :
    ∀ p ∈ l.openingTags, '<' ∉ p.1 ∧ '>' ∉ p.2 ∧ SkippedFor name p.2 := by
  have hq : ∀ c ∈ l.qualifier.toList, isWhiteSpace c = false := fun c hc => (hl.qualifier c hc).2
  have hq' : '>' ∉ l.qualifier.toList := fun h => (hl.qualifier _ h).1 rfl
  have hword (w : String) (hw : w.toList.all (fun c => !isWhiteSpace c && c != ':') = true) :
      ∀ c ∈ w.toList, isWhiteSpace c = false ∧ c ≠ ':' := by
    intro c hc
    simpa using List.all_eq_true.1 hw c hc
  intro p hp
  simp only [openingTags, List.mem_append, Option.mem_toList, Option.map_eq_some_iff,
    List.mem_cons, List.not_mem_nil, or_false] at hp
  rcases hp with ⟨d, hd, rfl⟩ | rfl | rfl | rfl
  · -- the declaration
    have := hl.declaration d hd
    exact ⟨by simp, by simp [this], .inl ⟨_, .inr (.inl rfl)⟩⟩
  · exact ⟨hl.gaps _ (by simp), by simp [hq', hl.attributes.1],
      skippedFor_append hq (hword _ (by decide)) (by decide) hl.attributes.2 hE⟩
  · exact ⟨hl.gaps _ (by simp), by simp [hq'], skippedFor_append hq (hword _ (by decide)) (by decide) (by simp) hB⟩
  · exact ⟨hl.gaps _ (by simp), by simp [hq'], skippedFor_append hq (hword _ (by decide)) (by decide) (by simp) hF⟩

lemma elementText_code (hl : l.WellFormed) (c m : String) :
    elementText (l.text (escape c) (escape m)).toList "faultcode" = some (trim c) := by
  rw [text_toList]
  exact elementText_after (openingTags_skipped hl (by decide) (by decide) (by decide)) (hl.gaps _ (by simp))
    (by decide) (by rintro c ⟨⟩; decide) (by decide)

lemma elementText_message (hl : l.WellFormed) (c m : String) :
    elementText (l.text (escape c) (escape m)).toList "faultstring" = some (trim m) := by
  let codeTags : List (List Char × List Char) :=
    [(l.beforeCode.toList, "faultcode".toList), ((escape c).toList, '/' :: "faultcode".toList)]
  have hshape : (l.text (escape c) (escape m)).toList = tagsText (l.openingTags ++ codeTags) ++
      (l.beforeMessage.toList ++ '<' :: ("faultstring".toList ++ '>' :: ((escape m).toList ++ '<' :: '/' ::
      ("faultstring".toList ++ '>' :: l.rest.toList)))) := by
    rw [text_toList]
    simp [codeTags, tagsText]
  have hskip : ∀ p ∈ l.openingTags ++ codeTags, '<' ∉ p.1 ∧ '>' ∉ p.2 ∧ SkippedFor "faultstring" p.2 := by
    intro p hp
    rcases List.mem_append.1 hp with hp | hp
    · exact openingTags_skipped hl (by decide) (by decide) (by decide) p hp
    · simp only [codeTags, List.mem_cons, List.not_mem_nil, or_false] at hp
      rcases hp with rfl | rfl
      · exact ⟨hl.gaps _ (by simp), show '>' ∉ "faultcode".toList by decide,
          .inr (show String.ofList (tagLocalName "faultcode".toList) ≠ "faultstring" by decide)⟩
      · exact ⟨lt_not_mem_escape c, show '>' ∉ '/' :: "faultcode".toList by decide, .inl ⟨_, .inl rfl⟩⟩
  rw [hshape]
  exact elementText_after hskip (hl.gaps _ (by simp)) (by decide) (by rintro c ⟨⟩; decide)
    (by decide)

end FaultLayout

/-- **Faults read back.** A fault response whose code and message elements hold the escaped
code and message reads back as both, trimmed, whatever its declaration, the prefix and attributes
of its envelope, the text between its tags and what follows the message. -/
theorem parseFault_faultText {l : FaultLayout} (hl : l.WellFormed) (c m : String) :
    parseFault (l.text (escape c) (escape m)) = some (trim c, trim m) := by
  -- the body names a fault code, so the reader looks for one
  have hinfix : "faultcode".toList <:+: (l.text (escape c) (escape m)).toList := by
    rw [FaultLayout.text_toList]
    exact ((List.infix_cons (List.prefix_append _ _).isInfix).trans (List.suffix_append _ _).isInfix).trans
      (List.suffix_append _ _).isInfix
  have hfound : (findSub "faultcode".toList (l.text (escape c) (escape m)).toList).isNone = false := by
    simpa using findSub_isSome hinfix
  unfold parseFault
  dsimp only
  rw [hfound, Bool.and_false, if_neg Bool.false_ne_true, FaultLayout.elementText_code hl,
    FaultLayout.elementText_message hl]
  rfl

/-- A server's fault laid out on several lines under the usual prefix, its message with blanks
around it and characters that need escaping, reads back trimmed. -/
theorem server_fault_reads_back :
    let l : FaultLayout :=
      { attributes := " xmlns:soap=\"http://schemas.xmlsoap.org/soap/envelope/\"", beforeBody := "\n  ",
        beforeCode := "\n    ", beforeMessage := "\n    ", rest := "\n  </soap:Fault></soap:Body></soap:Envelope>" }
    l.WellFormed ∧
      parseFault (l.text (escape "soap:Server") (escape " 1 < 2 & 0 > 1 ")) = some ("soap:Server", "1 < 2 & 0 > 1") := by
  intro l
  have hl : l.WellFormed := by
    refine ⟨fun d hd => (by cases hd), fun c hc => ?_, ⟨by decide, fun c hc => ?_⟩, fun g hg => ?_⟩
    · have h := List.all_eq_true.1
        (show ("soap:".toList.all fun c => c != '>' && !isWhiteSpace c) = true by decide) c hc
      simpa using h
    · obtain rfl : ' ' = c := by simpa [l] using hc
      decide
    · simp only [l, List.mem_cons, List.not_mem_nil, or_false] at hg
      rcases hg with rfl | rfl | rfl | rfl | rfl <;> decide
  refine ⟨hl, ?_⟩
  rw [parseFault_faultText hl]
  decide

end IntegrationFlow.Soap
