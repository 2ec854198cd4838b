import IntegrationFlow.Backend.Duration
import IntegrationFlow.Proofs.Calls

/-!
Durations written in parts such as `1m30s`: no unit letter stands in a decimal, so the
reader takes such a text part by part (`go_part`) and reads the checked sum of its parts
(`parse?_parts`, `parse?_parts_append`).
-/

namespace IntegrationFlow

namespace Decimal

/-- The characters a decimal can be written with. -/
def decimalChar (c : Char) : Bool := c.isDigit || c = '.' || c = 'e' || c = 'E' || c = '+' || c = '-'

lemma splitSign_cases (cs : List Char) :
    cs = (splitSign cs).2 ∨ cs = '+' :: (splitSign cs).2 ∨ cs = '-' :: (splitSign cs).2 := by
  unfold splitSign
  split <;> simp

lemma decimalChar_of_mem_digits {cs : List Char} {c : Char} (h : c ∈ cs.takeWhile Char.isDigit) :
    decimalChar c = true := by
  simp [decimalChar, List.all_eq_true.1 List.all_takeWhile c h]

lemma digits_append_chars {cs rest : List Char} (hr : cs.dropWhile Char.isDigit = rest)
    (h : ∀ c ∈ rest, decimalChar c = true) : ∀ c ∈ cs, decimalChar c = true := by
  intro c hc
  rw [← List.takeWhile_append_dropWhile (p := Char.isDigit) (l := cs), hr] at hc
  rcases List.mem_append.1 hc with hc | hc
  · exact decimalChar_of_mem_digits hc
  · exact h c hc

lemma exponentPart?_chars {cs : List Char} {e : Int} (h : exponentPart? cs = some e) :
    ∀ c ∈ cs, decimalChar c = true := by
  -- after the sign, nothing but digits
  have hd : ((splitSign cs).2).dropWhile Char.isDigit = [] := by
    unfold exponentPart? spanDigits at h
    simp only [List.isEmpty_iff] at h
    split at h
    · cases h
    · rename_i h'
      exact Classical.not_not.1 (not_or.1 h').2
  have hdig := digits_append_chars hd (by simp)
  intro c hc
  rcases splitSign_cases cs with h₁ | h₁ | h₁ <;> rw [h₁] at hc
  · exact hdig c hc
  · rcases List.mem_cons.1 hc with rfl | hc
    · decide
    · exact hdig c hc
  · rcases List.mem_cons.1 hc with rfl | hc
    · decide
    · exact hdig c hc

lemma exponentTail_chars {c : Char} {r : List Char} {e : Int}
    (h : (if c = 'e' ∨ c = 'E' then exponentPart? r else none) = some e) :
    ∀ x ∈ c :: r, decimalChar x = true := by
  intro x hx
  split at h
  · rename_i hc
    rcases List.mem_cons.1 hx with rfl | hx
    · rcases hc with rfl | rfl <;> decide
    · exact exponentPart?_chars h x hx
  · cases h

lemma unsignedDecimal?_chars {cs : List Char} {x : Scientific} (h : unsignedDecimal? cs = some x) :
    ∀ c ∈ cs, decimalChar c = true := by
  unfold unsignedDecimal? spanDigits at h
  dsimp only at h
  generalize hr : List.dropWhile Char.isDigit cs = rest at h
  refine digits_append_chars hr ?_
  -- after the whole digits: a point and the digits of the fraction, or neither; then the exponent
  split at h
  case' h_1 => refine fun c hc => (List.mem_cons.1 hc).elim (fun h' => h' ▸ rfl) (digits_append_chars rfl ?_ c)
  all_goals
    obtain ⟨e, he, -⟩ := Option.map_eq_some_iff.1 (Option.ite_none_left_eq_some.1 h).2
    split at he
    · rename_i heq
      dsimp only at heq
      simp [heq]
    · rename_i heq
      dsimp only at heq
      exact heq ▸ exponentTail_chars he

end Decimal

namespace Duration

lemma amountChar_code {c : Char} (h : amountChar c = true) :
    c.toNat = 46 ∨ 48 ≤ c.toNat ∧ c.toNat ≤ 57 := by
  simp only [amountChar, Bool.or_eq_true, decide_eq_true_eq] at h
  rcases h with h | rfl
  · simp only [Char.isDigit, Bool.and_eq_true, decide_eq_true_eq] at h
    simp only [Char.toNat, UInt32.le_iff_toNat_le] at h ⊢
    exact .inr ⟨h.1, h.2⟩
  · exact .inl rfl

lemma toLower_of_amountChar {c : Char} (h : amountChar c = true) : c.toLower = c := by
  have hc := amountChar_code h
  unfold Char.toLower
  rw [dif_neg]
  simp only [Char.toNat, UInt32.le_iff_toNat_le] at hc ⊢
  have hA : 'A'.val.toNat = 65 := rfl
  have hZ : 'Z'.val.toNat = 90 := rfl
  omega

lemma not_blank_of_amountChar {c : Char} (h : amountChar c = true) : Text.isWhiteSpace c = false := by
  have hcodes : ∀ n < 58, 46 ≤ n → Text.whiteSpaceCodes.contains n = false := by decide
  have hc := amountChar_code h
  exact hcodes c.toNat (by omega) (by omega)

lemma zero_add?_bind (x d : Duration) : ((⟨0, 0⟩ : Duration).add? d).bind x.add? = x.add? d := by
  unfold add?
  dsimp only
  by_cases h : 0 + d.secs + (0 + d.nanos) / 1000000000 > maxSecs
  · rw [if_pos h, Option.bind_none, if_pos (by omega)]
  · rw [if_neg h, Option.bind_some]
    dsimp only
    -- the carried seconds of the two steps add up to those of one
    have hs : x.secs + (0 + d.secs + (0 + d.nanos) / 1000000000) +
        (x.nanos + (0 + d.nanos) % 1000000000) / 1000000000 =
        x.secs + d.secs + (x.nanos + d.nanos) / 1000000000 := by omega
    have hn : (x.nanos + (0 + d.nanos) % 1000000000) % 1000000000 = (x.nanos + d.nanos) % 1000000000 := by
      omega
    rw [hs, hn]

lemma takeWhile_dropWhile_of_head {q : Char → Bool} {l : List Char} (h : ∀ c ∈ l.head?, q c = false) :
    l.takeWhile q = [] ∧ l.dropWhile q = l := by
  cases l with
  | nil => exact ⟨rfl, rfl⟩
  | cons d ds =>
    have hd : ¬q d = true := by simp [h d rfl]
    exact ⟨List.takeWhile_cons_of_neg hd, List.dropWhile_cons_of_neg hd⟩

lemma go_nil {fuel : Nat} (h : 0 < fuel) (acc : Duration) : parse?.go fuel [] acc = some acc :=
  parse?.go.eq_2 fuel acc (by omega)

/-- A part of a written duration: a non-empty amount of digits and points, then a unit. -/
structure Part where
  amount : List Char
  unit : String
  amount_ne : amount ≠ []
  amount_chars : ∀ c ∈ amount, amountChar c = true
  unit_mem : unit ∈ ["ms", "s", "m", "h"]

namespace Part

/-- The part as written. -/
def text (p : Part) : String := String.ofList p.amount ++ p.unit

/-- The duration the part stands for, when its amount reads and its seconds fit. -/
def value? (p : Part) : Option Duration := do
  let x ← Decimal.parseFloat? (String.ofList p.amount)
  let secs ← unitSeconds? p.unit x
  ofSeconds? secs

/-- The checked sum of a duration and a part. -/
def addTo (acc : Duration) (p : Part) : Option Duration := p.value?.bind acc.add?

lemma addTo_zero_bind (x : Duration) (p : Part) : (addTo ⟨0, 0⟩ p).bind x.add? = addTo x p := by
  simp only [addTo, Option.bind_assoc, zero_add?_bind]

lemma text_toList (p : Part) : p.text.toList = p.amount ++ p.unit.toList := by
  simp [text]

lemma unit_letters {u : String} (h : u ∈ ["ms", "s", "m", "h"]) :
    u.toList ≠ [] ∧ ∀ c ∈ u.toList, c = 'm' ∨ c = 's' ∨ c = 'h' := by
  simp only [List.mem_cons, List.not_mem_nil, or_false] at h
  rcases h with rfl | rfl | rfl | rfl <;> refine ⟨by simp, fun c hc => ?_⟩ <;> simp at hc <;> grind

lemma not_amountChar_of_mem_unit (p : Part) {c : Char} (hc : c ∈ p.unit.toList) : amountChar c = false := by
  rcases (unit_letters p.unit_mem).2 c hc with rfl | rfl | rfl <;> rfl

lemma not_blank_of_mem_text {p : Part} {c : Char} (hc : c ∈ p.text.toList) : Text.isWhiteSpace c = false := by
  rw [text_toList] at hc
  rcases List.mem_append.1 hc with hc | hc
  · exact not_blank_of_amountChar (p.amount_chars c hc)
  · rcases (unit_letters p.unit_mem).2 c hc with rfl | rfl | rfl <;> decide

lemma parseFloat?_text_append (p : Part) (rest : List Char) :
    Decimal.parseFloat? (String.ofList (p.text.toList ++ rest)) = none := by
  obtain ⟨c, cs, hc⟩ := List.exists_cons_of_ne_nil p.amount_ne
  have hcA : amountChar c = true := p.amount_chars c (hc ▸ List.mem_cons_self)
  have hcs : p.text.toList ++ rest = c :: (cs ++ p.unit.toList ++ rest) := by
    simp [text_toList, hc]
  -- it starts with an amount character: no sign, and no word `inf` or `nan`
  have hsign : Decimal.splitSign (c :: (cs ++ p.unit.toList ++ rest)) =
      (false, c :: (cs ++ p.unit.toList ++ rest)) := by
    have : c ≠ '+' ∧ c ≠ '-' := by
      constructor <;> rintro rfl <;> revert hcA <;> decide
    unfold Decimal.splitSign
    split <;> simp_all
  have hword : ∀ w ∈ ["inf", "infinity", "nan"],
      String.ofList ((c :: (cs ++ p.unit.toList ++ rest)).map Char.toLower) ≠ w := by
    intro w hw h
    have hhead := congrArg (fun s : String => s.toList.head?) h
    simp only [String.toList_ofList, List.map_cons, List.head?_cons, toLower_of_amountChar hcA] at hhead
    simp only [List.mem_cons, List.not_mem_nil, or_false] at hw
    rcases hw with rfl | rfl | rfl <;> cases hhead <;> revert hcA <;> decide
  -- and its unit is no character of a decimal
  have hdec : Decimal.unsignedDecimal? (c :: (cs ++ p.unit.toList ++ rest)) = none := by
    rw [Option.eq_none_iff_forall_ne_some]
    intro x hx
    obtain ⟨u, us, hu⟩ := List.exists_cons_of_ne_nil (unit_letters p.unit_mem).1
    have hmem : u ∈ p.unit.toList := hu ▸ List.mem_cons_self
    have := Decimal.unsignedDecimal?_chars hx u (by simp [hmem])
    rcases (unit_letters p.unit_mem).2 u hmem with rfl | rfl | rfl <;> revert this <;> decide
  unfold Decimal.parseFloat?
  rw [String.toList_ofList, hcs, hsign]
  dsimp only
  rw [if_neg, if_neg, hdec, Option.map_none]
  · exact hword _ (by simp)
  · exact fun h => h.elim (hword _ (by simp)) (hword _ (by simp))

lemma go_part (p : Part) (fuel : Nat) (acc : Duration) {rest : List Char}
    (hrest : ∀ c ∈ rest.head?, amountChar c = true) :
    parse?.go (fuel + 1) (p.text.toList ++ rest) acc = (p.addTo acc).bind (parse?.go fuel rest) := by
  have hu' : ∀ c ∈ p.unit.toList, (!amountChar c) = true := by
    simpa using fun c hc => p.not_amountChar_of_mem_unit hc
  -- the amount stops where the unit starts, and the unit where the rest starts
  obtain ⟨c, cs, hc⟩ := List.exists_cons_of_ne_nil (unit_letters p.unit_mem).1
  have hcu : amountChar c = false := p.not_amountChar_of_mem_unit (hc ▸ List.mem_cons_self)
  obtain ⟨hamount, hunit⟩ := takeWhile_dropWhile_of_head (l := p.unit.toList ++ rest)
    (by rw [hc]; rintro d ⟨⟩; exact hcu)
  obtain ⟨hnext₁, hnext₂⟩ := takeWhile_dropWhile_of_head (q := fun c => !amountChar c) (l := rest)
    (by simpa using hrest)
  have hne : p.text.toList ++ rest ≠ [] := by simp [text, p.amount_ne]
  rw [parse?.go.eq_3 _ _ _ hne]
  simp only [text, String.toList_append, String.toList_ofList, List.append_assoc,
    List.takeWhile_append_of_pos p.amount_chars, hamount, List.append_nil,
    List.dropWhile_append_of_pos p.amount_chars, hunit, List.takeWhile_append_of_pos hu', hnext₁,
    List.dropWhile_append_of_pos hu', hnext₂, List.isEmpty_iff, p.amount_ne, if_false, String.ofList_toList]
  simp only [addTo, value?, Option.bind_eq_bind, Option.bind_assoc]

end Part

/-- The characters of parts written one after another. -/
def Part.written (ps : List Part) : List Char := ps.flatMap fun p => p.text.toList

lemma go_written (ps : List Part) (acc : Duration) {fuel : Nat} (hfuel : ps.length < fuel) :
    parse?.go fuel (Part.written ps) acc = ps.foldlM Part.addTo acc := by
  induction ps generalizing acc fuel with
  | nil => exact go_nil hfuel acc
  | cons p ps ih =>
    obtain ⟨fuel, rfl⟩ : ∃ f, fuel = f + 1 := ⟨fuel - 1, by simp at hfuel; omega⟩
    -- the next part, if any, starts with an amount character
    have hnext : ∀ c ∈ (Part.written ps).head?, amountChar c = true := by
      cases ps with
      | nil => simp [Part.written]
      | cons q qs =>
        obtain ⟨c, cs, hc⟩ := List.exists_cons_of_ne_nil q.amount_ne
        intro d hd
        simp [Part.written, Part.text_toList, hc] at hd
        exact hd ▸ q.amount_chars c (hc ▸ List.mem_cons_self)
    rw [Part.written, List.flatMap_cons, ← Part.written, Part.go_part p fuel acc hnext, List.foldlM_cons]
    congr 1
    funext acc'
    exact ih acc' (by simp at hfuel; omega)

lemma written_length (ps : List Part) : ps.length ≤ (Part.written ps).length := by
  induction ps with
  | nil => simp [Part.written]
  | cons p ps ih =>
    have : p.amount.length ≠ 0 := by simpa using p.amount_ne
    simp only [Part.written, List.flatMap_cons, List.length_append, Part.text_toList, List.length_cons] at ih ⊢
    omega

/-- **A text of parts reads as the checked sum of its parts**, from zero: it is no bare number, and
the reader adds the parts in turn. -/
theorem parse?_parts (ps : List Part) (hps : ps ≠ []) :
    Decimal.parseFloat? (String.ofList (Part.written ps)) = none ∧
      parse? (String.ofList (Part.written ps)) = ps.foldlM Part.addTo ⟨0, 0⟩ := by
  obtain ⟨p, qs, rfl⟩ := List.exists_cons_of_ne_nil hps
  have hfloat : Decimal.parseFloat? (String.ofList (Part.written (p :: qs))) = none := by
    rw [Part.written, List.flatMap_cons]
    exact Part.parseFloat?_text_append p _
  -- no blank anywhere, so trimming keeps the text
  have hblank : ∀ c ∈ Part.written (p :: qs), Text.isWhiteSpace c = false := by
    intro c hc
    obtain ⟨q, -, hq⟩ := List.mem_flatMap.1 hc
    exact Part.not_blank_of_mem_text hq
  have htrim : Text.trim (String.ofList (Part.written (p :: qs))) = String.ofList (Part.written (p :: qs)) :=
    Text.trim_eq_self (fun c hc => hblank c (by simpa using List.mem_of_mem_head? hc))
      (fun c hc => hblank c (by simpa using List.mem_of_mem_getLast? hc))
  have hlen : qs.length + 1 ≤ (Part.written (p :: qs)).length := by
    simpa using written_length (p :: qs)
  have hne : (String.ofList (Part.written (p :: qs))).isEmpty = false := by
    refine Bool.eq_false_iff.2 fun h => ?_
    have := congrArg String.length (String.isEmpty_iff.1 h)
    simp only [String.length_ofList, String.length_empty] at this
    omega
  refine ⟨hfloat, ?_⟩
  unfold parse?
  dsimp only
  rw [htrim, hne, if_neg Bool.false_ne_true, hfloat]
  dsimp only
  rw [String.toList_ofList]
  exact go_written _ _ (by simp only [String.length_ofList, List.length_cons]; omega)

/-- **Durations add over their parts.** Two texts of parts written one after the other read as the
checked sum of what each reads as, so either absent or an overflow makes the whole absent; and
the text is never a bare number of seconds. -/
theorem parse?_parts_append (a b : Part) :
    Decimal.parseFloat? (a.text ++ b.text) = none ∧
      parse? (a.text ++ b.text) = (parse? a.text).bind fun x => (parse? b.text).bind x.add? := by
  have hab : a.text ++ b.text = String.ofList (Part.written [a, b]) := by
    simp [Part.written]
  have hone (p : Part) : parse? p.text = Part.addTo ⟨0, 0⟩ p := by
    have h := (parse?_parts [p] (by simp)).2
    simp only [Part.written, List.flatMap_cons, List.flatMap_nil, List.append_nil, String.ofList_toList] at h
    simpa using h
  obtain ⟨hfloat, hparse⟩ := parse?_parts [a, b] (by simp)
  refine ⟨hab ▸ hfloat, ?_⟩
  rw [hab, hparse, hone, hone]
  simp only [List.foldlM_cons, List.foldlM_nil, bind_pure, Part.addTo_zero_bind]
  rfl

end Duration

end IntegrationFlow
