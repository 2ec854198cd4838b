import IntegrationFlow.Json.Render
import IntegrationFlow.Json.TextRecord
import Mathlib.Tactic.Lemma
import Mathlib.Tactic.SplitIfs

/-!
Reading written documents: on the compact text of a document, a read that succeeds stops just
past it. Runs of digits are read by induction on the run, documents by induction on the steps
the reader may take.
-/

namespace IntegrationFlow

/-! ### Written text as characters -/

lemma String.toList_pushn (s : String) (c : Char) (n : Nat) :
    (s.pushn c n).toList = s.toList ++ List.replicate n c := by
  induction n with
  | zero => simp [String.pushn_eq_repeat_push, Nat.repeat]
  | succ n ih =>
    rw [String.pushn_eq_repeat_push] at *
    simp [Nat.repeat, String.toList_push, ih, List.replicate_succ']

lemma hex4_toList {n : Nat} (h : n < 32) :
    (hex4 n).toList = ['0', '0', (n / 16).digitChar, (n % 16).digitChar] := by
  by_cases h16 : n < 16
  · simp [hex4, String.toList_pushn, Nat.toDigits_of_lt_base h16, Nat.div_eq_of_lt h16, Nat.mod_eq_of_lt h16]
  · have hdiv : n / 16 = 1 := by omega
    have hd : Nat.toDigits 16 n = [(n / 16).digitChar, (n % 16).digitChar] := by
      rw [Nat.toDigits_of_base_le (by decide) (by omega), hdiv, Nat.toDigits_of_lt_base (by decide)]
      rfl
    simp [hex4, String.toList_pushn, hd, hdiv]

lemma quote_toList (b : Bool) (s : String) :
    (quote b s).toList = '"' :: (s.toList.flatMap fun c => (escapeChar b c).toList) ++ ['"'] := by
  have hfold : ∀ (l : List Char) (init : String),
      (l.foldl (fun acc c => acc ++ escapeChar b c) init).toList =
        init.toList ++ l.flatMap fun c => (escapeChar b c).toList := by
    intro l
    induction l with
    | nil => simp
    | cons c l ih => intro init; simp [ih]
  simp [quote, hfold]

namespace Reader

variable {r r' : Reader} {c : Char} {cs rest : List Char}

/-! ### The scanners, one character at a time -/

/-- A character that is not a blank. -/
def NotBlank (c : Char) : Prop := c ≠ ' ' ∧ c ≠ '\n' ∧ c ≠ '\t' ∧ c ≠ '\r'

instance : DecidablePred NotBlank := fun _ => inferInstanceAs (Decidable (_ ∧ _ ∧ _ ∧ _))

lemma skipWs_eq_self (h : ∀ c ∈ r.rest.head?, NotBlank c) : r.skipWs = r := by
  rw [skipWs]
  split
  · rename_i c' cs hr
    obtain ⟨h1, h2, h3, h4⟩ := h c' (by simp [hr])
    simp [h1, h2, h3, h4]
  · rfl

lemma skipWs_of_cons (h : r.rest = c :: cs) (hc : NotBlank c) : r.skipWs = r :=
  skipWs_eq_self (by simp [h, hc])

lemma skipDigits_cons (h : r.rest = c :: cs) :
    skipDigits r = if (digit? c).isSome then skipDigits (r.step c cs) else r := by
  rw [skipDigits]
  split
  · rename_i c' cs' h'
    rw [h] at h'
    obtain ⟨rfl, rfl⟩ := List.cons.inj h'
    rfl
  · rename_i h'
    rw [h] at h'
    cases h'

lemma skipDigits_nil (h : r.rest = []) : skipDigits r = r := by
  rw [skipDigits]
  split
  · rename_i c' cs' h'
    rw [h] at h'
    cases h'
  · rfl

lemma intDigits_cons (h : r.rest = c :: cs) (sig : Nat) :
    intDigits r sig = match digit? c with
      | some d => if overflows64 sig d then (sig, (skipDigits r).index - r.index, skipDigits r)
          else intDigits (r.step c cs) (10 * sig + d)
      | none => (sig, 0, r) := by
  rw [intDigits]
  split
  · rename_i c' cs' h'
    rw [h] at h'
    obtain ⟨rfl, rfl⟩ := List.cons.inj h'
    rfl
  · rename_i h'
    rw [h] at h'
    cases h'

lemma intDigits_nil (h : r.rest = []) (sig : Nat) : intDigits r sig = (sig, 0, r) := by
  rw [intDigits]
  split
  · rename_i c' cs' h'
    rw [h] at h'
    cases h'
  · rfl

lemma fracDigits_cons (h : r.rest = c :: cs) (sig count : Nat) :
    fracDigits r sig count = match digit? c with
      | some d => if overflows64 sig d then (sig, count, true, skipDigits r)
          else fracDigits (r.step c cs) (10 * sig + d) (count + 1)
      | none => (sig, count, false, r) := by
  rw [fracDigits]
  split
  · rename_i c' cs' h'
    rw [h] at h'
    obtain ⟨rfl, rfl⟩ := List.cons.inj h'
    rfl
  · rename_i h'
    rw [h] at h'
    cases h'

lemma fracDigits_nil (h : r.rest = []) (sig count : Nat) :
    fracDigits r sig count = (sig, count, false, r) := by
  rw [fracDigits]
  split
  · rename_i c' cs' h'
    rw [h] at h'
    cases h'
  · rfl

lemma expDigits_cons (h : r.rest = c :: cs) (acc : Nat) :
    expDigits r acc = match digit? c with
      | some d => if 10 * acc + d > 2147483647 then (none, r.step c cs)
          else expDigits (r.step c cs) (10 * acc + d)
      | none => (some acc, r) := by
  rw [expDigits]
  split
  · rename_i c' cs' h'
    rw [h] at h'
    obtain ⟨rfl, rfl⟩ := List.cons.inj h'
    rfl
  · rename_i h'
    rw [h] at h'
    cases h'

lemma expDigits_nil (h : r.rest = []) (acc : Nat) : expDigits r acc = (some acc, r) := by
  rw [expDigits]
  split
  · rename_i c' cs' h'
    rw [h] at h'
    cases h'
  · rfl

@[simp] lemma fail_ne_ok {f : SyntaxFault} {a : α} : (r.fail f : Except DataError α) ≠ .ok a := by
  simp [fail]

@[simp] lemma failPeek_ne_ok {f : SyntaxFault} {a : α} : (r.failPeek f : Except DataError α) ≠ .ok a := by
  simp [failPeek]

@[simp] lemma failAfter_ne_ok {f : SyntaxFault} {a : α} :
    (r.failAfter c f : Except DataError α) ≠ .ok a := by
  simp [failAfter]

lemma rest_of_map {x : Except DataError α} {g : α → β} {r₀ : Reader} {b : β}
    (h : (x.map fun a => (g a, r₀)) = .ok (b, r')) : r' = r₀ := by
  cases x with
  | error e => cases h
  | ok a =>
    simp only [Except.map, Except.ok.injEq, Prod.mk.injEq] at h
    exact h.2.symm

lemma ok_of_map {x : Except DataError (α × Reader)} {g : α → β} {b : β}
    (h : (x.map fun p => (g p.1, p.2)) = .ok (b, r')) : ∃ a, x = .ok (a, r') := by
  cases x with
  | error e => cases h
  | ok p =>
    simp only [Except.map, Except.ok.injEq, Prod.mk.injEq] at h
    exact ⟨p.1, by rw [← h.2]⟩

/-! ### Runs of digits -/

/-- A run of digits, and after it text that does not go on with one. -/
structure DigitRun (ds rest : List Char) : Prop where
  digits : ∀ c ∈ ds, (digit? c).isSome
  stop : ∀ c ∈ rest.head?, digit? c = none

lemma DigitRun.tail {d : Char} {ds : List Char} (h : DigitRun (d :: ds) rest) : DigitRun ds rest :=
  ⟨fun c hc => h.digits c (List.mem_cons_of_mem d hc), h.stop⟩

lemma DigitRun.digit {d : Char} {ds : List Char} (h : DigitRun (d :: ds) rest) : ∃ v, digit? d = some v :=
  Option.isSome_iff_exists.1 (h.digits d List.mem_cons_self)

lemma DigitRun.stop_cons (h : DigitRun [] rest) (hr : rest = c :: cs) : digit? c = none :=
  h.stop c (by simp [hr])

lemma skipDigits_rest {ds : List Char} (h : DigitRun ds rest) (hr : r.rest = ds ++ rest) :
    (skipDigits r).rest = rest := by
  induction ds generalizing r with
  | nil =>
    rw [List.nil_append] at hr
    cases rest with
    | nil => rw [skipDigits_nil hr, hr]
    | cons c cs => rw [skipDigits_cons hr, h.stop_cons rfl]; exact hr
  | cons d ds ih =>
    obtain ⟨v, hv⟩ := h.digit
    rw [skipDigits_cons hr, hv]
    exact ih h.tail rfl

lemma intDigits_rest {ds : List Char} (h : DigitRun ds rest) (hr : r.rest = ds ++ rest) (sig : Nat) :
    (intDigits r sig).2.2.rest = rest := by
  induction ds generalizing r sig with
  | nil =>
    rw [List.nil_append] at hr
    cases rest with
    | nil => rw [intDigits_nil hr, hr]
    | cons c cs => rw [intDigits_cons hr, h.stop_cons rfl]; exact hr
  | cons d ds ih =>
    obtain ⟨v, hv⟩ := h.digit
    rw [intDigits_cons hr, hv]
    dsimp only
    split
    · exact skipDigits_rest h hr
    · exact ih h.tail rfl _

lemma fracDigits_rest {ds : List Char} (h : DigitRun ds rest) (hr : r.rest = ds ++ rest) (sig count : Nat) :
    (fracDigits r sig count).2.2.2.rest = rest := by
  induction ds generalizing r sig count with
  | nil =>
    rw [List.nil_append] at hr
    cases rest with
    | nil => rw [fracDigits_nil hr, hr]
    | cons c cs => rw [fracDigits_cons hr, h.stop_cons rfl]; exact hr
  | cons d ds ih =>
    obtain ⟨v, hv⟩ := h.digit
    rw [fracDigits_cons hr, hv]
    dsimp only
    split
    · exact skipDigits_rest h hr
    · exact ih h.tail rfl _ _

lemma expDigits_rest {ds : List Char} (h : DigitRun ds rest) (hr : r.rest = ds ++ rest) (acc : Nat) :
    (skipDigits (expDigits r acc).2).rest = rest ∧
      ∀ e, (expDigits r acc).1 = some e → (expDigits r acc).2.rest = rest := by
  induction ds generalizing r acc with
  | nil =>
    rw [List.nil_append] at hr
    have hend : (expDigits r acc) = (some acc, r) := by
      cases rest with
      | nil => exact expDigits_nil hr acc
      | cons c cs => rw [expDigits_cons hr, h.stop_cons rfl]
    rw [hend]
    exact ⟨skipDigits_rest h (by rw [hr]; rfl), fun _ _ => hr⟩
  | cons d ds ih =>
    obtain ⟨v, hv⟩ := h.digit
    rw [expDigits_cons hr, hv]
    dsimp only
    split
    · exact ⟨skipDigits_rest h.tail rfl, fun _ h => by cases h⟩
    · exact ih h.tail rfl _

/-! ### Numbers -/

/-- Text that may follow a written value inside a document: nothing, a comma, or a closing
bracket or brace. -/
def Closes (rest : List Char) : Prop := ∀ c ∈ rest.head?, c = ',' ∨ c = ']' ∨ c = '}'

lemma Closes.no_digit (h : Closes rest) : ∀ c ∈ rest.head?, digit? c = none := by
  intro c hc
  rcases h c hc with rfl | rfl | rfl <;> decide

/-- Digits, at least one. -/
def Digits (ds : List Char) : Prop := ds ≠ [] ∧ ∀ c ∈ ds, (digit? c).isSome

/-- The sign of an exponent as it may be written. -/
def ExpSign (s : List Char) : Prop := s = [] ∨ s = ['+'] ∨ s = ['-']

/-- What may follow a fraction: an exponent, or the end of the number. -/
def ExpText (exp : List Char) : Prop := exp = [] ∨ ∃ s ds, exp = 'e' :: (s ++ ds) ∧ ExpSign s ∧ Digits ds

/-- What may follow the whole digits: a point and fraction digits, or nothing. -/
def FracText (frac : List Char) : Prop := frac = [] ∨ ∃ ds, frac = '.' :: ds ∧ Digits ds

/-- A number as written after its sign: whole digits, then perhaps a point and fraction digits,
then perhaps `e`, a sign and exponent digits. -/
structure NumberText (whole frac exp : List Char) : Prop where
  whole : Digits whole
  frac : FracText frac
  exp : ExpText exp

lemma ExpText.no_digit {e : List Char} (he : ExpText e) (hstop : ∀ c ∈ rest.head?, digit? c = none) :
    ∀ c ∈ (e ++ rest).head?, digit? c = none := by
  rcases he with rfl | ⟨s, ds, rfl, -, -⟩
  · simpa using hstop
  · simp only [List.cons_append, List.head?_cons, Option.mem_def, Option.some.injEq, forall_eq']
    decide

lemma exponent_rest {s ds : List Char} {positive : Bool} {sig : Nat} {start : Int} {f : Float}
    (hs : ExpSign s) (hd : Digits ds) (hstop : ∀ c ∈ rest.head?, digit? c = none)
    (hr : r.rest = s ++ ds ++ rest) (h : exponent r positive sig start = .ok (f, r')) : r'.rest = rest := by
  obtain ⟨d, ds, rfl⟩ := List.exists_cons_of_ne_nil hd.1
  have hrun : DigitRun (d :: ds) rest := ⟨hd.2, hstop⟩
  obtain ⟨v, hv⟩ := hrun.digit
  unfold exponent at h
  split at h
  rename_i pe r₁ hsign
  -- past the sign the reader stands at the digits
  have hr₁ : r₁.rest = d :: ds ++ rest := by
    split at hsign <;> obtain ⟨-, rfl⟩ := Prod.mk.inj hsign <;> rcases hs with rfl | rfl | rfl <;>
      simp_all [digit?]
  rw [hr₁] at h
  simp only [List.cons_append, hv] at h
  obtain ⟨hskip, hsome⟩ := expDigits_rest hrun.tail (r := r₁.step d (ds ++ rest)) rfl v
  split at h
  · rename_i r₂ hx
    rw [hx] at hskip
    split at h
    · simp at h
    · obtain ⟨-, rfl⟩ := Prod.mk.inj (Except.ok.inj h)
      exact hskip
  · rename_i e r₂ hx
    rw [rest_of_map h]
    have h₂ := hsome e (by rw [hx])
    rwa [hx] at h₂

lemma decimal_rest {ds e : List Char} {positive : Bool} {sig : Nat} {before : Int} {f : Float}
    (hd : Digits ds) (he : ExpText e) (hc : Closes rest)
    (hr : r.rest = ds ++ e ++ rest) (h : decimal r positive sig before = .ok (f, r')) : r'.rest = rest := by
  have hrun : DigitRun ds (e ++ rest) := ⟨hd.2, he.no_digit hc.no_digit⟩
  have hfrac := fracDigits_rest hrun (by rw [hr, List.append_assoc]) sig 0
  unfold decimal at h
  split at h
  rename_i sig' count ov r₂ hx
  rw [hx] at hfrac
  dsimp only at hfrac
  split at h
  · split at h <;> simp at h
  · rcases he with rfl | ⟨s, es, rfl, hs, hes⟩
    · simp only [List.nil_append] at hfrac
      split at h
      · rename_i c cs hcs
        have hne : ¬ (c = 'e' ∨ c = 'E') := by
          rcases hc c (by simp [← hfrac, hcs]) with rfl | rfl | rfl <;> decide
        rw [if_neg hne] at h
        rw [rest_of_map h, hfrac]
      · rw [rest_of_map h, hfrac]
    · rw [hfrac] at h
      simp only [List.cons_append, true_or, if_true] at h
      exact exponent_rest hs hes hc.no_digit rfl h

lemma afterInt_rest {fr e : List Char} {positive : Bool} {sig extra : Nat} {n : Number}
    (hf : FracText fr) (he : ExpText e) (hc : Closes rest)
    (hr : r.rest = fr ++ e ++ rest) (h : afterInt r positive sig extra = .ok (n, r')) : r'.rest = rest := by
  unfold afterInt at h
  rcases hf with rfl | ⟨ds, rfl, hds⟩
  · rcases he with rfl | ⟨s, es, rfl, hs, hes⟩
    · -- the whole digits are the number: every reading of them keeps the reader
      simp only [List.nil_append] at hr
      split at h
      · rename_i cs hcs
        rcases hc '.' (by simp [← hr, hcs]) with h' | h' | h' <;> cases h'
      · rename_i c cs hnot hcs
        have hne : ¬ (c = 'e' ∨ c = 'E') := by
          rcases hc c (by simp [← hr, hcs]) with rfl | rfl | rfl <;> decide
        rw [if_neg hne] at h
        split at h
        · rw [rest_of_map h, hr]
        · split_ifs at h <;> obtain ⟨-, rfl⟩ := Prod.mk.inj (Except.ok.inj h) <;> exact hr
      · split at h
        · rw [rest_of_map h, hr]
        · split_ifs at h <;> obtain ⟨-, rfl⟩ := Prod.mk.inj (Except.ok.inj h) <;> exact hr
    · -- an exponent follows the whole digits
      simp only [List.nil_append, List.cons_append] at hr
      rw [hr] at h
      obtain ⟨f, hx⟩ := ok_of_map h
      exact exponent_rest hs hes hc.no_digit rfl hx
  · -- a fraction follows
    simp only [List.cons_append] at hr
    rw [hr] at h
    obtain ⟨f, hx⟩ := ok_of_map h
    exact decimal_rest hds he hc (by simp) hx

lemma number_rest {whole fr e : List Char} {positive : Bool} {n : Number}
    (ht : NumberText whole fr e) (hc : Closes rest)
    (hr : r.rest = whole ++ fr ++ e ++ rest) (h : number r positive = .ok (n, r')) : r'.rest = rest := by
  obtain ⟨d, ds, rfl⟩ := List.exists_cons_of_ne_nil ht.whole.1
  -- the text after the whole digits starts with no digit
  have hstop : ∀ c ∈ (fr ++ e ++ rest).head?, digit? c = none := by
    rcases ht.frac with rfl | ⟨fs, rfl, -⟩
    · simpa using ht.exp.no_digit hc.no_digit
    · simp only [List.cons_append, List.head?_cons, Option.mem_def, Option.some.injEq, forall_eq']
      decide
  have hrun : DigitRun (d :: ds) (fr ++ e ++ rest) := ⟨ht.whole.2, hstop⟩
  obtain ⟨v, hv⟩ := hrun.digit
  unfold number at h
  rw [hr] at h
  simp only [List.cons_append, List.append_assoc, hv] at h
  cases v with
  | zero =>
    -- a leading zero stands alone
    cases ds with
    | nil =>
      simp only [List.nil_append] at h
      split at h
      · split at h
        · simp at h
        · exact afterInt_rest ht.frac ht.exp hc (by simp [← List.append_assoc, *]) h
      · exact afterInt_rest ht.frac ht.exp hc (by simp [← List.append_assoc, *]) h
    | cons d' ds =>
      obtain ⟨v', hv'⟩ := hrun.tail.digit
      simp [hv'] at h
  | succ k =>
    exact afterInt_rest ht.frac ht.exp hc (intDigits_rest hrun.tail (by simp) _) h

/-! ### Written numbers -/

lemma digit?_isSome_of_isDigit (h : c.isDigit = true) : (digit? c).isSome := by
  simp only [Char.isDigit, ge_iff_le, Bool.and_eq_true, decide_eq_true_eq] at h
  simp only [digit?]
  rw [if_pos ⟨h.1, h.2⟩]
  rfl

lemma digits_toDigits (n : Nat) : Digits (Nat.toDigits 10 n) :=
  ⟨Nat.toDigits_ne_nil,
    fun _ hc => digit?_isSome_of_isDigit (Nat.isDigit_of_mem_toDigits (by decide) (by decide) hc)⟩

lemma Digits.take {ds : List Char} (h : Digits ds) {n : Nat} (hn : 0 < n) : Digits (ds.take n) := by
  refine ⟨?_, fun c hc => h.2 c (List.mem_of_mem_take hc)⟩
  obtain ⟨d, ds, rfl⟩ := List.exists_cons_of_ne_nil h.1
  obtain ⟨n, rfl⟩ := Nat.exists_eq_add_one_of_ne_zero (Nat.pos_iff_ne_zero.1 hn)
  simp

lemma Digits.drop {ds : List Char} (h : Digits ds) {n : Nat} (hn : n < ds.length) : Digits (ds.drop n) :=
  ⟨by simp [List.drop_eq_nil_iff]; omega, fun c hc => h.2 c (List.mem_of_mem_drop hc)⟩

lemma Digits.append {ds es : List Char} (h : Digits ds) (he : ∀ c ∈ es, (digit? c).isSome) :
    Digits (ds ++ es) :=
  ⟨by simp [h.1], fun c hc => (List.mem_append.1 hc).elim (h.2 c) (he c)⟩

lemma zeros_digits (n : Nat) : ∀ c ∈ List.replicate n '0', (digit? c).isSome := by
  intro c hc
  rw [List.eq_of_mem_replicate hc]
  rfl

/-- A written number: perhaps a minus, then a number as the reader takes it after its sign. -/
def SignedNumber (t : List Char) : Prop :=
  ∃ i f e, NumberText i f e ∧ (t = i ++ f ++ e ∨ t = '-' :: (i ++ f ++ e))

lemma signedNumber_int (i : Int) : SignedNumber (toString i).toList := by
  rw [Int.toString_eq_repr, Int.repr_eq_if]
  refine ⟨Nat.toDigits 10 (if 0 ≤ i then i.toNat else (-i).toNat), [], [],
    ⟨digits_toDigits _, .inl rfl, .inl rfl⟩, ?_⟩
  split
  · exact .inl (by simp [Nat.toList_repr])
  · exact .inr (by simp [Nat.toList_repr])

end Reader

open Reader

lemma Decimal.Scientific.layout_numberText (s : Decimal.Scientific) :
    ∃ i f e, s.layout.toList = i ++ f ++ e ∧ NumberText i f e := by
  have hds : Digits (toString s.digits).toList := by
    simpa [Nat.toList_repr] using digits_toDigits s.digits
  have hsign : ∀ b : Bool, ExpSign (if b then "-" else "+").toList := by
    intro b; cases b <;> simp [ExpSign]
  unfold Decimal.Scientific.layout
  dsimp only
  generalize (toString s.digits).toList = ds at hds ⊢
  generalize hlead : s.exp + (ds.length : Int) - 1 = lead
  have hexp : ExpText ('e' :: ((if decide (lead < 0) then "-" else "+").toList ++ (toString lead.natAbs).toList)) :=
    .inr ⟨_, _, rfl, hsign _, by simpa [Nat.toList_repr] using digits_toDigits _⟩
  by_cases h₁ : lead < -5 ∨ lead ≥ 16
  · rw [if_pos h₁]
    by_cases h₂ : ds.length > 1
    · -- scientific, with a fraction
      rw [if_pos h₂]
      refine ⟨ds.take 1, '.' :: ds.drop 1, _, ?_, hds.take Nat.one_pos, .inr ⟨_, rfl, hds.drop h₂⟩, hexp⟩
      simp
    · -- scientific, one digit
      rw [if_neg h₂]
      exact ⟨ds, [], _, by simp, hds, .inl rfl, hexp⟩
  rw [if_neg h₁]
  by_cases h₃ : s.exp ≥ 0
  · -- a whole value keeps its point
    rw [if_pos h₃]
    refine ⟨ds ++ List.replicate s.exp.toNat '0', ['.', '0'], [], ?_, hds.append (zeros_digits _),
      .inr ⟨_, rfl, ⟨by simp, by simp; rfl⟩⟩, .inl rfl⟩
    simp [String.toList_pushn]
  rw [if_neg h₃]
  by_cases h₄ : lead ≥ 0
  · -- the point falls inside the digits
    rw [if_pos h₄]
    refine ⟨ds.take (lead.toNat + 1), '.' :: ds.drop (lead.toNat + 1), [], by simp,
      hds.take (Nat.succ_pos _), .inr ⟨_, rfl, hds.drop ?_⟩, .inl rfl⟩
    omega
  · -- zeros after the point
    rw [if_neg h₄]
    refine ⟨['0'], '.' :: (List.replicate (lead.natAbs - 1) '0' ++ ds), [], ?_, ⟨by simp, by simp; rfl⟩,
      .inr ⟨_, rfl, ⟨by simp [hds.1], fun c hc => ?_⟩⟩, .inl rfl⟩
    · simp [String.toList_pushn]
    · rcases List.mem_append.1 hc with hc | hc
      · exact zeros_digits _ c hc
      · exact hds.2 c hc

lemma renderBinary_signedNumber {fmt : Decimal.BinaryFormat} {bits : Nat} {t : String}
    (h : renderBinary fmt bits = some t) : SignedNumber t.toList := by
  unfold renderBinary at h
  split at h
  · rename_i neg _
    obtain rfl := Option.some.inj h
    refine ⟨['0'], ['.', '0'], [], ⟨⟨by simp, by simp; rfl⟩, .inr ⟨_, rfl, ⟨by simp, by simp; rfl⟩⟩, .inl rfl⟩, ?_⟩
    cases neg
    · exact .inl (by simp)
    · exact .inr (by simp)
  · rename_i neg m e lc _
    obtain rfl := Option.some.inj h
    obtain ⟨i, f, e, hl, hn⟩ := (Decimal.shortest m e lc).layout_numberText
    refine ⟨i, f, e, hn, ?_⟩
    cases neg
    · exact .inl (by simp [hl])
    · exact .inr (by simp [hl])
  · cases h

namespace Reader

variable {r r' : Reader} {c : Char} {cs rest : List Char}

/-! ### Strings -/

section Strings

variable {acc : String}

lemma str_quote (h : r.rest = '"' :: cs) : str r acc = .ok (acc, r.step '"' cs) := by
  rw [str]
  split
  · rename_i h'; rw [h] at h'; cases h'
  · rename_i c' cs' h'
    rw [h] at h'
    obtain ⟨rfl, rfl⟩ := List.cons.inj h'
    rfl

lemma str_plain (h : r.rest = c :: cs) (h₁ : c ≠ '"') (h₂ : c ≠ '\\') (h₃ : ¬ c.toNat < 0x20) :
    str r acc = str (r.step c cs) (acc.push c) := by
  rw [str]
  split
  · rename_i h'; rw [h] at h'; cases h'
  · rename_i c' cs' h'
    rw [h] at h'
    obtain ⟨rfl, rfl⟩ := List.cons.inj h'
    simp [h₁, h₂, h₃]

/-- The escapes of one character, with the character each stands for. -/
def simpleEscapes : List (Char × Char) :=
  [('"', '"'), ('\\', '\\'), ('/', '/'), ('b', Char.ofNat 8), ('f', Char.ofNat 12), ('n', '\n'),
    ('r', '\r'), ('t', '\t')]

lemma str_escape {e x : Char} {es : List Char} (h : r.rest = '\\' :: e :: es) (he : (e, x) ∈ simpleEscapes) :
    str r acc = str ((r.step '\\' (e :: es)).step e es) (acc.push x) := by
  rw [str]
  split
  · rename_i h'; rw [h] at h'; cases h'
  · rename_i c' cs' h'
    rw [h] at h'
    obtain ⟨rfl, rfl⟩ := List.cons.inj h'
    simp only [simpleEscapes, List.mem_cons, Prod.mk.injEq, List.not_mem_nil, or_false] at he
    rcases he with ⟨rfl, rfl⟩ | ⟨rfl, rfl⟩ | ⟨rfl, rfl⟩ | ⟨rfl, rfl⟩ | ⟨rfl, rfl⟩ | ⟨rfl, rfl⟩ | ⟨rfl, rfl⟩ |
      ⟨rfl, rfl⟩ <;> rfl

lemma str_unicode {es : List Char} {x : Char} {r₃ : Reader} (h : r.rest = '\\' :: 'u' :: es)
    (hu : unicodeEscape ((r.step '\\' ('u' :: es)).step 'u' es) = .ok (x, r₃))
    (hlt : r₃.rest.length < r.rest.length) : str r acc = str r₃ (acc.push x) := by
  rw [str]
  split
  · rename_i h'; rw [h] at h'; cases h'
  · rename_i c' cs' h'
    rw [h] at h'
    obtain ⟨rfl, rfl⟩ := List.cons.inj h'
    simp only [hu]
    simp [hlt]

lemma hexDigit?_digitChar : ∀ d < 16, hexDigit? (Nat.digitChar d) = some d := by decide

lemma unicodeEscape_hex4 {n : Nat} {more : List Char} (hn : n < 32) (h : r.rest = (hex4 n).toList ++ more) :
    ∃ r', unicodeEscape r = .ok (Char.ofNat n, r') ∧ r'.rest = more := by
  rw [hex4_toList hn] at h
  -- the reader past the four digits
  let r' := (((r.step '0' ('0' :: (n / 16).digitChar :: (n % 16).digitChar :: more)).step '0'
      ((n / 16).digitChar :: (n % 16).digitChar :: more)).step (n / 16).digitChar
        ((n % 16).digitChar :: more)).step (n % 16).digitChar more
  have hhex : hexEscape r = .ok (n, r') := by
    unfold hexEscape
    simp only [h, List.cons_append, List.nil_append]
    rw [hexDigit?_digitChar _ (by omega), hexDigit?_digitChar _ (by omega)]
    have : ((0 * 16 + 0) * 16 + n / 16) * 16 + n % 16 = n := by omega
    simp only [show hexDigit? '0' = some 0 by decide, this]
    rfl
  refine ⟨r', ?_, rfl⟩
  unfold unicodeEscape
  simp only [hhex, bind, Except.bind]
  rw [if_neg (by omega), if_pos (by omega)]

lemma str_escapeChar {more : List Char} (h : r.rest = (escapeChar false c).toList ++ more) :
    ∃ r₁, r₁.rest = more ∧ str r acc = str r₁ (acc.push c) := by
  unfold escapeChar at h
  split_ifs at h with h₁ h₂ h₃ h₄ h₅ h₆ h₇ h₈ h₉
  · subst h₁
    exact ⟨_, rfl, str_escape (by simpa using h) (by simp [simpleEscapes])⟩
  · subst h₂
    exact ⟨_, rfl, str_escape (by simpa using h) (by simp [simpleEscapes])⟩
  · subst h₃
    exact ⟨_, rfl, str_escape (by simpa using h) (by simp [simpleEscapes])⟩
  · subst h₄
    exact ⟨_, rfl, str_escape (by simpa using h) (by simp [simpleEscapes])⟩
  · subst h₅
    exact ⟨_, rfl, str_escape (by simpa using h) (by simp [simpleEscapes])⟩
  · have hc : c = Char.ofNat 8 := by rw [← h₆, Char.ofNat_toNat]
    subst hc
    exact ⟨_, rfl, str_escape (by simpa using h) (by simp [simpleEscapes])⟩
  · have hc : c = Char.ofNat 12 := by rw [← h₇, Char.ofNat_toNat]
    subst hc
    exact ⟨_, rfl, str_escape (by simpa using h) (by simp [simpleEscapes])⟩
  · -- a control character is written as four hexadecimal digits
    simp only [String.toList_append, List.append_assoc] at h
    obtain ⟨r₃, hu, hr₃⟩ := unicodeEscape_hex4 (r := (r.step '\\' ('u' :: ((hex4 c.toNat).toList ++ more))).step
      'u' ((hex4 c.toNat).toList ++ more)) h₈ rfl
    refine ⟨r₃, hr₃, ?_⟩
    rw [Char.ofNat_toNat] at hu
    refine str_unicode (by simpa using h) hu ?_
    rw [hr₃, h, hex4_toList h₈]
    simp
    omega
  · simp at h₉
  · exact ⟨_, rfl, str_plain (by simpa using h) h₁ h₂ h₈⟩

lemma str_written (acc : String) (cs : List Char)
    (h : r.rest = (cs.flatMap fun c => (escapeChar false c).toList) ++ '"' :: rest) :
    ∃ r', str r acc = .ok (acc ++ String.ofList cs, r') ∧ r'.rest = rest := by
  induction cs generalizing r acc with
  | nil => exact ⟨_, by simpa using str_quote h, rfl⟩
  | cons c cs ih =>
    rw [List.flatMap_cons, List.append_assoc] at h
    obtain ⟨r₁, hr₁, heq⟩ := str_escapeChar h
    obtain ⟨r', hstr, hr'⟩ := ih (acc.push c) hr₁
    refine ⟨r', ?_, hr'⟩
    rw [heq, hstr, String.push_eq_append, String.append_assoc, String.ofList_cons]

lemma str_quote_written (s : String) (h : '"' :: cs = (quote false s).toList ++ rest) :
    ∃ r', str (r.step '"' cs) = .ok (s, r') ∧ r'.rest = rest := by
  simp only [quote_toList, List.cons_append, List.cons.injEq, true_and] at h
  obtain ⟨r', hstr, hr'⟩ := str_written (r := r.step '"' cs) "" _ (by simpa using h)
  exact ⟨r', by simpa using hstr, hr'⟩

end Strings

/-! ### Documents -/

section Documents

lemma ident_written (ks : List Char) (h : r.rest = ks ++ rest) : ∃ r', ident r ks = .ok r' ∧ r'.rest = rest := by
  induction ks generalizing r with
  | nil => exact ⟨r, rfl, h⟩
  | cons k ks ih =>
    obtain ⟨r', h', hr'⟩ := ih (r := r.step k (ks ++ rest)) rfl
    refine ⟨r', ?_, hr'⟩
    rw [ident, h]
    simp [h']

lemma colon_of_cons (h : r.rest = ':' :: cs) : colon r = .ok (r.step ':' cs) := by
  unfold colon
  rw [skipWs_of_cons h (by decide)]
  simp [h]

lemma endSeq_of_cons (h : r.rest = ']' :: cs) : endSeq r = .ok (r.step ']' cs) := by
  unfold endSeq
  rw [skipWs_of_cons h (by decide)]
  simp [h]

lemma endMap_of_cons (h : r.rest = '}' :: cs) : endMap r = .ok (r.step '}' cs) := by
  unfold endMap
  rw [skipWs_of_cons h (by decide)]
  simp [h]

lemma not_blank_of_digit (h : (digit? c).isSome) : NotBlank c ∧ c ≠ ']' ∧ c ≠ '}' := by
  refine ⟨⟨?_, ?_, ?_, ?_⟩, ?_, ?_⟩ <;> rintro rfl <;> simp [digit?] at h

lemma written_head (j : Json) :
    ∃ c, (j.renderWith false).toList.head? = some c ∧ NotBlank c ∧ c ≠ ']' ∧ c ≠ '}' := by
  have hnum : ∀ t, SignedNumber t → ∃ c, t.head? = some c ∧ NotBlank c ∧ c ≠ ']' ∧ c ≠ '}' := by
    rintro t ⟨i, f, e, hn, rfl | rfl⟩
    · obtain ⟨d, ds, rfl⟩ := List.exists_cons_of_ne_nil hn.whole.1
      exact ⟨d, rfl, not_blank_of_digit (hn.whole.2 d List.mem_cons_self)⟩
    · exact ⟨'-', rfl, by decide, by decide, by decide⟩
  cases j with
  | null => exact ⟨'n', by simp [Json.renderWith], by decide, by decide, by decide⟩
  | bool b =>
    cases b
    · exact ⟨'f', by simp [Json.renderWith], by decide, by decide, by decide⟩
    · exact ⟨'t', by simp [Json.renderWith], by decide, by decide, by decide⟩
  | num n =>
    cases n with
    | int i => exact hnum _ (by simpa [Json.renderWith] using signedNumber_int i)
    | float f =>
      simp only [Json.renderWith]
      cases hf : renderFloat? f with
      | none => exact ⟨'n', by simp, by decide, by decide, by decide⟩
      | some t => exact hnum _ (by simpa using renderBinary_signedNumber hf)
  | str s => exact ⟨'"', by simp [Json.renderWith, quote_toList], by decide, by decide, by decide⟩
  | arr xs => exact ⟨'[', by simp [Json.renderWith], by decide, by decide, by decide⟩
  | obj kvs => exact ⟨'\x7b', by simp [Json.renderWith], by decide, by decide, by decide⟩

lemma written_cons (j : Json) :
    ∃ c cs, (j.renderWith false).toList = c :: cs ∧ NotBlank c ∧ c ≠ ']' ∧ c ≠ '}' := by
  obtain ⟨c, hc, hb, h₁, h₂⟩ := written_head j
  obtain ⟨cs, hcs⟩ : ∃ cs, (j.renderWith false).toList = c :: cs := by
    cases hj : (j.renderWith false).toList with
    | nil => rw [hj] at hc; cases hc
    | cons c' cs => rw [hj] at hc; obtain rfl := Option.some.inj hc; exact ⟨cs, rfl⟩
  exact ⟨c, cs, hcs, hb, h₁, h₂⟩

/-- The items of an array from some item on, as written: the first as it is, or each after a
comma. -/
def itemsText (first : Bool) (xs : List Json) : List Char :=
  if first then (Json.renderItems false xs).toList else xs.flatMap fun x => ',' :: (x.renderWith false).toList

lemma itemsText_nil (first : Bool) : itemsText first [] = [] := by
  cases first <;> simp [itemsText, Json.renderItems]

lemma itemsText_cons (first : Bool) (x : Json) (xs : List Json) :
    itemsText first (x :: xs) = (if first then [] else [',']) ++ (x.renderWith false).toList ++ itemsText false xs := by
  cases first
  · simp [itemsText]
  · induction xs generalizing x with
    | nil => simp [itemsText, Json.renderItems]
    | cons y ys ih =>
      have hy := ih y
      simp only [itemsText, if_true, List.nil_append] at hy ⊢
      simp [Json.renderItems, hy]

/-- A member as written: its quoted key, a colon and its value. -/
def memberText (k : String) (v : Json) : List Char := (quote false k).toList ++ ':' :: (v.renderWith false).toList

/-- The members of an object from some member on, as written: the first as it is, or each after
a comma. -/
def membersText (first : Bool) (kvs : List (String × Json)) : List Char :=
  if first then (Json.renderMembers false kvs).toList else kvs.flatMap fun p => ',' :: memberText p.1 p.2

lemma membersText_nil (first : Bool) : membersText first [] = [] := by
  cases first <;> simp [membersText, Json.renderMembers]

lemma membersText_cons (first : Bool) (k : String) (v : Json) (kvs : List (String × Json)) :
    membersText first ((k, v) :: kvs) = (if first then [] else [',']) ++ memberText k v ++ membersText false kvs := by
  cases first
  · simp [membersText]
  · induction kvs generalizing k v with
    | nil => simp [membersText, memberText, Json.renderMembers]
    | cons p ps ih =>
      obtain ⟨k', v'⟩ := p
      have hp := ih k' v'
      simp only [membersText, if_true, List.nil_append] at hp ⊢
      simp [Json.renderMembers, memberText, hp]

lemma closes_itemsText (xs : List Json) : Closes (itemsText false xs ++ ']' :: rest) := by
  cases xs with
  | nil => simp [itemsText_nil, Closes]
  | cons x xs => simp [itemsText_cons, Closes]

lemma closes_membersText (kvs : List (String × Json)) : Closes (membersText false kvs ++ '}' :: rest) := by
  cases kvs with
  | nil => simp [membersText_nil, Closes]
  | cons p kvs => obtain ⟨k, v⟩ := p; simp [membersText_cons, Closes]

/-- A read of a written document with `fuel` steps that succeeds stops at its end. -/
def ValueWritten (fuel : Nat) : Prop :=
  ∀ depth (j : Json) (r r' : Reader) rest x, r.rest = (j.renderWith false).toList ++ rest → Closes rest →
    value fuel depth r = .ok (x, r') → r'.rest = rest

/-- A read of written array items with `fuel` steps that succeeds stops at the closing bracket. -/
def ItemsWritten (fuel : Nat) : Prop :=
  ∀ depth first acc xs (r r' : Reader) rest ys, r.rest = itemsText first xs ++ ']' :: rest →
    items fuel depth first acc r = .ok (ys, r') → r'.rest = ']' :: rest

/-- A read of written object members with `fuel` steps that succeeds stops at the closing
brace. -/
def MembersWritten (fuel : Nat) : Prop :=
  ∀ depth first acc kvs (r r' : Reader) rest m, r.rest = membersText first kvs ++ '}' :: rest →
    members fuel depth first acc r = .ok (m, r') → r'.rest = '}' :: rest

lemma value_signedNumber {t : List Char} {fuel depth : Nat} {x : Json} (ht : SignedNumber t) (hc : Closes rest)
    (hr : r.rest = t ++ rest) (h : value (fuel + 1) depth r = .ok (x, r')) : r'.rest = rest := by
  obtain ⟨i, f, e, hn, rfl | rfl⟩ := ht
  · -- no sign: the reader starts at the first digit
    obtain ⟨d, ds, rfl⟩ := List.exists_cons_of_ne_nil hn.whole.1
    have hd := hn.whole.2 d List.mem_cons_self
    have hne : d ≠ 'n' ∧ d ≠ 't' ∧ d ≠ 'f' ∧ d ≠ '-' := by
      refine ⟨?_, ?_, ?_, ?_⟩ <;> rintro rfl <;> simp [digit?] at hd
    rw [value] at h
    dsimp only at h
    rw [skipWs_of_cons (by rw [hr]; rfl) (not_blank_of_digit hd).1, hr] at h
    simp only [List.cons_append, List.append_assoc, if_neg hne.1, if_neg hne.2.1, if_neg hne.2.2.1,
      if_neg hne.2.2.2, hd, if_true] at h
    obtain ⟨n, hx⟩ := ok_of_map h
    exact number_rest hn hc (by rw [hr]) hx
  · -- a minus, then the number
    rw [value] at h
    dsimp only at h
    rw [skipWs_of_cons hr (by decide), hr] at h
    simp +decide only [List.cons_append, ↓reduceIte] at h
    obtain ⟨n, hx⟩ := ok_of_map h
    exact number_rest hn hc (by simp) hx

lemma rest_of_ident {k : Char} {ks : List Char} {v w : Json}
    (h : ((ident (r.step k (ks ++ rest)) ks).map fun r => (v, r)) = .ok (w, r')) : r'.rest = rest := by
  obtain ⟨r₁, hi, hr₁⟩ := ident_written ks (r := r.step k (ks ++ rest)) rfl
  rw [hi] at h
  obtain ⟨-, rfl⟩ := Prod.mk.inj (Except.ok.inj h)
  exact hr₁

lemma value_keyword {fuel depth : Nat} {x : Json} {k : Char} {ks : List Char}
    (hk : k = 'n' ∧ ks = ['u', 'l', 'l'] ∨ k = 't' ∧ ks = ['r', 'u', 'e'] ∨ k = 'f' ∧ ks = ['a', 'l', 's', 'e'])
    (hr : r.rest = k :: (ks ++ rest)) (h : value (fuel + 1) depth r = .ok (x, r')) : r'.rest = rest := by
  rw [value] at h
  dsimp only at h
  rcases hk with ⟨rfl, rfl⟩ | ⟨rfl, rfl⟩ | ⟨rfl, rfl⟩ <;>
  · rw [skipWs_of_cons hr (by decide), hr] at h
    simp +decide only [↓reduceIte] at h
    exact rest_of_ident h

lemma valueWritten_succ {fuel : Nat} (hitems : ItemsWritten fuel) (hmembers : MembersWritten fuel) :
    ValueWritten (fuel + 1) := by
  intro depth j r r' rest x hr hc h
  cases j with
  | null => exact value_keyword (Or.inl ⟨rfl, rfl⟩) (by rw [hr]; rfl) h
  | bool b =>
    cases b
    · exact value_keyword (Or.inr (Or.inr ⟨rfl, rfl⟩)) (by rw [hr]; rfl) h
    · exact value_keyword (Or.inr (Or.inl ⟨rfl, rfl⟩)) (by rw [hr]; rfl) h
  | num n =>
    cases n with
    | int i => exact value_signedNumber (signedNumber_int i) hc (by simpa [Json.renderWith] using hr) h
    | float f =>
      simp only [Json.renderWith] at hr
      cases hf : renderFloat? f with
      | none =>
        -- a value that is not finite is written as null
        exact value_keyword (Or.inl ⟨rfl, rfl⟩) (by rw [hr, hf]; rfl) h
      | some t => exact value_signedNumber (renderBinary_signedNumber hf) hc (by simpa [hf] using hr) h
  | str s =>
    obtain ⟨q, hq⟩ : ∃ q, (quote false s).toList = '"' :: q := ⟨_, by rw [quote_toList, List.cons_append]⟩
    have hr' : r.rest = '"' :: (q ++ rest) := by simpa [Json.renderWith, hq] using hr
    rw [value] at h
    dsimp only at h
    rw [skipWs_of_cons hr' (by decide), hr'] at h
    simp +decide only [↓reduceIte] at h
    obtain ⟨a, hx⟩ := ok_of_map h
    obtain ⟨r₂, hstr, hr₂⟩ := str_quote_written s (r := r)
      (show '"' :: (q ++ rest) = (quote false s).toList ++ rest by rw [hq, List.cons_append])
    rw [hx] at hstr
    obtain ⟨-, rfl⟩ := Prod.mk.inj (Except.ok.inj hstr)
    exact hr₂
  | arr xs =>
    have hr' : r.rest = '[' :: (itemsText true xs ++ ']' :: rest) := by simpa [Json.renderWith, itemsText] using hr
    rw [value] at h
    dsimp only at h
    rw [skipWs_of_cons hr' (by decide), hr'] at h
    simp +decide only [↓reduceIte] at h
    split at h
    · simp at h
    · split at h
      · rename_i ys r₁ hys
        rw [endSeq_of_cons (hitems _ _ _ _ _ r₁ rest ys rfl hys)] at h
        obtain ⟨-, rfl⟩ := Prod.mk.inj (Except.ok.inj h)
        rfl
      · cases h
  | obj kvs =>
    have hr' : r.rest = '\x7b' :: (membersText true kvs ++ '\x7d' :: rest) := by
      simpa [Json.renderWith, membersText] using hr
    rw [value] at h
    dsimp only at h
    rw [skipWs_of_cons hr' (by decide), hr'] at h
    simp +decide only [↓reduceIte] at h
    split at h
    · simp at h
    · split at h
      · rename_i m r₁ hm
        rw [endMap_of_cons (hmembers _ _ _ _ _ r₁ rest m rfl hm)] at h
        obtain ⟨-, rfl⟩ := Prod.mk.inj (Except.ok.inj h)
        rfl
      · cases h

lemma itemsWritten_succ {fuel : Nat} (hvalue : ValueWritten fuel) (hitems : ItemsWritten fuel) :
    ItemsWritten (fuel + 1) := by
  intro depth first acc xs r r' rest ys hr h
  rw [items] at h
  dsimp only at h
  cases xs with
  | nil =>
    rw [itemsText_nil, List.nil_append] at hr
    rw [skipWs_of_cons hr (by decide), hr] at h
    simp +decide only [↓reduceIte] at h
    obtain ⟨-, rfl⟩ := Prod.mk.inj (Except.ok.inj h)
    exact hr
  | cons x xs =>
    obtain ⟨c₀, cs₀, hcs, hnb, hnc, -⟩ := written_cons x
    cases first
    · -- a comma, then the item
      simp only [itemsText_cons, hcs, Bool.false_eq_true, if_false, List.cons_append, List.nil_append,
        List.append_assoc] at hr
      rw [skipWs_of_cons hr (by decide), hr] at h
      simp +decide only [↓reduceIte] at h
      have hskip : (r.step ',' (c₀ :: (cs₀ ++ (itemsText false xs ++ ']' :: rest)))).skipWs =
          r.step ',' (c₀ :: (cs₀ ++ (itemsText false xs ++ ']' :: rest))) := skipWs_of_cons rfl hnb
      rw [hskip] at h
      simp only [step_rest] at h
      split at h
      · -- the separator read gave a fault: it cannot, a value follows the comma
        rename_i e hsep
        split at hsep
        · rename_i tl heq
          exact absurd (List.cons.inj heq).1 hnc
        · rename_i heq
          exact absurd heq (List.cons_ne_nil _ _)
        · cases hsep
      · rename_i r₁ hsep
        split at hsep
        · rename_i tl heq
          exact absurd (List.cons.inj heq).1 hnc
        · rename_i heq
          exact absurd heq (List.cons_ne_nil _ _)
        · obtain rfl := (Except.ok.inj hsep).symm
          split at h
          · rename_i x' r₂ hx
            exact hitems depth false (x' :: acc) xs r₂ r' rest ys
              (hvalue depth x _ r₂ _ x' (by simp [hcs]) (closes_itemsText xs) hx) h
          · cases h
    · -- the first item
      simp only [itemsText_cons, hcs, if_true, List.cons_append, List.nil_append, List.append_assoc] at hr
      rw [skipWs_of_cons hr hnb, hr] at h
      simp only [not_true_eq_false, and_false, if_false, if_true, if_neg hnc] at h
      split at h
      · rename_i x' r₂ hx
        exact hitems depth false (x' :: acc) xs r₂ r' rest ys
          (hvalue depth x r r₂ _ x' (by rw [hr, hcs]; simp) (closes_itemsText xs) hx) h
      · cases h

lemma membersWritten_succ {fuel : Nat} (hvalue : ValueWritten fuel) (hmembers : MembersWritten fuel) :
    MembersWritten (fuel + 1) := by
  intro depth first acc kvs r r' rest m hr h
  rw [members] at h
  dsimp only at h
  cases kvs with
  | nil =>
    rw [membersText_nil, List.nil_append] at hr
    rw [skipWs_of_cons hr (by decide), hr] at h
    simp +decide only [↓reduceIte] at h
    obtain ⟨-, rfl⟩ := Prod.mk.inj (Except.ok.inj h)
    exact hr
  | cons p kvs =>
    obtain ⟨k, v⟩ := p
    obtain ⟨q, hq⟩ : ∃ q, (quote false k).toList = '"' :: q := ⟨_, by rw [quote_toList, List.cons_append]⟩
    -- the text from the member's opening quote on
    have htail : membersText first ((k, v) :: kvs) ++ '}' :: rest = (if first then [] else [',']) ++
        '"' :: (q ++ ':' :: ((v.renderWith false).toList ++ (membersText false kvs ++ '}' :: rest))) := by
      simp [membersText_cons, memberText, hq]
    rw [htail] at hr
    obtain ⟨c, cs, hcs, hb, hc⟩ : ∃ c cs, r.rest = c :: cs ∧ NotBlank c ∧ c ≠ '}' := by
      cases first
      · exact ⟨_, _, by simpa using hr, by decide, by decide⟩
      · exact ⟨_, _, by simpa using hr, by decide, by decide⟩
    rw [skipWs_of_cons hcs hb, hcs] at h
    simp only [if_neg hc] at h
    split at h
    · -- the separator was read with a fault: it cannot be, a member follows
      rename_i e hnext
      cases first
      · simp only [hr] at hcs
        obtain ⟨rfl, rfl⟩ := hcs
        simp at hnext
      · simp at hnext
    · rename_i R hnext
      -- past the separator the reader stands at the opening quote
      have hR : R.rest = '"' :: (q ++ ':' :: ((v.renderWith false).toList ++ (membersText false kvs ++ '}' :: rest))) := by
        cases first
        · simp only [hr] at hcs
          obtain ⟨rfl, rfl⟩ := hcs
          simp at hnext
          rw [← hnext, skipWs_of_cons (by rfl) (by decide)]
          rfl
        · simp at hnext
          rw [← hnext]
          simpa using hr
      rw [hR] at h
      simp only at h
      obtain ⟨r₂, hstr, hr₂⟩ := str_quote_written k (r := R)
        (show '"' :: (q ++ ':' :: ((v.renderWith false).toList ++ (membersText false kvs ++ '}' :: rest))) =
          (quote false k).toList ++ ':' :: ((v.renderWith false).toList ++ (membersText false kvs ++ '}' :: rest))
          by rw [hq, List.cons_append])
      rw [hstr] at h
      simp only at h
      rw [colon_of_cons hr₂] at h
      simp only at h
      split at h
      · rename_i v' r₃ hv
        exact hmembers depth false _ kvs r₃ r' rest m
          (hvalue depth v _ r₃ _ v' rfl (closes_membersText kvs) hv) h
      · cases h

/-- **A written document is read exactly.** With any number of steps, a read of a written
document that succeeds stops at its end, and so do reads of written array items and object
members, at their closing bracket and brace. -/
theorem read_written (fuel : Nat) : ValueWritten fuel ∧ ItemsWritten fuel ∧ MembersWritten fuel := by
  induction fuel with
  | zero =>
    refine ⟨?_, ?_, ?_⟩
    · intro depth j r r' rest x _ _ h
      simp [value] at h
    · intro depth first acc xs r r' rest ys _ h
      simp [items] at h
    · intro depth first acc kvs r r' rest m _ h
      simp [members] at h
  | succ fuel ih =>
    obtain ⟨hv, hi, hm⟩ := ih
    exact ⟨valueWritten_succ hi hm, itemsWritten_succ hv hi, membersWritten_succ hv hm⟩

end Documents

end Reader

end IntegrationFlow
