import IntegrationFlow.Json.View
import Mathlib

/-!
Converting values to declared types is idempotent (`coerce_coerce`), and a whole-number type
reads numbers and trimmed numeric texts, rounding toward zero and clamping to 64 bits
(`coerce_integer`). A double is read off its bits as `±m · 2^e`.
-/

namespace IntegrationFlow

/-- A rational rounded toward zero. -/
def towardZero (x : ℚ) : ℤ := if 0 ≤ x then ⌊x⌋ else ⌈x⌉

lemma towardZero_of_nonneg {x : ℚ} (h : 0 ≤ x) : towardZero x = ⌊x⌋ := if_pos h

lemma towardZero_intCast (n : ℤ) : towardZero n = n := by
  unfold towardZero
  split_ifs
  · exact Int.floor_intCast n
  · exact Int.ceil_intCast n

lemma towardZero_neg (x : ℚ) : towardZero (-x) = -towardZero x := by
  rcases lt_trichotomy x 0 with h | rfl | h
  · rw [towardZero_of_nonneg (by linarith), towardZero, if_neg (not_le.2 h), Int.floor_neg]
  · simp [towardZero]
  · rw [towardZero, if_neg (by linarith), Int.ceil_neg, towardZero_of_nonneg h.le]

namespace Decimal

/-- The value of a binary value, when it is finite. -/
def Binary.value? : Binary → Option ℚ
  | .zero _ => some 0
  | .finite neg m e _ => some (if neg then -((m : ℚ) * 2 ^ e) else (m : ℚ) * 2 ^ e)
  | .infinite _ | .nan => none

lemma floor_mul_zpow (m : ℕ) (e : ℤ) :
    ⌊(m : ℚ) * 2 ^ e⌋ = if 0 ≤ e then ((m * Nat.pow 2 e.toNat : ℕ) : ℤ) else ((m / Nat.pow 2 (-e).toNat : ℕ) : ℤ) := by
  split_ifs with he
  · obtain ⟨k, rfl⟩ := Int.eq_ofNat_of_zero_le he
    rw [zpow_natCast, Int.toNat_natCast, ← Int.floor_natCast (R := ℚ) (m * Nat.pow 2 k)]
    push_cast [Nat.pow_eq]
    rfl
  · obtain ⟨k, hk⟩ : ∃ k : ℕ, e = -(k : ℤ) := ⟨(-e).toNat, by omega⟩
    subst hk
    have hdiv : (m : ℚ) * 2 ^ (-(k : ℤ)) = (m : ℚ) / ((Nat.pow 2 k : ℕ) : ℚ) := by
      rw [zpow_neg, zpow_natCast, Nat.pow_eq]
      push_cast
      ring
    rw [hdiv, Int.floor_div_natCast, Int.floor_natCast, neg_neg, Int.toNat_natCast]
    push_cast
    rfl

lemma Binary.whole?_eq {b : Binary} {x : ℚ} (h : b.value? = some x) : b.whole? = some (towardZero x) := by
  cases b with
  | zero neg =>
    obtain rfl : (0 : ℚ) = x := Option.some.inj h
    simp [Binary.whole?, towardZero]
  | finite neg m e lc =>
    obtain rfl := Option.some.inj h
    have hpos : (0 : ℚ) ≤ (m : ℚ) * 2 ^ e := by positivity
    -- the sign is taken off, the magnitude rounded down
    have hmag : towardZero ((m : ℚ) * 2 ^ e) =
        if 0 ≤ e then ((m * Nat.pow 2 e.toNat : ℕ) : ℤ) else ((m / Nat.pow 2 (-e).toNat : ℕ) : ℤ) := by
      rw [towardZero_of_nonneg hpos, floor_mul_zpow]
    cases neg with
    | false => simp only [Binary.whole?, hmag, Bool.false_eq_true, if_false]
    | true => simp only [Binary.whole?, towardZero_neg, hmag, if_true]
  | infinite neg => cases h
  | nan => cases h

lemma truncSigned64_of_value? {f : Float} {x : ℚ} (h : (binary64.decode f.toBits.toNat).value? = some x) :
    truncSigned64 f = max (-9223372036854775808) (min 9223372036854775807 (towardZero x)) := by
  unfold truncSigned64
  split
  · rename_i neg hb
    rw [hb] at h
    cases h
  · rw [Binary.whole?_eq h]
    rfl

lemma truncSigned64_le (f : Float) : truncSigned64 f ≤ 9223372036854775807 := by
  unfold truncSigned64
  split
  · split <;> omega
  · omega

lemma parseInt64?_le {s : String} {n : ℤ} (h : parseInt64? s = some n) : n ≤ 9223372036854775807 := by
  unfold parseInt64? at h
  simp only [Option.ite_none_left_eq_some, Option.ite_none_right_eq_some, Option.some.injEq] at h
  obtain ⟨-, hr, rfl⟩ := h
  exact hr.2

end Decimal

/-- The finite value of a number. -/
def Number.value? : Number → Option ℚ
  | .int n => some n
  | .float f => (Decimal.binary64.decode f.toBits.toNat).value?

namespace Json

/-! ### Each conversion at most once -/

lemma coerceInt_coerceInt (v : Json) : v.coerceInt.coerceInt = v.coerceInt := by
  cases v with
  | num n =>
    cases n with
    | int n =>
      by_cases h : n ≤ 9223372036854775807
      · simp only [coerceInt, if_pos h]
      · simp [coerceInt, h]
    | float f => simp [coerceInt, Decimal.truncSigned64_le f]
  | str s =>
    cases hs : Decimal.parseInt64? (Text.trim s) with
    | none => simp only [coerceInt, hs]
    | some n => simp [coerceInt, hs, Decimal.parseInt64?_le hs]
  | null | bool _ | arr _ | obj _ => rfl

lemma coerceFloat_float (f : Float) : (Json.num (.float f)).coerceFloat = .num (.float f) := by
  simp only [coerceFloat, lenientFloat?, Number.toFloat]
  split_ifs <;> rfl

lemma coerceFloat_coerceFloat (v : Json) : v.coerceFloat.coerceFloat = v.coerceFloat := by
  -- the value is kept, or becomes a double, which stays
  have h : v.coerceFloat = v ∨ ∃ f, v.coerceFloat = .num (.float f) := by
    unfold coerceFloat
    cases v.lenientFloat? with
    | none => exact .inl rfl
    | some f =>
      dsimp only
      split_ifs
      · exact .inl rfl
      · exact .inr ⟨f, rfl⟩
  rcases h with h | ⟨f, h⟩
  · rw [h]
    exact h
  · rw [h, coerceFloat_float]

lemma coerceBool_coerceBool (v : Json) : v.coerceBool.coerceBool = v.coerceBool := by
  -- the value is kept, or becomes a boolean, which stays
  have h : v.coerceBool = v ∨ ∃ b, v.coerceBool = .bool b := by
    cases v with
    | str s =>
      simp only [coerceBool]
      split_ifs
      · exact .inr ⟨true, rfl⟩
      · exact .inr ⟨false, rfl⟩
      · exact .inl rfl
    | num n => exact .inr ⟨_, rfl⟩
    | null | bool _ | arr _ | obj _ => exact .inl rfl
  rcases h with h | ⟨b, h⟩
  · rw [h]
    exact h
  · rw [h]
    rfl

/-- **Converting is idempotent**: a value converted to a declared type converts to itself. -/
theorem coerce_coerce (v : Json) (t : String) : (v.coerce t).coerce t = v.coerce t := by
  unfold coerce
  dsimp only
  split_ifs
  · exact coerceInt_coerceInt v
  · exact coerceFloat_coerceFloat v
  · exact coerceBool_coerceBool v
  · rfl

/-! ### Whole-number types -/

/-- Whether a declared type names whole numbers: `int`, `integer` or `entero`, in any ASCII case. -/
def IsIntegerType (t : String) : Prop := t.toLower = "int" ∨ t.toLower = "integer" ∨ t.toLower = "entero"

instance (t : String) : Decidable (IsIntegerType t) := inferInstanceAs (Decidable (_ ∨ _ ∨ _))

/-- What a whole-number type reads a value as: a number, or a text that reads as a signed
64-bit number once trimmed. -/
def ReadsAsInteger (v : Json) : Prop :=
  (∃ n, v = .num n) ∨ ∃ s n, v = .str s ∧ Decimal.parseInt64? (Text.trim s) = some n

lemma coerce_of_isIntegerType {t : String} (ht : IsIntegerType t) (v : Json) : v.coerce t = v.coerceInt := by
  unfold coerce
  exact if_pos ht

lemma isSigned64_coerceInt_iff (v : Json) : v.coerceInt.isSigned64 = true ↔ v.ReadsAsInteger := by
  cases v with
  | num n =>
    refine iff_of_true ?_ (.inl ⟨n, rfl⟩)
    cases n with
    | int n =>
      by_cases h : n ≤ 9223372036854775807
      · simp [coerceInt, h, isSigned64]
      · simp [coerceInt, h, isSigned64]
    | float f => simp [coerceInt, isSigned64, Decimal.truncSigned64_le f]
  | str s =>
    cases hs : Decimal.parseInt64? (Text.trim s) with
    | none => simp [coerceInt, hs, isSigned64, ReadsAsInteger]
    | some n => simp [coerceInt, hs, isSigned64, ReadsAsInteger, Decimal.parseInt64?_le hs]
  | null | bool _ | arr _ | obj _ => simp [coerceInt, isSigned64, ReadsAsInteger]

lemma coerceInt_of_not_readsAsInteger {v : Json} (h : ¬v.ReadsAsInteger) : v.coerceInt = v := by
  cases v with
  | num n => exact absurd (.inl ⟨n, rfl⟩) h
  | str s =>
    cases hs : Decimal.parseInt64? (Text.trim s) with
    | none => simp [coerceInt, hs]
    | some n => exact absurd (.inr ⟨s, n, rfl, hs⟩) h
  | null | bool _ | arr _ | obj _ => rfl

lemma coerceInt_num {n : Number} {x : ℚ} (hn : (Json.num n).isSigned64 = false) (hx : n.value? = some x) :
    (Json.num n).coerceInt = .num (.int (max (-9223372036854775808) (min 9223372036854775807 (towardZero x)))) := by
  cases n with
  | int n =>
    obtain rfl : (n : ℚ) = x := Option.some.inj hx
    have hbig : ¬n ≤ 9223372036854775807 := by simpa [isSigned64] using hn
    rw [towardZero_intCast]
    simp only [coerceInt, if_neg hbig]
    congr 2
    omega
  | float f => simp only [coerceInt, Decimal.truncSigned64_of_value? hx]

lemma coerce_integer {t : String} (ht : IsIntegerType t) :
    (∀ v : Json, (v.coerce t).isSigned64 = true ↔ v.ReadsAsInteger) ∧
    (∀ v : Json, ¬v.ReadsAsInteger → v.coerce t = v) ∧
    (∀ v : Json, v.isSigned64 = true → v.coerce t = v) ∧
    (∀ (n : Number) (x : ℚ), (Json.num n).isSigned64 = false → n.value? = some x →
      (Json.num n).coerce t = .num (.int (max (-9223372036854775808) (min 9223372036854775807 (towardZero x))))) ∧
    (∀ s n, Decimal.parseInt64? (Text.trim s) = some n → (Json.str s).coerce t = .num (.int n)) := by
  refine ⟨fun v => ?_, fun v hv => ?_, fun v hv => ?_, fun n x hn hx => ?_, fun s n hs => ?_⟩
    <;> rw [coerce_of_isIntegerType ht]
  · exact isSigned64_coerceInt_iff v
  · exact coerceInt_of_not_readsAsInteger hv
  · -- only a whole number is one, and it stays
    cases v with
    | num n =>
      cases n with
      | int n =>
        have h : n ≤ 9223372036854775807 := by simpa [isSigned64] using hv
        simp only [coerceInt, if_pos h]
      | float f => simp [isSigned64] at hv
    | null | bool _ | str _ | arr _ | obj _ => simp [isSigned64] at hv
  · exact coerceInt_num hn hx
  · simp [coerceInt, hs]

/-- **Declared types.** Converting twice to a declared type is converting once, and the
whole-number types convert as `coerce_integer` says. -/
theorem coerce_idempotent_and_integer :
    (∀ (v : Json) (t : String), (v.coerce t).coerce t = v.coerce t) ∧
    ∀ t : String, IsIntegerType t →
      (∀ v : Json, (v.coerce t).isSigned64 = true ↔ v.ReadsAsInteger) ∧
      (∀ v : Json, ¬v.ReadsAsInteger → v.coerce t = v) ∧
      (∀ v : Json, v.isSigned64 = true → v.coerce t = v) ∧
      (∀ (n : Number) (x : ℚ), (Json.num n).isSigned64 = false → n.value? = some x →
        (Json.num n).coerce t = .num (.int (max (-9223372036854775808) (min 9223372036854775807 (towardZero x))))) ∧
      (∀ s n, Decimal.parseInt64? (Text.trim s) = some n → (Json.str s).coerce t = .num (.int n)) :=
  ⟨coerce_coerce, fun _ ht => coerce_integer ht⟩

/-- A text with blanks around a negative number converts to it under `Entero`. -/
theorem entero_reads_trimmed_text :
    IsIntegerType "Entero" ∧ (Json.str " -17 ").coerce "Entero" = .num (.int (-17)) :=
  ⟨by decide +kernel,
    (coerce_idempotent_and_integer.2 "Entero" (by decide +kernel)).2.2.2.2 " -17 " (-17) (by decide)⟩

end Json

end IntegrationFlow
