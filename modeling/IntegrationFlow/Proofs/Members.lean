import IntegrationFlow.Engine.Steps
import Mathlib.Tactic.Lemma
import Mathlib.Tactic.SplitIfs

/-!
Looking up members after `insert`, `extend` and `setError`.
-/

namespace IntegrationFlow

namespace Members

variable {m a b : Members} {k k' : String} {v : Json}

lemma get?_cons (r : Members) : get? ((k', v) :: r) k = if k = k' then some v else get? r k := by
  simp only [get?]
  by_cases h : k = k'
  · simp [h, List.lookup_cons_self]
  · simp [h, List.lookup_cons, beq_false_of_ne h]

@[simp] lemma get?_insert_self (m : Members) (k : String) (v : Json) : (m.insert k v).get? k = some v := by
  induction m with
  | nil => simp [insert, get?_cons]
  | cons p r ih =>
    obtain ⟨k', v'⟩ := p
    simp only [insert]
    split_ifs with hlt heq
    · simp [get?_cons]
    · simp [get?_cons]
    · simp [get?_cons, ih, heq]

lemma get?_insert_of_ne (m : Members) (v : Json) (h : k' ≠ k) : (m.insert k v).get? k' = m.get? k' := by
  induction m with
  | nil => simp [insert, get?_cons, h]
  | cons p r ih =>
    obtain ⟨k'', v'⟩ := p
    simp only [insert]
    split_ifs with hlt heq
    · simp [get?_cons, h]
    · subst heq
      simp [get?_cons, h]
    · simp only [get?_cons, ih]

lemma isSome_get?_insert (h : (m.get? k').isSome) : ((m.insert k v).get? k').isSome := by
  by_cases hk : k' = k
  · subst hk
    simp
  · rwa [get?_insert_of_ne m v hk]

lemma isSome_get?_extend_left (h : (a.get? k).isSome) : ((a.extend b).get? k).isSome := by
  induction b generalizing a with
  | nil => exact h
  | cons p b ih => exact ih (isSome_get?_insert h)

lemma isSome_get?_extend_right (h : (b.get? k).isSome) : ((a.extend b).get? k).isSome := by
  induction b generalizing a with
  | nil => simp [get?] at h
  | cons p b ih =>
    obtain ⟨k', v'⟩ := p
    rw [get?_cons] at h
    by_cases hk : k = k'
    · subst hk
      exact isSome_get?_extend_left (a := a.insert k v') (by simp)
    · simp only [hk, if_false] at h
      exact ih h

section SetError

variable (ctx : Members) (code message detail : String)

@[simp] lemma get?_setError_code : (ctx.setError code message detail).get? "codigoError" = some (.str code) := by
  simp [setError, get?_insert_of_ne]

@[simp] lemma get?_setError_message :
    (ctx.setError code message detail).get? "mensajeError" = some (.str message) := by
  simp [setError, get?_insert_of_ne]

@[simp] lemma get?_setError_detail : (ctx.setError code message detail).get? "detalleError" = some (.str detail) := by
  simp [setError]

end SetError

end Members

end IntegrationFlow
