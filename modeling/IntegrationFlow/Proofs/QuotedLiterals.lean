import IntegrationFlow.Expr.Normalize
import Mathlib.Tactic.Lemma
import Mathlib.Tactic.SplitIfs

/-!
Single-quoted literals: `normalize` writes one in double quotes with a backslash before each
double quote, so it reads back exactly when it holds no backslash. The count behind the
converse: a reading spends two characters on every quote and backslash it gives back.
-/

namespace IntegrationFlow.Expr

/-- The characters of a single-quoted literal as `normalize` writes them inside double quotes:
a backslash before each double quote. -/
def escapeQuotes : List Char → List Char
  | [] => []
  | c :: r => if c = '"' then '\\' :: '"' :: escapeQuotes r else c :: escapeQuotes r

/-- Reads the body of a double-quoted literal up to its closing quote, a backslash taking the
next character as it is: the characters read and what follows the literal. -/
def readQuoted : List Char → Option (List Char × List Char)
  | [] => none
  | '"' :: rest => some ([], rest)
  | '\\' :: c :: rest => (readQuoted rest).map fun r => (c :: r.1, r.2)
  | c :: rest => (readQuoted rest).map fun r => (c :: r.1, r.2)

/-- Reads a double-quoted literal at the start of a text. -/
def readLiteral : List Char → Option (List Char × List Char)
  | '"' :: rest => readQuoted rest
  | _ => none

/-! ## The scan over a literal -/

lemma length_escapeQuotes (s : List Char) : (escapeQuotes s).length = s.length + s.count '"' := by
  induction s with
  | nil => rfl
  | cons c r ih =>
    by_cases hc : c = '"'
    · subst hc
      simp [escapeQuotes, ih]
      omega
    · simp [escapeQuotes, hc, ih]
      omega

lemma foldl_step_single {s : List Char} (h : '\'' ∉ s) (out : String) :
    s.foldl step (.single, out) = (.single, out ++ String.ofList (escapeQuotes s)) := by
  induction s generalizing out with
  | nil => simp [escapeQuotes]
  | cons c r ih =>
    have hc : c ≠ '\'' := fun hc => h (hc ▸ List.mem_cons_self)
    have hr : '\'' ∉ r := fun hr => h (List.mem_cons_of_mem c hr)
    by_cases hq : c = '"'
    · subst hq
      simp only [List.foldl_cons, step, beq_iff_eq, hc, if_false, if_true, ih hr, Prod.mk.injEq, true_and]
      apply String.ext
      simp [escapeQuotes]
    · simp only [List.foldl_cons, step, beq_iff_eq, hc, hq, if_false, ih hr, Prod.mk.injEq, true_and]
      apply String.ext
      simp [escapeQuotes, hq]

/-- **A single-quoted literal between tokens.** The scan writes it double-quoted, with a
backslash before each double quote, and stands between tokens after it. -/
lemma foldl_step_literal {s : List Char} (h : '\'' ∉ s) (out : String) (post : List Char) :
    ('\'' :: s ++ '\'' :: post).foldl step (.plain, out) =
      post.foldl step (.plain, out ++ String.ofList ('"' :: escapeQuotes s ++ ['"'])) := by
  rw [List.cons_append, List.foldl_cons, List.foldl_append, List.foldl_cons]
  have hopen : step (.plain, out) '\'' = (.single, out.push '"') := rfl
  rw [hopen, foldl_step_single h]
  have hclose : ∀ o : String, step (.single, o) '\'' = (.plain, o.push '"') := fun _ => rfl
  have hout : (out.push '"' ++ String.ofList (escapeQuotes s)).push '"' =
      out ++ String.ofList ('"' :: escapeQuotes s ++ ['"']) := String.ext (by simp)
  rw [hclose, hout]

lemma step_word_quote (w out : String) : step (.word w, out) '\'' = step (.plain, out ++ replaceWord w) '\'' := rfl

lemma normalize_literal {s : String} (h : '\'' ∉ s.toList) :
    (normalize ("'" ++ s ++ "'")).toList = '"' :: escapeQuotes s.toList ++ ['"'] := by
  have hs : ("'" ++ s ++ "'").toList = '\'' :: s.toList ++ '\'' :: [] := by
    simp only [String.toList_append, List.cons_append, List.append_assoc]
    rfl
  rw [normalize, hs, foldl_step_literal h]
  simp [finish]

/-! ## Reading the literal back -/

lemma readQuoted_quote (rest : List Char) : readQuoted ('"' :: rest) = some ([], rest) := rfl

lemma readQuoted_escaped (c : Char) (rest : List Char) :
    readQuoted ('\\' :: c :: rest) = (readQuoted rest).map fun r => (c :: r.1, r.2) := rfl

lemma readQuoted_plain {c : Char} (hq : c ≠ '"') (hb : c ≠ '\\') (rest : List Char) :
    readQuoted (c :: rest) = (readQuoted rest).map fun r => (c :: r.1, r.2) := by
  rw [readQuoted.eq_def]
  split <;> simp_all

lemma readQuoted_escapeQuotes {s : List Char} (h : '\\' ∉ s) (rest : List Char) :
    readQuoted (escapeQuotes s ++ '"' :: rest) = some (s, rest) := by
  induction s with
  | nil => rfl
  | cons c r ih =>
    have hb : c ≠ '\\' := fun hc => h (hc ▸ List.mem_cons_self)
    have hr := ih fun hr => h (List.mem_cons_of_mem c hr)
    by_cases hq : c = '"'
    · subst hq
      simp [escapeQuotes, readQuoted_escaped, hr]
    · simp [escapeQuotes, hq, readQuoted_plain hq hb, hr]

lemma readQuoted_length {x u r : List Char} (h : readQuoted x = some (u, r)) :
    u.length + u.count '"' + u.count '\\' + 1 + r.length ≤ x.length := by
  induction x using readQuoted.induct generalizing u r with
  | case1 => simp [readQuoted] at h
  | case2 rest =>
    rw [readQuoted_quote] at h
    obtain ⟨rfl, rfl⟩ := Prod.mk.inj (Option.some.inj h)
    simp only [List.length_nil, List.count_nil, List.length_cons]
    omega
  | case3 c rest ih =>
    rw [readQuoted_escaped] at h
    obtain ⟨⟨u', r'⟩, hread, hur⟩ := Option.map_eq_some_iff.1 h
    simp only [Prod.mk.injEq] at hur
    obtain ⟨rfl, rfl⟩ := hur
    have hle := ih hread
    have hcq : (c :: u').count '"' ≤ u'.count '"' + (if c = '"' then 1 else 0) := by
      simp [List.count_cons]
    have hcb : (c :: u').count '\\' ≤ u'.count '\\' + (if c = '\\' then 1 else 0) := by
      simp [List.count_cons]
    have hboth : (if c = '"' then 1 else 0) + (if c = '\\' then 1 else 0) ≤ 1 := by
      split_ifs <;> simp_all
    simp only [List.length_cons] at *
    omega
  | case4 c rest hq hb ih =>
    rcases rest with _ | ⟨c', rest'⟩
    · -- a last character that does not close the literal leaves it open
      have hopen : readQuoted [c] = none := by
        rw [readQuoted.eq_def]
        split <;> simp_all [readQuoted.eq_1]
      simp [hopen] at h
    have hq' : c ≠ '"' := hq
    have hb' : c ≠ '\\' := fun hc => hb c' rest' hc rfl
    rw [readQuoted_plain hq' hb'] at h
    obtain ⟨⟨u', r'⟩, hread, hur⟩ := Option.map_eq_some_iff.1 h
    simp only [Prod.mk.injEq] at hur
    obtain ⟨rfl, rfl⟩ := hur
    have hle := ih hread
    simp only [List.length_cons, List.count_cons, beq_iff_eq, hq', hb', if_false] at *
    omega

lemma readQuoted_escapeQuotes_iff (s : List Char) :
    readQuoted (escapeQuotes s ++ ['"']) = some (s, []) ↔ '\\' ∉ s := by
  constructor
  · intro h
    have hle := readQuoted_length h
    rw [List.length_append, length_escapeQuotes] at hle
    have hcount : s.count '\\' = 0 := by
      simp only [List.length_singleton, List.length_nil] at hle
      omega
    exact List.count_eq_zero.1 hcount
  · intro h
    exact readQuoted_escapeQuotes h []

/-- **Single-quoted literals.** Between tokens, a single-quoted literal is written as a
double-quoted one (a backslash before each double quote) and the scan goes on between tokens;
a whole expression made of one literal is written that way and nothing else. Read back, the
written literal ends at the end of the text and gives the original characters exactly when
they hold no backslash. -/
theorem normalize_single_quoted (s : String) (h : '\'' ∉ s.toList) (out : String) (post : List Char) :
    ('\'' :: s.toList ++ '\'' :: post).foldl step (.plain, out) =
      post.foldl step (.plain, out ++ String.ofList ('"' :: escapeQuotes s.toList ++ ['"'])) ∧
    (normalize ("'" ++ s ++ "'")).toList = '"' :: escapeQuotes s.toList ++ ['"'] ∧
    (readLiteral (normalize ("'" ++ s ++ "'")).toList = some (s.toList, []) ↔ '\\' ∉ s.toList) := by
  refine ⟨foldl_step_literal h out post, normalize_literal h, ?_⟩
  rw [normalize_literal h]
  exact readQuoted_escapeQuotes_iff s.toList

/-- A literal holding a double quote is written with it escaped and reads back. -/
theorem quoted_literal_with_quote_reads_back :
    '\'' ∉ "x\"y".toList ∧ '\\' ∉ "x\"y".toList ∧
      readLiteral (normalize ("'" ++ "x\"y" ++ "'")).toList = some ("x\"y".toList, []) :=
  have hs : '\'' ∉ "x\"y".toList := by decide
  have hb : '\\' ∉ "x\"y".toList := by decide
  ⟨hs, hb, (normalize_single_quoted "x\"y" hs "" []).2.2.2 hb⟩

/-- A literal made of one backslash is written as a quote, the backslash and a quote, so the
backslash escapes the closing quote and the literal is never closed. -/
theorem backslash_literal_swallows_closing_quote :
    normalize ("'" ++ "\\" ++ "'") = "\"\\\"" ∧
      readLiteral (normalize ("'" ++ "\\" ++ "'")).toList = none := by
  decide

end IntegrationFlow.Expr
