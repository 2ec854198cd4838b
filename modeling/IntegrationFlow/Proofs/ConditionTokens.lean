import IntegrationFlow.Proofs.QuotedLiterals

/-!
Normalizing a condition token by token: the scan of `normalize` writes, for each lexical
token, one output of its own, so no character inside a literal is rewritten and a word that
only contains a connective stays whole (`normalize_by_tokens`).
-/

namespace IntegrationFlow.Expr

/-- The body of a double-quoted literal that a quote closes: characters other than a backslash
and a double quote, and pairs of a backslash and the character it escapes. -/
inductive QuotedBody : List Char → Prop
  | nil : QuotedBody []
  | escape (c : Char) {b : List Char} : QuotedBody b → QuotedBody ('\\' :: c :: b)
  | plain {c : Char} {b : List Char} : c ≠ '\\' → c ≠ '"' → QuotedBody b → QuotedBody (c :: b)

/-- The body of a double-quoted literal left open at the end of the text: a closed body, possibly
followed by a backslash with nothing left to escape. -/
def OpenBody (b : List Char) : Prop := QuotedBody b ∨ ∃ b', QuotedBody b' ∧ b = b' ++ ['\\']

/-- A lexical token of a condition, as normalizing reads it. -/
inductive Lexeme where
  /-- A literal in single quotes, with its characters, closed by a quote or left open. -/
  | single (body : List Char) (closed : Bool)
  /-- A literal in double quotes, with its characters as written, closed or left open. -/
  | double (body : List Char) (closed : Bool)
  /-- A maximal run of word characters. -/
  | word (chars : List Char)
  /-- Any other character. -/
  | other (c : Char)

/-- The operator a word stands for, or the word itself. -/
def wordOutput (w : List Char) : List Char :=
  if Text.toLower (String.ofList w) = "y" ∨ Text.toLower (String.ofList w) = "and" then ['&', '&']
  else if Text.toLower (String.ofList w) = "o" ∨ Text.toLower (String.ofList w) = "or" then ['|', '|']
  else w

/-- What `normalize` writes for a token. -/
def Lexeme.output : Lexeme → List Char
  | .single body _ => '"' :: escapeQuotes body ++ ['"']
  | .double body closed => '"' :: body ++ if closed then ['"'] else []
  | .word chars => wordOutput chars
  | .other c => [c]

/-- How a text splits into tokens. -/
inductive Lexes : List Char → List Lexeme → Prop
  | nil : Lexes [] []
  | singleClosed {b rest : List Char} {ts : List Lexeme} :
      '\'' ∉ b → Lexes rest ts → Lexes ('\'' :: b ++ '\'' :: rest) (.single b true :: ts)
  | singleOpen {b : List Char} : '\'' ∉ b → Lexes ('\'' :: b) [.single b false]
  | doubleClosed {b rest : List Char} {ts : List Lexeme} :
      QuotedBody b → Lexes rest ts → Lexes ('"' :: b ++ '"' :: rest) (.double b true :: ts)
  | doubleOpen {b : List Char} : OpenBody b → Lexes ('"' :: b) [.double b false]
  | word {w rest : List Char} {ts : List Lexeme} :
      w ≠ [] → (∀ c ∈ w, isWordChar c = true) → (∀ c ∈ rest.head?, isWordChar c = false) →
      Lexes rest ts → Lexes (w ++ rest) (.word w :: ts)
  | other {c : Char} {rest : List Char} {ts : List Lexeme} :
      c ≠ '\'' → c ≠ '"' → isWordChar c = false → Lexes rest ts → Lexes (c :: rest) (.other c :: ts)

/-! ## The scan over each kind of token -/

lemma foldl_step_quoted {b : List Char} (h : QuotedBody b) (out : String) :
    b.foldl step (.double false, out) = (.double false, out ++ String.ofList b) := by
  induction h generalizing out with
  | nil => simp
  | escape c _ ih =>
    rw [List.foldl_cons, List.foldl_cons]
    have hstep : step (step (.double false, out) '\\') c = (.double false, (out.push '\\').push c) := rfl
    rw [hstep, ih]
    simp only [Prod.mk.injEq, true_and]
    apply String.ext
    simp
  | @plain c _ hb hq _ ih =>
    rw [List.foldl_cons]
    have hstep : step (.double false, out) c = (.double false, out.push c) := by
      simp [step, hb, hq]
    rw [hstep, ih]
    simp only [Prod.mk.injEq, true_and]
    apply String.ext
    simp

lemma foldl_step_doubleClosed {b : List Char} (h : QuotedBody b) (out : String) (rest : List Char) :
    ('"' :: b ++ '"' :: rest).foldl step (.plain, out) =
      rest.foldl step (.plain, out ++ String.ofList ('"' :: b ++ ['"'])) := by
  rw [List.cons_append, List.foldl_cons, List.foldl_append, List.foldl_cons]
  have hopen : step (.plain, out) '"' = (.double false, out.push '"') := rfl
  have hclose : ∀ o : String, step (.double false, o) '"' = (.plain, o.push '"') := fun _ => rfl
  rw [hopen, foldl_step_quoted h, hclose]
  congr 2
  apply String.ext
  simp

lemma finish_doubleOpen {b : List Char} (h : OpenBody b) (out : String) :
    finish (('"' :: b).foldl step (.plain, out)) = out ++ String.ofList ('"' :: b) := by
  rw [List.foldl_cons]
  have hopen : step (.plain, out) '"' = (.double false, out.push '"') := rfl
  rw [hopen]
  rcases h with hb | ⟨b', hb', rfl⟩
  · rw [foldl_step_quoted hb]
    apply String.ext
    simp [finish]
  · -- the last backslash leaves the scan waiting for a character to escape
    rw [List.foldl_append, foldl_step_quoted hb']
    apply String.ext
    simp [finish, step]

lemma foldl_step_word {w : List Char} (h : ∀ c ∈ w, isWordChar c = true) (acc out : String) :
    w.foldl step (.word acc, out) = (.word (acc ++ String.ofList w), out) := by
  induction w generalizing acc with
  | nil => simp
  | cons c w ih =>
    have hc := h c List.mem_cons_self
    rw [List.foldl_cons]
    have hstep : step (.word acc, out) c = (.word (acc.push c), out) := by
      simp [step, hc]
    rw [hstep, ih (fun x hx => h x (List.mem_cons_of_mem c hx))]
    congr 2
    apply String.ext
    simp

lemma foldl_step_plain_word {w : List Char} (hne : w ≠ []) (h : ∀ c ∈ w, isWordChar c = true) (out : String) :
    w.foldl step (.plain, out) = (.word (String.ofList w), out) := by
  obtain ⟨c, w', rfl⟩ := List.exists_cons_of_ne_nil hne
  have hc := h c List.mem_cons_self
  rw [List.foldl_cons]
  have hstart : step (.plain, out) c = (.word (String.singleton c), out) := by
    have hq : c ≠ '\'' := fun hq => by subst hq; simp [isWordChar, Text.isAlphanumeric] at hc
    have hd : c ≠ '"' := fun hd => by subst hd; simp [isWordChar, Text.isAlphanumeric] at hc
    simp [step, plainStep, hq, hd, hc]
  rw [hstart, foldl_step_word (fun x hx => h x (List.mem_cons_of_mem c hx))]
  congr 2
  apply String.ext
  simp

lemma finish_word_end {rest : List Char} (h : ∀ c ∈ rest.head?, isWordChar c = false) (W out : String) :
    finish (rest.foldl step (.word W, out)) = finish (rest.foldl step (.plain, out ++ replaceWord W)) := by
  cases rest with
  | nil => rfl
  | cons c rest =>
    have hc : isWordChar c = false := h c rfl
    simp only [List.foldl_cons]
    congr 2
    simp [step, hc]

lemma step_other {c : Char} (hq : c ≠ '\'') (hd : c ≠ '"') (hw : isWordChar c = false) (out : String) :
    step (.plain, out) c = (.plain, out.push c) := by
  simp [step, plainStep, hq, hd, hw]

lemma replaceWord_toList (w : List Char) : (replaceWord (String.ofList w)).toList = wordOutput w := by
  unfold replaceWord wordOutput
  split <;> simp_all

/-! ## Every text splits into tokens -/

lemma single_split (r : List Char) : (∃ b rest, '\'' ∉ b ∧ r = b ++ '\'' :: rest) ∨ '\'' ∉ r := by
  induction r with
  | nil => exact .inr List.not_mem_nil
  | cons c r ih =>
    by_cases hc : c = '\''
    · exact .inl ⟨[], r, List.not_mem_nil, by rw [hc]; rfl⟩
    · rcases ih with ⟨b, rest, hb, rfl⟩ | hr
      · exact .inl ⟨c :: b, rest, by simp [Ne.symm hc, hb], rfl⟩
      · exact .inr (by simp [Ne.symm hc, hr])

/-- A text read inside a double-quoted literal: a body closed by a quote and the text after
it, or a body left open. -/
def QuotedSplit (r : List Char) : Prop := (∃ b rest, QuotedBody b ∧ r = b ++ '"' :: rest) ∨ OpenBody r

lemma QuotedSplit.prepend {p r : List Char} (hp : ∀ b, QuotedBody b → QuotedBody (p ++ b)) (h : QuotedSplit r) :
    QuotedSplit (p ++ r) := by
  rcases h with ⟨b, rest, hb, rfl⟩ | hb | ⟨b, hb, rfl⟩
  · exact .inl ⟨p ++ b, rest, hp b hb, by simp⟩
  · exact .inr (.inl (hp _ hb))
  · exact .inr (.inr ⟨p ++ b, hp b hb, by simp⟩)

lemma quoted_split (r : List Char) : QuotedSplit r := by
  induction h : r.length using Nat.strongRecOn generalizing r with
  | _ n ih =>
    cases r with
    | nil => exact .inr (.inl .nil)
    | cons c r' =>
      by_cases hq : c = '"'
      · exact .inl ⟨[], r', .nil, by rw [hq]; rfl⟩
      by_cases hb : c = '\\'
      · -- an escape takes the character after it, whatever it is
        subst hb
        cases r' with
        | nil => exact .inr (.inr ⟨[], .nil, rfl⟩)
        | cons d r'' =>
          have hlen : r''.length < n := by rw [← h]; simp only [List.length_cons]; omega
          exact QuotedSplit.prepend (p := ['\\', d]) (fun b hb => .escape d hb) (ih _ hlen r'' rfl)
      · have hlen : r'.length < n := by rw [← h]; simp only [List.length_cons]; omega
        exact QuotedSplit.prepend (p := [c]) (fun b hbody => .plain hb hq hbody) (ih _ hlen r' rfl)

lemma word_split (r : List Char) :
    ∃ w rest, r = w ++ rest ∧ (∀ c ∈ w, isWordChar c = true) ∧ ∀ c ∈ rest.head?, isWordChar c = false := by
  induction r with
  | nil => exact ⟨[], [], rfl, by simp, by simp⟩
  | cons c r ih =>
    cases hc : isWordChar c with
    | false => exact ⟨[], c :: r, rfl, by simp, by simpa using hc⟩
    | true =>
      obtain ⟨w, rest, rfl, hw, hend⟩ := ih
      exact ⟨c :: w, rest, rfl, List.forall_mem_cons.2 ⟨hc, hw⟩, hend⟩

/-- **Every text splits into tokens.** By induction on the length of the text: the first token is
read off its first character, and the text after it is shorter. -/
theorem exists_lexes (s : List Char) : ∃ ts, Lexes s ts := by
  induction h : s.length using Nat.strongRecOn generalizing s with
  | _ n ih =>
    cases s with
    | nil => exact ⟨[], .nil⟩
    | cons c r =>
      by_cases hq : c = '\''
      · subst hq
        rcases single_split r with ⟨b, rest, hb, rfl⟩ | hr
        · obtain ⟨ts, hts⟩ := ih rest.length (by rw [← h]; simp only [List.length_cons, List.length_append]; omega) rest rfl
          exact ⟨_, .singleClosed hb hts⟩
        · exact ⟨_, .singleOpen hr⟩
      by_cases hd : c = '"'
      · subst hd
        rcases quoted_split r with ⟨b, rest, hb, rfl⟩ | hr
        · obtain ⟨ts, hts⟩ := ih rest.length (by rw [← h]; simp only [List.length_cons, List.length_append]; omega) rest rfl
          exact ⟨_, .doubleClosed hb hts⟩
        · exact ⟨_, .doubleOpen hr⟩
      cases hw : isWordChar c with
      | false =>
        obtain ⟨ts, hts⟩ := ih r.length (by rw [← h]; simp only [List.length_cons]; omega) r rfl
        exact ⟨_, .other hq hd hw hts⟩
      | true =>
        obtain ⟨w, rest, rfl, hws, hend⟩ := word_split r
        obtain ⟨ts, hts⟩ := ih rest.length (by rw [← h]; simp only [List.length_cons, List.length_append]; omega)
          rest rfl
        exact ⟨_, .word (w := c :: w) (List.cons_ne_nil c w) (List.forall_mem_cons.2 ⟨hw, hws⟩) hend hts⟩

/-! ## The scan is the concatenation of the outputs -/

/-- **The scan, token by token.** From between tokens, the scan of a text writes, after what it
had written, the outputs of the text's tokens in order. Induction on the split of the text into
tokens; a word needs the character after it, which the next token starts with. -/
theorem finish_foldl_step {s : List Char} {ts : List Lexeme} (h : Lexes s ts) (out : String) :
    finish (s.foldl step (.plain, out)) = out ++ String.ofList (ts.flatMap Lexeme.output) := by
  induction h generalizing out with
  | nil => simp [finish]
  | @singleClosed b rest ts hb _ ih =>
    rw [foldl_step_literal hb, ih]
    apply String.ext
    simp [Lexeme.output]
  | @singleOpen b hb =>
    rw [List.foldl_cons]
    have hopen : step (.plain, out) '\'' = (.single, out.push '"') := rfl
    rw [hopen, foldl_step_single hb]
    apply String.ext
    simp [finish, Lexeme.output]
  | @doubleClosed b rest ts hb _ ih =>
    rw [foldl_step_doubleClosed hb, ih]
    apply String.ext
    simp [Lexeme.output]
  | @doubleOpen b hb =>
    rw [finish_doubleOpen hb]
    apply String.ext
    simp [Lexeme.output]
  | @word w rest ts hne hw hend _ ih =>
    rw [List.foldl_append, foldl_step_plain_word hne hw, finish_word_end hend, ih]
    apply String.ext
    simp [Lexeme.output, replaceWord_toList]
  | @other c rest ts hq hd hw _ ih =>
    rw [List.foldl_cons, step_other hq hd hw, ih]
    apply String.ext
    simp [Lexeme.output]

/-- **Normalizing a condition, token by token.** Every condition splits into lexical tokens, and
for every such split `normalize` writes the outputs of the tokens one after the other: single-
quoted literals in double quotes with their double quotes escaped and always closed, double-quoted
literals as written, the localized connectives as operators, and everything else as it is. -/
theorem normalize_by_tokens (e : String) :
    (∃ ts, Lexes e.toList ts) ∧
      ∀ ts, Lexes e.toList ts → normalize e = String.ofList (ts.flatMap Lexeme.output) := by
  refine ⟨exists_lexes e.toList, fun ts h => ?_⟩
  rw [normalize, finish_foldl_step h, String.empty_append]

example : normalize "Y 'b\"c' OR ordenado yes" = "&& \"b\\\"c\" || ordenado yes" := by decide

end IntegrationFlow.Expr
