import IntegrationFlow.Flow.Function
import Mathlib.Tactic.Lemma

/-!
Textual calls read back: a call written from values reads as the call on those values.
Splitting is a scan whose state is the open quote (`splitStep`); a written argument leaves it
outside quotes, so the joined text is cut exactly at the separators.
-/

namespace IntegrationFlow

namespace Text

lemma dropBlanks_of_head {cs : List Char} (h : ∀ c ∈ cs.head?, isWhiteSpace c = false) :
    dropBlanks cs = cs := by
  cases cs with
  | nil => rfl
  | cons c cs => simp [dropBlanks, h c rfl]

lemma trim_eq_self {s : String} (h₁ : ∀ c ∈ s.toList.head?, isWhiteSpace c = false)
    (h₂ : ∀ c ∈ s.toList.getLast?, isWhiteSpace c = false) : trim s = s := by
  have h₂' : ∀ c ∈ s.toList.reverse.head?, isWhiteSpace c = false := by
    simpa [List.head?_reverse] using h₂
  unfold trim
  rw [dropBlanks_of_head h₁, dropBlanks_of_head h₂', List.reverse_reverse, String.ofList_toList]

lemma trim_blank_append (s : String) : trim (" " ++ s) = trim s := by
  have hb : isWhiteSpace ' ' = true := by decide
  simp [trim, dropBlanks, hb]

lemma isBlankText_of_mem {s : String} {c : Char} (hc : c ∈ s.toList) (hw : isWhiteSpace c = false) :
    isBlankText s = false := by
  rw [Bool.eq_false_iff]
  intro h
  simp only [isBlankText, List.all_eq_true] at h
  simp [h c hc] at hw

lemma startsWith_char_iff (s : String) (q : Char) :
    s.startsWith q.toString = true ↔ s.toList.head? = some q := by
  rw [String.startsWith_string_iff]
  cases s.toList with
  | nil => simp
  | cons c l => simp [List.prefix_cons_iff, eq_comm, and_assoc]

lemma endsWith_char_iff (s : String) (q : Char) :
    s.endsWith q.toString = true ↔ s.toList.getLast? = some q := by
  rw [String.endsWith_eq_endsWith_toSlice, String.Slice.endsWith_string_iff, String.copy_toSlice,
    ← List.reverse_prefix, ← List.head?_reverse]
  cases s.toList.reverse with
  | nil => simp
  | cons c l => simp [List.prefix_cons_iff, eq_comm, and_assoc]

end Text

namespace FunctionRegistry

/-! ### Written calls -/

/-- An argument written into a call: a text with no single quote in it, a boolean, or a signed
64-bit number. -/
inductive CallArg where
  | text (s : String) (h : '\'' ∉ s.toList)
  | flag (b : Bool)
  | int (n : Int64)

namespace CallArg

/-- How an argument is written: a text between single quotes, a boolean as `true` or `false`,
a number in decimal. -/
def written : CallArg → String
  | .text s _ => "'" ++ s ++ "'"
  | .flag b => toString b
  | .int n => toString n.toInt

/-- The value an argument stands for. -/
def value : CallArg → Json
  | .text s _ => .str s
  | .flag b => .bool b
  | .int n => Json.int n.toInt

end CallArg

/-- The call of `f` on some arguments, written out: the name, then the written arguments
between parentheses, separated by a comma and a blank. -/
def callText (f : String) (args : List CallArg) : String :=
  f ++ "(" ++ ", ".intercalate (args.map CallArg.written) ++ ")"

/-- A name that can stand before the parenthesis of a call: no parenthesis and no blank in it. -/
def PlainName (f : String) : Prop := ∀ c ∈ f.toList, c ≠ '(' ∧ Text.isWhiteSpace c = false

-- the instance is the one on lists, never one that ranges over all characters
instance (f : String) : Decidable (PlainName f) :=
  List.decidableBAll _ f.toList

/-! ### What a written argument looks like -/

lemma toList_toString_int (i : Int) :
    (toString i).toList = (if i < 0 then ['-'] else []) ++ Nat.toDigits 10 i.natAbs := by
  cases i with
  | ofNat m => simp [toString, Int.repr, Nat.toList_repr]
  | negSucc m => simp [toString, Int.repr, Nat.toList_repr, Int.natAbs_negSucc]

lemma isDigit_of_mem_toDigits {m : Nat} {c : Char} (h : c ∈ Nat.toDigits 10 m) : c.isDigit = true :=
  Nat.isDigit_of_mem_toDigits (by decide) (by decide) h

lemma written_int_chars (i : Int) :
    (∀ c ∈ (toString i).toList, c = '-' ∨ c.isDigit = true) ∧
      ∃ c, (toString i).toList.getLast? = some c ∧ c.isDigit = true := by
  rw [toList_toString_int]
  refine ⟨fun c hc => ?_, ?_⟩
  · rcases List.mem_append.1 hc with hc | hc
    · split at hc <;> simp_all
    · exact .inr (isDigit_of_mem_toDigits hc)
  · have hc := List.getLast?_eq_some_getLast (Nat.toDigits_ne_nil (b := 10) (n := i.natAbs))
    refine ⟨_, by rw [List.getLast?_append, hc]; rfl, isDigit_of_mem_toDigits (List.mem_of_getLast? hc)⟩

lemma digit_not_blank {c : Char} (h : c.isDigit = true) : Text.isWhiteSpace c = false := by
  have hd : 48 ≤ c.toNat ∧ c.toNat ≤ 57 := by
    simp only [Char.isDigit, Bool.and_eq_true, decide_eq_true_eq] at h
    exact ⟨h.1, h.2⟩
  -- no code point of a blank lies among the digits
  unfold Text.isWhiteSpace Text.whiteSpaceCodes
  generalize c.toNat = n at hd
  rw [Bool.eq_false_iff]
  intro hn
  simp only [List.contains_iff_mem, List.mem_cons, List.not_mem_nil, or_false] at hn
  omega

lemma text_written_toList (s : String) (h : '\'' ∉ s.toList) :
    (CallArg.text s h).written.toList = '\'' :: (s.toList ++ ['\'']) := by
  simp [CallArg.written]

lemma written_edges (a : CallArg) :
    (∀ c ∈ a.written.toList.head?, Text.isWhiteSpace c = false) ∧
      (∀ c ∈ a.written.toList.getLast?, Text.isWhiteSpace c = false) := by
  cases a with
  | text s h =>
    rw [text_written_toList]
    refine ⟨?_, ?_⟩
    · rw [List.head?_cons]
      rintro c ⟨⟩
      decide
    · rw [← List.cons_append, List.getLast?_concat]
      rintro c ⟨⟩
      decide
  | flag b => cases b <;> exact ⟨by rintro c ⟨⟩; decide, by rintro c ⟨⟩; decide⟩
  | int n =>
    obtain ⟨hall, c, hc, hd⟩ := written_int_chars n.toInt
    refine ⟨fun d hd' => ?_, fun d hd' => ?_⟩
    · rcases hall d (List.mem_of_head? hd') with rfl | h
      · decide
      · exact digit_not_blank h
    · rw [CallArg.written, hc, Option.mem_def, Option.some.injEq] at hd'
      exact hd' ▸ digit_not_blank hd

lemma written_ne_nil (a : CallArg) : a.written.toList ≠ [] := by
  cases a with
  | text s h => simp [CallArg.written]
  | flag b => cases b <;> decide
  | int n =>
    rw [CallArg.written, toList_toString_int]
    simp [Nat.toDigits_ne_nil]

lemma written_not_blank (a : CallArg) : ∃ c ∈ a.written.toList, Text.isWhiteSpace c = false := by
  obtain ⟨c, hc⟩ := Option.isSome_iff_exists.1 (List.isSome_head?.2 (written_ne_nil a))
  exact ⟨c, List.mem_of_head? hc, (written_edges a).1 c hc⟩

lemma trim_written (a : CallArg) : Text.trim a.written = a.written :=
  Text.trim_eq_self (written_edges a).1 (written_edges a).2

/-! ### Splitting a written argument list -/

/-- Characters the scan gathers whole into the current piece, ending outside quotes. -/
def GathersWhole (w : List Char) : Prop :=
  ∀ args cur, w.foldl splitStep (args, cur, none) = (args, w.reverse ++ cur, none)

lemma gathersWhole_plain {w : List Char} (h : ∀ c ∈ w, c ≠ '\'' ∧ c ≠ '"' ∧ c ≠ ',') :
    GathersWhole w := by
  induction w with
  | nil => intro args cur; rfl
  | cons c w ih =>
    intro args cur
    obtain ⟨h₁, h₂, h₃⟩ := h c List.mem_cons_self
    have hstep : splitStep (args, cur, none) c = (args, c :: cur, none) := by
      simp [splitStep, h₁, h₂, h₃]
    rw [List.foldl_cons, hstep, ih (fun d hd => h d (List.mem_cons_of_mem c hd))]
    simp

lemma foldl_splitStep_quoted {q : Char} {w : List Char} (hq : q ∉ w) (args : List String) (cur : List Char) :
    w.foldl splitStep (args, cur, some q) = (args, w.reverse ++ cur, some q) := by
  induction w generalizing cur with
  | nil => rfl
  | cons c w ih =>
    have hc : c ≠ q := fun h => hq (h ▸ List.mem_cons_self)
    have hstep : splitStep (args, cur, some q) c = (args, c :: cur, some q) := by simp [splitStep, hc]
    rw [List.foldl_cons, hstep, ih (fun h => hq (List.mem_cons_of_mem c h))]
    simp

lemma gathersWhole_quoted {s : List Char} (h : '\'' ∉ s) : GathersWhole ('\'' :: s ++ ['\'']) := by
  intro args cur
  rw [List.cons_append, List.foldl_cons, List.foldl_append]
  simp [splitStep, foldl_splitStep_quoted h]

lemma written_gathersWhole (a : CallArg) : GathersWhole a.written.toList := by
  cases a with
  | text s h => simpa [CallArg.written] using gathersWhole_quoted h
  | flag b => cases b <;> exact gathersWhole_plain (by simp [CallArg.written, toString])
  | int n =>
    refine gathersWhole_plain fun c hc => ?_
    rcases (written_int_chars n.toInt).1 c hc with rfl | h
    · decide
    · refine ⟨?_, ?_, ?_⟩ <;> rintro rfl <;> simp at h

lemma foldl_splitStep_sep {w : List Char} (hw : GathersWhole w) (rest : List Char) (args : List String)
    (cur : List Char) :
    (w ++ ", ".toList ++ rest).foldl splitStep (args, cur, none) =
      rest.foldl splitStep (String.ofList (cur.reverse ++ w) :: args, [' '], none) := by
  rw [List.foldl_append, List.foldl_append, hw]
  simp [splitStep]

/-- The pieces the scan cuts a joined text into: what was gathered before together with the
first argument, then every further argument behind the blank of its separator. -/
def pieces (cur w : List Char) (vs : List (List Char)) : List (List Char) :=
  (cur.reverse ++ w) :: vs.map (' ' :: ·)

lemma foldl_splitStep_intercalate {w : List Char} {vs : List (List Char)} (hw : GathersWhole w)
    (hvs : ∀ v ∈ vs, GathersWhole v) (args : List String) (cur : List Char) :
    ∃ args' cur', (", ".toList.intercalate (w :: vs)).foldl splitStep (args, cur, none) = (args', cur', none) ∧
      String.ofList cur'.reverse :: args' = ((pieces cur w vs).map String.ofList).reverse ++ args := by
  induction vs generalizing w cur args with
  | nil =>
    refine ⟨args, w.reverse ++ cur, by rw [List.intercalate_singleton, hw], ?_⟩
    simp [pieces]
  | cons v vs ih =>
    obtain ⟨args', cur', hfold, heq⟩ := ih (hvs v List.mem_cons_self)
      (fun u hu => hvs u (List.mem_cons_of_mem v hu)) (String.ofList (cur.reverse ++ w) :: args) [' ']
    refine ⟨args', cur', ?_, ?_⟩
    · rw [List.intercalate_cons_cons, foldl_splitStep_sep hw]
      exact hfold
    · rw [heq]
      simp [pieces]

/-- **Splitting undoes joining**: written arguments joined by `", "` split back into the
written arguments. -/
theorem splitArguments_join (args : List CallArg) :
    splitArguments (", ".intercalate (args.map CallArg.written)) = args.map CallArg.written := by
  cases args with
  | nil => rfl
  | cons a as =>
    have hvs : ∀ v ∈ as.map (·.written.toList), GathersWhole v := by
      simp only [List.mem_map]
      rintro v ⟨b, -, rfl⟩
      exact written_gathersWhole b
    obtain ⟨args', cur', hfold, heq⟩ := foldl_splitStep_intercalate (written_gathersWhole a) hvs [] []
    -- every piece holds a character of its argument that is not blank
    have hpiece : ∀ p ∈ pieces [] a.written.toList (as.map (·.written.toList)),
        Text.isBlankText (String.ofList p) = false := by
      intro p hp
      simp only [pieces, List.reverse_nil, List.nil_append, List.map_map, List.mem_cons, List.mem_map,
        Function.comp_def] at hp
      rcases hp with rfl | ⟨b, -, rfl⟩
      · obtain ⟨c, hc, hw⟩ := written_not_blank a
        exact Text.isBlankText_of_mem (by simpa using hc) hw
      · obtain ⟨c, hc, hw⟩ := written_not_blank b
        exact Text.isBlankText_of_mem (by simp [hc]) hw
    -- so the piece still being read when the text ends is kept
    have hlast : Text.isBlankText (String.ofList cur'.reverse) = false := by
      have hmem : String.ofList cur'.reverse ∈
          (pieces [] a.written.toList (as.map (·.written.toList))).map String.ofList := by
        rw [← List.mem_reverse, ← List.append_nil (List.reverse _), ← heq]
        exact List.mem_cons_self
      obtain ⟨p, hp, hpe⟩ := List.mem_map.1 hmem
      rw [← hpe]
      exact hpiece p hp
    unfold splitArguments
    rw [List.map_cons, String.toList_intercalate, List.map_cons, List.map_map, Function.comp_def, hfold]
    simp only [hlast, Bool.not_false, Bool.true_or, if_true]
    rw [show String.ofList cur'.reverse :: args' = _ from heq, List.append_nil, List.reverse_reverse]
    simp [pieces, Function.comp_def, Text.trim_blank_append, trim_written]

/-! ### Reading one argument -/

/-- A text enclosed in a matching pair of the quote `q`. -/
def EnclosedBy (q : Char) (x : String) : Prop :=
  2 ≤ x.length ∧ x.toList.head? = some q ∧ x.toList.getLast? = some q

/-- A text enclosed in a matching pair of single or of double quotes. -/
def Enclosed (x : String) : Prop := EnclosedBy '\'' x ∨ EnclosedBy '"' x

instance (q : Char) (x : String) : Decidable (EnclosedBy q x) :=
  inferInstanceAs (Decidable (_ ∧ _ ∧ _))

instance (x : String) : Decidable (Enclosed x) := inferInstanceAs (Decidable (_ ∨ _))

lemma enclosedBy_of_quoted {q : Char} (hq : q.utf8Size = 1) {x : String}
    (h : (decide (x.utf8ByteSize ≥ 2) && x.startsWith q.toString && x.endsWith q.toString) = true) :
    EnclosedBy q x := by
  simp only [Bool.and_eq_true, decide_eq_true_eq, Text.startsWith_char_iff, Text.endsWith_char_iff] at h
  obtain ⟨⟨hsize, hhead⟩, hlast⟩ := h
  refine ⟨?_, hhead, hlast⟩
  rw [← String.length_toList]
  -- a single character would be the quote alone, one byte
  rcases hl : x.toList with _ | ⟨c, _ | ⟨d, l⟩⟩
  · simp [hl] at hhead
  · have hc : c = q := by simpa [hl] using hhead
    have hx : x = String.singleton q := String.toList_inj.1 (by rw [hl, hc, String.toList_singleton])
    rw [hx, String.utf8ByteSize_singleton, hq] at hsize
    omega
  · simp

lemma not_quoted {q : Char} (hq : q.utf8Size = 1) {x : String} (h : ¬EnclosedBy q x) :
    (decide (x.utf8ByteSize ≥ 2) && x.startsWith q.toString && x.endsWith q.toString) = false :=
  Bool.eq_false_iff.2 fun h' => h (enclosedBy_of_quoted hq h')

lemma quoted_eq_false {x : String} (h : ¬Enclosed x) :
    (decide (x.utf8ByteSize ≥ 2) && x.startsWith '\''.toString && x.endsWith '\''.toString ||
      decide (x.utf8ByteSize ≥ 2) && x.startsWith '"'.toString && x.endsWith '"'.toString) = false := by
  rw [not_quoted (by decide) (fun e => h (.inl e)), not_quoted (by decide) (fun e => h (.inr e))]
  rfl

/-- A text read as a literal: a boolean, or a number of either kind. -/
def IsLiteral (x : String) : Prop :=
  x = "true" ∨ x = "false" ∨ (Decimal.parseInt64? x).isSome ∨ (Decimal.parseFloat? x).isSome

instance (x : String) : Decidable (IsLiteral x) := inferInstanceAs (Decidable (_ ∨ _ ∨ _ ∨ _))

/-- The value of a context field, or the report that it is missing. -/
def fieldValue (ctx : Members) (x : String) : Except ResolveError Json :=
  match ctx.get? x with
  | some v => .ok v
  | none => .error (.fieldNotFound x)

lemma parseArgument_field {x : String} (he : ¬Enclosed x) (hl : ¬IsLiteral x) (ctx : Members) :
    parseArgument x ctx = fieldValue ctx x := by
  simp only [IsLiteral, not_or, Bool.not_eq_true, Option.isSome_eq_false_iff, Option.isNone_iff_eq_none] at hl
  obtain ⟨ht, hf, hi, hd⟩ := hl
  simp only [parseArgument, quoted_eq_false he, Bool.false_eq_true, if_false, if_neg ht, if_neg hf, hi, hd]
  rfl

lemma parseArgument_literal {x : String} (he : ¬Enclosed x) (hl : IsLiteral x) :
    ∃ v, ∀ ctx, parseArgument x ctx = .ok v := by
  simp only [parseArgument, quoted_eq_false he, Bool.false_eq_true, if_false]
  by_cases ht : x = "true"
  · exact ⟨_, fun _ => if_pos ht⟩
  by_cases hf : x = "false"
  · exact ⟨_, fun _ => by rw [if_neg ht, if_pos hf]⟩
  simp only [if_neg ht, if_neg hf]
  rcases hi : Decimal.parseInt64? x with _ | n
  · rcases hd : Decimal.parseFloat? x with _ | d
    · simp [IsLiteral, ht, hf, hi, hd] at hl
    · exact ⟨_, fun _ => rfl⟩
  · exact ⟨_, fun _ => rfl⟩

/-! ### Reading a written argument -/

lemma digitsValue_toDigits (m : Nat) : Decimal.digitsValue (Nat.toDigits 10 m) = m :=
  Nat.ofDigitChars_ten_toDigits

lemma splitSign_toDigits (m : Nat) : Decimal.splitSign (Nat.toDigits 10 m) = (false, Nat.toDigits 10 m) := by
  obtain ⟨c, cs, hcs⟩ := List.exists_cons_of_ne_nil (Nat.toDigits_ne_nil (b := 10) (n := m))
  have hd : c.isDigit = true := isDigit_of_mem_toDigits (hcs ▸ List.mem_cons_self)
  rw [hcs]
  unfold Decimal.splitSign
  split <;> simp_all

lemma parseInt64?_toString (n : Int64) : Decimal.parseInt64? (toString n.toInt) = some n.toInt := by
  have hlo := Int64.le_toInt n
  have hhi : n.toInt ≤ 9223372036854775807 := Int64.toInt_le n
  have hdig : (Nat.toDigits 10 n.toInt.natAbs).all Char.isDigit = true :=
    List.all_eq_true.2 fun c hc => isDigit_of_mem_toDigits hc
  unfold Decimal.parseInt64?
  rw [toList_toString_int]
  by_cases hneg : n.toInt < 0
  · simp only [Decimal.splitSign, hneg, reduceIte, List.cons_append, List.nil_append, List.isEmpty_iff,
      Nat.toDigits_ne_nil, hdig, not_true_eq_false, or_self, Int.reduceNeg, digitsValue_toDigits,
      Int.neg_le_neg_iff, Int.neg_natCast_le_ofNat, and_true, Option.ite_none_right_eq_some, Option.some.injEq]
    omega
  · simp only [hneg, reduceIte, List.nil_append, splitSign_toDigits, List.isEmpty_iff, Nat.toDigits_ne_nil, hdig,
      not_true_eq_false, or_self, Int.reduceNeg, Bool.false_eq_true, digitsValue_toDigits, Int.neg_ofNat_le_natCast,
      true_and, Option.ite_none_right_eq_some, Option.some.injEq]
    omega

theorem parseArgument_written (a : CallArg) (ctx : Members) : parseArgument a.written ctx = .ok a.value := by
  cases a with
  | text s h =>
    have hsize : ((CallArg.text s h).written).utf8ByteSize ≥ 2 := by
      simp only [CallArg.written, String.utf8ByteSize_append]
      have : "'".utf8ByteSize = 1 := rfl
      omega
    have hquoted : (decide ((CallArg.text s h).written.utf8ByteSize ≥ 2) &&
        (CallArg.text s h).written.startsWith '\''.toString &&
        (CallArg.text s h).written.endsWith '\''.toString) = true := by
      simp only [Bool.and_eq_true, decide_eq_true_eq, Text.startsWith_char_iff, Text.endsWith_char_iff]
      refine ⟨⟨hsize, ?_⟩, ?_⟩
      · rw [text_written_toList, List.head?_cons]
      · rw [text_written_toList, ← List.cons_append, List.getLast?_concat]
    simp only [parseArgument, hquoted, Bool.true_or, if_true, text_written_toList, List.drop_one,
      List.tail_cons, List.dropLast_concat, String.ofList_toList, CallArg.value]
  | flag b =>
    cases b
    · show parseArgument "false" ctx = .ok (.bool false)
      have he : ¬Enclosed "false" := by decide
      simp only [parseArgument, quoted_eq_false he, Bool.false_eq_true, if_false]
      rfl
    · show parseArgument "true" ctx = .ok (.bool true)
      have he : ¬Enclosed "true" := by decide
      simp only [parseArgument, quoted_eq_false he, Bool.false_eq_true, if_false]
      rfl
  | int n =>
    -- a written number holds no quote and no letter
    have hout : ∀ c, c ≠ '-' → c.isDigit = false → c ∉ (toString n.toInt).toList := fun c h₁ h₂ hc => by
      rcases (written_int_chars n.toInt).1 c hc with h | h <;> simp_all
    have he : ¬Enclosed (toString n.toInt) := by
      rintro (⟨-, hh, -⟩ | ⟨-, hh, -⟩) <;> exact hout _ (by decide) (by decide) (List.mem_of_head? hh)
    have ht : toString n.toInt ≠ "true" := fun h => hout 't' (by decide) (by decide) (by simp [h])
    have hf : toString n.toInt ≠ "false" := fun h => hout 'f' (by decide) (by decide) (by simp [h])
    simp only [CallArg.written, CallArg.value]
    simp only [parseArgument, quoted_eq_false he, Bool.false_eq_true, if_false, if_neg ht, if_neg hf,
      parseInt64?_toString]

lemma mapM_parseArgument_written (args : List CallArg) (ctx : Members) :
    (args.map CallArg.written).mapM (parseArgument · ctx) = .ok (args.map CallArg.value) := by
  induction args with
  | nil => rfl
  | cons a as ih =>
    simp only [List.map_cons, List.mapM_cons, parseArgument_written, ih]
    rfl

/-! ### Reading the call -/

lemma idxOf?_append_cons {l : List Char} {c : Char} (h : c ∉ l) (r : List Char) :
    (l ++ c :: r).idxOf? c = some l.length := by
  induction l with
  | nil => simp [List.idxOf?_cons]
  | cons d l ih =>
    have hd : (d == c) = false := beq_false_of_ne fun e => h (e ▸ List.mem_cons_self)
    simp [List.idxOf?_cons, hd, ih (fun hc => h (List.mem_cons_of_mem d hc))]

lemma toList_call (f t : String) : (f ++ "(" ++ t ++ ")").toList = f.toList ++ '(' :: (t.toList ++ [')']) := by
  simp

lemma trim_plainName {f : String} (hf : PlainName f) : Text.trim f = f :=
  Text.trim_eq_self (fun c hc => (hf c (List.mem_of_head? hc)).2) (fun c hc => (hf c (List.mem_of_getLast? hc)).2)

lemma trim_call {f : String} (hf : PlainName f) (t : String) :
    Text.trim (f ++ "(" ++ t ++ ")") = f ++ "(" ++ t ++ ")" := by
  apply Text.trim_eq_self
  · rw [toList_call]
    rcases hfl : f.toList with _ | ⟨d, l⟩
    · rw [List.nil_append, List.head?_cons]
      rintro c ⟨⟩
      decide
    · intro c hc
      simp only [List.cons_append, List.head?_cons, Option.mem_def, Option.some.injEq] at hc
      exact (hf c (hc ▸ hfl ▸ List.mem_cons_self)).2
  · rw [toList_call, ← List.cons_append, ← List.append_assoc, List.getLast?_concat]
    rintro c ⟨⟩
    decide

lemma callParts_call {f : String} (hf : PlainName f) (t : String) : callParts (f ++ "(" ++ t ++ ")") = (f, t) := by
  have hends : (f ++ "(" ++ t ++ ")").endsWith ")" = true :=
    (Text.endsWith_char_iff _ ')').2 (by
      rw [toList_call, ← List.cons_append, ← List.append_assoc, List.getLast?_concat])
  simp only [callParts, toList_call, idxOf?_append_cons (fun h => (hf '(' h).1 rfl), hends, if_true,
    List.take_left]
  simp [trim_plainName hf, List.drop_append_of_le_length]

lemma callParts_plainName {f : String} (hf : PlainName f) : callParts f = (f, "") := by
  simp only [callParts, List.idxOf?_eq_none_iff.2 fun h => (hf '(' h).1 rfl]

/-- **An unknown name is reported first**: whatever the text between the parentheses, before
any argument is read. -/
lemma invoke_unknown {r : FunctionRegistry} {f : String} (hf : PlainName f) (hr : r.get? f = none)
    (t : String) (scope : CallScope) :
    r.invoke (f ++ "(" ++ t ++ ")") scope = .error (.unknownSystemFunction f) := by
  simp only [invoke, trim_call hf, callParts_call hf, hr]
  rfl

lemma invoke_unknown_name {r : FunctionRegistry} {f : String} (hf : PlainName f) (hr : r.get? f = none)
    (scope : CallScope) : r.invoke f scope = .error (.unknownSystemFunction f) := by
  simp only [invoke, trim_plainName hf, callParts_plainName hf, hr]
  rfl

lemma invoke_known {r : FunctionRegistry} {f : String} (hf : PlainName f) (hr : (r.get? f).isSome)
    (t : String) (scope : CallScope) :
    r.invoke (f ++ "(" ++ t ++ ")") scope =
      ((splitArguments t).mapM (parseArgument · scope.context)).bind (r.call f · scope) := by
  simp only [invoke, trim_call hf, callParts_call hf, Option.isNone_iff_eq_none, Option.ne_none_iff_isSome.2 hr]
  rfl

/-- **A written call reads back**: the call of a known plain name on written arguments calls
the function on their values. -/
theorem invoke_callText {r : FunctionRegistry} {f : String} (hf : PlainName f) (hr : (r.get? f).isSome)
    (args : List CallArg) (scope : CallScope) :
    r.invoke (callText f args) scope = r.call f (args.map CallArg.value) scope := by
  rw [callText, invoke_known hf hr, splitArguments_join, mapM_parseArgument_written]
  rfl

lemma invoke_name {r : FunctionRegistry} {f : String} (hf : PlainName f) (hr : (r.get? f).isSome)
    (scope : CallScope) : r.invoke f scope = r.call f [] scope := by
  simp only [invoke, trim_plainName hf, callParts_plainName hf, Option.isNone_iff_eq_none,
    Option.ne_none_iff_isSome.2 hr]
  rfl

lemma callText_nil (f : String) : callText f [] = f ++ "()" := by
  simp only [callText, List.map_nil, String.intercalate_nil, String.append_empty, String.append_assoc]
  rfl

lemma standard_plainNames : ∀ fn ∈ standardCatalog, PlainName fn.name := by decide

lemma standard_get?_isSome {fn : SystemFunction} (h : fn ∈ standardCatalog) : (standard.get? fn.name).isSome :=
  List.find?_isSome.2 ⟨fn, h, beq_self_eq_true _⟩

/-- **Textual calls read as written.** A catalog function called on written arguments is
called on their values, and `f()` and `f` both call it with none; an argument outside a
matching pair of quotes is the context field of its name exactly when it is no literal, a
literal never looking at the context; and an unknown plain name is reported whatever stands
between the parentheses. -/
theorem invoke_reads_written_calls :
    (∀ fn ∈ standardCatalog, ∀ (args : List CallArg) (scope : CallScope),
        standard.invoke (callText fn.name args) scope = standard.call fn.name (args.map CallArg.value) scope ∧
        standard.invoke (fn.name ++ "()") scope = standard.call fn.name [] scope ∧
        standard.invoke fn.name scope = standard.call fn.name [] scope) ∧
    (∀ x, ¬Enclosed x →
        (¬IsLiteral x → ∀ ctx, parseArgument x ctx = fieldValue ctx x) ∧
        (IsLiteral x → ∃ v, ∀ ctx, parseArgument x ctx = .ok v)) ∧
    (∀ (r : FunctionRegistry) (f t : String) (scope : CallScope), PlainName f → r.get? f = none →
        r.invoke (f ++ "(" ++ t ++ ")") scope = .error (.unknownSystemFunction f) ∧
        r.invoke f scope = .error (.unknownSystemFunction f)) := by
  refine ⟨fun fn hfn args scope => ?_, fun x he => ⟨parseArgument_field he, parseArgument_literal he⟩,
    fun r f t scope hf hr => ⟨invoke_unknown hf hr t scope, invoke_unknown_name hf hr scope⟩⟩
  have hf := standard_plainNames fn hfn
  have hr := standard_get?_isSome hfn
  refine ⟨invoke_callText hf hr args scope, ?_, invoke_name hf hr scope⟩
  rw [← callText_nil, invoke_callText hf hr [] scope, List.map_nil]

/-- A text with a comma, parentheses and double quotes passes whole to the function, `inf`
reads as a number and not as a field, and an unknown name is reported before its unreadable
arguments. -/
theorem sample_written_calls :
    standard.invoke (callText "Longitud" [.text "a, (b) \"c\"" (by decide)]) ⟨[], [], {}⟩ = .ok (Json.int 10) ∧
    (¬Enclosed "inf" ∧ IsLiteral "inf" ∧ ∃ v, ∀ ctx, parseArgument "inf" ctx = .ok v) ∧
    standard.invoke ("Nada" ++ "(" ++ "x, 'y" ++ ")") ⟨[], [], {}⟩ = .error (.unknownSystemFunction "Nada") := by
  obtain ⟨hcalls, hargs, hunknown⟩ := invoke_reads_written_calls
  refine ⟨?_, ⟨by decide, by decide, (hargs "inf" (by decide)).2 (by decide)⟩,
    (hunknown standard "Nada" _ _ (by decide) rfl).1⟩
  have hname : standardCatalog[5].name = "Longitud" := rfl
  have hcall := (hcalls _ (List.getElem_mem (n := 5) (by decide)) [.text "a, (b) \"c\"" (by decide)]
    ⟨[], [], {}⟩).1
  rw [hname] at hcall
  rw [hcall]
  rfl

end FunctionRegistry

end IntegrationFlow
