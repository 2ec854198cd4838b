import IntegrationFlow.Proofs.FixedWidth
import IntegrationFlow.Splitter.Codecs
import Mathlib.Algebra.Order.BigOperators.Group.List
import Mathlib.Algebra.Order.Group.Nat

/-!
Splitting undoes joining. At fixed positions the split's loop keeps the invariant that the
text ahead of the cursor is what the join wrote for the segments still to read; on a delimiter
the written occurrence must be the first one found, which a value alone does not ensure.
-/

namespace IntegrationFlow

namespace Splitter

variable (codecs : Codecs)

/-! ### Padding -/

namespace Padding

/-- The fill characters taken off the side a padding mode fills. -/
def strip (p : Padding) (cs : List Char) : List Char :=
  if p.onLeft then cs.dropWhile (· = p.fill) else (cs.reverse.dropWhile (· = p.fill)).reverse

/-- A value whose padding can be taken off again: it does not start (padding on the left) or
end (on the right) with the fill character, and it is not empty when the fill is a zero. -/
def Keeps (p : Padding) (v : List Char) : Prop :=
  (if p.onLeft then v.head? else v.getLast?) ≠ some p.fill ∧ (p.fill = '0' → v ≠ [])

instance (p : Padding) (v : List Char) : Decidable (p.Keeps v) :=
  inferInstanceAs (Decidable (_ ∧ _))

lemma dropWhile_fill {c : Char} {v : List Char} (h : v.head? ≠ some c) (k : Nat) :
    (List.replicate k c ++ v).dropWhile (· = c) = v := by
  induction k with
  | zero =>
    cases v with
    | nil => rfl
    | cons x xs =>
      have hx : x ≠ c := fun hx => h (by simp [hx])
      simp [hx]
  | succ k ih => simp [List.replicate_succ, ih]

lemma strip_apply {p : Padding} {v : List Char} (h : p.Keeps v) (k : Nat) : p.strip (p.apply k v) = v := by
  have hedge := h.1
  unfold strip apply
  cases hl : p.onLeft
  · -- filled on the right: reversed, the fill comes first and the value does not start with it
    simp only [hl, Bool.false_eq_true, if_false] at hedge ⊢
    rw [List.reverse_append, List.reverse_replicate, dropWhile_fill (by rwa [List.head?_reverse]),
      List.reverse_reverse]
  · simp only [hl, if_true] at hedge ⊢
    exact dropWhile_fill hedge k

lemma fit_of_le {p : Padding} {n : Nat} {v : List Char} (h : v.length ≤ n) :
    p.fit n v = p.apply (n - v.length) v := by
  unfold fit
  split
  · -- a value of exactly the length is written as it is
    have heq : v.length = n := by omega
    rw [heq, Nat.sub_self, List.take_of_length_le (by omega)]
    unfold apply
    split <;> simp
  · rfl

end Padding

lemma unpad_some (piece p : String) :
    unpad piece (some p) =
      if ((Padding.ofString p).strip piece.toList).isEmpty && piece.toList.contains '0' &&
          !Text.isBlankText piece then "0"
      else String.ofList ((Padding.ofString p).strip piece.toList) := by
  unfold unpad
  dsimp only
  cases Padding.ofString p <;> rfl

lemma unpad_fit {v p : String} {n : Nat} (hk : (Padding.ofString p).Keeps v.toList) (h : v.length ≤ n) :
    unpad (String.ofList ((Padding.ofString p).fit n v.toList)) (some p) = v := by
  rw [← String.length_toList] at h
  rw [unpad_some, String.toList_ofList, Padding.fit_of_le h, Padding.strip_apply hk]
  by_cases hv : v.toList = []
  · -- an empty value was filled with blanks, so there is no zero to keep
    have hfill : (Padding.ofString p).fill ≠ '0' := fun h0 => hk.2 h0 hv
    have hzero : '0' ∉ (Padding.ofString p).apply (n - v.toList.length) v.toList := by
      intro hmem
      unfold Padding.apply at hmem
      rw [hv] at hmem
      split at hmem <;> simp only [List.append_nil, List.nil_append, List.mem_replicate] at hmem <;>
        exact hfill hmem.2.symm
    rw [hv, List.length_nil, Nat.sub_zero] at hzero
    simp [hv, hzero, ← String.toList_inj]
  · simp [hv]

/-! ### Fixed positions -/

/-- A segment that a fixed-width join writes and a split reads back, with the value `ctx` holds
for it: it is named and at least one character long, the value fits it, it is read once at the
cursor with no encoding, and it declares a padding that keeps the value. -/
structure FixedField (ctx : Members) (s : Segment) : Prop where
  named : Text.isBlankText s.name = false
  wide : 0 < s.length.getD 0
  fits : (ctx.text s.name).length ≤ s.length.getD 0
  atCursor : s.start = none
  once : s.repetitions.getD 1 ≤ 1
  plain : s.encoding = none
  padded : ∃ p, s.padding = some p ∧ (Padding.ofString p).Keeps (ctx.text s.name).toList

section Fixed

variable {ctx : Members} {s : Segment}

lemma FixedField.length_eq (h : FixedField ctx s) : s.length = some (s.length.getD 0) := by
  have := h.wide
  cases hl : s.length with
  | none => simp [hl] at this
  | some n => rfl

lemma length_fixedText (ctx : Members) (s : Segment) : (fixedText ctx s).toList.length = s.length.getD 0 := by
  simp [fixedText, Padding.length_fit]

lemma FixedField.unpad_fixedText (h : FixedField ctx s) : unpad (fixedText ctx s) s.padding = ctx.text s.name := by
  obtain ⟨p, hp, hk⟩ := h.padded
  rw [fixedText, hp, Option.getD_some]
  exact unpad_fit hk h.fits

lemma FixedField.joined (h : FixedField ctx s) : s.joined = true := by
  rw [Segment.joined, h.length_eq]
  simp [h.named]

lemma FixedField.utf8ByteSize_fixedText (h : FixedField ctx s) :
    (fixedText ctx s).utf8ByteSize = s.length.getD 0 - (ctx.text s.name).length + (ctx.text s.name).utf8ByteSize := by
  rcases Nat.lt_or_ge (ctx.text s.name).length (s.length.getD 0) with hlt | hge
  · exact utf8ByteSize_fit _ hlt
  · -- a value of exactly the length is written as it is
    have heq : (ctx.text s.name).toList.length = s.length.getD 0 := by
      rw [String.length_toList]
      exact Nat.le_antisymm h.fits hge
    rw [fixedText, Padding.fit, if_pos heq.ge, List.take_of_length_le heq.le, String.ofList_toList]
    omega

end Fixed

lemma segmentPieces_once {cs : List Char} {s : Segment} {len start : Nat}
    (hr : s.repetitions.getD 1 ≤ 1) (hs : start < cs.length) :
    segmentPieces codecs cs s len start =
      ([(s.name, .str (decodePiece codecs (unpad (slice cs start len) s.padding) s.encoding))], addClamped start len) := by
  have hreps : max (s.repetitions.getD 1) 1 = 1 := by omega
  simp [segmentPieces, pieceStep, hreps, Nat.not_le.2 hs, Members.insert]

lemma fixedStep_field {ctx : Members} {cs : List Char} {fields : Members} {pos : Nat} {s : Segment}
    (h : FixedField ctx s) (hpos : pos < cs.length) :
    fixedStep codecs cs (fields, pos) s =
      (fields.insert s.name (.str (decodePiece codecs (unpad (slice cs pos (s.length.getD 0)) s.padding) s.encoding)),
        addClamped pos (s.length.getD 0)) := by
  have hlen := h.length_eq
  have hwide : s.length.getD 0 ≠ 0 := Nat.pos_iff_ne_zero.1 h.wide
  rw [fixedStep, hlen]
  simp [hwide, h.named, h.atCursor, segmentPieces_once codecs h.once hpos, Members.extend]

/-- **The loop of a fixed-width split.** When the text ahead of the cursor is what the join
wrote for the segments still to read, the split reads each of them back and moves the cursor
past all of them. -/
lemma foldl_fixedStep (ctx : Members) (cs : List Char) :
    ∀ (ss : List Segment) (fields : Members) (pos : Nat), (∀ s ∈ ss, FixedField ctx s) →
      cs.drop pos = (ss.map fun s => (fixedText ctx s).toList).flatten →
      pos + (ss.map fun s => s.length.getD 0).sum < 2 ^ 64 →
      ss.foldl (fixedStep codecs cs) (fields, pos) =
        (ss.foldl (fun m s => m.insert s.name (.str (ctx.text s.name))) fields,
          pos + (ss.map fun s => s.length.getD 0).sum)
  | [], _, _, _, _, _ => by simp
  | s :: ss, fields, pos, hss, hdrop, hsize => by
    have hs := hss s List.mem_cons_self
    have hlen := length_fixedText ctx s
    simp only [List.map_cons, List.flatten_cons, List.sum_cons] at hdrop hsize ⊢
    -- the segment's text stands at the cursor, with the other segments' texts behind it
    have hpos : pos < cs.length := by
      have hne : cs.drop pos ≠ [] := by
        rw [hdrop]
        intro hnil
        have := congrArg List.length hnil
        simp only [List.length_append, List.length_nil] at this
        have := hs.wide
        omega
      simpa using hne
    have hslice : slice cs pos (s.length.getD 0) = fixedText ctx s := by
      rw [slice, hdrop, ← hlen, List.take_left, String.ofList_toList]
    have hnext : addClamped pos (s.length.getD 0) = pos + s.length.getD 0 := by
      unfold addClamped
      omega
    have hdrop' : cs.drop (pos + s.length.getD 0) = (ss.map fun s => (fixedText ctx s).toList).flatten := by
      rw [← List.drop_drop, hdrop, ← hlen, List.drop_left]
    rw [List.foldl_cons, fixedStep_field codecs hs hpos, hslice, hs.unpad_fixedText, hs.plain, hnext,
      foldl_fixedStep ctx cs ss _ _ (fun s hs' => hss s (List.mem_cons_of_mem _ hs')) hdrop' (by omega)]
    simp [decodePiece, Nat.add_assoc]

section Modes

variable {c : SplitterConfig}

@[simp] lemma nonBlank_none : nonBlank none = none := rfl

lemma inputText_single (t : String) :
    inputText c [((nonBlank c.inputField).getD "CampoIN", .str t)] = .ok t := by
  simp [inputText, Members.get?_cons, Json.plain]

lemma join_fixed {ctx : Members} (ha : c.analysis = none) (hp : c.parseMode = none) (hsegs : c.segments ≠ [])
    (hfields : ∀ s ∈ c.segments, FixedField ctx s)
    (hsize : (String.join (c.segments.map (fixedText ctx))).utf8ByteSize ≤ maxTextBytes) :
    join c ctx = .ok (.ok (String.join (c.segments.map (fixedText ctx)))) := by
  have hmode : c.joinMode ∈ ["plano", "posicionfija", "posicion_fija"] := by
    rw [SplitterConfig.joinMode, ha, hp]
    decide
  have hall : c.segments.filter Segment.joined = c.segments :=
    List.filter_eq_self.2 fun s hs => (hfields s hs).joined
  rw [join_eq_fixedText hmode hsegs, hall]
  exact if_neg (Nat.not_lt.2 hsize)

lemma decompose_fixed {input : String} (ha : c.analysis = none) (hp : c.parseMode = none) (hsegs : c.segments ≠ []) :
    decompose codecs c [((nonBlank c.inputField).getD "CampoIN", .str input)] = decomposeFixed codecs c input := by
  have hmode : Text.toLower ((nonBlank c.analysis <|> nonBlank c.parseMode).getD
      (if c.segments.isEmpty then "delimitado" else "posicionfija")) = "posicionfija" := by
    rw [ha, hp, if_neg (by simpa [List.isEmpty_iff] using hsegs)]
    decide
  unfold decompose
  rw [inputText_single]
  simp only [bind, Except.bind]
  rw [hmode]
  rfl

end Modes

/-- **A fixed-width join splits back.** Let a splitter name no layout and set fixed segments,
each named and at least one character long, read once at the cursor with no encoding and with
a declared padding; let the value of each segment's field fit the segment and not start
(padding on the left) or end (on the right) with the fill character, nor be empty when the fill
is a zero; and let the joined text take at most `isize::MAX` bytes, each segment adding its
value's bytes and one byte per fill character. Then the join returns a text, and splitting it,
placed in the input field the splitter reads, gives each segment's value under its name. -/
theorem split_undoes_fixed_join (c : SplitterConfig) (ctx : Members) (ha : c.analysis = none)
    (hp : c.parseMode = none) (hsegs : c.segments ≠ []) (hfields : ∀ s ∈ c.segments, FixedField ctx s)
    (hsize : (c.segments.map fun s =>
      s.length.getD 0 - (ctx.text s.name).length + (ctx.text s.name).utf8ByteSize).sum ≤ maxTextBytes) :
    ∃ t, join c ctx = .ok (.ok t) ∧
      decompose codecs c [((nonBlank c.inputField).getD "CampoIN", .str t)] =
        .ok (Members.ofList (c.segments.map fun s => (s.name, .str (ctx.text s.name)))) := by
  -- the joined text takes the bytes the bound adds up
  have hbytes : (String.join (c.segments.map (fixedText ctx))).utf8ByteSize =
      (c.segments.map fun s => s.length.getD 0 - (ctx.text s.name).length + (ctx.text s.name).utf8ByteSize).sum := by
    rw [utf8ByteSize_join, List.map_map]
    exact congrArg List.sum (List.map_congr_left fun s hs => (hfields s hs).utf8ByteSize_fixedText)
  -- so its positions are machine words, every character taking at least a byte
  have hwords : (c.segments.map fun s => s.length.getD 0).sum < 2 ^ 64 := by
    have hle : (c.segments.map fun s => s.length.getD 0).sum ≤
        (c.segments.map fun s => s.length.getD 0 - (ctx.text s.name).length + (ctx.text s.name).utf8ByteSize).sum :=
      List.sum_le_sum fun s hs => by
        have := (hfields s hs).fits
        have := length_le_utf8ByteSize (ctx.text s.name)
        omega
    have hmax : maxTextBytes < 2 ^ 64 := by decide
    omega
  refine ⟨_, join_fixed ha hp hsegs hfields (hbytes ▸ hsize), ?_⟩
  rw [decompose_fixed codecs ha hp hsegs]
  have hout : outputSegments c = c.segments := by
    simp [outputSegments, hsegs]
  have htext : (String.join (c.segments.map (fixedText ctx))).toList.drop 0 =
      (c.segments.map fun s => (fixedText ctx s).toList).flatten := by
    simp [String.toList_join, List.flatMap_def, List.map_map, Function.comp_def]
  have hloop := foldl_fixedStep codecs ctx _ c.segments [] 0 hfields htext (by simpa using hwords)
  unfold decomposeFixed
  rw [hout, if_neg (by simpa [List.isEmpty_iff] using hsegs)]
  show Except.ok (List.foldl _ ([], 0) c.segments).1 = _
  rw [hloop]
  simp [Members.ofList, Members.extend, List.foldl_map]

/-- A zero-padded number in three characters and a blank-padded code in two split back. -/
theorem fixed_join_number_code_splits_back :
    ∃ t, join { segments := [{ name := "n", length := some 3, padding := some "ceros" },
                             { name := "c", length := some 2, padding := some "espacios" }] }
          [("c", .str "x"), ("n", .str "7")] = .ok (.ok t) ∧
      decompose .standard { segments := [{ name := "n", length := some 3, padding := some "ceros" },
                               { name := "c", length := some 2, padding := some "espacios" }] }
          [("CampoIN", .str t)] =
        .ok (Members.ofList [("n", .str "7"), ("c", .str "x")]) := by
  refine split_undoes_fixed_join .standard _ _ rfl rfl (List.cons_ne_nil _ _) ?_ (by decide)
  simp only [List.mem_cons, List.not_mem_nil, or_false]
  rintro s (rfl | rfl)
  · exact ⟨by decide, by decide, by decide, rfl, by decide, rfl, ⟨"ceros", rfl, by decide⟩⟩
  · exact ⟨by decide, by decide, by decide, rfl, by decide, rfl, ⟨"espacios", rfl, by decide⟩⟩

/-- The split reads the field the splitter names: one set to read `Otro` does not find the text
its fixed-width join wrote when that text is placed under `CampoIN`. -/
theorem fixed_split_reads_named_field :
    join { inputField := some "Otro", segments := [{ name := "a", length := some 2, padding := some "espacios" }] }
        [("a", .str "x")] = .ok (.ok "x ") ∧
      decompose .standard { inputField := some "Otro", segments := [{ name := "a", length := some 2, padding := some "espacios" }] }
        [("CampoIN", .str "x ")] = .error (.splitter "input field 'Otro' not found in context") := by
  have hmode : Text.toLower "plano" = "plano" := by decide
  constructor
  · simp +decide [join, joinStep, pad_eq, hmode, nonBlank, Members.get?_cons, Json.plain, appendText, bind,
      Except.bind, pure, Except.pure]
  · simp +decide [decompose, inputText, nonBlank, Members.get?_cons, bind, Except.bind]

/-! ### Delimiters -/

/-- A delimiter written after a value is the first one a split finds there: no occurrence of
the delimiter in the value followed by the delimiter starts inside the value. -/
def SeparatesAfter (sep v : List Char) : Prop := ∀ j < v.length, ¬ sep <+: (v ++ sep).drop j

instance (sep v : List Char) : Decidable (SeparatesAfter sep v) :=
  inferInstanceAs (Decidable (∀ j < v.length, _))

section Delimited

variable {sep : List Char}

lemma splitText_sep (hsep : sep ≠ []) (rest cur : List Char) :
    splitText sep (sep ++ rest) cur = String.ofList cur.reverse :: splitText sep rest := by
  obtain ⟨c, cs, rfl⟩ := List.exists_cons_of_ne_nil hsep
  have hpre : (c :: cs).isPrefixOf (c :: cs ++ rest) = true :=
    List.isPrefixOf_iff_prefix.2 (List.prefix_append _ _)
  rw [splitText.eq_def]
  simp only [List.cons_append]
  rw [dif_pos ⟨hsep, hpre⟩]
  simp

lemma splitText_append (v rest cur : List Char) (h : ∀ j < v.length, ¬ sep <+: (v ++ rest).drop j) :
    splitText sep (v ++ rest) cur = splitText sep rest (v.reverse ++ cur) := by
  induction v generalizing cur with
  | nil => rfl
  | cons x xs ih =>
    have h0 : ¬ (sep ≠ [] ∧ sep.isPrefixOf (x :: xs ++ rest) = true) := by
      rw [List.isPrefixOf_iff_prefix]
      exact fun hp => h 0 (by simp) (by simpa using hp.2)
    rw [splitText.eq_def]
    simp only [List.cons_append] at h0 ⊢
    rw [dif_neg h0, ih]
    · simp
    · intro j hj
      simpa using h (j + 1) (by simp; omega)

lemma not_prefix_drop {v : List Char} (h : ¬ sep <:+: v) : ∀ j < v.length, ¬ sep <+: (v ++ []).drop j :=
  fun j _ hp => h (hp.isInfix.trans (by simpa using (List.drop_suffix j v).isInfix))

lemma SeparatesAfter.not_prefix_drop {v : List Char} (h : SeparatesAfter sep v) (rest : List Char) :
    ∀ j < v.length, ¬ sep <+: (v ++ (sep ++ rest)).drop j := by
  intro j hj hp
  have hdrop : (v ++ (sep ++ rest)).drop j = (v ++ sep).drop j ++ rest := by
    rw [← List.append_assoc, List.drop_append_of_le_length (by simp; omega)]
  rw [hdrop] at hp
  -- the delimiter is no longer than what stands before `rest`, so it is a prefix of that
  exact h j hj (List.prefix_of_prefix_length_le hp (List.prefix_append _ _) (by simp; omega))

/-- **Splitting undoes a delimited join.** The pieces of the text a join wrote are the values,
when no value holds the delimiter and the delimiter written after each value but the last is the
first one found after it. -/
lemma splitText_intercalate (hsep : sep ≠ []) :
    ∀ (vs : List (List Char)), vs ≠ [] → (∀ v ∈ vs, ¬ sep <:+: v) →
      (∀ v ∈ vs.dropLast, SeparatesAfter sep v) →
      splitText sep (sep.intercalate vs) = vs.map String.ofList
  | [], hne, _, _ => absurd rfl hne
  | [v], _, hfree, _ => by
    have hread := @splitText_append sep v [] [] (not_prefix_drop (hfree v List.mem_cons_self))
    simpa [List.intercalate_singleton, splitText.eq_1] using hread
  | v :: w :: ws, _, hfree, hafter => by
    have hv : SeparatesAfter sep v := hafter v (by simp)
    rw [List.intercalate_cons_cons, List.append_assoc,
      splitText_append v _ [] (hv.not_prefix_drop _), splitText_sep hsep,
      splitText_intercalate hsep (w :: ws) (by simp) (fun u hu => hfree u (List.mem_cons_of_mem _ hu))
        (fun u hu => hafter u (by simpa using Or.inr hu))]
    simp

end Delimited

lemma foldl_delimitedField (segs : List Segment) (val : Segment → String) :
    ∀ (pre ss : List Segment) (m : Members), segs = pre ++ ss →
      (∀ s ∈ ss, Text.isBlankText s.name = false ∧ s.encoding = none ∧ Text.trim (val s) = val s) →
      ((ss.map val).zipIdx pre.length).foldl (delimitedField codecs segs) m =
        ss.foldl (fun m s => m.insert s.name (.str (val s))) m
  | _, [], _, _, _ => rfl
  | pre, s :: ss, m, hsegs, hss => by
    obtain ⟨hnamed, hplain, htrim⟩ := hss s List.mem_cons_self
    have hat : segs[pre.length]? = some s := by simp [hsegs]
    have hfield : delimitedField codecs segs m (val s, pre.length) = m.insert s.name (.str (val s)) := by
      simp [delimitedField, hat, hnamed, hplain, htrim, decodePiece]
    have hrest := foldl_delimitedField segs val (pre ++ [s]) ss (m.insert s.name (.str (val s)))
      (by simp [hsegs]) (fun s' h => hss s' (List.mem_cons_of_mem _ h))
    rw [List.length_append, List.length_singleton] at hrest
    rw [List.map_cons, List.zipIdx_cons, List.foldl_cons, List.foldl_cons, hfield, hrest]

section DelimitedModes

variable {c : SplitterConfig}

lemma nonBlank_delimitado : nonBlank (some "delimitado") = some "delimitado" := by decide

lemma join_delimited {ctx : Members} {d : String} (hp : c.parseMode = some "delimitado")
    (hd : c.delimiter = some d) (hdb : Text.isBlankText d = false) (hj : c.joinFields ≠ []) :
    join c ctx = .ok (.ok (d.intercalate (c.joinFields.map ctx.text))) := by
  have hmode : Text.toLower ((nonBlank c.parseMode <|> nonBlank c.analysis).getD "plano") = "delimitado" := by
    rw [hp, nonBlank_delimitado]
    show Text.toLower "delimitado" = "delimitado"
    decide
  have hdelim : (nonBlank c.delimiter).getD "," = d := by
    simp [hd, nonBlank, hdb]
  unfold join
  rw [hmode]
  simp +decide only
  rw [hdelim, if_neg (by simpa [List.isEmpty_iff] using hj)]
  rfl

lemma decompose_delimited {input : String} (ha : c.analysis = none) (hp : c.parseMode = some "delimitado") :
    decompose codecs c [((nonBlank c.inputField).getD "CampoIN", .str input)] = .ok (decomposeDelimited codecs c input) := by
  have hmode : Text.toLower ((nonBlank c.analysis <|> nonBlank c.parseMode).getD
      (if c.segments.isEmpty then "delimitado" else "posicionfija")) = "delimitado" := by
    rw [ha, hp, nonBlank_delimitado]
    show Text.toLower "delimitado" = "delimitado"
    decide
  unfold decompose
  rw [inputText_single]
  simp only [bind, Except.bind]
  rw [hmode]
  rfl

end DelimitedModes

/-- **A delimited join splits back.** Let a splitter join in the delimited layout with a
delimiter that is not blank, name no analysis and set no fixed segments, and join exactly the
fields its output segments name, which are not blank and decode nothing. Let the value of each
field have no blank at either end and hold no delimiter, and let the delimiter written after each
value but the last be the first one found after it. Then splitting what the join writes, placed
in the input field the splitter reads, gives each value under its field's name. -/
theorem split_undoes_delimited_join (c : SplitterConfig) (ctx : Members) (d : String)
    (hp : c.parseMode = some "delimitado") (ha : c.analysis = none) (hsegs : c.segments = [])
    (hout : c.outputFields ≠ [])
    (hnamed : ∀ s ∈ c.outputFields, Text.isBlankText s.name = false ∧ s.encoding = none)
    (hjoin : c.joinFields = c.outputFields.map Segment.name)
    (hd : c.delimiter = some d) (hdb : Text.isBlankText d = false)
    (htrim : ∀ s ∈ c.outputFields, Text.trim (ctx.text s.name) = ctx.text s.name)
    (hfree : ∀ s ∈ c.outputFields, ¬ d.toList <:+: (ctx.text s.name).toList)
    (hafter : ∀ s ∈ c.outputFields.dropLast, SeparatesAfter d.toList (ctx.text s.name).toList) :
    ∃ t, join c ctx = .ok (.ok t) ∧
      decompose codecs c [((nonBlank c.inputField).getD "CampoIN", .str t)] =
        .ok (Members.ofList (c.outputFields.map fun s => (s.name, .str (ctx.text s.name)))) := by
  have hj : c.joinFields ≠ [] := by simpa [hjoin] using hout
  refine ⟨_, join_delimited hp hd hdb hj, ?_⟩
  rw [decompose_delimited codecs ha hp]
  have hsep : d.toList ≠ [] := fun h => by simp [Text.isBlankText, h] at hdb
  have hsegments : outputSegments c = c.outputFields := by
    simp [outputSegments, hsegs, hout]
  -- the text the join wrote cuts into the values, each of which names its piece
  have hvals : c.joinFields.map ctx.text = c.outputFields.map fun s => ctx.text s.name := by
    simp [hjoin, Function.comp_def]
  have hpieces : splitText d.toList (d.intercalate (c.joinFields.map ctx.text)).toList =
      c.outputFields.map fun s => ctx.text s.name := by
    rw [String.toList_intercalate, hvals, splitText_intercalate hsep _ (by simpa using hout)]
    · simp [Function.comp_def]
    · simpa using hfree
    · simpa [← List.map_dropLast] using hafter
  have hfold := foldl_delimitedField codecs c.outputFields (fun s => ctx.text s.name) [] c.outputFields []
    rfl (fun s hs => ⟨(hnamed s hs).1, (hnamed s hs).2, htrim s hs⟩)
  simp only [decomposeDelimited, hd, nonBlank, hdb, Bool.false_eq_true, if_false, Option.getD_some, hpieces,
    hsegments]
  rw [List.length_nil] at hfold
  rw [hfold]
  simp [Members.ofList, Members.extend, List.foldl_map]

/-- Two values joined on a bar split back. -/
theorem delimited_join_pair_splits_back :
    ∃ t, join { parseMode := some "delimitado", delimiter := some "|",
                outputFields := [{ name := "x" }, { name := "y" }], joinFields := ["x", "y"] }
          [("x", .str "ab"), ("y", .str "c")] = .ok (.ok t) ∧
      decompose .standard { parseMode := some "delimitado", delimiter := some "|",
                            outputFields := [{ name := "x" }, { name := "y" }], joinFields := ["x", "y"] }
          [("CampoIN", .str t)] =
        .ok (Members.ofList [("x", .str "ab"), ("y", .str "c")]) := by
  refine split_undoes_delimited_join .standard _ _ "|" rfl rfl rfl (List.cons_ne_nil _ _) ?_ rfl rfl (by decide) ?_ ?_ ?_
  all_goals simp only [List.mem_cons, List.not_mem_nil, or_false, List.dropLast_cons_cons,
    List.dropLast_singleton]
  · rintro s (rfl | rfl) <;> decide
  · rintro s (rfl | rfl) <;> decide
  · rintro s (rfl | rfl) <;> decide
  · rintro s rfl
    decide

/-- Three splits of a delimited join that do not give the values back. With the delimiter `||`
the values `a|` and `b` come back as `a` and `|b`, the first delimiter found starting inside
`a|`; a blank field name comes back as `campo1`; and a splitter set to read `Otro` does not find
the text placed under `CampoIN`. -/
theorem delimited_split_shifts_renames_misses :
    join { parseMode := some "delimitado", delimiter := some "||",
           outputFields := [{ name := "x" }, { name := "y" }], joinFields := ["x", "y"] }
        [("x", .str "a|"), ("y", .str "b")] = .ok (.ok "a|||b") ∧
      decompose .standard { parseMode := some "delimitado", delimiter := some "||",
                            outputFields := [{ name := "x" }, { name := "y" }], joinFields := ["x", "y"] }
        [("CampoIN", .str "a|||b")] = .ok [("x", .str "a"), ("y", .str "|b")] ∧
    join { parseMode := some "delimitado", delimiter := some "||",
           outputFields := [{ name := "" }], joinFields := [""] }
        [("", .str "v")] = .ok (.ok "v") ∧
      decompose .standard { parseMode := some "delimitado", delimiter := some "||",
                            outputFields := [{ name := "" }], joinFields := [""] }
        [("CampoIN", .str "v")] = .ok [("campo1", .str "v")] ∧
    join { parseMode := some "delimitado", delimiter := some "||", inputField := some "Otro",
           outputFields := [{ name := "x" }], joinFields := ["x"] }
        [("x", .str "v")] = .ok (.ok "v") ∧
      decompose .standard { parseMode := some "delimitado", delimiter := some "||", inputField := some "Otro",
                            outputFields := [{ name := "x" }], joinFields := ["x"] }
        [("CampoIN", .str "v")] = .error (.splitter "input field 'Otro' not found in context") := by
  have hmode : Text.toLower "delimitado" = "delimitado" := by decide
  have hshift : splitText ['|', '|'] ['a', '|', '|', '|', 'b'] = ["a", "|b"] := by decide +kernel
  have hwhole : splitText ['|', '|'] ['v'] = ["v"] := by decide +kernel
  refine ⟨?_, ?_, ?_, ?_, ?_, ?_⟩
  · simp +decide [join, hmode, nonBlank, Members.get?_cons, Json.plain, pure, Except.pure]
  · simp +decide [decompose, inputText, decomposeDelimited, hmode, nonBlank, outputSegments,
      Members.get?_cons, Json.plain, hshift, delimitedField, Text.trim, Text.dropBlanks, decodePiece, Members.insert,
      bind, Except.bind, pure, Except.pure]
  · simp +decide [join, hmode, nonBlank, Members.get?_cons, Json.plain, pure, Except.pure]
  · simp +decide [decompose, inputText, decomposeDelimited, hmode, nonBlank, outputSegments,
      Members.get?_cons, Json.plain, hwhole, delimitedField, Members.insert, bind, Except.bind, pure, Except.pure]
  · simp +decide [join, hmode, nonBlank, Members.get?_cons, Json.plain, pure, Except.pure]
  · simp +decide [decompose, inputText, nonBlank, Members.get?_cons, bind, Except.bind]

end Splitter

end IntegrationFlow
