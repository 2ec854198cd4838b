import IntegrationFlow.Proofs.ReadWritten
import IntegrationFlow.Proofs.Members
import IntegrationFlow.Splitter.Split
import Mathlib.Algebra.BigOperators.Ring.Finset

/-!
Fixed-width joins write every named segment with a length, fitted to that many characters,
end to end, and panic exactly when that text would take more than `isize::MAX` bytes.
-/

namespace IntegrationFlow

/-- Whether a join at fixed positions writes a segment: it has a length and a name that is not
blank. -/
def Segment.joined (s : Segment) : Bool := s.length.isSome && !Text.isBlankText s.name

/-- The layout a join writes: `modoParseo`, else `tipoAnalisis`, else `plano`, in lower case. -/
def SplitterConfig.joinMode (c : SplitterConfig) : String :=
  Text.toLower ((Splitter.nonBlank c.parseMode <|> Splitter.nonBlank c.analysis).getD "plano")

namespace Splitter

namespace Padding

/-- The character a padding mode fills with. -/
def fill : Padding → Char
  | .zerosLeft | .zerosRight => '0'
  | .spacesLeft | .spacesRight => ' '

/-- Whether a padding mode fills on the left. -/
def onLeft : Padding → Bool
  | .zerosLeft | .spacesLeft => true
  | .zerosRight | .spacesRight => false

/-- `k` fill characters added on the side a padding mode fills. -/
def apply (p : Padding) (k : Nat) (v : List Char) : List Char :=
  if p.onLeft then List.replicate k p.fill ++ v else v ++ List.replicate k p.fill

/-- A value fitted to `n` characters: its first `n` when it has that many, else the value with
the missing characters filled on the mode's side. -/
def fit (p : Padding) (n : Nat) (v : List Char) : List Char :=
  if n ≤ v.length then v.take n else p.apply (n - v.length) v

@[simp] lemma utf8Size_fill (p : Padding) : p.fill.utf8Size = 1 := by
  cases p <;> rfl

lemma length_apply (p : Padding) (k : Nat) (v : List Char) : (p.apply k v).length = k + v.length := by
  unfold apply
  split <;> simp
  omega

lemma length_fit (p : Padding) (n : Nat) (v : List Char) : (p.fit n v).length = n := by
  unfold fit
  split
  · simpa
  · rw [length_apply]
    omega

end Padding

/-! ### Bytes -/

lemma utf8ByteSize_ofList (l : List Char) : (String.ofList l).utf8ByteSize = (l.map Char.utf8Size).sum := by
  induction l with
  | nil => rfl
  | cons c l ih =>
    rw [String.ofList_cons, String.utf8ByteSize_append, String.utf8ByteSize_singleton, ih, List.map_cons,
      List.sum_cons]

lemma utf8ByteSize_eq_sum (s : String) : s.utf8ByteSize = (s.toList.map Char.utf8Size).sum := by
  rw [← utf8ByteSize_ofList, String.ofList_toList]

lemma length_le_utf8ByteSize (s : String) : s.length ≤ s.utf8ByteSize := by
  rw [utf8ByteSize_eq_sum, ← String.length_toList]
  induction s.toList with
  | nil => simp
  | cons c l ih =>
    have := Char.utf8Size_pos c
    simp only [List.length_cons, List.map_cons, List.sum_cons]
    omega

lemma utf8ByteSize_join (l : List String) : (String.join l).utf8ByteSize = (l.map String.utf8ByteSize).sum := by
  induction l with
  | nil => rfl
  | cons s l ih => rw [String.join_cons, String.utf8ByteSize_append, ih, List.map_cons, List.sum_cons]

lemma utf8ByteSize_fit {v : String} {n : Nat} (p : Padding) (h : v.length < n) :
    (String.ofList (p.fit n v.toList)).utf8ByteSize = n - v.length + v.utf8ByteSize := by
  have hn : ¬ n ≤ v.toList.length := by rw [String.length_toList]; omega
  rw [Padding.fit, if_neg hn, utf8ByteSize_ofList, utf8ByteSize_eq_sum v, Padding.apply, String.length_toList]
  split <;> simp only [List.map_append, List.sum_append, List.map_replicate, List.sum_replicate_nat,
    Padding.utf8Size_fill] <;> omega

/-! ### Padding -/

lemma repeatChar_eq (c : Char) (n : Nat) :
    repeatChar c n =
      if maxTextBytes < n * c.utf8Size then .error .capacityOverflow else .ok (String.ofList (List.replicate n c)) := by
  unfold repeatChar
  split <;> simp_all [← String.toList_inj, String.toList_pushn]

lemma pad_eq (v : String) (n : Nat) (p : String) :
    pad v n p =
      if v.length < n ∧ maxTextBytes < n - v.length + v.utf8ByteSize then .error .capacityOverflow
      else .ok (String.ofList ((Padding.ofString p).fit n v.toList)) := by
  have hl : v.toList.length = v.length := String.length_toList
  unfold pad
  simp only [Padding.fit, hl, ge_iff_le]
  by_cases hn : n ≤ v.length
  · have hlt : ¬ v.length < n := by omega
    simp [hn, hlt, pure, Except.pure]
  · have hlt : v.length < n := by omega
    have hfill : ∀ c : Char, c.utf8Size = 1 →
        (String.ofList (List.replicate (n - v.length) c)).utf8ByteSize = n - v.length := by
      intro c hc
      simp [utf8ByteSize_ofList, List.map_replicate, hc]
    have h0 : '0'.utf8Size = 1 := rfl
    have h1 : ' '.utf8Size = 1 := rfl
    simp only [hn, hlt, true_and, if_false]
    -- the fill is built first and fits whenever fill and value together do
    by_cases h : maxTextBytes < n - v.length + v.utf8ByteSize <;>
    by_cases hf : maxTextBytes < n - v.length <;>
    cases Padding.ofString p <;>
      simp [repeatChar_eq, appendText, Padding.apply, Padding.onLeft, Padding.fill, h0, h1, hfill, h, hf, bind,
        Except.bind, String.ofList_append] <;> omega

/-! ### The join's loop -/

/-- What a fixed-width join writes for a segment: the text of its field, fitted to its length
with its padding, blanks on the right by default. -/
def fixedText (ctx : Members) (s : Segment) : String :=
  String.ofList ((Padding.ofString (s.padding.getD "espacios")).fit (s.length.getD 0) (ctx.text s.name).toList)

lemma pad_fixedText (ctx : Members) (s : Segment) :
    pad (ctx.text s.name) (s.length.getD 0) (s.padding.getD "espacios") =
      if (ctx.text s.name).length < s.length.getD 0 ∧ maxTextBytes < (fixedText ctx s).utf8ByteSize then
        .error .capacityOverflow
      else .ok (fixedText ctx s) := by
  rw [pad_eq]
  by_cases h : (ctx.text s.name).length < s.length.getD 0
  · rw [fixedText, utf8ByteSize_fit _ h]
  · simp [h, fixedText]

section Loop

variable {ctx : Members}

lemma joinStep_skipped {s : Segment} (hs : s.joined = false) (acc : String) : joinStep ctx acc s = .ok acc := by
  unfold joinStep
  cases hl : s.length with
  | none => rfl
  | some n =>
    have hb : Text.isBlankText s.name = true := by simpa [Segment.joined, hl] using hs
    simp [hb, pure, Except.pure]

lemma joinStep_joined {s : Segment} (hs : s.joined = true) (acc : String) :
    joinStep ctx acc s = pad (ctx.text s.name) (s.length.getD 0) (s.padding.getD "espacios") >>= appendText acc := by
  obtain ⟨hl, hb⟩ : s.length.isSome = true ∧ Text.isBlankText s.name = false := by
    simpa [Segment.joined] using hs
  obtain ⟨n, hn⟩ := Option.isSome_iff_exists.1 hl
  simp [joinStep, hn, hb, Members.text]

/-- **The loop of a fixed-width join.** From a text within the byte limit, the loop appends the
fitted text of every segment it writes, and panics exactly when the whole would take more than
`maxTextBytes` bytes: the text only grows, so a pad or an append that overflows leaves the whole
too long, and a whole that fits has every step fit. -/
lemma foldlM_joinStep : ∀ (l : List Segment) (acc : String), acc.utf8ByteSize ≤ maxTextBytes →
    l.foldlM (joinStep ctx) acc =
      if maxTextBytes < (acc ++ String.join ((l.filter Segment.joined).map (fixedText ctx))).utf8ByteSize then
        .error .capacityOverflow
      else .ok (acc ++ String.join ((l.filter Segment.joined).map (fixedText ctx)))
  | [], acc, hacc => by simp [Nat.not_lt.2 hacc, pure, Except.pure]
  | s :: l, acc, hacc => by
    cases hs : s.joined
    · rw [List.foldlM_cons, joinStep_skipped hs, List.filter_cons_of_neg (by simp [hs])]
      exact foldlM_joinStep l acc hacc
    · have hrest := foldlM_joinStep l (acc ++ fixedText ctx s)
      simp only [List.foldlM_cons, joinStep_joined hs, List.filter_cons_of_pos hs, List.map_cons,
        String.join_cons, ← String.append_assoc, String.utf8ByteSize_append] at hrest ⊢
      rw [pad_fixedText]
      -- the piece alone, or the text with the piece, may already be too long
      by_cases hpiece : (ctx.text s.name).length < s.length.getD 0 ∧ maxTextBytes < (fixedText ctx s).utf8ByteSize
      · rw [if_pos hpiece, if_pos (by omega)]
        rfl
      · rw [if_neg hpiece]
        by_cases hgrow : maxTextBytes < acc.utf8ByteSize + (fixedText ctx s).utf8ByteSize
        · simp only [bind, Except.bind, appendText, gt_iff_lt, hgrow, if_true]
          rw [if_pos (by omega)]
        · simp only [bind, Except.bind, appendText, gt_iff_lt, hgrow, if_false]
          exact hrest (by omega)

end Loop

lemma take_drop_flatten {L : List (List Char)} {i : Nat} (hi : i < L.length) :
    (L.flatten.drop ((L.take i).map List.length).sum).take L[i].length = L[i] := by
  rw [List.map_take, List.drop_sum_flatten, List.drop_eq_getElem_cons hi, List.flatten_cons, List.take_left]

lemma join_eq_fixedText {c : SplitterConfig} {ctx : Members}
    (hmode : c.joinMode ∈ ["plano", "posicionfija", "posicion_fija"]) (hsegs : c.segments ≠ []) :
    join c ctx =
      let t := String.join ((c.segments.filter Segment.joined).map (fixedText ctx))
      if maxTextBytes < t.utf8ByteSize then .error .capacityOverflow else .ok (.ok t) := by
  have hempty : c.segments.isEmpty = false := by simpa [List.isEmpty_iff] using hsegs
  have hloop : c.segments.foldlM (joinStep ctx) "" = _ := foldlM_joinStep c.segments "" (by simp)
  simp only [String.empty_append] at hloop
  unfold join
  simp only [List.mem_cons, List.not_mem_nil, or_false] at hmode
  -- the three names of the layout take the same branch
  rcases hmode with h | h | h <;>
  · rw [SplitterConfig.joinMode] at h
    rw [h]
    simp only [hempty, Bool.false_eq_true, if_false, hloop]
    split <;> rfl

/-- **Fixed-width joins.** Let a splitter join at fixed positions (`plano`, `posicionfija` or
`posicion_fija`) with segments set, and let `t` be, in order, each segment that has a length `n`
and a name that is not blank written as the text of its field fitted to `n` characters: its
first `n` characters when it has that many, else the text filled with the mode's character on
the mode's side (blanks on the right by default). The join returns `t` when `t` takes at most
`isize::MAX` bytes, and panics with a capacity overflow otherwise. `t` is as long as those
lengths added up, and each written segment's piece stands at the offset the lengths of the
pieces before it add up to. -/
theorem join_fixed_width (c : SplitterConfig) (ctx : Members)
    (hmode : c.joinMode ∈ ["plano", "posicionfija", "posicion_fija"]) (hsegs : c.segments ≠ []) :
    let written := c.segments.filter Segment.joined
    let piece := fun s : Segment =>
      (Padding.ofString (s.padding.getD "espacios")).fit (s.length.getD 0) (ctx.text s.name).toList
    let t := String.ofList (written.map piece).flatten
    join c ctx = (if maxTextBytes < t.utf8ByteSize then .error .capacityOverflow else .ok (.ok t)) ∧
      t.length = (written.map fun s => s.length.getD 0).sum ∧
      ∀ i (hi : i < written.length),
        (t.toList.drop ((written.take i).map fun s => s.length.getD 0).sum).take (written[i].length.getD 0) =
          piece written[i] := by
  intro written piece t
  have ht : String.join (written.map (fixedText ctx)) = t := by
    simp [← String.toList_inj, t, String.toList_join, List.flatMap_def, Function.comp_def, fixedText, piece]
  -- every piece is as long as its segment
  have hlengths : (written.map piece).map List.length = written.map fun s => s.length.getD 0 := by
    simp [piece, Function.comp_def, Padding.length_fit]
  refine ⟨by rw [join_eq_fixedText hmode hsegs, ht], ?_, fun i hi => ?_⟩
  · rw [← String.length_toList, String.toList_ofList, List.length_flatten, hlengths]
  · have hi' : i < (written.map piece).length := by simpa using hi
    have hoffset : ((written.take i).map fun s => s.length.getD 0).sum =
        (((written.map piece).take i).map List.length).sum := by
      rw [List.map_take, List.map_take, hlengths]
    have hlen : written[i].length.getD 0 = (written.map piece)[i].length := by
      simp [piece, Padding.length_fit]
    rw [String.toList_ofList, hoffset, hlen, take_drop_flatten hi']
    simp

/-- Three segments written and one skipped: a long number cut to three characters, a missing
field filled with blanks, and a short code zero-filled on the left; the text is seven
characters long. -/
theorem fixed_join_cuts_and_fills :
    let c : SplitterConfig :=
      { segments := [{ name := "n", length := some 3 }, { name := " ", length := some 4 },
        { name := "m", length := some 2 }, { name := "k", length := some 2, padding := some "ceros" }] }
    let ctx : Members := [("k", .str "7"), ("n", Json.int 12345)]
    c.joinMode ∈ ["plano", "posicionfija", "posicion_fija"] ∧ c.segments ≠ [] ∧
      ∃ t, join c ctx = .ok (.ok t) ∧ t.length = 7 := by
  intro c ctx
  have hmode : c.joinMode ∈ ["plano", "posicionfija", "posicion_fija"] := by decide
  have hsegs : c.segments ≠ [] := by simp [c]
  obtain ⟨hjoin, hlen, -⟩ := join_fixed_width c ctx hmode hsegs
  refine ⟨hmode, hsegs, _, ?_, by rw [hlen]; rfl⟩
  rw [hjoin, if_neg (by decide)]

/-- The field `a` holds `x`, and its segment is `2 ^ 64 - 1` characters long, the length a
`longitud` of `1e30` decodes to: filling `x` out to that length needs more than `isize::MAX`
bytes, and the join panics where it was to return the filled text. -/
theorem fixed_join_huge_length_panics :
    join { segments := [{ name := "a", length := some (Nat.pow 2 64 - 1) }] } [("a", .str "x")] =
      .error .capacityOverflow := by
  have hname : Text.isBlankText "a" = false := by decide
  have hbig : "x".length < Nat.pow 2 64 - 1 ∧ maxTextBytes < Nat.pow 2 64 - 1 - "x".length + "x".utf8ByteSize := by
    decide
  simp only [join, nonBlank, List.isEmpty_cons, Bool.false_eq_true, if_false, List.foldlM_cons,
    List.foldlM_nil, joinStep, hname, pad_eq, Members.get?_cons, if_true, Option.map_some, Option.getD_some,
    Json.plain, Option.getD_none]
  rw [if_pos hbig]
  rfl

end Splitter

end IntegrationFlow
