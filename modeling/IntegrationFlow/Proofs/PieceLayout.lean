import IntegrationFlow.Proofs.SplitJoin
import IntegrationFlow.Proofs.EntryFields

/-!
Where a split reads its pieces. Positions are 64-bit words that saturate, so both loops rest
on stopping at the end of the text: `fixed_split_reads_pieces` gives the pieces of a segment in
closed form, and `block_split_reads_items` the items of the first twenty blocks.
-/

namespace IntegrationFlow

namespace Splitter

variable (codecs : Codecs)

/-- The last position: positions are 64-bit words that stop there instead of wrapping. -/
def maxPosition : Nat := 18446744073709551615

lemma addClamped_eq (a b : Nat) : addClamped a b = min (a + b) maxPosition := rfl

lemma length_toList_le_maxPosition {input : String} (h : input.length < 2 ^ 64) :
    input.toList.length ≤ maxPosition := by
  rw [String.length_toList]
  unfold maxPosition
  omega

/-! ### How many pieces a segment reads -/

/-- How many pieces of `n` characters a segment that repeats `reps` times reads from `st` in a
text of `L` characters: none from the end of the text on, else as many as start inside the text
(the last possibly shorter), at most `reps`. -/
def pieceCount (L st n reps : Nat) : Nat := if st < L then min reps ((L - st + n - 1) / n) else 0

/-- Where the pieces a segment read end: at its start when it read none, else past the last one,
saturating. -/
def pieceEnd (st n m : Nat) : Nat := if m = 0 then st else addClamped st (m * n)

section Count

variable {L st n reps k : Nat}

lemma lt_div_iff_mul_lt (hn : 0 < n) (a : Nat) : k < (a + n - 1) / n ↔ k * n < a := by
  rw [Nat.lt_iff_add_one_le, Nat.le_div_iff_mul_le hn, Nat.succ_mul]
  omega

/-- **Every piece starts inside the text.** -/
lemma lt_of_lt_pieceCount (hn : 0 < n) (hk : k < pieceCount L st n reps) : st + k * n < L := by
  unfold pieceCount at hk
  split at hk
  · have := (lt_div_iff_mul_lt hn (L - st)).1 (lt_of_lt_of_le hk (Nat.min_le_right _ _))
    omega
  · omega

lemma pieceCount_le_reps : pieceCount L st n reps ≤ reps := by
  unfold pieceCount
  split <;> omega

lemma pieceCount_le_length (hn : 0 < n) : pieceCount L st n reps ≤ L := by
  rcases Nat.eq_zero_or_pos (pieceCount L st n reps) with h | h
  · omega
  · -- the last piece starts inside the text
    have hlast : pieceCount L st n reps - 1 < pieceCount L st n reps := by omega
    have := lt_of_lt_pieceCount hn hlast
    have := Nat.le_mul_of_pos_right (pieceCount L st n reps - 1) hn
    omega

lemma le_of_pieceCount_lt (hn : 0 < n) (hst : st < L) (h : pieceCount L st n reps < reps) :
    L ≤ st + pieceCount L st n reps * n := by
  unfold pieceCount at h ⊢
  rw [if_pos hst] at h ⊢
  rw [Nat.min_eq_right (by omega)]
  -- rounding the count up covers the rest of the text
  have hdiv := Nat.div_add_mod (L - st + n - 1) n
  have hmod := Nat.mod_lt (L - st + n - 1) hn
  rw [Nat.mul_comm] at hdiv
  omega

lemma pieceCount_pos (hn : 0 < n) (hst : st < L) (hreps : 0 < reps) : 0 < pieceCount L st n reps := by
  unfold pieceCount
  rw [if_pos hst]
  have := (lt_div_iff_mul_lt (k := 0) hn (L - st)).2 (by omega)
  omega

lemma le_pieceEnd (hn : 0 < n) (hL : L ≤ maxPosition) (hreps : 0 < reps)
    (h : pieceCount L st n reps < reps) : L ≤ pieceEnd st n (pieceCount L st n reps) := by
  unfold pieceEnd
  by_cases hst : st < L
  · have hpos := pieceCount_pos hn hst hreps
    have hend := le_of_pieceCount_lt hn hst h
    rw [if_neg (by omega), addClamped_eq]
    omega
  · have : pieceCount L st n reps = 0 := by simp [pieceCount, hst]
    simp only [this, if_true]
    omega

lemma pieceEnd_of_lt (hk : st + k * n < L) (hL : L ≤ maxPosition) : pieceEnd st n k = st + k * n := by
  unfold pieceEnd
  split
  · simp_all
  · rw [addClamped_eq]
    omega

end Count

/-! ### The pieces of one segment -/

/-- Piece `k` of a segment of `n` characters read from `st`. -/
def piece (cs : List Char) (st n k : Nat) : String := slice cs (st + k * n) n

/-- Piece `k` as an array item: trimmed and decoded. -/
def arrayItem (cs : List Char) (s : Segment) (st n k : Nat) : Json :=
  .str (decodePiece codecs (Text.trim (piece cs st n k)) s.encoding)

/-- Piece `k` as a field: named with its number when the segment repeats, with its padding taken
off and decoded. -/
def namedPiece (cs : List Char) (s : Segment) (reps st n k : Nat) : String × Json :=
  (if reps > 1 then s.name ++ toString (k + 1) else s.name, .str (decodePiece codecs (unpad (piece cs st n k) s.padding) s.encoding))

/-- The fields the first `m` pieces of a segment give: one array field that holds them all when
the segment repeats into an array, else a field per piece. -/
def segmentFields (cs : List Char) (s : Segment) (reps st n m : Nat) : Members :=
  if reps > 1 && s.structure_ == some "array" then [(s.name, .arr ((List.range m).map (arrayItem codecs cs s st n)))]
  else Members.ofList ((List.range m).map (namedPiece codecs cs s reps st n))

section Pieces

variable {cs : List Char} {s : Segment} {n reps st : Nat} (asArray : Bool)

/-- **The loop over a segment's repetitions.** After `j` rounds it has read the first
`min j m` pieces, as array items (newest first) or as fields, the cursor stands where they end,
and it has stopped once a round found the cursor at the end of the text. -/
lemma foldl_pieceStep (hn : 0 < n) (hL : cs.length ≤ maxPosition) (hreps : 0 < reps) :
    ∀ j ≤ min reps (cs.length + 1),
      (List.range j).foldl (pieceStep codecs cs s n reps asArray) ([], [], st, false) =
        (if asArray then ((List.range (min j (pieceCount cs.length st n reps))).map (arrayItem codecs cs s st n)).reverse
          else [],
         if asArray then [] else
          Members.ofList ((List.range (min j (pieceCount cs.length st n reps))).map (namedPiece codecs cs s reps st n)),
         pieceEnd st n (min j (pieceCount cs.length st n reps)), decide (pieceCount cs.length st n reps < j))
  | 0, _ => by cases asArray <;> simp [pieceEnd, Members.ofList, Members.extend]
  | j + 1, hj => by
    rw [List.range_succ, List.foldl_append, foldl_pieceStep hn hL hreps j (by omega), List.foldl_cons,
      List.foldl_nil]
    by_cases hjm : j < pieceCount cs.length st n reps
    · -- round `j` reads piece `j`, which starts inside the text
      have hin := lt_of_lt_pieceCount hn hjm
      have hnext : addClamped (st + j * n) n = pieceEnd st n (j + 1) := by
        rw [pieceEnd, if_neg (by omega), addClamped_eq, addClamped_eq, Nat.succ_mul, Nat.add_assoc]
      rw [Nat.min_eq_left hjm.le, Nat.min_eq_left hjm, pieceEnd_of_lt hin hL]
      cases asArray <;>
        simp [pieceStep, Nat.not_le.2 hin, hnext, Nat.not_lt.2 hjm.le, Nat.not_lt.2 hjm, List.range_succ,
          piece, arrayItem, namedPiece, Members.ofList, Members.extend_append_singleton]
    · -- every round from `m` on finds the cursor at the end of the text
      have hstop : pieceCount cs.length st n reps < j ∨
          cs.length ≤ pieceEnd st n (pieceCount cs.length st n reps) := by
        rcases Nat.lt_or_ge (pieceCount cs.length st n reps) j with h | h
        · exact .inl h
        · exact .inr (le_pieceEnd hn hL hreps (by omega))
      rw [Nat.min_eq_right (by omega), Nat.min_eq_right (by omega)]
      simp only [pieceStep]
      rw [if_pos (by rcases hstop with h | h <;> simp [h])]
      simp only [Prod.mk.injEq, true_and]
      exact (decide_eq_true (by omega)).symm

/-- **A segment's pieces in closed form.** From `st`, a segment of `n ≥ 1` characters reads
`pieceCount` pieces, gives their fields, and leaves the cursor where they end. -/
lemma segmentPieces_eq (hn : 0 < n) (hL : cs.length ≤ maxPosition) :
    segmentPieces codecs cs s n st =
      (segmentFields codecs cs s (max (s.repetitions.getD 1) 1) st n
          (pieceCount cs.length st n (max (s.repetitions.getD 1) 1)),
        pieceEnd st n (pieceCount cs.length st n (max (s.repetitions.getD 1) 1))) := by
  have hreps : 0 < max (s.repetitions.getD 1) 1 := by omega
  -- the rounds outnumber the pieces, so the loop reads them all
  have hm : pieceCount cs.length st n (max (s.repetitions.getD 1) 1) ≤
      min (max (s.repetitions.getD 1) 1) (cs.length + 1) :=
    Nat.le_min.2 ⟨pieceCount_le_reps, Nat.le_succ_of_le (pieceCount_le_length hn)⟩
  unfold segmentPieces
  dsimp only
  rw [foldl_pieceStep codecs _ hn hL hreps _ le_rfl, Nat.min_eq_right hm]
  unfold segmentFields
  split <;> simp_all

end Pieces

/-! ### A split at fixed positions -/

/-- One segment of a split at fixed positions, in closed form: a segment with a length `n ≥ 1`
and a name that is not blank starts at its own start or at the cursor, adds the fields of its
`pieceCount` pieces, and leaves the cursor where they end; any other segment changes nothing. -/
def fixedRead (cs : List Char) (acc : Members × Nat) (s : Segment) : Members × Nat :=
  match s.length with
  | some n =>
    if n = 0 || Text.isBlankText s.name then acc
    else
      let reps := max (s.repetitions.getD 1) 1
      let st := s.start.getD acc.2
      (acc.1.extend (segmentFields codecs cs s reps st n (pieceCount cs.length st n reps)),
        pieceEnd st n (pieceCount cs.length st n reps))
  | none => acc

lemma fixedStep_eq_fixedRead {cs : List Char} (hL : cs.length ≤ maxPosition) : fixedStep codecs cs = fixedRead codecs cs := by
  funext acc s
  obtain ⟨fields, pos⟩ := acc
  unfold fixedStep fixedRead
  cases hl : s.length with
  | none => rfl
  | some n =>
    by_cases hskip : (n = 0 || Text.isBlankText s.name) = true
    · simp only [hskip, if_true]
    · have hn : 0 < n := by
        simp only [Bool.or_eq_true, decide_eq_true_eq, not_or] at hskip
        omega
      simp only [hskip, Bool.false_eq_true, if_false]
      rw [segmentPieces_eq codecs hn hL]

/-- **A split at fixed positions reads every segment's pieces inside the text.** Let a splitter
have output segments, and let the text have fewer than `2 ^ 64` characters. Then splitting the text
at fixed positions succeeds, and gives the fields the segments read in order: a segment with a
length `n ≥ 1` and a name that is not blank starts at its own start or where the segment before
it stopped, and from `st` reads `pieceCount L st n reps` pieces of `n` characters, where `reps` is
its repetitions and at least one: none when `st` is at or past the end of the text, else
`min reps ⌈(L - st) / n⌉`, the last possibly shorter. They give one array field with all of them
when the segment repeats into an array, else a field per piece named `name1`, `name2`, … or just
`name` when it does not repeat. The next segment starts by default where these pieces end,
saturating. Every piece read starts inside the text. -/
theorem fixed_split_reads_pieces (c : SplitterConfig) (input : String) (hsegs : outputSegments c ≠ [])
    (hL : input.length < 2 ^ 64) :
    decomposeFixed codecs c input = .ok ((outputSegments c).foldl (fixedRead codecs input.toList) ([], 0)).1 ∧
      ∀ st n reps k, 0 < n → k < pieceCount input.length st n reps → st + k * n < input.length := by
  have hmax := length_toList_le_maxPosition hL
  refine ⟨?_, fun st n reps k hn hk => lt_of_lt_pieceCount hn hk⟩
  unfold decomposeFixed
  rw [if_neg (by simpa [List.isEmpty_iff] using hsegs), fixedStep_eq_fixedRead codecs hmax]
  rfl

/-- A segment of two characters that repeats as often as a 64-bit count allows, from `1e30`, read
from a text of five characters: the theorem applies, the loop stopping at the end of the text. -/
theorem fixed_split_huge_repetitions :
    let c : SplitterConfig :=
      { segments := [{ name := "a", length := some 2, repetitions := some 18446744073709551615 }] }
    outputSegments c ≠ [] ∧ "abcde".length < 2 ^ 64 ∧
      decomposeFixed .standard c "abcde" = .ok ((outputSegments c).foldl (fixedRead .standard "abcde".toList) ([], 0)).1 ∧
      ∀ st n reps k, 0 < n → k < pieceCount "abcde".length st n reps → st + k * n < "abcde".length := by
  intro c
  have hsegs : outputSegments c ≠ [] := by simp [c, outputSegments]
  have hL : "abcde".length < 2 ^ 64 := by decide
  exact ⟨hsegs, hL, fixed_split_reads_pieces .standard c "abcde" hsegs hL⟩

example : decomposeFixed .standard { segments := [{ name := "a", length := some 2, repetitions := some 18446744073709551615 }] }
    "abcde" = .ok [("a1", .str "ab"), ("a2", .str "cd"), ("a3", .str "e")] := by
  rfl

/-! ### Repeated blocks -/

/-- The blocks of a text cut every `B` characters, the last possibly shorter: block `i` holds the
characters from `i * B` up to `(i + 1) * B`, for every `i` with `i * B` inside the text. -/
def blocksOf (B : Nat) (cs : List Char) : List (List Char) :=
  (List.range ((cs.length + B - 1) / B)).map fun i => (cs.drop (i * B)).take B

/-- The subfields of a block with their starts and lengths: a subfield with a length of at least
one starts at its own start or where the one before it ended, saturating; the others are left out
and move nothing. -/
def subfieldStarts : List Segment → Nat → List (Segment × Nat × Nat)
  | [], _ => []
  | f :: fs, offset =>
    match f.length with
    | some n =>
      if n = 0 then subfieldStarts fs offset
      else (f, f.start.getD offset, n) :: subfieldStarts fs (addClamped (f.start.getD offset) n)
    | none => subfieldStarts fs offset

/-- The field a placed subfield gives in a block: its piece, trimmed and decoded, when its name is
not blank and it starts inside the block. -/
def placedField (blk : List Char) : Segment × Nat × Nat → Option (String × Json)
  | (f, st, n) =>
    if !Text.isBlankText f.name && st < blk.length then
      some (f.name, .str (decodePiece codecs (Text.trim (slice blk st n)) f.encoding))
    else none

/-- The item of a block: the fields its placed subfields give, of two with one name the later. -/
def itemOf (fs : List Segment) (blk : List Char) : Members :=
  Members.ofList ((subfieldStarts fs 0).filterMap (placedField codecs blk))

/-- Whether reading goes on past a block: it is not all blanks, and its item holds a value that is
not blank. -/
def keepsBlock (fs : List Segment) (blk : List Char) : Bool :=
  !blk.all Text.isWhiteSpace && !(itemOf codecs fs blk).all (·.2.isBlank)

lemma foldl_subfieldStep (blk : List Char) :
    ∀ (fs : List Segment) (m : Members) (offset : Nat),
      (fs.foldl (subfieldStep codecs blk) (m, offset)).1 = m.extend ((subfieldStarts fs offset).filterMap (placedField codecs blk))
  | [], _, _ => rfl
  | f :: fs, m, offset => by
    rw [List.foldl_cons]
    cases hl : f.length with
    | none =>
      simp only [subfieldStep, hl, subfieldStarts]
      exact foldl_subfieldStep blk fs m offset
    | some n =>
      by_cases hn : n = 0
      · simp only [subfieldStep, hl, subfieldStarts, hn, if_true]
        exact foldl_subfieldStep blk fs m offset
      · simp only [subfieldStep, hl, subfieldStarts, hn, if_false, List.filterMap_cons, placedField]
        split
        · -- a blank name, or a start past the block: no field, the offset still moves
          rename_i hskip
          have hnone : ¬((!Text.isBlankText f.name && decide (f.start.getD offset < blk.length)) = true) := by
            simp only [Bool.or_eq_true, decide_eq_true_eq] at hskip
            rcases hskip with h | h <;> simp [h]
          rw [foldl_subfieldStep blk fs m _, if_neg hnone]
        · rename_i hread
          rw [foldl_subfieldStep blk fs _ _, if_pos (by simpa [Nat.not_le] using hread)]
          rfl

lemma blockItem_eq_itemOf (fs : List Segment) (blk : List Char) : blockItem codecs fs blk = itemOf codecs fs blk :=
  foldl_subfieldStep codecs blk fs [] 0

section Blocks

variable {B : Nat} {cs : List Char}

lemma length_blocksOf : (blocksOf B cs).length = (cs.length + B - 1) / B := by
  simp [blocksOf]

lemma drop_blocksOf (hB : 0 < B) {i : Nat} (hi : i * B < cs.length) :
    (blocksOf B cs).drop i = (cs.drop (i * B)).take B :: (blocksOf B cs).drop (i + 1) := by
  have hlen : i < (blocksOf B cs).length := by
    rw [length_blocksOf]
    exact (lt_div_iff_mul_lt hB cs.length).2 hi
  rw [List.drop_eq_getElem_cons hlen]
  simp [blocksOf]

lemma drop_blocksOf_eq_nil (hB : 0 < B) {i : Nat} (hi : cs.length ≤ i * B) : (blocksOf B cs).drop i = [] := by
  apply List.drop_eq_nil_of_le
  rw [length_blocksOf]
  by_contra hlt
  have := (lt_div_iff_mul_lt hB cs.length).1 (by omega : i < (cs.length + B - 1) / B)
  omega

/-- **The loop over the blocks.** From the start of block `i`, reading at most `fuel` more blocks
adds the items of the longest prefix of the next `fuel` blocks whose blocks are not all blanks and
whose items hold a value that is not blank. -/
lemma go_eq (hB : 0 < B) (hL : cs.length ≤ maxPosition) (item : List Char → Members) :
    ∀ fuel i acc, decomposeBlocks.go B cs item fuel (min (i * B) cs.length) acc =
      acc.reverse ++ ((((blocksOf B cs).drop i).take fuel).takeWhile
        (fun b => !b.all Text.isWhiteSpace && !(item b).all (·.2.isBlank))).map (fun b => .obj (item b))
  | 0, i, acc => by simp [decomposeBlocks.go]
  | fuel + 1, i, acc => by
    by_cases hi : i * B < cs.length
    · -- block `i` is the next `B` characters
      have hstop : min (addClamped (i * B) B) cs.length = min ((i + 1) * B) cs.length := by
        rw [addClamped_eq, Nat.succ_mul]
        omega
      have hblk : (cs.drop (i * B)).take (min ((i + 1) * B) cs.length - i * B) = (cs.drop (i * B)).take B := by
        rw [List.take_eq_take_iff, List.length_drop, Nat.succ_mul]
        omega
      rw [Nat.min_eq_left hi.le, drop_blocksOf hB hi, List.take_succ_cons, List.takeWhile_cons]
      simp only [decomposeBlocks.go, Nat.not_le.2 hi, if_false, hstop, hblk]
      rw [go_eq hB hL item fuel (i + 1)]
      -- the block stops the loop when it is all blanks or its item is
      cases (List.take B (List.drop (i * B) cs)).all Text.isWhiteSpace <;>
        cases (item (List.take B (List.drop (i * B) cs))).all (·.2.isBlank) <;> simp
    · -- the text has ended
      rw [Nat.min_eq_right (by omega), drop_blocksOf_eq_nil hB (by omega)]
      simp [decomposeBlocks.go]

/-- **A split in repeated blocks reads the items of the blocks it keeps.** Let a splitter's
block length `B` (`longitudBloque`, else `longitudRegistro`) be at least one, and its subfields
`fs` (`campoMultiple.subcampos`, else the output fields, else the output parameters) not empty;
let the text have fewer than `2 ^ 64` characters. Then splitting it in repeated blocks gives
`{O: {A: items}}`, with `O` and `A` the configured names or `Items` and `items`, where `items`
are the items of the longest prefix of the first twenty blocks, each block the next `B`
characters (the last possibly shorter), in which no block is all blanks and every item holds a
value that is not blank. The item of a block gives each subfield of length at least one, with a
name that is not blank and a start inside the block, its piece, trimmed and decoded; a subfield
starts at its own start or where the one before it ended. -/
theorem block_split_reads_items (c : SplitterConfig) (input : String) (B : Nat) (fs : List Segment)
    (hB : (c.blockLength <|> c.recordLength) = some B) (hpos : 0 < B)
    (hfs : [(c.block.map (·.subfields)).getD [], c.outputFields, c.outputParams].find? (!·.isEmpty) = some fs)
    (hL : input.length < 2 ^ 64) :
    decomposeBlocks codecs c input =
      .ok [((nonBlank (c.block.bind (·.objectName))).getD "Items",
        .obj [((nonBlank (c.block.bind (·.arrayName))).getD "items",
          .arr ((((blocksOf B input.toList).take 20).takeWhile (keepsBlock codecs fs)).map fun b => .obj (itemOf codecs fs b)))])] := by
  have hmax := length_toList_le_maxPosition hL
  have hitems := go_eq hpos hmax (blockItem codecs fs) 20 0 []
  simp only [Nat.zero_mul, Nat.zero_min, List.reverse_nil, List.nil_append, List.drop_zero] at hitems
  have hgo : decomposeBlocks.go B input.toList (blockItem codecs fs) 20 0 [] =
      (((blocksOf B input.toList).take 20).takeWhile (keepsBlock codecs fs)).map fun b => .obj (itemOf codecs fs b) := by
    rw [hitems, show blockItem codecs fs = itemOf codecs fs from funext (blockItem_eq_itemOf codecs fs)]
    rfl
  unfold decomposeBlocks
  simp only [hB, if_pos hpos]
  -- the subfields are the first list that is not empty
  cases hb : c.block with
  | none =>
    have hrest : [c.outputFields, c.outputParams].find? (!·.isEmpty) = some fs := by simpa [hb] using hfs
    simp only [hrest]
    rw [← hgo]
    rfl
  | some b =>
    by_cases he : b.subfields.isEmpty
    · have hrest : [c.outputFields, c.outputParams].find? (!·.isEmpty) = some fs := by simpa [hb, he] using hfs
      simp only [he, if_true, hrest]
      rw [← hgo]
      rfl
    · have hown : b.subfields = fs := by simpa [hb, he] using hfs
      rw [hown] at he
      simp only [hown, he, Bool.false_eq_true, if_false]
      rw [← hgo]
      rfl

/-- Blocks of three characters with one subfield of two: the theorem applies to a text whose
third block is blank. -/
theorem block_split_three_wide :
    let c : SplitterConfig := { blockLength := some 3, outputFields := [{ name := "x", length := some 2 }] }
    (c.blockLength <|> c.recordLength) = some 3 ∧ 0 < 3 ∧
      [(c.block.map (·.subfields)).getD [], c.outputFields, c.outputParams].find? (!·.isEmpty) =
        some [{ name := "x", length := some 2 }] ∧ "ab cd    x".length < 2 ^ 64 ∧
      decomposeBlocks .standard c "ab cd    x" =
        .ok [((nonBlank (c.block.bind (·.objectName))).getD "Items",
          .obj [((nonBlank (c.block.bind (·.arrayName))).getD "items",
            .arr ((((blocksOf 3 "ab cd    x".toList).take 20).takeWhile (keepsBlock .standard [{ name := "x", length := some 2 }])).map
              fun b => .obj (itemOf .standard [{ name := "x", length := some 2 }] b)))])] := by
  intro c
  have hB : (c.blockLength <|> c.recordLength) = some 3 := rfl
  have hfs : [(c.block.map (·.subfields)).getD [], c.outputFields, c.outputParams].find? (!·.isEmpty) =
      some [{ name := "x", length := some 2 }] := rfl
  have hL : "ab cd    x".length < 2 ^ 64 := by decide
  exact ⟨hB, by decide, hfs, hL, block_split_reads_items .standard c "ab cd    x" 3 _ hB (by decide) hfs hL⟩

example : decomposeBlocks .standard { blockLength := some 3, outputFields := [{ name := "x", length := some 2 }] } "ab cd    x" =
    .ok [("Items", .obj [("items", .arr [.obj [("x", .str "ab")], .obj [("x", .str "cd")]])])] := by
  rfl

end Blocks

end Splitter

end IntegrationFlow
