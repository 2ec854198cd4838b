import IntegrationFlow.Flow.Table
import IntegrationFlow.Proofs.ReadWritten
import IntegrationFlow.Proofs.Calls
import Mathlib.Tactic.Lemma
import Mathlib.Tactic.SplitIfs

/-!
Looking up a table cell: a keyed body is indexed by the key, a row body searched for the first
row whose key column reads as the key, and a body kept as text answers as the document it
writes.
-/

namespace IntegrationFlow

namespace TableRecord

/-- The cell a row gives: the field, when the row is an object whose key column reads as the
key. -/
def rowCell (t : TableRecord) (key field : String) : Json → Option Json
  | .obj row =>
    match row.lookup t.keyField with
    | some cand => if cand.plain == key then row.lookup field else none
    | none => none
  | _ => none

/-- The cell a decoded body gives for a key and a field. -/
def cell (t : TableRecord) (key field : String) : TableData → Option Json
  | .keyed rows =>
    match rows.lookup key with
    | some (.obj row) => row.lookup field
    | _ => none
  | .rows items => items.findSome? (t.rowCell key field)

/-- A row answers for a key and a field with `v`. -/
def Answers (t : TableRecord) (key field : String) (r v : Json) : Prop :=
  ∃ row cand, r = .obj row ∧ row.lookup t.keyField = some cand ∧ cand.plain = key ∧ row.lookup field = some v

lemma rowCell_eq_some_iff {t : TableRecord} {key field : String} {r v : Json} :
    t.rowCell key field r = some v ↔ t.Answers key field r v := by
  constructor
  · intro h
    cases r with
    | obj row =>
      simp only [rowCell] at h
      split at h
      · rename_i cand hcand
        split_ifs at h with hk
        exact ⟨row, cand, rfl, hcand, by simpa using hk, h⟩
      · cases h
    | null | bool _ | num _ | str _ | arr _ => simp [rowCell] at h
  · rintro ⟨row, cand, rfl, hcand, hk, hv⟩
    simp [rowCell, hcand, hk, hv]

lemma cell_keyed_eq_some_iff {t : TableRecord} {key field : String} {M : Members} {v : Json} :
    t.cell key field (.keyed M) = some v ↔ ∃ row, M.get? key = some (.obj row) ∧ Members.get? row field = some v := by
  simp only [cell, Members.get?]
  cases M.lookup key with
  | none => simp
  | some j => cases j <;> simp

lemma findSome?_rowCell_eq_some_iff {t : TableRecord} {key field : String} {rs : List Json} {v : Json} :
    rs.findSome? (t.rowCell key field) = some v ↔
      ∃ pre r post, rs = pre ++ r :: post ∧ t.Answers key field r v ∧ ∀ r' ∈ pre, ∀ v', ¬t.Answers key field r' v' := by
  rw [List.findSome?_eq_some_iff]
  constructor
  · rintro ⟨pre, r, post, hsplit, hr, hpre⟩
    refine ⟨pre, r, post, hsplit, rowCell_eq_some_iff.1 hr, fun r' hr' v' hv' => ?_⟩
    rw [← rowCell_eq_some_iff, hpre r' hr'] at hv'
    cases hv'
  · rintro ⟨pre, r, post, hsplit, hr, hpre⟩
    refine ⟨pre, r, post, hsplit, rowCell_eq_some_iff.2 hr, fun r' hr' => ?_⟩
    exact Option.eq_none_iff_forall_ne_some.2 fun v' hv' => hpre r' hr' v' (rowCell_eq_some_iff.1 hv')

lemma rows_text {t : TableRecord} {D : Json} (hD : (∃ kvs, D = .obj kvs) ∨ ∃ xs, D = .arr xs)
    (hp : Json.parse D.render = .ok D) :
    { t with data := .str D.render }.rows = { t with data := D }.rows := by
  -- the text holds a brace or a bracket, so it is not blank
  have hblank : Text.isBlankText D.render = false := by
    rcases hD with ⟨kvs, rfl⟩ | ⟨xs, rfl⟩
    · exact Text.isBlankText_of_mem (c := '\x7b') (by simp [Json.render, Json.renderWith]) (by decide)
    · exact Text.isBlankText_of_mem (c := '[') (by simp [Json.render, Json.renderWith]) (by decide)
  rcases hD with ⟨kvs, rfl⟩ | ⟨xs, rfl⟩ <;> simp [rows, hblank, hp]

end TableRecord

namespace Tables

variable {ts ts' : Tables} {table key field : String} {t t' : TableRecord}

lemma lookup_of_load (ht : ¬Text.isBlankText table) (hk : ¬Text.isBlankText key)
    (hf : ¬Text.isBlankText field) (hl : ts.load table = .ok t) :
    ts.lookup table key field =
      match t.rows with
      | .ok (some d) =>
        match t.cell key field d with
        | some v => .ok v
        | none => .error (.keyNotFound table key field)
      | .ok none => .error (.tableEmpty table)
      | .error e => .error (.tableUnreadable table e.message) := by
  simp only [lookup, ht, hk, hf, hl, Bool.false_eq_true, if_false, pure_bind]
  cases hr : t.rows with
  | error e => rfl
  | ok d? =>
    cases d? with
    | none => rfl
    | some d => cases d <;> rfl

lemma lookup_congr (hl : ts.load table = .ok t) (hl' : ts'.load table = .ok t')
    (hr : t.rows = t'.rows) (hkf : t.keyField = t'.keyField) :
    ts.lookup table key field = ts'.lookup table key field := by
  simp only [lookup, hl, hl', pure_bind, hr, hkf]

/-- **A keyed body.** The lookup gives the field of the row stored under the key when that
row is an object with the field, and `keyNotFound` otherwise. -/
theorem lookup_keyed (ht : ¬Text.isBlankText table) (hk : ¬Text.isBlankText key)
    (hf : ¬Text.isBlankText field) (hl : ts.load table = .ok t) {M : Members}
    (hd : t.rows = .ok (some (.keyed M))) :
    (∀ v, ts.lookup table key field = .ok v ↔
      ∃ row, M.get? key = some (.obj row) ∧ Members.get? row field = some v) ∧
    ((¬∃ row v, M.get? key = some (.obj row) ∧ Members.get? row field = some v) →
      ts.lookup table key field = .error (.keyNotFound table key field)) := by
  rw [lookup_of_load ht hk hf hl, hd]
  dsimp only
  constructor
  · intro v
    rw [← TableRecord.cell_keyed_eq_some_iff]
    cases t.cell key field (.keyed M) <;> simp
  · intro hnone
    have hcell : t.cell key field (.keyed M) = none := Option.eq_none_iff_forall_ne_some.2 fun v hv => by
      obtain ⟨row, hrow, hv'⟩ := TableRecord.cell_keyed_eq_some_iff.1 hv
      exact hnone ⟨row, v, hrow, hv'⟩
    rw [hcell]

/-- **A row body.** The lookup gives the field of the first row that is an object, whose key
column reads as the key and that has the field, and `keyNotFound` when no row does. -/
theorem lookup_rows (ht : ¬Text.isBlankText table) (hk : ¬Text.isBlankText key)
    (hf : ¬Text.isBlankText field) (hl : ts.load table = .ok t) {rs : List Json}
    (hd : t.rows = .ok (some (.rows rs))) :
    (∀ v, ts.lookup table key field = .ok v ↔
      ∃ pre r post, rs = pre ++ r :: post ∧ t.Answers key field r v ∧ ∀ r' ∈ pre, ∀ v', ¬t.Answers key field r' v') ∧
    ((∀ r ∈ rs, ∀ v, ¬t.Answers key field r v) →
      ts.lookup table key field = .error (.keyNotFound table key field)) := by
  rw [lookup_of_load ht hk hf hl, hd]
  simp only [TableRecord.cell]
  constructor
  · intro v
    rw [← TableRecord.findSome?_rowCell_eq_some_iff]
    cases rs.findSome? (t.rowCell key field) <;> simp
  · intro hnone
    have hfind : rs.findSome? (t.rowCell key field) = none :=
      List.findSome?_eq_none_iff.2 fun r hr => Option.eq_none_iff_forall_ne_some.2 fun v hv =>
        hnone r hr v (TableRecord.rowCell_eq_some_iff.1 hv)
    rw [hfind]

lemma lookup_text_body {t : TableRecord} {D : Json} (hD : (∃ kvs, D = .obj kvs) ∨ ∃ xs, D = .arr xs)
    (hp : Json.parse D.render = .ok D) (hl : ts.load table = .ok { t with data := D })
    (hl' : ts'.load table = .ok { t with data := .str D.render }) :
    ts.lookup table key field = ts'.lookup table key field :=
  lookup_congr hl hl' (TableRecord.rows_text hD hp).symm rfl

/-- **Looking up a cell.** With the table, the key and the field named and a stored record
that holds rows: a keyed body gives the field of the row under the key when that row is an
object with the field, else `keyNotFound`; a row body gives the field of the first row, in
order, that is an object, whose key column reads as the key and that has the field, else
`keyNotFound`. A body kept as the text of an object or an array answers every lookup as the
document itself does, when the text reads back as that document. -/
theorem lookup_cell :
    (∀ (ts : Tables) (table key field : String) (t : TableRecord) (M : Members),
      ¬Text.isBlankText table → ¬Text.isBlankText key → ¬Text.isBlankText field →
      ts.load table = .ok t → t.rows = .ok (some (.keyed M)) →
      (∀ v, ts.lookup table key field = .ok v ↔
        ∃ row, M.get? key = some (.obj row) ∧ Members.get? row field = some v) ∧
      ((¬∃ row v, M.get? key = some (.obj row) ∧ Members.get? row field = some v) →
        ts.lookup table key field = .error (.keyNotFound table key field))) ∧
    (∀ (ts : Tables) (table key field : String) (t : TableRecord) (rs : List Json),
      ¬Text.isBlankText table → ¬Text.isBlankText key → ¬Text.isBlankText field →
      ts.load table = .ok t → t.rows = .ok (some (.rows rs)) →
      (∀ v, ts.lookup table key field = .ok v ↔
        ∃ pre r post, rs = pre ++ r :: post ∧ t.Answers key field r v ∧ ∀ r' ∈ pre, ∀ v', ¬t.Answers key field r' v') ∧
      ((∀ r ∈ rs, ∀ v, ¬t.Answers key field r v) →
        ts.lookup table key field = .error (.keyNotFound table key field))) ∧
    (∀ (ts ts' : Tables) (table key field : String) (t : TableRecord) (D : Json),
      ((∃ kvs, D = .obj kvs) ∨ ∃ xs, D = .arr xs) → Json.parse D.render = .ok D →
      ts.load table = .ok { t with data := D } → ts'.load table = .ok { t with data := .str D.render } →
      ts.lookup table key field = ts'.lookup table key field) :=
  ⟨fun _ _ _ _ _ _ ht hk hf hl hd => lookup_keyed ht hk hf hl hd,
   fun _ _ _ _ _ _ ht hk hf hl hd => lookup_rows ht hk hf hl hd,
   fun _ _ _ _ _ _ _ hD hp hl hl' => lookup_text_body hD hp hl hl'⟩

lemma Json.eq_of_asString? {j : Json} {s : String} (h : j.asString? = some s) : j = .str s := by
  cases j <;> simp_all [Json.asString?]

lemma Json.eq_of_asObject? {j : Json} {kvs : Members} (h : j.asObject? = some kvs) : j = .obj kvs := by
  cases j <;> simp_all [Json.asObject?]

lemma Json.eq_of_asArray? {j : Json} {xs : List Json} (h : j.asArray? = some xs) : j = .arr xs := by
  cases j <;> simp_all [Json.asArray?]

lemma parse_single_row_text :
    Json.parse (Json.arr [.obj [("id", .str "1")]]).render = .ok (.arr [.obj [("id", .str "1")]]) := by
  have hr : (Json.arr [.obj [("id", .str "1")]]).render = "[\x7b\"id\":\"1\"\x7d]" := String.ext (by
    simp [Json.render, Json.renderWith, Json.renderItems, Json.renderMembers, quote_toList, escapeChar])
  -- the reader runs in the kernel; its answer is pinned down through the strings it holds
  have hb : (Json.parse "[\x7b\"id\":\"1\"\x7d]").toOption.map
      (fun j => j.asArray?.map (List.map fun x => x.asObject?.map (List.map fun p => (p.1, p.2.asString?)))) =
      some (some [some [("id", some "1")]]) := by
    decide +kernel
  rw [hr]
  cases hx : Json.parse "[\x7b\"id\":\"1\"\x7d]" with
  | error e => rw [hx] at hb; cases hb
  | ok P =>
    rw [hx] at hb
    obtain ⟨xs, hxs, hmap⟩ := Option.map_eq_some_iff.1 (Option.some.inj hb)
    obtain ⟨x, rfl, hx1⟩ := List.map_eq_singleton_iff.1 hmap
    obtain ⟨kvs, hkvs, hm⟩ := Option.map_eq_some_iff.1 hx1
    obtain ⟨⟨k, v⟩, rfl, hkv⟩ := List.map_eq_singleton_iff.1 hm
    obtain ⟨rfl, hv⟩ := Prod.mk.inj hkv
    have hv' : v.asString? = some "1" := hv
    rw [Json.eq_of_asArray? hxs, Json.eq_of_asObject? hkvs, Json.eq_of_asString? hv']

/-- A row table keyed by `cod`, whose first row has the number `1` and the second the text
`"1"` in that column: the key `1` finds the first row. A keyed table answers by its object
under the key. A row body `[{"id":"1"}]` answers the same when kept as its text. -/
theorem sample_table_lookups :
    let rows : List Json := [.obj [("cod", .int 1), ("v", .str "a")], .obj [("cod", .str "1"), ("v", .str "b")]]
    let t : TableRecord := { name := "t", fields := .arr [.obj [("nombre", .str "cod")]], data := .arr rows }
    let k : TableRecord := { name := "k", data := .obj [("1", .obj [("v", .str "x")])] }
    let u : TableRecord := { name := "u", data := .arr [.obj [("id", .str "1")]] }
    (Tables.lookup [t, k, u] "k" "1" "v" = .ok (.str "x") ↔
      ∃ row, Members.get? [("1", .obj [("v", .str "x")])] "1" = some (.obj row) ∧
        Members.get? row "v" = some (.str "x")) ∧
    (Tables.lookup [t, k, u] "t" "1" "v" = .ok (.str "a") ↔
      ∃ pre r post, rows = pre ++ r :: post ∧ t.Answers "1" "v" r (.str "a") ∧
        ∀ r' ∈ pre, ∀ v', ¬t.Answers "1" "v" r' v') ∧
    Tables.lookup [t, k, u] "u" "1" "id" =
      Tables.lookup [t, k, { u with data := .str u.data.render }] "u" "1" "id" := by
  intro rows t k u
  have ht : ¬Text.isBlankText "t" := by decide
  have hk : ¬Text.isBlankText "k" := by decide
  have hu : ¬Text.isBlankText "u" := by decide
  have h1 : ¬Text.isBlankText "1" := by decide
  have hv : ¬Text.isBlankText "v" := by decide
  have hid : ¬Text.isBlankText "id" := by decide
  exact ⟨(lookup_cell.1 [t, k, u] "k" "1" "v" k _ hk h1 hv rfl rfl).1 _,
    (lookup_cell.2.1 [t, k, u] "t" "1" "v" t rows ht h1 hv rfl rfl).1 _,
    lookup_cell.2.2 [t, k, u] [t, k, { u with data := .str u.data.render }] "u" "1" "id" u u.data
      (.inr ⟨_, rfl⟩) parse_single_row_text rfl rfl⟩

end Tables

end IntegrationFlow
