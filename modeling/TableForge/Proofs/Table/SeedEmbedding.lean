import TableForge.Proofs.Code.SeedCall
import TableForge.Proofs.Table.Seed

namespace TableForge

open Code Code.StringLiteral

theorem oneLine_double_iff {q : Char} {s : List Char} :
    OneLine (Text.double q s) ↔ OneLine s := by
  simp only [OneLine, Text.mem_double]

namespace Literal

-- The literal of a value is on one line exactly if the value is.
theorem oneLine_source_iff {v : Value} :
    OneLine (ofValue v).source ↔ ∀ s, v = .text s → OneLine s.toList := by
  refine ⟨?_, oneLine_source⟩
  rintro h s rfl
  have hmarked {rest : List Char} (hm : Text.dropHead? Marker.marker s.toList = some rest)
      (hrest : OneLine rest) : OneLine s.toList := by
    rw [Text.dropHead?_eq_some_iff.mp hm, oneLine_append]
    exact ⟨by decide, hrest⟩
  simp only [ofValue, ofText] at h
  split at h
  · cases hm : Text.dropHead? Marker.marker s.toList with
    | none => simpa [source, Marker.dropLeading, hm] using h
    | some rest => exact hmarked hm (by simpa [source, Marker.dropLeading, hm] using h)
  · split at h
    · rename_i hm
      exact hmarked hm (by simpa [source] using h)
    · rw [source, Text.Quoted.quoteText, String.toList_ofList, Text.Quoted.quote, oneLine_append,
        oneLine_cons, oneLine_double_iff] at h
      exact h.1.2

theorem map_slot_eq_self_iff {l : Literal} :
    (∀ x, SlotText.ofLiteral? l = some x → x.map (foldLines none) = x) ↔
      (l.isWrapped = true → OneLine l.source) := by
  cases l with
  | plain token => simp [SlotText.ofLiteral?, isWrapped]
  | localized s =>
    simp [SlotText.ofLiteral?, SlotText.map, isWrapped, source, foldLines_eq_self_iff]
  | wide s =>
    simp [SlotText.ofLiteral?, SlotText.map, isWrapped, source, foldLines_eq_self_iff,
      oneLine_double_iff]

theorem map_slots_eq_self_iff {ls : List Literal} :
    (ls.filterMap SlotText.ofLiteral?).map (SlotText.map (foldLines none)) =
        ls.filterMap SlotText.ofLiteral? ↔
      ∀ l ∈ ls, l.isWrapped = true → OneLine l.source := by
  have hself (slots : List SlotText) : slots.map (SlotText.map (foldLines none)) = slots ↔
      ∀ x ∈ slots, x.map (foldLines none) = x := by
    simpa using List.map_inj_left (l := slots) (f := SlotText.map (foldLines none)) (g := id)
  rw [hself, List.forall_mem_filterMap]
  exact forall₂_congr fun l _ => map_slot_eq_self_iff

end Literal

-- A statement is on one line exactly if the name of its table and its tokens are.
theorem SeedInsert.oneLine_text_iff {s : SeedInsert} :
    OneLine s.text.toList ↔
      OneLine s.table.toList ∧ ∀ l ∈ s.literals, l.isWrapped = false → OneLine l.source := by
  have hslot (l : Literal) : OneLine (slot s.isFormatted l).toList ↔
      (l.isWrapped = false → OneLine l.source) := by
    cases l with
    | plain token =>
      rw [slot]
      split
      · simp [Literal.isWrapped, Literal.source, oneLine_double_iff]
      · simp [Literal.isWrapped, Literal.source]
    | localized x => simp [Literal.isWrapped, slot]; decide
    | wide x => simp [Literal.isWrapped, slot]; decide
  have hseparator : ∀ c ∈ ", ".toList, c ≠ '\n' ∧ c ≠ '\r' :=
    (by decide : OneLine ", ".toList)
  have hvalues : OneLine s.valueList.toList ↔
      ∀ l ∈ s.literals, l.isWrapped = false → OneLine l.source := by
    rw [valueList, Text.toList_join, OneLine, forall_mem_intercalate hseparator, List.map_map,
      List.forall_mem_map]
    exact forall₂_congr fun l _ => hslot l
  have hhead : OneLine "INSERT INTO ".toList := by decide
  have hmiddle : OneLine " VALUES (".toList := by decide
  have hlast : OneLine ")".toList := by decide
  simp only [text, String.toList_append, oneLine_append, hvalues, hhead, hmiddle, hlast, true_and,
    and_true]

namespace Table

-- The code for a row gives back its statement and the texts for the slots of this, each of them on
-- one line: what was written in several lines is not kept, and everything else is.
theorem seed_embedding_iff (t : Table) (row : Row) :
    let statement := (t.seedOf row).text.toList
    let slots := (t.seedOf row).literals.filterMap SlotText.ofLiteral?
    TableImplementation.readExecution? (TableImplementation.seedCall (t.seedOf row)) =
        some (foldLines none statement, slots.map (SlotText.map (foldLines none))) ∧
      (TableImplementation.readExecution? (TableImplementation.seedCall (t.seedOf row)) =
          some (statement, slots) ↔
        OneLine t.name.toList ∧ ∀ s, Value.text s ∈ row.values → OneLine s.toList) := by
  intro statement slots
  have hread := TableImplementation.readExecution_seedCall (t.seedOf row)
  refine ⟨hread, ?_⟩
  rw [hread, Option.some_inj, Prod.mk.injEq, foldLines_eq_self_iff,
    SeedInsert.oneLine_text_iff, Literal.map_slots_eq_self_iff]
  have hliterals : (t.seedOf row).literals = row.values.map Literal.ofValue := rfl
  have hname : (t.seedOf row).table = t.name := rfl
  rw [hname, hliterals, and_assoc]
  refine and_congr_right fun _ => ?_
  constructor
  · rintro ⟨hplain, hwrapped⟩ s hs
    have hmem := List.mem_map_of_mem (f := Literal.ofValue) hs
    refine Literal.oneLine_source_iff.mp ?_ s rfl
    cases h : (Literal.ofValue (.text s)).isWrapped with
    | false => exact hplain _ hmem h
    | true => exact hwrapped _ hmem h
  · intro htexts
    have hall : ∀ l ∈ row.values.map Literal.ofValue, OneLine l.source := by
      rw [List.forall_mem_map]
      rintro v hv
      refine Literal.oneLine_source_iff.mpr ?_
      rintro s rfl
      exact htexts s hv
    exact ⟨fun l hl _ => hall l hl, fun l hl _ => hall l hl⟩

-- A break between two words is not kept.
example : (SlotText.translated "Yes\nNo".toList).map (foldLines none) =
    .translated "Yes No".toList := by
  decide

end Table

end TableForge
