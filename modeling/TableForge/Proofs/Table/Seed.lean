import TableForge.Proofs.Decimal.Characters
import TableForge.Proofs.Query.Seed
import Mathlib.Data.Bool.AllAny

namespace TableForge

open Code.StringLiteral (OneLine oneLine_append)

-- The texts of numbers have no line breaks.
section Numbers

theorem ne_break_of_isNumeral {c : Char} (h : isNumeral c) : c ≠ '\n' ∧ c ≠ '\r' := by
  constructor
  · rintro rfl
    exact absurd h (by decide)
  · rintro rfl
    exact absurd h (by decide)

theorem Binary64.oneLine_text (x : Binary64) : OneLine x.text.toList := fun _ hc =>
  ne_break_of_isNumeral (isNumeral_of_mem_text hc)

theorem Value.oneLine_int (i : Int) : OneLine (toString i).toList := fun _ hc =>
  ne_break_of_isNumeral (isNumeral_of_mem_int hc)

end Numbers

-- Literals of values without line breaks have none.
theorem Literal.oneLine_source {v : Value} (h : ∀ s, v = .text s → OneLine s.toList) :
    OneLine (Literal.ofValue v).source := by
  have hquote {s : List Char} (hs : OneLine s) : OneLine (Text.Quoted.quote s) :=
    oneLine_append.mpr
      ⟨oneLine_append.mpr ⟨(by decide : OneLine ['\'']), oneLine_double hs⟩, by decide⟩
  cases v with
  | null => simp [ofValue, source, OneLine]
  | int i => simpa [ofValue, source, Text.Quoted.quoteText] using hquote (Value.oneLine_int i)
  | real x => simpa [ofValue, source, Text.Quoted.quoteText] using hquote x.oneLine_text
  | text s =>
    have hs := h s rfl
    have hrest {rest : List Char} (hm : Text.dropHead? Marker.marker s.toList = some rest) :
        OneLine rest := by
      rw [Text.dropHead?_eq_some_iff.mp hm] at hs
      exact (oneLine_append.mp hs).2
    simp only [ofValue, ofText]
    split
    · cases hm : Text.dropHead? Marker.marker s.toList with
      | none => simpa [source, Marker.dropLeading, hm] using hs
      | some rest => simpa [source, Marker.dropLeading, hm] using hrest hm
    · split
      · rename_i hm
        simpa [source] using hrest hm
      · simpa [source, Text.Quoted.quoteText] using hquote hs

namespace SeedInsert

-- A name that needs no quotes.
def IsPlainName (s : String) : Prop :=
  s.toList.head?.any Script.Token.isWordStart ∧ s.toList.all Script.Token.isNameChar

theorem oneLine_intercalate {texts : List (List Char)} (h : ∀ s ∈ texts, OneLine s) :
    OneLine (", ".toList.intercalate texts) :=
  (forall_mem_intercalate (List.all_iff_forall_prop.mp (by decide))).mpr h

theorem oneLine_text {s : SeedInsert} (htable : OneLine s.table.toList)
    (hlines : ∀ l ∈ s.literals, OneLine l.source) : OneLine s.text.toList := by
  have hslot : ∀ l ∈ s.literals, OneLine (slot s.isFormatted l).toList := by
    intro l hl
    cases l with
    | plain token =>
      simp only [slot]
      split
      · simpa [Literal.source] using Literal.oneLine_double (hlines _ hl)
      · exact hlines _ hl
    | localized x => simp only [slot]; decide
    | wide x => simp only [slot]; decide
  have hhead : OneLine s.head :=
    oneLine_append.mpr ⟨by decide, oneLine_append.mpr ⟨htable, by decide⟩⟩
  rw [toList_text]
  refine oneLine_append.mpr ⟨hhead, oneLine_append.mpr ⟨oneLine_intercalate ?_, by decide⟩⟩
  simpa using hslot

theorem IsPlainName.isNameChar {table : String} (h : IsPlainName table) {c : Char}
    (hc : c ∈ table.toList) : Script.Token.isNameChar c = true :=
  List.all_eq_true.mp h.2 c hc

theorem IsPlainName.not_mem {table : String} (h : IsPlainName table) {c : Char}
    (hc : Script.Token.isNameChar c = false) : c ∉ table.toList := by
  intro hmem
  rw [h.isNameChar hmem] at hc
  exact absurd hc (by decide)

-- An insertion of the values of a row is read back with these values, in their order, exactly
-- if all of them are faithful.
theorem read_rowText_iff {table : String} (htable : IsPlainName table) (values : List Value) :
    read? (head ⟨table, values.map Literal.ofValue⟩ ++ rowText values) =
      some (table.toList, values.map Value.stored) ↔ ∀ v ∈ values, v.Faithful := by
  have hname : ∀ c ∈ table.toList, Script.Token.isNameChar c = true :=
    fun _ => htable.isNameChar
  have hspace : " VALUES (".toList = ' ' :: "VALUES (".toList := rfl
  have htake : (table.toList ++ (" VALUES (".toList ++ rowText values)).takeWhile
      Script.Token.isNameChar = table.toList := by
    rw [List.takeWhile_append_of_pos hname, hspace]
    simp [Script.Token.isNameChar]
  have hdrop : (table.toList ++ (" VALUES (".toList ++ rowText values)).dropWhile
      Script.Token.isNameChar = " VALUES (".toList ++ rowText values := by
    rw [List.dropWhile_append_of_pos hname, hspace]
    simp [Script.Token.isNameChar]
  have hread : read? (head ⟨table, values.map Literal.ofValue⟩ ++ rowText values) =
      if rowText values = [')'] then some (table.toList, [])
      else (readValues? (rowText values)).map (table.toList, ·) := by
    unfold head read?
    simp only [List.append_assoc, Text.dropHead?_eq_some_iff.mpr rfl, Option.bind_eq_bind,
      Option.bind_some, htake, hdrop]
  rw [hread]
  cases values with
  | nil => simp [rowText]
  | cons v values =>
    rw [if_neg (rowText_ne v values), ← readValues_rowText_iff (by simp)]
    cases readValues? (rowText (v :: values)) <;> simp

end SeedInsert

namespace Table

open Code Code.TableImplementation

-- The insertion of one row.
def seedOf (t : Table) (row : Row) : SeedInsert := ⟨t.name, row.values.map Literal.ofValue⟩

-- The generated code executes an insertion for every seed row. The statement names the table and
-- has the stored form of each value of the row, in order, exactly if no ASCII text behind a
-- marker has a single quote: in such a text the quote is not doubled.
theorem seed_reads_back_iff (t : Table) (row : Row) (hrow : row ∈ t.rows)
    (hname : SeedInsert.IsPlainName t.name)
    (hlines : ∀ s, Value.text s ∈ row.values → OneLine s.toList) :
    seedCall (t.seedOf row) ∈ ensureData t ∧
      StringLiteral.decode? (StringLiteral.render (t.seedOf row).text).toList =
        some (t.seedOf row).text.toList ∧
      ∃ sql, (t.seedOf row).executed? = some sql ∧
        (SeedInsert.read? sql = some (t.name.toList, row.values.map Value.stored) ↔
          ∀ s, Value.text s ∈ row.values → Text.allAscii s →
            Marker.marker.isPrefixOf s.toList → '\'' ∉ s.toList) := by
  have hsources : ∀ l ∈ (t.seedOf row).literals, OneLine l.source := by
    intro l hl
    obtain ⟨v, hv, rfl⟩ := List.mem_map.mp hl
    apply Literal.oneLine_source
    rintro s rfl
    exact hlines s hv
  have htable : OneLine t.name.toList := by
    intro c hc
    constructor
    · rintro rfl
      exact hname.not_mem (by decide) hc
    · rintro rfl
      exact hname.not_mem (by decide) hc
  have hpercent : '%' ∉ t.name.toList := hname.not_mem (by decide)
  refine ⟨?_, ?_, _, SeedInsert.executed_eq hpercent hsources, ?_⟩
  · have hseed : t.seedOf row ∈ t.seeds := List.mem_map.mpr ⟨row, hrow, rfl⟩
    have hne : t.seeds.isEmpty = false := by
      rw [List.isEmpty_eq_false_iff]
      exact List.ne_nil_of_mem hseed
    simp only [ensureData, hne, block]
    grind
  · rw [StringLiteral.decode_render,
      StringLiteral.foldLines_eq_self none (SeedInsert.oneLine_text htable hsources)]
  · have htext : ", ".toList.intercalate ((t.seedOf row).literals.map Literal.executed) ++ [')'] =
        SeedInsert.rowText row.values := by
      simp [SeedInsert.rowText, seedOf, Function.comp_def]
    rw [htext, seedOf, SeedInsert.read_rowText_iff hname]
    constructor
    · intro h s hs
      exact h _ hs s rfl
    · rintro h v hv s rfl
      exact h s hv

-- A row that is stored as it is, and one whose text ends early.
theorem seed_reads_back_of_quotes :
    let plain : Row := [("ID", .int 1), ("NAME", .text "_tr_Euro"), ("SIGN", .text "€ 'n' 5%")]
    let quoted : Row := [("ID", .int 2), ("NAME", .text "_tr_Don't"), ("SIGN", .null)]
    let t : Table := ⟨"T", "", ⟨[], ⟨0, "ID", .integer, false⟩, []⟩, [], [plain, quoted]⟩
    (∃ sql, (t.seedOf plain).executed? = some sql ∧
      SeedInsert.read? sql = some (t.name.toList, plain.values.map Value.stored)) ∧
    ∃ sql, (t.seedOf quoted).executed? = some sql ∧
      SeedInsert.read? sql ≠ some (t.name.toList, quoted.values.map Value.stored) := by
  intro plain quoted t
  have hname : SeedInsert.IsPlainName t.name := ⟨by decide, by decide⟩
  constructor
  · obtain ⟨-, -, sql, hsql, hread⟩ := seed_reads_back_iff t plain (by simp [t]) hname
      (by simp [plain, Row.values]; decide)
    refine ⟨sql, hsql, hread.mpr ?_⟩
    intro s hs ha hm
    obtain rfl | rfl : s = "_tr_Euro" ∨ s = "€ 'n' 5%" := by simpa [plain, Row.values] using hs
    · decide
    · exact absurd ha (by decide)
  · obtain ⟨-, -, sql, hsql, hread⟩ := seed_reads_back_iff t quoted (by simp [t]) hname
      (by simp [quoted, Row.values]; decide)
    refine ⟨sql, hsql, fun h => ?_⟩
    exact hread.mp h "_tr_Don't" (by simp [quoted, Row.values]) (by decide) (by decide) (by decide)

end Table

end TableForge
