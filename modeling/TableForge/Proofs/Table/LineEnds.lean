import TableForge.Artifact
import TableForge.Proofs.Computation
import TableForge.Proofs.Decimal.Characters
import TableForge.Proofs.Query.Format
import TableForge.Proofs.Text.Returns
import Mathlib.Data.List.TakeWhile

namespace TableForge

open Text (withReturns withReturnsText withReturns_feed withReturns_cons_of_ne withReturns_append
  withReturns_eq_self toList_withReturnsText)

namespace Code.StringLiteral

theorem foldLines_cons_congr {s t : List Char} (h : ∀ last, foldLines last s = foldLines last t)
    (hhead : s.head?.any Text.isWordChar = t.head?.any Text.isWordChar) (c : Char)
    (last : Option Char) : foldLines last (c :: s) = foldLines last (c :: t) := by
  simp only [foldLines, h, hhead]

-- A text is the same on one line with either line ends: the added characters are left out, and
-- like the line feeds they are in no word.
theorem foldLines_withReturns (last : Option Char) (s : List Char) :
    foldLines last (withReturns s) = foldLines last s := by
  induction s generalizing last with
  | nil => rfl
  | cons c s ih =>
    have hhead := Text.any_head_withReturns (p := Text.isWordChar) (by decide +kernel) s
    by_cases hc : c = '\n'
    · have hreturn (rest : List Char) : foldLines last ('\r' :: rest) = foldLines last rest := rfl
      rw [hc, withReturns_feed, hreturn]
      exact foldLines_cons_congr ih hhead _ _
    · rw [withReturns_cons_of_ne hc]
      exact foldLines_cons_congr ih hhead _ _

theorem foldLines_append_withReturns (last : Option Char) (front back : List Char) :
    foldLines last (front ++ withReturns back) = foldLines last (front ++ back) := by
  induction front generalizing last with
  | nil => exact foldLines_withReturns last back
  | cons c front ih =>
    refine foldLines_cons_congr ih ?_ c last
    cases front with
    | nil => exact Text.any_head_withReturns (by decide +kernel) back
    | cons d front => rfl

theorem render_withReturns (s : String) : render (withReturnsText s) = render s := by
  rw [render, render, encode, encode, toList_withReturnsText, foldLines_withReturns]

end Code.StringLiteral

namespace Index

-- The index in a schema with the other line ends.
def withReturns (index : Index) : Index :=
  { index with definition := withReturnsText index.definition }

theorem cutAtKeyword_withReturns (n : Nat) (s : List Char) :
    cutAtKeyword? n (Text.withReturns s) =
      (cutAtKeyword? n s).map (Prod.map Text.withReturns Text.withReturns) := by
  induction n generalizing s with
  | zero => rfl
  | succ n ih =>
    have hblank : Text.isBlank '\r' = Text.isBlank '\n' := by decide
    have hword : (!Text.isBlank '\r') = !Text.isBlank '\n' := by decide
    have hkeyword (t : List Char) :
        isKeyword (Text.withReturns (t.takeWhile (!Text.isBlank ·))) =
          isKeyword (t.takeWhile (!Text.isBlank ·)) := by
      rw [withReturns_eq_self]
      intro hmem
      exact absurd (List.mem_takeWhile_imp hmem) (by decide)
    simp only [cutAtKeyword?, Text.takeWhile_withReturns hblank, Text.dropWhile_withReturns hblank,
      Text.takeWhile_withReturns (p := (!Text.isBlank ·)) hword,
      Text.dropWhile_withReturns (p := (!Text.isBlank ·)) hword, hkeyword, ih]
    split
    · simp
    · simp [Function.comp_def]

theorem guard_withReturns (definition : List Char) :
    guard? (Text.withReturns definition) = (guard? definition).map Text.withReturns := by
  have hwords : Text.withReturns " IF NOT EXISTS".toList = " IF NOT EXISTS".toList := by decide
  have hguarded (s : List Char) : isGuarded (Text.withReturns s) = isGuarded s := by
    rw [isGuarded, Text.words_withReturns, isGuarded]
  rw [guard?, guard?, cutAtKeyword_withReturns, Option.map_map, Option.map_map]
  congr 1
  funext cut
  simp only [Function.comp_apply, Prod.map, hguarded, apply_ite Text.withReturns,
    withReturns_append, hwords]

-- The definition is rewritten with either line ends or with none, and to the same statement.
theorem createIfMissing_withReturns (index : Index) :
    index.withReturns.createIfMissing.toOption =
      index.createIfMissing.toOption.map withReturnsText := by
  have htext (i : Index) : i.createIfMissing.toOption =
      (guard? i.definition.toList).map String.ofList := by
    rw [createIfMissing]
    cases guard? i.definition.toList <;> rfl
  rw [htext, htext, withReturns, toList_withReturnsText, guard_withReturns, Option.map_map,
    Option.map_map]
  congr 1
  funext s
  simp [withReturnsText]

end Index

def GuardedIndex.withReturns (i : GuardedIndex) : GuardedIndex :=
  ⟨i.index.withReturns, withReturnsText i.statement⟩

namespace Literal

def withReturns : Literal → Literal
  | .plain token => .plain (withReturnsText token)
  | .localized text => .localized (withReturnsText text)
  | .wide text => .wide (withReturnsText text)

theorem ofText_withReturns (s : String) : ofText (withReturnsText s) = (ofText s).withReturns := by
  have hascii : Text.allAscii (withReturnsText s) = Text.allAscii s := by
    rw [Text.allAscii, toList_withReturnsText]
    exact Text.all_withReturns (by decide) (by decide) _
  have hmarker : Text.dropHead? Marker.marker (Text.withReturns s.toList) =
      (Text.dropHead? Marker.marker s.toList).map Text.withReturns :=
    Text.dropHead?_withReturns (by decide) (by decide) s.toList
  simp only [ofText, hascii, toList_withReturnsText, Marker.dropLeading, hmarker]
  split
  · cases Text.dropHead? Marker.marker s.toList <;> simp [withReturns, withReturnsText]
  · cases Text.dropHead? Marker.marker s.toList with
    | none => simp [withReturns, Text.quoteText_withReturns]
    | some rest =>
      cases rest with
      | nil => simp [withReturns, Text.quoteText_withReturns]
      | cons c rest =>
        by_cases hc : c = '\n'
        · simp [hc, withReturns, withReturnsText]
        · simp [withReturns_cons_of_ne hc, withReturns, withReturnsText]

theorem isWrapped_withReturns (l : Literal) : l.withReturns.isWrapped = l.isWrapped := by
  cases l <;> rfl

theorem argument_withReturns (l : Literal) : l.withReturns.argument? = l.argument? := by
  cases l with
  | plain token => rfl
  | localized s => rw [withReturns, argument?, Code.StringLiteral.render_withReturns, argument?]
  | wide s =>
    have hdouble : String.ofList (Text.double '\'' (withReturnsText s).toList) =
        withReturnsText (String.ofList (Text.double '\'' s.toList)) := by
      simp [withReturnsText, Text.double_withReturns]
    rw [withReturns, argument?, hdouble, Code.StringLiteral.render_withReturns, argument?]

end Literal

namespace Value

-- The value in a schema with the other line ends.
def withReturns : Value → Value
  | .text s => .text (withReturnsText s)
  | v => v

theorem ofValue_withReturns (v : Value) :
    Literal.ofValue v.withReturns = (Literal.ofValue v).withReturns := by
  have hnumber {s : String} (hs : ∀ c ∈ s.toList, isNumeral c) :
      withReturnsText (Text.Quoted.quoteText s) = Text.Quoted.quoteText s := by
    have hsame : withReturnsText s = s := by
      rw [withReturnsText, withReturns_eq_self, String.ofList_toList]
      intro hmem
      exact absurd (hs _ hmem) (by decide)
    rw [← Text.quoteText_withReturns, hsame]
  cases v with
  | null => decide
  | int i => exact congrArg Literal.plain (hnumber fun _ => isNumeral_of_mem_int).symm
  | real x => exact congrArg Literal.plain (hnumber fun _ => Binary64.isNumeral_of_mem_text).symm
  | text s => exact Literal.ofText_withReturns s

end Value

-- The row in a schema with the other line ends. Its columns keep their names.
def Row.withReturns (row : Row) : Row := row.map fun (name, value) => (name, value.withReturns)

namespace SeedInsert

def withReturns (s : SeedInsert) : SeedInsert :=
  { s with literals := s.literals.map Literal.withReturns }

theorem isFormatted_withReturns (s : SeedInsert) : s.withReturns.isFormatted = s.isFormatted := by
  rw [isFormatted, withReturns, List.any_map, isFormatted]
  exact congrArg s.literals.any (funext Literal.isWrapped_withReturns)

theorem slot_withReturns (formatted : Bool) (l : Literal) :
    (slot formatted l.withReturns).toList = Text.withReturns (slot formatted l).toList := by
  cases l with
  | plain token =>
    simp only [slot, Literal.withReturns]
    split <;> simp [Text.double_withReturns]
  | localized s =>
    simp only [slot, Literal.withReturns]
    decide
  | wide s =>
    simp only [slot, Literal.withReturns]
    decide

-- The table keeps its name, so only the part of the statement behind it has the other line ends.
theorem render_text_withReturns (s : SeedInsert) :
    Code.StringLiteral.render s.withReturns.text = Code.StringLiteral.render s.text := by
  have hcomma : Text.withReturns ", ".toList = ", ".toList := by decide
  have htext : s.withReturns.text.toList = s.head ++ Text.withReturns (", ".toList.intercalate
      (s.literals.map fun l => (slot s.isFormatted l).toList) ++ [')']) := by
    have hparen : Text.withReturns [')'] = [')'] := by decide
    rw [toList_text, isFormatted_withReturns, withReturns_append, Text.withReturns_intercalate,
      hcomma, hparen, withReturns, List.map_map, List.map_map]
    simp only [Function.comp_def, slot_withReturns]
    rfl
  rw [Code.StringLiteral.render, Code.StringLiteral.encode, htext,
    Code.StringLiteral.foldLines_append_withReturns, ← toList_text]
  rfl

end SeedInsert

namespace Table

open Code Code.TableImplementation

theorem seedCall_withReturns (s : SeedInsert) : seedCall s.withReturns = seedCall s := by
  have harguments : s.withReturns.arguments = s.arguments := by
    rw [SeedInsert.arguments, SeedInsert.withReturns, List.filterMap_map, SeedInsert.arguments]
    exact List.filterMap_congr fun l _ => Literal.argument_withReturns l
  unfold seedCall seedExpression
  rw [SeedInsert.isFormatted_withReturns, SeedInsert.render_text_withReturns, harguments]

-- The table in a schema with the other line ends, in its definition, its indices and its rows.
def withReturns (t : Table) : Table :=
  { t with
    definition := withReturnsText t.definition
    indices := t.indices.map GuardedIndex.withReturns
    rows := t.rows.map Row.withReturns }

theorem tableConstructor_withReturns (t : Table) :
    tableConstructor t.withReturns = tableConstructor t := by
  have hcreate : queryMember "m_create_query" t.withReturns.create =
      queryMember "m_create_query" t.create := by
    have htext : t.withReturns.create.text = withReturnsText t.create.text := rfl
    unfold queryMember
    rw [htext, StringLiteral.render_withReturns]
  have hindices : indexQueries t.withReturns = indexQueries t := by
    have hquery (i : GuardedIndex) :
        "        " ++ StringLiteral.render i.withReturns.statement =
          "        " ++ StringLiteral.render i.statement := by
      rw [GuardedIndex.withReturns, StringLiteral.render_withReturns]
    rw [indexQueries, withReturns, List.map_map, indexQueries]
    simp only [Function.comp_def, hquery]
  -- the other statements are made of names
  have hname : t.withReturns.name = t.name := rfl
  have hclass : t.withReturns.tableClass = t.tableClass := rfl
  have hdrop : t.withReturns.drop = t.drop := rfl
  have hinsert : t.withReturns.insert = t.insert := rfl
  have hupdate : t.withReturns.update = t.update := rfl
  have hdelete : t.withReturns.delete = t.delete := rfl
  have hselect : t.withReturns.select = t.select := rfl
  unfold tableConstructor
  rw [hindices, hcreate, hname, hclass, hdrop, hinsert, hupdate, hdelete, hselect]

theorem ensureData_withReturns (t : Table) : ensureData t.withReturns = ensureData t := by
  have hseeds : t.withReturns.seeds = t.seeds.map SeedInsert.withReturns := by
    simp [seeds, withReturns, SeedInsert.withReturns, Row.values, Row.withReturns,
      Value.ofValue_withReturns, Function.comp_def]
  have hcalls : t.seeds.map (seedCall ∘ SeedInsert.withReturns) = t.seeds.map seedCall :=
    List.map_congr_left fun s _ => seedCall_withReturns s
  rw [ensureData, hseeds, List.isEmpty_map, List.map_map, hcalls]
  rfl

-- No other definition of the implementation has texts of the schema in it.
theorem lines_withReturns (t : Table) :
    TableImplementation.lines t.withReturns = TableImplementation.lines t := by
  rw [TableImplementation.lines, tableConstructor_withReturns, ensureData_withReturns]
  rfl

theorem guardIndices_withReturns (indices : List Index) :
    (guardIndices (indices.map Index.withReturns)).toOption =
      (guardIndices indices).toOption.map (List.map GuardedIndex.withReturns) := by
  refine toOption_mapM_map (fun index => ?_) indices
  rw [toOption_bind, toOption_bind, index.createIfMissing_withReturns]
  cases index.createIfMissing.toOption <;> rfl

theorem assemble_withReturns (name definition : String) (fields : List (Field × Bool))
    (indices : List Index) (rows : List Row) :
    (assemble name (withReturnsText definition) fields (indices.map Index.withReturns)
        (rows.map Row.withReturns)).toOption =
      (assemble name definition fields indices rows).toOption.map withReturns := by
  unfold assemble
  rw [toOption_bind, toOption_bind]
  cases ((KeyedFields.ofMarked fields).mapError (keyError name)).toOption with
  | none => rfl
  | some keyed =>
    simp only [Option.bind_some, toOption_bind, guardIndices_withReturns]
    cases (guardIndices indices).toOption <;> rfl

-- A schema with either line ends has the same implementation, down to the last character, or none
-- with either: an index is guarded in the one exactly when it is in the other.
theorem implementation_of_either_ending (name definition : String) (fields : List (Field × Bool))
    (indices : List Index) (rows : List Row) (h : Header) :
    (∀ index : Index, index.withReturns.createIfMissing.isOk = index.createIfMissing.isOk) ∧
      (assemble name (withReturnsText definition) fields (indices.map Index.withReturns)
          (rows.map Row.withReturns)).toOption.map (Artifact.tableImplementation h) =
        (assemble name definition fields indices rows).toOption.map
          (Artifact.tableImplementation h) := by
  constructor
  · intro index
    have hguard := congrArg Option.isSome index.createIfMissing_withReturns
    cases hother : index.withReturns.createIfMissing <;> cases hsame : index.createIfMissing <;>
      simp_all [Except.toOption, Except.isOk, Except.toBool]
  · have hartifact (t : Table) :
        Artifact.tableImplementation h t.withReturns = Artifact.tableImplementation h t := by
      unfold Artifact.tableImplementation
      rw [lines_withReturns]
      rfl
    rw [assemble_withReturns, Option.map_map]
    simp only [Function.comp_def, hartifact]

end Table

end TableForge
