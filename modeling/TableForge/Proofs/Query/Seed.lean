import TableForge.Code.TableImplementation
import TableForge.Proofs.Query.Format
import TableForge.Script.Token

namespace TableForge

namespace Value

-- What a value is to be stored as: nothing for null, the text of a number, and a text without
-- the marker in front of it, unless it is nothing but the marker.
def stored : Value → Option (List Char)
  | .null => none
  | .int i => some (toString i).toList
  | .real x => some x.text.toList
  | .text s =>
    match Text.dropHead? Marker.marker s.toList with
    | some (c :: rest) => some (c :: rest)
    | _ => some s.toList

-- The value is not an ASCII text that begins with the marker and has a single quote in it.
def Faithful (v : Value) : Prop :=
  ∀ s, v = .text s → Text.allAscii s → Marker.marker.isPrefixOf s.toList → '\'' ∉ s.toList

-- The three ways in which a value gets into the executed statement. Only marked text gets there
-- with its quotes as they are.
theorem executed_cases (v : Value) :
    (v.stored = none ∧ v.Faithful ∧ (Literal.ofValue v).executed = ['N', 'U', 'L', 'L']) ∨
    (∃ x, v.stored = some x ∧ v.Faithful ∧ (Literal.ofValue v).executed = Text.Quoted.quote x) ∨
    (∃ s x, v = .text s ∧ Text.allAscii s ∧ s.toList = Marker.marker ++ x ∧ v.stored = some x ∧
      (Literal.ofValue v).executed = '\'' :: (x ++ ['\''])) := by
  cases v with
  | null => exact .inl ⟨rfl, by simp [Faithful], by simp [Literal.ofValue, Literal.executed]⟩
  | int i =>
    refine .inr (.inl ⟨_, rfl, by simp [Faithful], ?_⟩)
    simp [Literal.ofValue, Literal.executed, Text.Quoted.quoteText]
  | real x =>
    refine .inr (.inl ⟨_, rfl, by simp [Faithful], ?_⟩)
    simp [Literal.ofValue, Literal.executed, Text.Quoted.quoteText]
  | text s =>
    simp only [Literal.ofValue, Literal.ofText, stored]
    by_cases hascii : Text.allAscii s
    · cases hm : Text.dropHead? Marker.marker s.toList with
      | none =>
        refine .inr (.inl ⟨_, rfl, ?_, by simp [hascii, Literal.executed, Text.Quoted.quoteText]⟩)
        rintro s' hs' - hp
        obtain rfl := Value.text.inj hs'
        obtain ⟨x, hx⟩ := List.isPrefixOf_iff_prefix.mp hp
        rw [Text.dropHead?_eq_some_iff.mpr hx.symm] at hm
        contradiction
      | some x =>
        have hs := Text.dropHead?_eq_some_iff.mp hm
        cases x with
        | nil =>
          refine .inr (.inl ⟨_, rfl, ?_, by simp [hascii, Literal.executed, Text.Quoted.quoteText]⟩)
          rintro s' hs' - -
          obtain rfl := Value.text.inj hs'
          rw [hs]
          decide
        | cons c x =>
          refine .inr (.inr ⟨s, c :: x, rfl, hascii, hs, rfl, ?_⟩)
          simp [hascii, Literal.executed]
    · refine .inr (.inl ⟨Marker.dropLeading s.toList, ?_, ?_, by simp [hascii, Literal.executed]⟩)
      · cases hm : Text.dropHead? Marker.marker s.toList with
        | none => simp [Marker.dropLeading, hm]
        | some x =>
          cases x with
          | nil =>
            have hs := Text.dropHead?_eq_some_iff.mp hm
            exact absurd (by simp [Text.allAscii, hs, Marker.marker, Text.isAscii]) hascii
          | cons c x => simp [Marker.dropLeading, hm]
      · rintro s' hs' ha
        obtain rfl := Value.text.inj hs'
        exact absurd ha hascii

end Value

namespace SeedInsert

-- A value at the front of a text and what follows it: NULL or a literal in quotes.
def readValue? : List Char → Option (Option (List Char) × List Char)
  | 'N' :: 'U' :: 'L' :: 'L' :: rest => some (none, rest)
  | '\'' :: rest => (Text.Quoted.readBody rest).map fun (s, after) => (some s, after)
  | _ => none

theorem readValue_length {s rest : List Char} {value : Option (List Char)}
    (h : readValue? s = some (value, rest)) : rest.length < s.length := by
  unfold readValue? at h
  split at h
  · obtain ⟨-, rfl⟩ := Prod.mk.inj (Option.some.inj h)
    simp only [List.length_cons]
    omega
  · obtain ⟨⟨x, after⟩, hread, heq⟩ := Option.map_eq_some_iff.mp h
    obtain ⟨-, rfl⟩ := Prod.mk.inj heq
    rw [Text.Quoted.eq_of_readBody hread]
    simp only [List.length_cons, List.length_append]
    omega
  · simp at h

-- Values with commas between them, up to the parenthesis that ends the statement.
def readValues? (s : List Char) : Option (List (Option (List Char))) :=
  match _h : readValue? s with
  | some (value, [')']) => some [value]
  | some (value, ',' :: ' ' :: rest) => (readValues? rest).map (value :: ·)
  | _ => none
termination_by s.length
decreasing_by
  have := readValue_length _h
  simp only [List.length_cons] at this
  omega

-- The table and the values of an insertion.
def read? (sql : List Char) : Option (List Char × List (Option (List Char))) := do
  let rest ← Text.dropHead? "INSERT INTO ".toList sql
  let table := rest.takeWhile Script.Token.isNameChar
  let values ← Text.dropHead? " VALUES (".toList (rest.dropWhile Script.Token.isNameChar)
  if values = [')'] then some (table, []) else (readValues? values).map (table, ·)

section Reading

variable {s rest : List Char} {value : Option (List Char)}

theorem readValues_last (h : readValue? s = some (value, [')'])) :
    readValues? s = some [value] := by
  rw [readValues?]
  split <;> simp_all

theorem readValues_more (h : readValue? s = some (value, ',' :: ' ' :: rest)) :
    readValues? s = (readValues? rest).map (value :: ·) := by
  rw [readValues?]
  split <;> simp_all

theorem readValue_of_readValues {values : List (Option (List Char))}
    (h : readValues? s = some (value :: values)) : ∃ rest, readValue? s = some (value, rest) := by
  rw [readValues?] at h
  split at h
  · rename_i hv
    obtain ⟨rfl, -⟩ := List.cons.inj (Option.some.inj h)
    exact ⟨_, hv⟩
  · rename_i hv
    obtain ⟨more, -, heq⟩ := Option.map_eq_some_iff.mp h
    obtain ⟨rfl, -⟩ := List.cons.inj heq
    exact ⟨_, hv⟩
  · simp at h

end Reading

-- A faithful value is read back as it is stored, whatever follows it.
theorem readValue_executed {v : Value} {rest : List Char} (hrest : rest.head? ≠ some '\'')
    (hv : v.Faithful) :
    readValue? ((Literal.ofValue v).executed ++ rest) = some (v.stored, rest) := by
  obtain ⟨hs, -, he⟩ | ⟨x, hs, -, he⟩ | ⟨s, x, rfl, ha, hx, hs, he⟩ := v.executed_cases
  · rw [he, hs]
    rfl
  · rw [he, hs]
    simp [Text.Quoted.quote, readValue?, Text.Quoted.readBody_double hrest]
  · have hmem : '\'' ∉ x := fun h =>
      hv s rfl ha (List.isPrefixOf_iff_prefix.mpr ⟨x, hx.symm⟩) (by simp [hx, h])
    have hread := Text.Quoted.readBody_double (s := x) hrest
    rw [Text.double_eq_self hmem] at hread
    rw [he, hs]
    simp [readValue?, hread]

-- Only a faithful value is read back as it is stored.
theorem faithful_of_readValue {v : Value} {rest after : List Char}
    (hrest : rest.head? ≠ some '\'')
    (h : readValue? ((Literal.ofValue v).executed ++ rest) = some (v.stored, after)) :
    v.Faithful := by
  obtain ⟨-, hv, -⟩ | ⟨x, -, hv, -⟩ | ⟨s, x, rfl, ha, hx, hs, he⟩ := v.executed_cases
  · exact hv
  · exact hv
  · rw [he, hs] at h
    have hread : Text.Quoted.readBody (x ++ '\'' :: rest) = some (x, after) := by
      simpa [readValue?] using h
    have hmem := Text.Quoted.not_mem_of_readBody hrest hread
    rintro s' hs' - -
    obtain rfl := Value.text.inj hs'
    rw [hx, List.mem_append]
    rintro (h | h)
    · exact absurd h (by decide)
    · exact hmem h

-- The text of the values of a row.
def rowText (values : List Value) : List Char :=
  ", ".toList.intercalate (values.map fun v => (Literal.ofValue v).executed) ++ [')']

theorem rowText_ne (v : Value) (values : List Value) : rowText (v :: values) ≠ [')'] := by
  intro h
  have hlength := congrArg List.length h
  have hpos : 0 < (Literal.ofValue v).executed.length := by
    obtain ⟨-, -, he⟩ | ⟨x, -, -, he⟩ | ⟨s, x, -, -, -, -, he⟩ := v.executed_cases <;>
      simp [he, Text.Quoted.quote]
  cases values with
  | nil =>
    simp only [rowText, List.map_cons, List.map_nil, List.intercalate_singleton,
      List.length_append, List.length_singleton] at hlength
    omega
  | cons next values =>
    simp only [rowText, List.map_cons, List.intercalate_cons_cons, List.length_append,
      List.length_singleton] at hlength
    omega

-- The values of a row are read back as they are stored exactly if all of them are faithful.
theorem readValues_rowText_iff {values : List Value} (h : values ≠ []) :
    readValues? (rowText values) = some (values.map Value.stored) ↔ ∀ v ∈ values, v.Faithful := by
  induction values with
  | nil => exact absurd rfl h
  | cons v values ih =>
    cases values with
    | nil =>
      have htext : rowText [v] = (Literal.ofValue v).executed ++ [')'] := by
        simp [rowText, List.intercalate_singleton]
      rw [htext]
      constructor
      · intro hread
        obtain ⟨after, hafter⟩ := readValue_of_readValues hread
        simpa using faithful_of_readValue (by simp) hafter
      · intro hv
        exact readValues_last (readValue_executed (by simp) (hv v (by simp)))
    | cons next values =>
      have hcomma : ", ".toList = [',', ' '] := rfl
      have htext : rowText (v :: next :: values) =
          (Literal.ofValue v).executed ++ ',' :: ' ' :: rowText (next :: values) := by
        simp [rowText, List.intercalate_cons_cons, hcomma]
      rw [htext, List.forall_mem_cons, ← ih (by simp)]
      have hvalue (hv : v.Faithful) := readValue_executed
        (show (',' :: ' ' :: rowText (next :: values)).head? ≠ some '\'' by simp) hv
      constructor
      · intro hread
        obtain ⟨after, hafter⟩ := readValue_of_readValues hread
        have hv := faithful_of_readValue (by simp) hafter
        rw [readValues_more (hvalue hv)] at hread
        refine ⟨hv, ?_⟩
        obtain ⟨more, hmore, heq⟩ := Option.map_eq_some_iff.mp hread
        rw [hmore, (List.cons.inj heq).2]
      · rintro ⟨hv, hread⟩
        rw [readValues_more (hvalue hv), hread]
        rfl

end SeedInsert

end TableForge
