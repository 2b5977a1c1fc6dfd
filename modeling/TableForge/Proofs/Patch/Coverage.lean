import TableForge.Proofs.Patch.Reading
import TableForge.Proofs.Text.Lines
import Mathlib.Data.List.Flatten

namespace TableForge

theorem Text.allAscii_iff {s : String} : allAscii s ↔ ∀ c ∈ s.toList, isAscii c :=
  List.all_eq_true

-- Elements that each give something give less when more of them are left out.
theorem flatMap_filter_eq_iff {α β : Type} {p q : α → Bool} {f : α → List β} {l : List α}
    (hpq : ∀ a, p a → q a) (hf : ∀ a ∈ l, f a ≠ []) :
    (l.filter q).flatMap f = (l.filter p).flatMap f ↔ ∀ a ∈ l, q a → p a := by
  induction l with
  | nil => simp
  | cons a l ih =>
    obtain ⟨ha, hl⟩ := List.forall_mem_cons.mp hf
    rw [List.forall_mem_cons]
    by_cases hq : q a
    · by_cases hp : p a
      · simp [hp, hq, ih hl]
      · have hfewer : ((l.filter p).flatMap f).length ≤ ((l.filter q).flatMap f).length :=
          ((List.monotone_filter_right l hpq).flatMap f).length_le
        have hpos : 0 < (f a).length := List.length_pos_iff.mpr ha
        have hne : f a ++ (l.filter q).flatMap f ≠ (l.filter p).flatMap f := by
          intro heq
          have hlength := congrArg List.length heq
          rw [List.length_append] at hlength
          omega
        simp [hp, hq, hne]
    · have hp : ¬p a := fun hp => hq (hpq a hp)
      simp [hp, hq, ih hl]

namespace Patch

-- The value has a character outside ASCII, markers aside.
def IsWide (v : Value) : Prop := ∃ s ∈ content v, ¬Text.allAscii s

instance : DecidablePred IsWide := fun v => inferInstanceAs (Decidable (∃ s ∈ content v, _))

section Row

variable (settings : PatchSettings) (t : Table)

-- A value that is written for the row has a character outside ASCII.
def WritesUnicode (row : Row) : Prop :=
  (∃ cell ∈ otherCells settings t row, IsWide cell.2) ∨ IsWide (valueOf row settings.naturalKey) ∨
    IsWide (valueOf row settings.nameField)

-- A column that is assigned for the row has such a character in its name.
def NamesUnicode (row : Row) : Prop := ∃ cell ∈ otherCells settings t row, ¬Text.allAscii cell.1

instance : DecidablePred (WritesUnicode settings t) := fun _ =>
  inferInstanceAs (Decidable (_ ∨ _ ∨ _))

instance : DecidablePred (NamesUnicode settings t) := fun row =>
  inferInstanceAs (Decidable (∃ cell ∈ otherCells settings t row, _))

-- The rows for which either is the case.
def unicodeRows : List Row :=
  t.rows.filter fun row => WritesUnicode settings t row ∨ NamesUnicode settings t row

theorem isAscii_literalPart (v : Value) :
    (∀ c ∈ (Command.literalPart (content v)).chars, Text.isAscii c) ↔ ¬IsWide v := by
  cases hcontent : content v with
  | none =>
    have hnull : ∀ c ∈ (Command.literalPart none).chars, Text.isAscii c :=
      List.all_eq_true.mp (by decide)
    exact ⟨fun _ h => by simp [IsWide, hcontent] at h, fun _ => hnull⟩
  | some s =>
    have hquote : Text.isAscii '\'' := by decide
    simp [IsWide, hcontent, Command.literalPart, Script.Part.chars, Text.Quoted.quote,
      Text.mem_double, Text.allAscii_iff, or_imp, forall_and, hquote]

theorem allAscii_token (v : Value) : Text.allAscii (token v) ↔ ¬IsWide v := by
  rw [Text.allAscii_iff, toList_token, isAscii_literalPart]

theorem allAscii_assignmentList (row : Row) :
    Text.allAscii (upsertOf settings t row).assignmentList ↔
      ∀ cell ∈ otherCells settings t row, Text.allAscii cell.1 ∧ ¬IsWide cell.2 := by
  have hequals : Text.isAscii '=' := by decide
  rw [Text.allAscii_iff, toList_assignmentList,
    forall_mem_intercalate (List.all_eq_true.mp (by decide)), List.forall_mem_map]
  simp only [List.forall_mem_append, List.forall_mem_cons, hequals, true_and, isAscii_literalPart,
    Text.allAscii_iff]

-- A row is in the unicode script for its values or for the names of its columns.
theorem isAscii_upsertOf (row : Row) :
    (upsertOf settings t row).isAscii = false ↔
      WritesUnicode settings t row ∨ NamesUnicode settings t row := by
  have hparts : (upsertOf settings t row).isAscii ↔
      (∀ cell ∈ otherCells settings t row, Text.allAscii cell.1 ∧ ¬IsWide cell.2) ∧
        ¬IsWide (valueOf row settings.naturalKey) ∧ ¬IsWide (valueOf row settings.nameField) := by
    rw [Upsert.isAscii, Bool.and_eq_true, Bool.and_eq_true, allAscii_assignmentList, and_assoc]
    exact and_congr_right fun _ => and_congr (allAscii_token _) (allAscii_token _)
  rw [← Bool.not_eq_true, hparts]
  simp only [WritesUnicode, NamesUnicode]
  grind

end Row

section Script

variable {settings : PatchSettings} {t : Table}

-- Both scripts are there or none.
theorem hasColumns_of_render {variant : PatchVariant} {script : String}
    (h : render settings variant t = .ok script) :
    HasColumn t settings.naturalKey ∧ HasColumn t settings.nameField := by
  by_contra hmissing
  obtain ⟨e, he⟩ : ∃ e, render settings variant t = .error e := by
    by_cases hkey : HasColumn t settings.naturalKey
    · have hname : ¬HasColumn t settings.nameField := fun hname => hmissing ⟨hkey, hname⟩
      exact ⟨_, render_eq_error_iff.mpr (.inr ⟨hkey, hname, rfl⟩)⟩
    · exact ⟨_, render_eq_error_iff.mpr (.inl ⟨hkey, rfl⟩)⟩
  rw [h] at he
  cases he

-- The unicode script has the statements of just those rows of the full script that have a
-- character outside ASCII in a value or in the name of an assigned column. So these are the rows
-- that write one in a value only as long as no other row has an assigned column named that way.
theorem unicode_script_covers {full : String} (h : render settings .full t = .ok full) :
    ∃ unicode, render settings .unicodeOnly t = .ok unicode ∧
      full = Text.unlines (banner t.name .full ++ t.rows.flatMap (group settings t)) ∧
      unicode = Text.unlines (banner t.name .unicodeOnly ++
        (unicodeRows settings t).flatMap (group settings t)) ∧
      (PlainNames settings t → Script.statementsOf unicode.toList =
        ((unicodeRows settings t).flatMap (commandsFor settings t)).map Command.tokens) ∧
      (unicode = Text.unlines (banner t.name .unicodeOnly ++
          (t.rows.filter (WritesUnicode settings t ·)).flatMap (group settings t)) ↔
        ∀ row ∈ t.rows, NamesUnicode settings t row → WritesUnicode settings t row) := by
  obtain ⟨hkey, hname⟩ := hasColumns_of_render h
  have hfull := render_eq_ok .full hkey hname
  have hunicode := render_eq_ok .unicodeOnly hkey hname
  rw [flatMap_upserts] at hfull hunicode
  simp only [true_or, decide_true, List.filter_true] at hfull
  simp only [reduceCtorEq, false_or, Bool.not_eq_true', isAscii_upsertOf] at hunicode
  refine ⟨_, hunicode, Except.ok.inj (h.symm.trans hfull), rfl, fun hnames => ?_, ?_⟩
  · exact statementsOf_groups hnames .unicodeOnly fun row hrow => List.mem_of_mem_filter hrow
  · -- below the same banner stand the lines of some rows, at least one line for each of them
    have hgroup : ∀ row ∈ t.rows,
        (group settings t row).flatMap (fun line => line.toList ++ ['\n']) ≠ [] := by
      intro row _
      simp [group, Upsert.statements]
    rw [← String.toList_inj, Text.toList_unlines, Text.toList_unlines, List.flatMap_append,
      List.flatMap_append, List.append_cancel_left_eq, List.flatMap_assoc, List.flatMap_assoc,
      flatMap_filter_eq_iff (by simp +contextual) hgroup]
    simp only [decide_eq_true_eq]
    exact forall₂_congr fun row _ => or_imp.trans (and_iff_right id)

-- A row of ASCII values under a column with a name outside ASCII is in both scripts.
theorem unicode_script_covers_of_column :
    let settings : PatchSettings := { table := "T", naturalKey := "SYM", nameField := "SYM" }
    let field (name : String) : Field := ⟨0, name, .text, true⟩
    let row : Row := [("ID", .int 1), ("SYM", .text "x"), ("NÄME", .text "_tr_abc")]
    let t : Table := ⟨"T", "", ⟨[], field "ID", [field "SYM", field "NÄME"]⟩, [], [row]⟩
    ∃ unicode, render settings .unicodeOnly t = .ok unicode ∧
      unicode = Text.unlines (banner "T" .unicodeOnly ++
        ["INSERT OR IGNORE INTO T (SYM, SYM) VALUES ('x', 'x');",
          "UPDATE OR IGNORE T SET NÄME='abc' WHERE SYM='x';"]) ∧
      unicode ≠ Text.unlines (banner "T" .unicodeOnly ++
        (t.rows.filter (WritesUnicode settings t ·)).flatMap (group settings t)) := by
  intro settings field row t
  have hrender : render settings .full t = .ok (Text.unlines (banner "T" .full ++
      group settings t row)) := by
    decide +kernel
  obtain ⟨unicode, hunicode, -, hcovered, -, hexact⟩ := unicode_script_covers hrender
  have hgroups : (unicodeRows settings t).flatMap (group settings t) =
      ["INSERT OR IGNORE INTO T (SYM, SYM) VALUES ('x', 'x');",
        "UPDATE OR IGNORE T SET NÄME='abc' WHERE SYM='x';"] := by
    decide +kernel
  have hextra : ¬∀ row ∈ t.rows, NamesUnicode settings t row → WritesUnicode settings t row := by
    decide +kernel
  exact ⟨unicode, hunicode, by rw [hcovered, hgroups], fun heq => hextra (hexact.mp heq)⟩

end Script

end Patch

end TableForge
