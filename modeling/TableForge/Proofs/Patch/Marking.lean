import TableForge.Proofs.Decimal.Characters
import TableForge.Proofs.Patch.Coverage
import TableForge.Proofs.Text.Cleaning
import TableForge.Proofs.Text.Occurrence

namespace TableForge.Patch

open Marker (marker)

-- What a value puts into a script is cleaned, or is the text of a number.
theorem not_infix_content {v : Value} {s : String} (h : content v = some s) :
    ¬marker <:+: s.toList := by
  intro hmarker
  have hunderscore : '_' ∈ s.toList := hmarker.subset (by decide)
  have hnumeral : isNumeral '_' = false := by decide
  cases v with
  | null => simp [content] at h
  | int i =>
    obtain rfl := Option.some.inj h
    rw [isNumeral_of_mem_int hunderscore] at hnumeral
    cases hnumeral
  | real x =>
    obtain rfl := Option.some.inj h
    rw [Binary64.isNumeral_of_mem_text hunderscore] at hnumeral
    cases hnumeral
  | text t =>
    obtain rfl := Option.some.inj h
    rw [Marker.cleanText, String.toList_ofList] at hmarker
    exact Marker.not_infix_clean t.toList hmarker

theorem not_infix_literalPart (v : Value) :
    ¬marker <:+: (Command.literalPart (content v)).chars := by
  cases hcontent : content v with
  | none => decide
  | some s =>
    have hquoted : marker <:+: Text.Quoted.quote s.toList ↔ marker <:+: s.toList :=
      infix_quote_iff (by decide) (by decide)
    exact fun h => not_infix_content hcontent (hquoted.mp h)

section Row

variable (settings : PatchSettings) (t : Table) (row : Row)

theorem infix_assignmentList_iff :
    marker <:+: (upsertOf settings t row).assignmentList.toList ↔
      ∃ cell ∈ otherCells settings t row, marker <:+: cell.1.toList := by
  have hcomma : Fence marker ", ".toList := by decide
  have hcell (cell : String × Value) :
      marker <:+: cell.1.toList ++ '=' :: (Command.literalPart (content cell.2)).chars ↔
        marker <:+: cell.1.toList := by
    rw [infix_append_cons_iff (by decide), or_iff_left (not_infix_literalPart cell.2)]
  rw [toList_assignmentList, hcomma.infix_intercalate_iff]
  simp only [List.mem_map, exists_exists_and_eq_and, hcell]

theorem infix_insertion_iff :
    marker <:+: ((upsertOf settings t row).insertion settings t.name).toList ↔
      marker <:+: t.name.toList ∨ marker <:+: settings.nameField.toList ∨
        marker <:+: settings.naturalKey.toList := by
  have hopen : Fence marker "INSERT OR IGNORE INTO ".toList := by decide
  have hcolumns : Fence marker " (".toList := by decide
  have hcomma : Fence marker ", ".toList := by decide
  have hvalues : Fence marker ") VALUES (".toList := by decide
  have hclose : Fence marker ");".toList := by decide
  have hname := not_infix_literalPart (valueOf row settings.nameField)
  have hkey := not_infix_literalPart (valueOf row settings.naturalKey)
  unfold Upsert.insertion
  simp only [String.toList_append, List.append_assoc]
  rw [hopen.infix_start_iff, hcolumns.infix_append_iff, hcomma.infix_append_iff,
    hvalues.infix_append_iff, hcomma.infix_append_iff, hclose.infix_end_iff, toList_name, toList_key,
    or_iff_right hname, or_iff_left hkey]

theorem infix_change_iff :
    marker <:+: ((upsertOf settings t row).change settings t.name).toList ↔
      marker <:+: t.name.toList ∨
        (∃ cell ∈ otherCells settings t row, marker <:+: cell.1.toList) ∨
        marker <:+: settings.naturalKey.toList := by
  have hopen : Fence marker "UPDATE OR IGNORE ".toList := by decide
  have hset : Fence marker " SET ".toList := by decide
  have hwhere : Fence marker " WHERE ".toList := by decide
  have hequals : Fence marker "=".toList := by decide
  have hclose : Fence marker ";".toList := by decide
  have hkey := not_infix_literalPart (valueOf row settings.naturalKey)
  unfold Upsert.change
  simp only [String.toList_append, List.append_assoc]
  rw [hopen.infix_start_iff, hset.infix_append_iff, hwhere.infix_append_iff,
    hequals.infix_append_iff, hclose.infix_end_iff, toList_key, or_iff_left hkey,
    infix_assignmentList_iff]

-- The lines of a row have a marker just where a name has one.
theorem infix_group_iff :
    (∃ line ∈ group settings t row, marker <:+: line.toList) ↔
      marker <:+: t.name.toList ∨ marker <:+: settings.nameField.toList ∨
        marker <:+: settings.naturalKey.toList ∨
        ∃ cell ∈ otherCells settings t row, marker <:+: cell.1.toList := by
  have hassignments : (upsertOf settings t row).assignments =
      (otherCells settings t row).map fun cell => (cell.1, token cell.2) := rfl
  rw [group, Upsert.statements, List.exists_mem_cons_iff, infix_insertion_iff, hassignments]
  cases hothers : otherCells settings t row with
  | nil => simp
  | cons cell others =>
    have hchange := infix_change_iff settings t row
    rw [hothers] at hchange
    simp only [List.map_cons, List.isEmpty_cons, Bool.false_eq_true, if_false,
      List.mem_singleton, exists_eq_left, hchange]
    grind

end Row

theorem infix_banner_iff (table : String) (variant : PatchVariant) :
    (∃ line ∈ banner table variant, marker <:+: line.toList) ↔ marker <:+: table.toList := by
  have hopen : Fence marker "-- Seed data patch for ".toList := by decide
  have hclose : Fence marker " --".toList := by decide
  have hfirst : marker <:+: ("-- Seed data patch for " ++ table ++ " --").toList ↔
      marker <:+: table.toList := by
    rw [String.toList_append, String.toList_append, hclose.infix_end_iff, hopen.infix_start_iff]
  have hsecond : ¬marker <:+:
      "-- This script adds missing rows and overwrites their parameters.".toList := by
    rw [String.toList_ofList]
    exact not_infix_of_not_mem (c := '_') (by decide) (by decide)
  have hthird : ¬marker <:+: "-- Only rows with unicode text are affected.".toList := by
    rw [String.toList_ofList]
    exact not_infix_of_not_mem (c := '_') (by decide) (by decide)
  rw [banner.eq_def, List.cons_append, List.exists_mem_cons_iff, hfirst, or_iff_left]
  rintro ⟨line, hline, hmarker⟩
  rcases List.mem_cons.mp hline with rfl | hline
  · exact hsecond hmarker
  · cases variant with
    | full => cases hline
    | unicodeOnly =>
      obtain rfl := List.mem_singleton.mp hline
      exact hthird hmarker

-- A script has the marker in it exactly if the name of the table has, or a name that is written
-- for one of the rows that it covers. So neither a value nor a place where two parts of the script
-- meet brings one in.
theorem marker_in_script_iff {settings : PatchSettings} {variant : PatchVariant} {t : Table}
    {script : String} (h : render settings variant t = .ok script) :
    (marker <:+: script.toList ↔
      marker <:+: t.name.toList ∨
        ∃ row ∈ t.rows, (variant = .full ∨ WritesUnicode settings t row ∨
            NamesUnicode settings t row) ∧
          (marker <:+: settings.nameField.toList ∨ marker <:+: settings.naturalKey.toList ∨
            ∃ cell ∈ otherCells settings t row, marker <:+: cell.1.toList)) ∧
    (marker <:+: script.toList →
      marker <:+: t.name.toList ∨ (∃ row ∈ t.rows, ∃ cell ∈ row, marker <:+: cell.1.toList) ∨
        marker <:+: settings.naturalKey.toList ∨ marker <:+: settings.nameField.toList) := by
  obtain ⟨hkey, hname⟩ := hasColumns_of_render h
  obtain rfl := Except.ok.inj (h.symm.trans (render_eq_ok variant hkey hname))
  have hlines (rows : List Row) :
      (∃ line ∈ banner t.name variant ++ rows.flatMap (group settings t),
        marker <:+: line.toList) ↔
      marker <:+: t.name.toList ∨
        ∃ row ∈ rows, ∃ line ∈ group settings t row, marker <:+: line.toList := by
    rw [← infix_banner_iff t.name variant]
    simp only [List.mem_append, List.mem_flatMap]
    grind
  rw [infix_unlines_iff (by decide) (by decide), flatMap_upserts, hlines]
  simp only [infix_group_iff, List.mem_filter, decide_eq_true_eq, Bool.not_eq_true',
    isAscii_upsertOf]
  constructor
  · grind
  · rintro (htable | ⟨row, ⟨hrow, -⟩, htable | hfield | hkey | ⟨cell, hcell, hcolumn⟩⟩)
    · exact .inl htable
    · exact .inl htable
    · exact .inr (.inr (.inr hfield))
    · exact .inr (.inr (.inl hkey))
    · exact .inr (.inl ⟨row, hrow, cell, List.mem_of_mem_filter hcell, hcolumn⟩)

-- Markers in a key, in a name and across the ends of values do not get into a script, and the name
-- of an assigned column does.
theorem marker_in_script_of_column :
    let settings : PatchSettings := { table := "T", naturalKey := "SYM", nameField := "NAME" }
    let field (name : String) : Field := ⟨0, name, .text, true⟩
    let row (column : String) : Row := [("ID", .int 1), ("NAME", .text "_t_tr_r_"),
      ("SYM", .text "_tr"), (column, .text "_tr__tr_€")]
    let t (column : String) : Table :=
      ⟨"T", "", ⟨[], field "ID", [field "NAME", field "SYM", field column]⟩, [], [row column]⟩
    (∃ script, render settings .full (t "NOTE") = .ok script ∧ ¬marker <:+: script.toList) ∧
      ∃ script, render settings .unicodeOnly (t "a_tr_b") = .ok script ∧
        marker <:+: script.toList := by
  intro settings field row t
  have hrender (variant : PatchVariant) (column : String) :
      ∃ script, render settings variant (t column) = .ok script :=
    ⟨_, render_eq_ok variant ⟨field "SYM", by simp [t, KeyedFields.declared], by decide⟩
      ⟨field "NAME", by simp [t, KeyedFields.declared], by decide⟩⟩
  constructor
  · obtain ⟨script, hscript⟩ := hrender .full "NOTE"
    refine ⟨script, hscript, fun hmarker => ?_⟩
    have hnames := (marker_in_script_iff hscript).2 hmarker
    revert hnames
    decide +kernel
  · obtain ⟨script, hscript⟩ := hrender .unicodeOnly "a_tr_b"
    refine ⟨script, hscript, (marker_in_script_iff hscript).1.mpr ?_⟩
    decide +kernel

end TableForge.Patch
