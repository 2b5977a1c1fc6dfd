import TableForge.Proofs.Patch.Command

namespace TableForge.Patch

open Script (Token Part IsName Spells)

section Row

variable (settings : PatchSettings) (t : Table) (row : Row)

-- What is written for a row of a table.
def upsertOf : Upsert := Upsert.ofRow settings t.fields.key.name row

-- The lines of a script that belong to a row.
def group : List String := (upsertOf settings t row).statements settings t.name

theorem toList_name :
    (upsertOf settings t row).name.toList =
      (Command.literalPart (content (valueOf row settings.nameField))).chars :=
  toList_token (valueOf row settings.nameField)

theorem toList_key :
    (upsertOf settings t row).key.toList =
      (Command.literalPart (content (valueOf row settings.naturalKey))).chars :=
  toList_token (valueOf row settings.naturalKey)

theorem toList_assignmentList :
    (upsertOf settings t row).assignmentList.toList =
      ", ".toList.intercalate ((otherCells settings t row).map fun cell =>
        cell.1.toList ++ '=' :: (Command.literalPart (content cell.2)).chars) := by
  have hassignments : (upsertOf settings t row).assignments =
      (otherCells settings t row).map fun cell => (cell.1, token cell.2) := rfl
  rw [Upsert.assignmentList, Text.toList_join, hassignments]
  simp [toList_token, Function.comp_def]

theorem toList_insertion :
    ((upsertOf settings t row).insertion settings t.name).toList =
      (Command.add t.name [(settings.nameField, content (valueOf row settings.nameField)),
        (settings.naturalKey, content (valueOf row settings.naturalKey))]).parts.flatMap
          Part.chars ++ [';'] := by
  unfold Upsert.insertion
  simp [Command.parts, Part.flatMap_listed, toList_name, toList_key, List.intercalate_cons_cons,
    List.intercalate_singleton]

theorem toList_change :
    ((upsertOf settings t row).change settings t.name).toList =
      (Command.overwrite t.name
        ((otherCells settings t row).map fun cell => (cell.1, content cell.2))
        (settings.naturalKey, content (valueOf row settings.naturalKey))).parts.flatMap
          Part.chars ++ [';'] := by
  unfold Upsert.change
  simp [Command.parts, Part.flatMap_listed, toList_assignmentList, toList_key, Function.comp_def]

end Row

-- The lines of a script below its banner are those of the rows that its variant covers.
theorem flatMap_upserts (settings : PatchSettings) (variant : PatchVariant) (t : Table) :
    (upserts settings variant t).flatMap (Upsert.statements settings t.name) =
      (t.rows.filter fun row => variant = .full ∨ !(upsertOf settings t row).isAscii).flatMap
        (group settings t) := by
  have hcovered : upserts settings variant t =
      (t.rows.filter fun row => variant = .full ∨ !(upsertOf settings t row).isAscii).map
        (upsertOf settings t) := by
    rw [upserts, List.filter_map]
    cases variant <;> simp [Function.comp_def, upsertOf]
  rw [hcovered, List.flatMap_map]
  rfl

-- The table and the columns that a script writes are named without quotes.
structure PlainNames (settings : PatchSettings) (t : Table) : Prop where
  table : IsName t.name
  naturalKey : IsName settings.naturalKey
  nameField : IsName settings.nameField
  columns : ∀ row ∈ t.rows, ∀ cell ∈ row, IsName cell.1

section Script

variable {settings : PatchSettings} {t : Table}

-- Each line of a row has the tokens of a command.
theorem forall₂_group (h : PlainNames settings t) {row : Row} (hrow : row ∈ t.rows) :
    List.Forall₂ Spells (group settings t row)
      ((commandsFor settings t row).map fun c => c.tokens ++ [.symbol ";"]) := by
  have hassignments : (upsertOf settings t row).assignments =
      (otherCells settings t row).map fun cell => (cell.1, token cell.2) := rfl
  have hcells : ∀ cell ∈ otherCells settings t row, IsName cell.1 := fun cell hcell =>
    h.columns row hrow cell (List.mem_of_mem_filter hcell)
  have hchange := toList_change settings t row
  rw [group, Upsert.statements, commandsFor, hassignments]
  refine .cons (Command.spells_parts ?_ (toList_insertion settings t row)) ?_
  · exact ⟨h.table, by simp, by simpa using ⟨h.nameField, h.naturalKey⟩⟩
  · cases hothers : otherCells settings t row with
    | nil => exact .nil
    | cons cell others =>
      rw [hothers] at hchange hcells
      refine .cons (Command.spells_parts ?_ hchange) .nil
      exact ⟨h.table, by simp, List.forall_mem_map.mpr hcells, h.naturalKey⟩

-- No line of the banner has any token.
theorem forall₂_banner (h : IsName t.name) (variant : PatchVariant) :
    List.Forall₂ Spells (banner t.name variant) ((banner t.name variant).map fun _ => []) := by
  have hname : '\n' ∉ t.name.toList := by
    intro hmem
    exact absurd (List.all_eq_true.mp h.2 _ hmem) (by decide)
  have htable : Spells ("-- Seed data patch for " ++ t.name ++ " --") [] :=
    Script.spells_comment (s := (" Seed data patch for " ++ t.name ++ " --").toList) (by simp)
      (by simp [hname])
  have hfixed {line : String} {s : List Char} (hline : line.toList = '-' :: '-' :: s)
      (hs : '\n' ∉ s) : Spells line [] := Script.spells_comment hline hs
  cases variant with
  | full => exact .cons htable (.cons (hfixed (by simp; rfl) (by decide)) .nil)
  | unicodeOnly =>
    exact .cons htable (.cons (hfixed (by simp; rfl) (by decide))
      (.cons (hfixed (by simp; rfl) (by decide)) .nil))

-- The lines of some rows below a banner have the statements of the commands for these rows.
theorem statementsOf_groups (h : PlainNames settings t) (variant : PatchVariant) {rows : List Row}
    (hrows : ∀ row ∈ rows, row ∈ t.rows) :
    Script.statementsOf
        (Text.unlines (banner t.name variant ++ rows.flatMap (group settings t))).toList =
      (rows.flatMap (commandsFor settings t)).map Command.tokens := by
  have hgroups : List.Forall₂ Spells (rows.flatMap (group settings t))
      ((rows.flatMap (commandsFor settings t)).map fun c => c.tokens ++ [.symbol ";"]) := by
    induction rows with
    | nil => exact .nil
    | cons row rows ih =>
      obtain ⟨hrow, hrows⟩ := List.forall_mem_cons.mp hrows
      rw [List.flatMap_cons, List.flatMap_cons, List.map_append]
      exact List.rel_append (forall₂_group h hrow) (ih hrows)
  have hnone : ((banner t.name variant).map fun _ => ([] : List Token)).flatten = [] := by
    simp
  apply Script.statementsOf_eq
  · rw [Script.tokensOf_unlines (List.rel_append (forall₂_banner h.table variant) hgroups),
      List.flatten_append, hnone, List.nil_append, List.flatMap_map]
    rfl
  · exact List.forall_mem_map.mpr fun c _ => c.tokens_whole

end Script

-- The table has a field of that name, but for the case of ASCII letters.
def HasColumn (t : Table) (name : String) : Prop :=
  ∃ f ∈ t.fields.declared, Text.sameLetters f.name name

theorem hasField_iff {t : Table} {name : String} : hasField t name ↔ HasColumn t name :=
  List.any_eq_true

-- The script has the lines of every row that its variant covers.
theorem render_eq_ok {settings : PatchSettings} (variant : PatchVariant) {t : Table}
    (hkey : HasColumn t settings.naturalKey) (hname : HasColumn t settings.nameField) :
    render settings variant t = .ok (Text.unlines (banner t.name variant ++
      (upserts settings variant t).flatMap (Upsert.statements settings t.name))) := by
  rw [← hasField_iff] at hkey hname
  rw [render, hkey, hname]
  rfl

-- There is a script unless a field is missing, the natural key first of all.
theorem render_eq_error_iff {settings : PatchSettings} {variant : PatchVariant} {t : Table}
    {e : Error} :
    render settings variant t = .error e ↔
      (¬HasColumn t settings.naturalKey ∧
        e = .missingPatchField t.name settings.naturalKey) ∨
      (HasColumn t settings.naturalKey ∧ ¬HasColumn t settings.nameField ∧
        e = .missingPatchField t.name settings.nameField) := by
  by_cases hkey : HasColumn t settings.naturalKey
  · by_cases hname : HasColumn t settings.nameField
    · simp [render_eq_ok variant hkey hname, hkey, hname]
    · have hrender : render settings variant t =
          .error (.missingPatchField t.name settings.nameField) := by
        rw [← hasField_iff] at hkey hname
        rw [render, hkey, eq_false_of_ne_true hname]
        rfl
      simp [hrender, hkey, hname, eq_comm (a := e)]
  · have hrender : render settings variant t =
        .error (.missingPatchField t.name settings.naturalKey) := by
      rw [← hasField_iff] at hkey
      rw [render, eq_false_of_ne_true hkey]
      rfl
    simp [hrender, hkey, eq_comm (a := e)]

-- The full script of a table says for every row, in order, just what it has to, and whatever a
-- text has in it stays in the literal of its value.
theorem full_script_reads_back (settings : PatchSettings) (t : Table)
    (h : PlainNames settings t) :
    (∀ e, render settings .full t = .error e ↔
      (¬HasColumn t settings.naturalKey ∧
        e = .missingPatchField t.name settings.naturalKey) ∨
      (HasColumn t settings.naturalKey ∧ ¬HasColumn t settings.nameField ∧
        e = .missingPatchField t.name settings.nameField)) ∧
    (HasColumn t settings.naturalKey → HasColumn t settings.nameField →
      ∃ script, render settings .full t = .ok script ∧
        Script.statementsOf script.toList =
          (t.rows.flatMap (commandsFor settings t)).map Command.tokens) := by
  refine ⟨fun _ => render_eq_error_iff, fun hkey hname => ⟨_, render_eq_ok .full hkey hname, ?_⟩⟩
  rw [flatMap_upserts]
  simp only [true_or, decide_true, List.filter_true]
  exact statementsOf_groups h .full fun _ hrow => hrow

-- Texts with quotes, line breaks, semicolons and comments in them, a marker that another one
-- hides, a row with no name, and a row with no other cells.
theorem full_script_reads_back_of_texts :
    let settings : PatchSettings := { table := "T", naturalKey := "Sym", nameField := "NAME" }
    let field (name : String) : Field := ⟨0, name, .text, true⟩
    let rows : List Row := [
      [("ID", .int 1), ("NAME", .text "_t_tr_r_O'Neil;\n-- ''"), ("SYM", .text "€, '), ("),
        ("NOTE", .null)],
      [("id", .int 2), ("Sym", .null)],
      [("ID", .int 3), ("SYM", .text "/*"), ("NOTE", .int (-7))]]
    let t : Table := ⟨"T", "", ⟨[], field "ID", [field "NAME", field "SYM", field "NOTE"]⟩, [], rows⟩
    ∃ script, render settings .full t = .ok script ∧
      Script.statementsOf script.toList = [
        Command.add "T" [("NAME", some "O'Neil;\n-- ''"), ("Sym", some "€, '), (")],
        .overwrite "T" [("NAME", some "O'Neil;\n-- ''"), ("NOTE", none)]
          ("Sym", some "€, '), ("),
        .add "T" [("NAME", none), ("Sym", none)],
        .add "T" [("NAME", none), ("Sym", some "/*")],
        .overwrite "T" [("NOTE", some "-7")] ("Sym", some "/*")].map Command.tokens := by
  intro settings field rows t
  have hnames : PlainNames settings t :=
    ⟨by decide, by decide, by decide, by decide⟩
  have hkey : HasColumn t settings.naturalKey := hasField_iff.mp (by decide)
  have hname : HasColumn t settings.nameField := hasField_iff.mp (by decide)
  have hcommands : t.rows.flatMap (commandsFor settings t) = [
      .add "T" [("NAME", some "O'Neil;\n-- ''"), ("Sym", some "€, '), (")],
      .overwrite "T" [("NAME", some "O'Neil;\n-- ''"), ("NOTE", none)] ("Sym", some "€, '), ("),
      .add "T" [("NAME", none), ("Sym", none)],
      .add "T" [("NAME", none), ("Sym", some "/*")],
      .overwrite "T" [("NOTE", some "-7")] ("Sym", some "/*")] := by
    decide +kernel
  obtain ⟨script, hrender, hread⟩ := (full_script_reads_back settings t hnames).2 hkey hname
  exact ⟨script, hrender, by rw [hread, hcommands]⟩

end TableForge.Patch
