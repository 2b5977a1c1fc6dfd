import TableForge.Proofs.Patch.Reading
import TableForge.Proofs.Script.Condition
import TableForge.Proofs.Script.Equality
import TableForge.Store.Scope

-- Whether the change of a row reaches the row that its addition is about.
namespace TableForge.Patch

open Script (Token Lexeme Expr Statement)

-- What a script gives to a column with a content.
def datum : Option String → Datum
  | none => .null
  | some s => .ofText s

-- The condition of a change, up to the end of the statement.
def conditionTokens (column : String) (key : Option String) : List Token :=
  [.word "WHERE", .word column, .symbol "=", Command.literal key, .symbol ";"]

theorem exists_conditionTokens (table : String) (cells : List (String × Option String))
    (column : String) (key : Option String) :
    ∃ front, (Command.overwrite table cells (column, key)).tokens ++ [.symbol ";"] =
      front ++ conditionTokens column key :=
  ⟨[.word "UPDATE", .word "OR", .word "IGNORE", .word table, .word "SET"] ++
    Command.commaSeparated (cells.map fun cell =>
      [.word cell.1, .symbol "=", Command.literal cell.2]),
    by simp [Command.tokens, conditionTokens]⟩

-- The condition as it is read, with its column looked up in a table.
def conditionIn (scope : Store.Scope) (s : List Lexeme) : Option Expr := do
  let (found, _) ← Statement.condition? s
  scope.resolve? (← found)

theorem condition?_comparison {column : String} (hcolumn : Expr.BareName column)
    {key : Option String} {s : List Lexeme}
    (hs : s.map (·.token) = conditionTokens column key) :
    (Statement.condition? s).map (·.1) =
      some (some (.binary .eq (.name [] column .bare) (.literal (datum key)))) := by
  obtain ⟨keyword, s, rfl, hkeyword, hs⟩ := List.map_eq_cons_iff.mp hs
  obtain ⟨left, s, rfl, hleft, hs⟩ := List.map_eq_cons_iff.mp hs
  obtain ⟨sign, s, rfl, hsign, hs⟩ := List.map_eq_cons_iff.mp hs
  obtain ⟨right, s, rfl, hright, hs⟩ := List.map_eq_cons_iff.mp hs
  obtain ⟨stop, s, rfl, hstop, hs⟩ := List.map_eq_cons_iff.mp hs
  have hoperand (fuel : Nat) : Expr.operand (fuel + 1) (right :: stop :: s) =
      some (.literal (datum key), stop :: s) := by
    cases key with
    | none => exact Expr.operand_null fuel hright
    | some text => exact Expr.operand_text fuel hright hstop
  have hread := Expr.read_comparison hleft hcolumn hsign hstop hoperand
  have hwhere : Script.Reader.isWord "WHERE" (.word "WHERE") = true := by decide
  simp [Statement.condition?, hkeyword, hwhere, hread]

theorem conditionIn_comparison {column : String} (hcolumn : Expr.BareName column)
    {key : Option String} {s : List Lexeme} (hs : s.map (·.token) = conditionTokens column key)
    {scope : Store.Scope} {i : Nat} {a : Affinity} {k : Option Collation}
    (hscope : scope.columnNamed? [] column = some (.column i a k)) :
    conditionIn scope s = some (.binary .eq (.column i a k) (.literal (datum key))) := by
  obtain ⟨⟨_, rest⟩, hread, rfl⟩ := Option.map_eq_some_iff.mp (condition?_comparison hcolumn hs)
  have hname : scope.lookUp? [] column .bare = some (.column i a k) := by
    simp only [Store.Scope.lookUp?, hscope]
  have hwanted (d : Datum) : scope.wantedTruth? .eq (.literal d) = none := by
    simp [Store.Scope.wantedTruth?]
  simp [conditionIn, hread, Store.Scope.resolve?, hwanted, hname, Store.Scope.binary?,
    Store.Scope.isComparison]

-- On a row that stores the key, the condition is unknown for a key that is NULL. Otherwise it
-- holds, but for integers that a column of reals cannot keep.
theorem test_key (c : Circumstances) {cells : List Datum} {i : Nat} {a : Affinity}
    (k : Option Collation) {key : Option String} (hcells : cells[i]? = some (a.apply (datum key))) :
    ((Expr.binary .eq (.column i a k) (.literal (datum key))).test? c cells = some (some true) ↔
      key ≠ none ∧ (datum key).KeptBy a) ∧
    (key = none →
      (Expr.binary .eq (.column i a k) (.literal (datum key))).test? c cells = some none) := by
  cases key with
  | none =>
    have hunknown := Expr.test_null (a := a) c k hcells
    exact ⟨⟨fun h => by simp [datum, hunknown] at h, fun h => absurd rfl h.1⟩, fun _ => hunknown⟩
  | some text =>
    have hholds := Expr.test_text c k hcells
    exact ⟨hholds.trans (by simp [datum, Datum.ofText]), fun h => by cases h⟩

theorem content_eq_none_iff {v : Value} : content v = none ↔ v = .null := by
  cases v <;> simp [content]

-- The statements of a script are those of the pairs of the rows that it covers. In each pair the
-- condition of the change holds for a row that stores the key of the addition exactly if the key
-- is a value, and one that the column can keep.
theorem pair_addresses_iff {settings : PatchSettings} {t : Table} (h : PlainNames settings t)
    (hkey : Expr.BareName settings.naturalKey) :
    (∀ variant script, render settings variant t = .ok script →
      Script.statementsOf script.toList =
        ((t.rows.filter fun row => variant = .full ∨ !(upsertOf settings t row).isAscii).flatMap
          (commandsFor settings t)).map Command.tokens) ∧
    ∀ row, ∃ name others,
      let key := content (valueOf row settings.naturalKey)
      commandsFor settings t row =
        .add t.name [name, (settings.naturalKey, key)] ::
          (if others = [] then [] else [.overwrite t.name others (settings.naturalKey, key)]) ∧
      ∃ front, (Command.overwrite t.name others (settings.naturalKey, key)).tokens ++
          [.symbol ";"] = front ++ conditionTokens settings.naturalKey key ∧
        ∀ (s : List Lexeme) (scope : Store.Scope) (i : Nat) (a : Affinity) (k : Option Collation),
          s.map (·.token) = conditionTokens settings.naturalKey key →
          scope.columnNamed? [] settings.naturalKey = some (.column i a k) →
          ∃ condition, conditionIn scope s = some condition ∧
            ∀ (c : Circumstances) (cells : List Datum), cells[i]? = some (a.apply (datum key)) →
              (condition.test? c cells = some (some true) ↔
                valueOf row settings.naturalKey ≠ .null ∧ (datum key).KeptBy a) ∧
              (valueOf row settings.naturalKey = .null → condition.test? c cells = some none) := by
  refine ⟨fun variant script hscript => ?_, fun row => ?_⟩
  · rw [render] at hscript
    split at hscript
    · cases hscript
    split at hscript
    · cases hscript
    obtain rfl := Except.ok.inj hscript
    rw [flatMap_upserts]
    exact statementsOf_groups h variant fun row hrow => List.mem_of_mem_filter hrow
  · refine ⟨(settings.nameField, content (valueOf row settings.nameField)),
      (otherCells settings t row).map fun cell => (cell.1, content cell.2), ?_, ?_⟩
    · cases hothers : otherCells settings t row <;> simp [commandsFor, hothers]
    · obtain ⟨front, hfront⟩ := exists_conditionTokens t.name
        ((otherCells settings t row).map fun cell => (cell.1, content cell.2))
        settings.naturalKey (content (valueOf row settings.naturalKey))
      refine ⟨front, hfront, ?_⟩
      intro s scope i a k hs hscope
      refine ⟨_, conditionIn_comparison hkey hs hscope, fun c cells hcells => ?_⟩
      simpa only [ne_eq, content_eq_none_iff] using test_key c k hcells

-- A row without a symbol is added and never found again; one with a symbol is.
theorem pair_addresses_of_gold :
    let settings : PatchSettings := { table := "T", naturalKey := "SYM", nameField := "NAME" }
    let field (name : String) : Field := ⟨0, name, .text, true⟩
    let rows : List Row := [
      [("ID", .int 1), ("NAME", .text "Gold"), ("SYM", .null)],
      [("ID", .int 2), ("NAME", .text "_tr_Dollar"), ("SYM", .text "US'$")]]
    let t : Table := ⟨"T", "", ⟨[], field "ID", [field "NAME", field "SYM"]⟩, [], rows⟩
    let column : Store.StoredColumn :=
      ⟨"SYM", "TEXT", .text, .binary, none, .literal .null, none, false⟩
    let scope : Store.Scope := ⟨.query, false, "T", [column], none, []⟩
    (∃ script, render settings .full t = .ok script ∧
      Script.statementsOf script.toList = [
        Command.add "T" [("NAME", some "Gold"), ("SYM", none)],
        .overwrite "T" [("NAME", some "Gold")] ("SYM", none),
        .add "T" [("NAME", some "Dollar"), ("SYM", some "US'$")],
        .overwrite "T" [("NAME", some "Dollar")] ("SYM", some "US'$")].map Command.tokens) ∧
    (∀ s : List Lexeme, s.map (·.token) = conditionTokens "SYM" none →
      ∃ condition, conditionIn scope s = some condition ∧
        ∀ c, condition.test? c [.null] = some none) ∧
    (∀ s : List Lexeme, s.map (·.token) = conditionTokens "SYM" (some "US'$") →
      ∃ condition, conditionIn scope s = some condition ∧
        ∀ c, condition.test? c [.ofText "US'$"] = some (some true)) := by
  intro settings field rows t column scope
  have hnames : PlainNames settings t := ⟨by decide, by decide, by decide, by decide⟩
  have hbare : Expr.BareName settings.naturalKey := by decide
  obtain ⟨hscript, hrow⟩ := pair_addresses_iff hnames hbare
  have hscope : scope.columnNamed? [] settings.naturalKey =
      some (.column 0 .text (some .binary)) := by
    have hname : Text.sameLetters "SYM" "SYM" = true := by decide
    simp [Store.Scope.columnNamed?, Store.Scope.isOwner, Store.Scope.columnAt?, scope, column,
      settings, List.findIdx?_cons, hname]
  have hcommands : (t.rows.filter fun row =>
      PatchVariant.full = .full ∨ !(upsertOf settings t row).isAscii).flatMap
        (commandsFor settings t) = [
      .add "T" [("NAME", some "Gold"), ("SYM", none)],
      .overwrite "T" [("NAME", some "Gold")] ("SYM", none),
      .add "T" [("NAME", some "Dollar"), ("SYM", some "US'$")],
      .overwrite "T" [("NAME", some "Dollar")] ("SYM", some "US'$")] := by
    decide +kernel
  have hnull : valueOf rows[0] settings.naturalKey = .null := by decide +kernel
  have htext : valueOf rows[1] settings.naturalKey = .text "US'$" := by decide +kernel
  have hclean : content (.text "US'$") = some "US'$" := by decide +kernel
  refine ⟨?_, fun s hs => ?_, fun s hs => ?_⟩
  · have hkey : HasColumn t settings.naturalKey := hasField_iff.mp (by decide)
    have hname : HasColumn t settings.nameField := hasField_iff.mp (by decide)
    have hrender := render_eq_ok .full hkey hname
    exact ⟨_, hrender, by rw [hscript .full _ hrender, hcommands]⟩
  · obtain ⟨_, _, -, _, -, htest⟩ := hrow rows[0]
    rw [hnull] at htest
    obtain ⟨condition, hcondition, htest⟩ := htest s scope 0 .text (some .binary) hs hscope
    exact ⟨condition, hcondition, fun c => (htest c [.null] rfl).2 rfl⟩
  · obtain ⟨_, _, -, _, -, htest⟩ := hrow rows[1]
    rw [htext, hclean] at htest
    obtain ⟨condition, hcondition, htest⟩ := htest s scope 0 .text (some .binary) hs hscope
    refine ⟨condition, hcondition, fun c => (htest c [.ofText "US'$"] rfl).1.mpr ⟨by simp, ?_⟩⟩
    intro hreal
    cases hreal

end TableForge.Patch
