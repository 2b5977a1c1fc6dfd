import TableForge.Proofs.Code.Binding
import TableForge.Proofs.Query.Piece
import TableForge.Proofs.Table.Fields

namespace TableForge.Table

open Code Code.TableImplementation

-- The parameters of the insertion and of the update, and the values bound to them, go through
-- `others` and then take the key. The update leaves its binding to the insertion.
structure BindsInOrder (t : Table) (others : List Field) (key : Field) : Prop where
  insertText : Piece.spell t.insert.pieces = t.insert.text
  insertColumns : Piece.columns t.insert.pieces = (others ++ [key]).map (·.name)
  insertParameters : Piece.inserted t.insert.pieces = (others ++ [key]).map (·.name)
  insertMarks : t.insert.pieces.count .mark = (others ++ [key]).length
  updateText : Piece.spell t.update.pieces = t.update.text
  updateParameters : Piece.assigned t.update.pieces = (others ++ [key]).map (·.name)
  updateMarks : t.update.pieces.count .mark = (others ++ [key]).length
  placeholders : t.fields.keyLast.length = (others ++ [key]).length
  calls : (toInsertStatement t).filterMap readBind? =
    (List.range' 1 (others ++ [key]).length).zip (others.map (·.name) ++ ["id"])
  emitted : toInsertStatement t <:+: TableImplementation.lines t
  members : ∀ f ∈ others,
    "    " ++ f.kind.memberType ++ " " ++ f.name ++ ";" ∈ TableInterface.rowClass t
  id : "    int64 id() const \x7b return " ++ key.name ++ "; \x7d" ∈ TableInterface.rowClass t
  update :
    block ["inline void " ++ t.rowClass ++ "::to_update_stmt(wxSQLite3Statement& stmt) const"]
      ["    to_insert_stmt(stmt, id());"] <:+: TableInterface.lines t

-- The order of the fields of any table is the one of its parameters.
theorem bindsInOrder (t : Table) : BindsInOrder t t.fields.others t.fields.key where
  insertText := Query.spell_pieces t.insert
  insertColumns := Query.columns_insert _ _
  insertParameters := Query.inserted_insert _ _
  insertMarks := by
    rw [insert, Query.count_insert, List.length_map]
    rfl
  updateText := Query.spell_pieces t.update
  updateParameters := by
    rw [update, Query.assigned_update, List.map_append]
    rfl
  updateMarks := by
    rw [update, Query.count_update, List.length_map, List.length_append]
    rfl
  placeholders := rfl
  calls := by
    rw [filterMap_toInsertStatement, boundValues, List.length_append, List.length_map,
      List.length_append]
    rfl
  emitted := by
    simp only [TableImplementation.lines, List.append_assoc]
    apply List.infix_append_of_infix_right
    apply List.infix_append_of_infix_right
    exact List.infix_append' _ _ _
  members := by
    intro f hf
    simp only [TableInterface.rowClass, Member.declarations, List.mem_append, List.mem_cons,
      List.mem_map]
    grind
  id := by
    simp [TableInterface.rowClass, Member.keyAccess]
  update := by
    simp only [TableInterface.lines, TableInterface.inlineMembers]
    exact List.infix_append_of_infix_right (List.infix_append _ _ _)

-- Whatever fields a table is accepted with: there is one key among them, every field has one
-- parameter, and the statements and the calls that bind values agree on which.
theorem bindsInOrder_of_assemble {name definition : String} {fields : List (Field × Bool)}
    {indices : List Index} {rows : List Row} {t : Table}
    (h : assemble name definition fields indices rows = .ok t) :
    ∃ key, fields.filter (·.2) = [(key, true)] ∧
      ((fields.filter (!·.2)).map (·.1) ++ [key]).Perm (fields.map (·.1)) ∧
      BindsInOrder t ((fields.filter (!·.2)).map (·.1)) key := by
  obtain ⟨-, -, -, hfields, -⟩ := assemble_eq_ok h
  have hothers := KeyedFields.others_eq hfields
  refine ⟨t.fields.key, KeyedFields.filter_marked hfields, ?_, ?_⟩
  · rw [← hothers, ← KeyedFields.declared_eq hfields]
    exact t.fields.keyLast_perm
  · rw [← hothers]
    exact bindsInOrder t

-- A table whose key is declared between two other columns.
theorem bindsInOrder_of_key_between :
    ∃ t, assemble "T" "CREATE TABLE T(A TEXT, ID INTEGER PRIMARY KEY, B REAL)"
        [(⟨0, "A", .text, true⟩, false), (⟨1, "ID", .integer, false⟩, true),
          (⟨2, "B", .real, true⟩, false)] [] [] = .ok t ∧
      Piece.columns t.insert.pieces = ["A", "B", "ID"] ∧
      Piece.assigned t.update.pieces = ["A", "B", "ID"] ∧
      (toInsertStatement t).filterMap readBind? = [(1, "A"), (2, "B"), (3, "id")] := by
  obtain ⟨t, ht⟩ : ∃ t, assemble "T" "CREATE TABLE T(A TEXT, ID INTEGER PRIMARY KEY, B REAL)"
      [(⟨0, "A", .text, true⟩, false), (⟨1, "ID", .integer, false⟩, true),
        (⟨2, "B", .real, true⟩, false)] [] [] = .ok t := ⟨_, rfl⟩
  refine ⟨t, ht, ?_⟩
  obtain ⟨key, hkey, -, h⟩ := bindsInOrder_of_assemble ht
  obtain rfl : ⟨1, "ID", .integer, false⟩ = key := by simpa using hkey
  exact ⟨h.insertColumns, h.updateParameters, h.calls⟩

end TableForge.Table
