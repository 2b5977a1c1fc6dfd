import TableForge.Proofs.Computation
import TableForge.Table.Model
import Mathlib.Data.List.TakeWhile

namespace TableForge

namespace KeyedFields

theorem map_unmarked {fields : List (Field × Bool)} (h : ∀ f ∈ fields, f.2 = false) :
    (fields.map (·.1)).map (·, false) = fields := by
  rw [List.map_map]
  refine (List.map_congr_left ?_).trans (List.map_id fields)
  intro f hf
  simp [← h f hf]

-- Fields around a key come from a list that marks this one field.
theorem eq_of_ofMarked {fields : List (Field × Bool)} {keyed : KeyedFields}
    (h : ofMarked fields = .ok keyed) :
    fields = keyed.before.map (·, false) ++ (keyed.key, true) :: keyed.after.map (·, false) := by
  unfold ofMarked at h
  split at h
  · simp at h
  rename_i key marked after hdrop
  split at h
  · simp at h
  rename_i hafter
  obtain rfl := Except.ok.inj h
  have hmarked : marked = true := by
    have hhead := List.head?_dropWhile_not (fun f : Field × Bool => !f.2) fields
    simpa [hdrop] using hhead
  have hbefore : ∀ f ∈ fields.takeWhile (!·.2), f.2 = false := by
    intro f hf
    simpa using List.mem_takeWhile_imp hf
  have hrest : ∀ f ∈ after, f.2 = false := by simpa using hafter
  rw [map_unmarked hbefore, map_unmarked hrest, ← hmarked, ← hdrop,
    List.takeWhile_append_dropWhile]

section Marked

variable {fields : List (Field × Bool)} {keyed : KeyedFields}

theorem filter_marked (h : ofMarked fields = .ok keyed) :
    fields.filter (·.2) = [(keyed.key, true)] := by
  have hnone (fs : List Field) : fs.filter (fun _ => false) = [] :=
    List.filter_eq_nil_iff.mpr (by simp)
  rw [eq_of_ofMarked h]
  simp [List.filter_map, Function.comp_def, hnone]

theorem others_eq (h : ofMarked fields = .ok keyed) :
    keyed.others = (fields.filter (!·.2)).map (·.1) := by
  have hall (fs : List Field) : fs.filter (fun _ => true) = fs := List.filter_eq_self.mpr (by simp)
  rw [eq_of_ofMarked h]
  simp [others, List.filter_map, Function.comp_def, hall]

theorem declared_eq (h : ofMarked fields = .ok keyed) : keyed.declared = fields.map (·.1) := by
  rw [eq_of_ofMarked h]
  simp [declared, Function.comp_def]

theorem ofMarked_eq_ok_iff :
    ofMarked fields = .ok keyed ↔
      fields = keyed.before.map (·, false) ++ (keyed.key, true) :: keyed.after.map (·, false) := by
  refine ⟨eq_of_ofMarked, ?_⟩
  rintro rfl
  have hbefore : ∀ f ∈ keyed.before.map (·, false), (!f.2) = true := by simp
  rw [ofMarked, List.dropWhile_append_of_pos hbefore, List.takeWhile_append_of_pos hbefore]
  simp [Function.comp_def]

theorem filter_dropWhile_marked (fields : List (Field × Bool)) :
    (fields.dropWhile (!·.2)).filter (·.2) = fields.filter (·.2) := by
  have hunmarked : (fields.takeWhile (!·.2)).filter (·.2) = [] := by
    rw [List.filter_eq_nil_iff]
    intro f hf
    simpa using List.mem_takeWhile_imp hf
  conv_rhs => rw [← List.takeWhile_append_dropWhile (p := (!·.2)) (l := fields), List.filter_append,
    hunmarked, List.nil_append]

-- Fields of which not exactly one is marked are refused with the names of those that are.
theorem ofMarked_eq_error_iff {names : List String} :
    ofMarked fields = .error names ↔
      (fields.filter (·.2)).length ≠ 1 ∧ names = (fields.filter (·.2)).map (·.1.name) := by
  cases hkeyed : ofMarked fields with
  | ok keyed => simp [filter_marked hkeyed]
  | error found =>
    suffices h : (fields.filter (·.2)).length ≠ 1 ∧ found = (fields.filter (·.2)).map (·.1.name) by
      rw [Except.error.injEq, h.2, eq_comm, iff_and_self]
      exact fun _ => h.1
    unfold ofMarked at hkeyed
    split at hkeyed
    · rename_i hdrop
      obtain rfl := Except.error.inj hkeyed
      rw [← filter_dropWhile_marked, hdrop]
      exact ⟨by decide, rfl⟩
    · rename_i key marked after hdrop
      split at hkeyed
      · rename_i hafter
        refine ⟨?_, (Except.error.inj hkeyed).symm⟩
        have hmarked : marked = true := by
          have hhead := List.head?_dropWhile_not (fun f : Field × Bool => !f.2) fields
          simpa [hdrop] using hhead
        have hmore : 0 < (after.filter (·.2)).length := by
          rw [List.length_pos_iff, ne_eq, List.filter_eq_nil_iff]
          simpa using hafter
        rw [← filter_dropWhile_marked, hdrop, hmarked, List.filter_cons_of_pos rfl,
          List.length_cons]
        omega
      · cases hkeyed

theorem exists_keyed_iff :
    (∃ keyed, ofMarked fields = .ok keyed) ↔ (fields.filter (·.2)).length = 1 := by
  cases hkeyed : ofMarked fields with
  | ok keyed => simp [filter_marked hkeyed]
  | error names => simp [(ofMarked_eq_error_iff.mp hkeyed).1]

end Marked

-- Statement parameters are the declared fields in another order.
theorem keyLast_perm (keyed : KeyedFields) : keyed.keyLast.Perm keyed.declared := by
  rw [keyLast, others, declared, List.append_assoc]
  exact List.Perm.append_left _ (List.perm_append_singleton _ _)

-- So are the members of the column enumeration.
theorem keyFirst_perm (keyed : KeyedFields) : keyed.keyFirst.Perm keyed.declared :=
  List.perm_middle.symm

end KeyedFields

namespace Table

-- An accepted table has the given name, definition and rows, and fields around one key.
theorem assemble_eq_ok {name definition : String} {fields : List (Field × Bool)}
    {indices : List Index} {rows : List Row} {t : Table}
    (h : assemble name definition fields indices rows = .ok t) :
    t.name = name ∧ t.definition = definition ∧ t.rows = rows ∧
      KeyedFields.ofMarked fields = .ok t.fields ∧ guardIndices indices = .ok t.indices := by
  obtain ⟨keyed, hkeyed, h⟩ := ok_of_bind h
  obtain ⟨guarded, hguarded, h⟩ := ok_of_bind h
  obtain rfl := Except.ok.inj h
  refine ⟨rfl, rfl, rfl, ?_, hguarded⟩
  cases hfields : KeyedFields.ofMarked fields with
  | error names => simp [hfields, Except.mapError] at hkeyed
  | ok found => simpa [hfields, Except.mapError] using hkeyed

section Build

variable {catalog : Catalog} {name definition : String} {t : Table}

theorem of_build (h : build catalog name definition = .ok t) :
    ∃ columns fields, catalog.columns name = .ok columns ∧
      columns.mapM (fieldOfColumn name) = .ok fields ∧
      KeyedFields.ofMarked fields = .ok t.fields ∧ catalog.rows name = .ok t.rows := by
  obtain ⟨columns, hcolumns, h⟩ := ok_of_bind h
  obtain ⟨fields, hfields, h⟩ := ok_of_bind h
  obtain ⟨indices, -, h⟩ := ok_of_bind h
  obtain ⟨rows, hrows, h⟩ := ok_of_bind h
  obtain ⟨-, -, rfl, hkeyed, -⟩ := assemble_eq_ok h
  exact ⟨columns, fields, hcolumns, hfields, hkeyed, hrows⟩

theorem name_of_build (h : build catalog name definition = .ok t) : t.name = name := by
  obtain ⟨columns, -, h⟩ := ok_of_bind h
  obtain ⟨fields, -, h⟩ := ok_of_bind h
  obtain ⟨indices, -, h⟩ := ok_of_bind h
  obtain ⟨rows, -, h⟩ := ok_of_bind h
  exact (assemble_eq_ok h).1

-- A field has the ordinal, the name and the type of its column, and is marked if the column is
-- part of the key.
theorem fieldOfColumn_eq_ok_iff {c : Column} {field : Field × Bool} :
    fieldOfColumn name c = .ok field ↔
      ∃ type, ColumnType.ofDeclared? c.declared = some type ∧
        field = (⟨c.ordinal, c.name, type, !c.notNull && !c.isKey⟩, c.isKey) := by
  rw [fieldOfColumn]
  cases ColumnType.ofDeclared? c.declared with
  | none => simp
  | some type => simp [eq_comm]

theorem of_fieldOfColumn {c : Column} {field : Field × Bool}
    (h : fieldOfColumn name c = .ok field) : field.1.name = c.name ∧ field.2 = c.isKey := by
  obtain ⟨type, -, rfl⟩ := fieldOfColumn_eq_ok_iff.mp h
  exact ⟨rfl, rfl⟩

end Build

end Table

end TableForge
