import TableForge.Proofs.Code.Projection
import TableForge.Proofs.Query.Piece
import TableForge.Proofs.Table.Fields
import TableForge.Store.Listing

namespace TableForge.Table

open Code Code.TableImplementation

-- The selection and the generated code that reads its results or writes a record out go through
-- the members in one order. A read takes the position of its member in the selection, and all of
-- them treat a value according to the kind of the member.
structure Projects (t : Table) (members : List (String × ValueKind)) : Prop where
  selectText : Piece.spell t.select.pieces = t.select.text
  selected : Piece.selected t.select.pieces = members.map (·.1)
  reads : (fromSelectResult t).filterMap readRead? =
    members.zipIdx.map fun ((name, kind), position) => (name, kind.accessor, position)
  pairs : readPairs (asJson t) = members.map fun (name, kind) => (name, some kind)
  rowSlots : (toHtmlRow t).filterMap (readSlot? "row") =
    members.map fun (name, kind) => (name, conversion kind)
  templateSlots : (toHtmlTemplate t).filterMap (readSlot? "t") =
    members.map fun (name, kind) => (name, conversion kind)
  query : queryMember "m_select_query" t.select ∈ tableConstructor t
  emitted : ∀ body ∈ [tableConstructor t, fromSelectResult t, asJson t, toHtmlRow t,
    toHtmlTemplate t], body <:+: TableImplementation.lines t

theorem zipIdx_of_ordinals {fields : List Field}
    (h : fields.map (·.ordinal) = List.range fields.length) :
    fields.zipIdx = fields.map fun f => (f, f.ordinal) := by
  rw [List.zipIdx_eq_zip_range', ← List.range_eq_range', ← h, List.map_prod_left_eq_zip]

-- The declared fields are the members when the ordinals count them.
theorem projects_of_ordinals {t : Table}
    (h : t.fields.declared.map (·.ordinal) = List.range t.fields.declared.length) :
    Projects t (t.fields.declared.map fun f => (f.name, f.kind)) where
  selectText := Query.spell_pieces t.select
  selected := by
    rw [select, Query.selected_select, List.map_map]
    rfl
  reads := by
    rw [filterMap_fromSelectResult, List.zipIdx_map, List.map_map, zipIdx_of_ordinals h,
      List.map_map]
    rfl
  pairs := by
    rw [readPairs_asJson, List.map_map]
    rfl
  rowSlots := by
    rw [filterMap_toHtmlRow, List.map_map]
    rfl
  templateSlots := by
    rw [filterMap_toHtmlTemplate, List.map_map]
    rfl
  query := by
    simp [tableConstructor, block]
  emitted := by
    intro body hbody
    refine TableImplementation.infix_lines ?_
    simp only [TableImplementation.definitions, List.mem_cons, List.not_mem_nil, or_false]
      at hbody ⊢
    grind

-- Whatever catalog a table is built from: when the columns are numbered in their order, these are
-- the members, each with the kind of its declared type.
theorem projects_of_build {catalog : Catalog} {name definition : String} {t : Table}
    {columns : List Column} (h : build catalog name definition = .ok t)
    (hcolumns : catalog.columns name = .ok columns)
    (hordinals : columns.map (·.ordinal) = List.range columns.length) :
    ∃ members : List (String × ValueKind),
      columns.map (fun c => (c.name, (ColumnType.ofDeclared? c.declared).map (·.kind))) =
        members.map (fun (name, kind) => (name, some kind)) ∧
      Projects t members := by
  obtain ⟨_, fields, hread, hfields, hkeyed, -⟩ := of_build h
  obtain rfl := Except.ok.inj (hcolumns.symm.trans hread)
  have hdeclared := KeyedFields.declared_eq hkeyed
  -- what is the same in a column and in its field is the same in all of them
  have hsame {α : Type} {f : Column → α} {g : Field → α}
      (hfg : ∀ c type, ColumnType.ofDeclared? c.declared = some type →
        f c = g ⟨c.ordinal, c.name, type, !c.notNull && !c.isKey⟩) :
      columns.map f = t.fields.declared.map g := by
    rw [hdeclared, List.map_map, ← List.forall₂_eq_eq_eq, List.forall₂_map_left_iff,
      List.forall₂_map_right_iff]
    refine (forall₂_of_mapM_ok hfields).imp fun c field hfield => ?_
    obtain ⟨type, htype, rfl⟩ := fieldOfColumn_eq_ok_iff.mp hfield
    exact hfg c type htype
  refine ⟨_, ?_, projects_of_ordinals ?_⟩
  · rw [List.map_map]
    refine hsame fun c type htype => ?_
    rw [htype]
    rfl
  · have hnumbers : columns.map (·.ordinal) = t.fields.declared.map (·.ordinal) :=
      hsame fun _ _ _ => rfl
    have hlength := congrArg List.length hnumbers
    rw [List.length_map, List.length_map] at hlength
    rw [← hnumbers, hordinals, hlength]

-- A table with a column of each kind and its key among the others.
theorem projects_of_four_kinds :
    let definition := "CREATE TABLE T(D DATE, ID INTEGER PRIMARY KEY, X NUMERIC, S TEXT)"
    ∃ s t, Store.load definition = .ok s ∧ build s.catalog "T" definition = .ok t ∧
      Piece.selected t.select.pieces = ["D", "ID", "X", "S"] ∧
      (fromSelectResult t).filterMap readRead? =
        [("D", "GetDateTime", 0), ("ID", "GetInt64", 1), ("X", "GetDouble", 2),
          ("S", "GetString", 3)] ∧
      readPairs (asJson t) =
        [("D", some .date), ("ID", some .integer), ("X", some .real), ("S", some .text)] ∧
      (toHtmlRow t).filterMap (readSlot? "row") =
        [("D", ".FormatISOCombined()"), ("ID", ".GetValue()"), ("X", ""), ("S", "")] := by
  intro definition
  have hrun : ((Store.load definition).toOption.bind fun s =>
      (build s.catalog "T" definition).toOption.bind fun _ => (s.catalog.columns "T").toOption) =
      some [⟨0, "D", "DATE", false, false⟩, ⟨1, "ID", "INTEGER", false, true⟩,
        ⟨2, "X", "NUMERIC", false, false⟩, ⟨3, "S", "TEXT", false, false⟩] := by
    decide +kernel
  obtain ⟨s, hs, hrun⟩ := Option.bind_eq_some_iff.mp hrun
  obtain ⟨t, ht, hcolumns⟩ := Option.bind_eq_some_iff.mp hrun
  obtain ⟨members, hmembers, h⟩ :=
    projects_of_build (eq_ok_of_toOption ht) (eq_ok_of_toOption hcolumns) (by decide)
  obtain rfl : members = [("D", .date), ("ID", .integer), ("X", .real), ("S", .text)] := by
    refine List.map_injective_iff.mpr ?_ (hmembers.symm.trans ?_)
    · rintro ⟨name, kind⟩ ⟨name', kind'⟩ hsame
      simpa using hsame
    · decide
  exact ⟨s, t, eq_ok_of_toOption hs, eq_ok_of_toOption ht, h.selected, h.reads, h.pairs,
    h.rowSlots⟩

end TableForge.Table
