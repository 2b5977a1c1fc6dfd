import TableForge.Proofs.Code.Enumeration
import TableForge.Proofs.Code.Interface

namespace TableForge.Table

open Code Text

-- The lines of the text of a module.
def writtenLines (lines : List String) : List String := linesOf (unlines lines)

-- The interfaces and the implementation go through the columns in one order, of which the first
-- is the key: the enumeration numbers them, the list of names has at the number of a constant the
-- name of its column, and the conditions and the members of both record classes come in this
-- order, the key alone being marked.
structure Enumerates (t : Table) (order : List Field) : Prop where
  constants : readEnumeration (writtenLines (TableInterface.lines t)) =
    (order.map (·.columnId) ++ ["COL_ID_size"]).zipIdx
  names : readNames t.columnClass (writtenLines (TableImplementation.lines t)) = order.map (·.name)
  primary : readPrimary? t.columnClass (writtenLines (TableImplementation.lines t)) =
    order.head?.map (·.columnId)
  conditions : (writtenLines (TableInterface.lines t)).filterMap readCondition? =
    order.map fun f => (f.name, f.kind)
  rowMembers : (writtenLines (TableInterface.lines t)).filterMap readMember? =
    order.zipIdx.map fun (f, position) => (f.name, f.kind, position == 0)
  dataMembers : (writtenLines (DataInterface.lines t)).filterMap readMember? =
    order.zipIdx.map fun (f, position) => (f.name, f.kind, position == 0)

-- Only the first of several is at position zero.
theorem map_first_marked (key : Field) (others : List Field) :
    ((key :: others).zipIdx.map fun (f, position) => (f.name, f.kind, position == 0)) =
      (key.name, key.kind, true) :: others.map fun f => (f.name, f.kind, false) := by
  have hlater (next : Nat) : ((others.zipIdx (next + 1)).map fun (f, position) =>
      (f.name, f.kind, position == 0)) = others.map fun f => (f.name, f.kind, false) := by
    induction others generalizing next with
    | nil => rfl
    | cons f rest ih => simp [ih]
  rw [List.zipIdx_cons, List.map_cons, hlater]
  rfl

theorem enumerates {t : Table} (hname : IsWord t.name)
    (h : ∀ f ∈ t.fields.keyFirst, IsWord f.name) : Enumerates t t.fields.keyFirst := by
  have hinterface : writtenLines (TableInterface.lines t) = TableInterface.lines t :=
    linesOf_unlines (oneLine_interface hname h)
  have hdata : writtenLines (DataInterface.lines t) = DataInterface.lines t :=
    linesOf_unlines (oneLine_data hname h)
  obtain ⟨rest, himplementation⟩ : ∃ rest, writtenLines (TableImplementation.lines t) =
      implementationOpening t ++ rest := by
    obtain ⟨rest, hlines⟩ := exists_lines_eq t
    refine ⟨linesOf (unlines rest), ?_⟩
    rw [writtenLines, hlines, linesOf_unlines_append rest (oneLine_opening hname h)]
  have hblank : ∀ f ∈ t.fields.others, ' ' ∉ f.columnId.toList := fun f hf hmem =>
    absurd (Field.le_toNat_of_mem_columnId (h f (List.mem_cons_of_mem _ hf)) hmem) (by decide)
  refine ⟨?_, ?_, ?_, ?_, ?_, ?_⟩
  · rw [hinterface, readEnumeration_lines hblank]
  · rw [himplementation, readNames_opening h]
  · rw [himplementation, readPrimary_opening]
    rfl
  · rw [hinterface, filterMap_readCondition_interface hname h]
  · rw [hinterface, filterMap_readMember_interface hname h, KeyedFields.keyFirst, map_first_marked]
  · rw [hdata, filterMap_readMember_data hname h, KeyedFields.keyFirst, map_first_marked]

-- The number of a column's constant is the position of its name.
theorem Enumerates.name_at_constant {t : Table} {order : List Field} (h : Enumerates t order)
    {f : Field} (hf : f ∈ order) :
    ∃ position, (f.columnId, position) ∈ readEnumeration (writtenLines (TableInterface.lines t)) ∧
      (readNames t.columnClass (writtenLines (TableImplementation.lines t)))[position]? =
        some f.name := by
  obtain ⟨position, hposition⟩ := List.mem_iff_getElem?.mp hf
  have hbound : position < order.length := (List.getElem?_eq_some_iff.mp hposition).1
  refine ⟨position, ?_, ?_⟩
  · rw [h.constants, List.mk_mem_zipIdx_iff_getElem?, List.getElem?_append_left (by simpa),
      List.getElem?_map, hposition]
    rfl
  · rw [h.names, List.getElem?_map, hposition]
    rfl

-- Whatever fields a table is accepted with, all of them are in this order once, and those besides
-- the key are in the order of their declaration.
theorem enumerates_of_assemble {name definition : String} {fields : List (Field × Bool)}
    {indices : List Index} {rows : List Row} {t : Table}
    (h : assemble name definition fields indices rows = .ok t) (hname : IsWord name)
    (hfields : ∀ f ∈ fields, IsWord f.1.name) :
    ∃ key, fields.filter (·.2) = [(key, true)] ∧
      (key :: (fields.filter (!·.2)).map (·.1)).Perm (fields.map (·.1)) ∧
      Enumerates t (key :: (fields.filter (!·.2)).map (·.1)) ∧
      ("COL_ID_size", fields.length) ∈
        readEnumeration (writtenLines (TableInterface.lines t)) ∧
      ∀ f ∈ fields, ∃ position,
        (f.1.columnId, position) ∈ readEnumeration (writtenLines (TableInterface.lines t)) ∧
        (readNames t.columnClass (writtenLines (TableImplementation.lines t)))[position]? =
          some f.1.name := by
  obtain ⟨rfl, -, -, hkeyed, -⟩ := assemble_eq_ok h
  have horder : t.fields.key :: (fields.filter (!·.2)).map (·.1) = t.fields.keyFirst := by
    rw [← KeyedFields.others_eq hkeyed]
    rfl
  have hperm : t.fields.keyFirst.Perm (fields.map (·.1)) :=
    KeyedFields.declared_eq hkeyed ▸ t.fields.keyFirst_perm
  have henumerates : Enumerates t t.fields.keyFirst := by
    refine enumerates hname fun f hf => ?_
    obtain ⟨field, hmem, rfl⟩ := List.mem_map.mp (hperm.mem_iff.mp hf)
    exact hfields field hmem
  refine ⟨t.fields.key, KeyedFields.filter_marked hkeyed, ?_, ?_, ?_, fun f hf => ?_⟩
  · rwa [horder]
  · rwa [horder]
  · have hlength : fields.length = t.fields.keyFirst.length := by
      rw [hperm.length_eq, List.length_map]
    rw [henumerates.constants, List.zipIdx_append, hlength]
    simp
  · exact henumerates.name_at_constant (hperm.mem_iff.mpr (List.mem_map_of_mem hf))

-- A table whose key is declared between two other columns.
theorem enumerates_of_key_between :
    ∃ t, assemble "PAYEE_V1" "CREATE TABLE PAYEE_V1(name TEXT, ID INTEGER PRIMARY KEY, ß DATE)"
        [(⟨0, "name", .text, true⟩, false), (⟨1, "ID", .integer, false⟩, true),
          (⟨2, "ß", .date, true⟩, false)] [] [] = .ok t ∧
      readEnumeration (writtenLines (TableInterface.lines t)) =
        [("COL_ID_ID", 0), ("COL_ID_NAME", 1), ("COL_ID_SS", 2), ("COL_ID_size", 3)] ∧
      readNames t.columnClass (writtenLines (TableImplementation.lines t)) = ["ID", "name", "ß"] ∧
      readPrimary? t.columnClass (writtenLines (TableImplementation.lines t)) =
        some "COL_ID_ID" ∧
      (writtenLines (DataInterface.lines t)).filterMap readMember? =
        [("ID", .integer, true), ("name", .text, false), ("ß", .date, false)] := by
  obtain ⟨t, ht⟩ : ∃ t, assemble "PAYEE_V1"
      "CREATE TABLE PAYEE_V1(name TEXT, ID INTEGER PRIMARY KEY, ß DATE)"
      [(⟨0, "name", .text, true⟩, false), (⟨1, "ID", .integer, false⟩, true),
        (⟨2, "ß", .date, true⟩, false)] [] [] = .ok t := ⟨_, rfl⟩
  obtain ⟨key, hkey, -, h, -, -⟩ := enumerates_of_assemble ht (by decide +kernel) (by decide +kernel)
  obtain rfl : ⟨1, "ID", .integer, false⟩ = key := by simpa using hkey
  have hconstants : ((⟨1, "ID", .integer, false⟩ : Field) ::
      ([(⟨0, "name", .text, true⟩, false), (⟨1, "ID", .integer, false⟩, true),
        (⟨2, "ß", .date, true⟩, false)].filter (!·.2)).map (·.1)).map (·.columnId) =
      ["COL_ID_ID", "COL_ID_NAME", "COL_ID_SS"] := by
    decide +kernel
  refine ⟨t, ht, ?_, h.names, h.primary.trans ?_, h.dataMembers⟩
  · rw [h.constants, hconstants]
    rfl
  · exact congrArg List.head? hconstants

end TableForge.Table
