import TableForge.Proofs.Code.Enumeration
import TableForge.Proofs.Computation
import TableForge.Proofs.Store.Shape
import TableForge.Proofs.Table.Fields
import TableForge.Proofs.Text.Upper
import TableForge.Store.Listing
import Mathlib.Data.List.Nodup

namespace TableForge

namespace Field

variable {f g : Field}

theorem columnId_eq_iff :
    f.columnId = g.columnId ↔ Text.upper f.name.toList = Text.upper g.name.toList := by
  rw [columnId, columnId, String.append_right_inj, String.ofList_inj]

-- No column is called like the constant for the number of columns, which is in lower case.
theorem columnId_ne_size (f : Field) : f.columnId ≠ "COL_ID_size" := by
  intro h
  have hsplit : "COL_ID_size" = "COL_ID_" ++ "size" := by decide
  rw [hsplit, columnId, String.append_right_inj] at h
  have hmem : 's' ∈ Text.upper f.name.toList := by
    rw [← String.toList_ofList (l := Text.upper f.name.toList), h]
    decide
  obtain ⟨c, -, hc⟩ := List.mem_flatMap.mp hmem
  exact absurd (Text.not_lower_of_mem_upperChar hc) (by decide)

end Field

namespace Code

-- The lines of an enumeration of constants, the first of which is zero.
def enumeration : List String → List String
  | [] => []
  | first :: rest =>
    commaSeparated (("        " ++ first ++ " = 0") :: rest.map ("        " ++ ·))

theorem commaSeparated_concat (lines : List String) (last : String) :
    commaSeparated (lines ++ [last]) = lines.map (· ++ ",") ++ [last] := by
  induction lines with
  | nil => rfl
  | cons line rest ih =>
    cases rest with
    | nil => rfl
    | cons next rest => exact congrArg ((line ++ ",") :: ·) ih

end Code

namespace Table

open Code

-- The constants of the columns in the order of the enumeration, and that for their number.
def constants (t : Table) : List String := t.fields.keyFirst.map (·.columnId) ++ ["COL_ID_size"]

theorem enumerators_eq (t : Table) : TableInterface.enumerators t = enumeration t.constants := by
  have hconstants : t.constants =
      t.fields.key.columnId :: (t.fields.others.map (·.columnId) ++ ["COL_ID_size"]) := rfl
  rw [hconstants, enumeration, List.map_append, ← List.cons_append, List.map_singleton,
    commaSeparated_concat]
  simp [TableInterface.enumerators, KeyedFields.keyFirst, Function.comp_def, String.append_assoc]

-- The constants differ if those of the columns do.
theorem nodup_constants (t : Table) :
    t.constants.Nodup ↔ (t.fields.declared.map (·.columnId)).Nodup := by
  have hsize : "COL_ID_size" ∉ t.fields.keyFirst.map (·.columnId) := by
    rintro hmem
    obtain ⟨f, -, hf⟩ := List.mem_map.mp hmem
    exact f.columnId_ne_size hf
  rw [constants, ← List.concat_eq_append, List.nodup_concat, and_iff_right hsize]
  exact (t.fields.keyFirst_perm.map _).nodup_iff

-- Columns whose names differ in more than the case of ASCII letters may still have one constant:
-- they do exactly if these names have one upper-case form, for which a character outside ASCII has
-- to be changed. The constant for the number of columns is never one of them.
theorem nodup_constants_iff {t : Table}
    (h : (t.fields.declared.map (·.name)).Pairwise fun a b => ¬Text.sameLetters a b) :
    (∃ front back, TableInterface.lines t = front ++
        (("    enum COL_ID" :: "    \x7b" :: enumeration t.constants) ++ "    \x7d;" :: back) ∧
      "    enum COL_ID" ∉ front) ∧
    (∀ f ∈ t.fields.declared, f.columnId ≠ "COL_ID_size") ∧
    (t.constants.Nodup ↔ ∀ f ∈ t.fields.declared, ∀ g ∈ t.fields.declared,
      Text.upper f.name.toList = Text.upper g.name.toList → f = g) ∧
    ∀ f ∈ t.fields.declared, ∀ g ∈ t.fields.declared, f.columnId = g.columnId →
      f = g ∨ ∃ c ∈ f.name.toList ++ g.name.toList, Text.IsWideCased c := by
  have hfields : t.fields.declared.Pairwise fun f g => ¬Text.sameLetters f.name g.name :=
    List.pairwise_map.mp h
  have hnodup : t.fields.declared.Nodup := by
    refine hfields.imp ?_
    rintro f _ hnot rfl
    simp [Text.sameLetters] at hnot
  obtain ⟨front, back, hlines, hfront⟩ := lines_around_enumerators t
  refine ⟨⟨front, back, ?_, fun hmem => hfront _ hmem rfl⟩, fun f _ => f.columnId_ne_size, ?_,
    fun f hf g hg heq => ?_⟩
  · rw [hlines, enumerators_eq]
  · rw [nodup_constants, List.nodup_map_iff_inj_on hnodup]
    simp only [Field.columnId_eq_iff]
  · by_contra hnot
    obtain ⟨hne, hplain⟩ := not_or.mp hnot
    have : Std.Symm fun f g : Field => ¬Text.sameLetters f.name g.name :=
      ⟨fun f g hfg hgf => hfg (Store.sameLetters_comm g.name f.name ▸ hgf)⟩
    refine hfields.forall hf hg hne (Text.sameLetters_of_upper_eq (Field.columnId_eq_iff.mp heq) ?_)
    exact fun c hc hcased => hplain ⟨c, hc, hcased⟩

-- A letter that becomes two, beside a column whose name these are.
theorem nodup_constants_iff_of_eszett :
    let script := "CREATE TABLE T(ID INTEGER PRIMARY KEY, ß TEXT, SS TEXT)"
    ∃ s t, Store.load script = .ok s ∧ build s.catalog "T" script = .ok t ∧
      t.fields.declared.map (·.name) = ["ID", "ß", "SS"] ∧
      (t.fields.declared.map (·.name)).Pairwise (fun a b => ¬Text.sameLetters a b) ∧
      (∃ front back, TableInterface.lines t = front ++ (["    enum COL_ID", "    \x7b",
        "        COL_ID_ID = 0,", "        COL_ID_SS,", "        COL_ID_SS,",
        "        COL_ID_size"] ++ "    \x7d;" :: back) ∧ "    enum COL_ID" ∉ front) ∧
      ¬t.constants.Nodup := by
  intro script
  have hrun : ((Store.load script).toOption.bind fun s =>
      (build s.catalog "T" script).toOption.map (·.fields)) =
      some ⟨[], ⟨0, "ID", .integer, false⟩, [⟨1, "ß", .text, true⟩, ⟨2, "SS", .text, true⟩]⟩ := by
    decide +kernel
  obtain ⟨s, hs, hrun⟩ := Option.bind_eq_some_iff.mp hrun
  obtain ⟨t, ht, hfields⟩ := Option.map_eq_some_iff.mp hrun
  have hdeclared : t.fields.declared =
      [⟨0, "ID", .integer, false⟩, ⟨1, "ß", .text, true⟩, ⟨2, "SS", .text, true⟩] := by
    rw [hfields]
    rfl
  have hnames : t.fields.declared.map (·.name) = ["ID", "ß", "SS"] := by
    rw [hdeclared]
    rfl
  have hapart : (t.fields.declared.map (·.name)).Pairwise fun a b => ¬Text.sameLetters a b := by
    rw [hnames]
    decide
  have hconstants : enumeration t.constants = ["        COL_ID_ID = 0,", "        COL_ID_SS,",
      "        COL_ID_SS,", "        COL_ID_size"] := by
    rw [constants, hfields]
    decide +kernel
  obtain ⟨⟨front, back, hlines, hfront⟩, -, hnodup, -⟩ := nodup_constants_iff hapart
  rw [hconstants] at hlines
  refine ⟨s, t, eq_ok_of_toOption hs, eq_ok_of_toOption ht, hnames, hapart,
    ⟨front, back, hlines, hfront⟩, ?_⟩
  rw [hnodup]
  intro hall
  have hsame := hall ⟨1, "ß", .text, true⟩ (by simp [hdeclared]) ⟨2, "SS", .text, true⟩
    (by simp [hdeclared]) (by decide +kernel)
  simp at hsame

end Table

end TableForge
