import TableForge.Proofs.Code.RecordClasses
import TableForge.Proofs.Table.Fields

-- Which names of columns stay what they are in the generated classes.
namespace TableForge

namespace Code

open Member

namespace Function

variable {f : Function}

theorem clear_of_mentions (h : f.mentions = []) : f.Clear := by
  simp [Clear, h]

-- A body that has a line for each of some fields, in which the member is mentioned.
theorem clear_iff_of_body (front back : List Statement) {fields : List Field}
    {line : Field → Statement} {names : List String}
    (hbody : f.body = front ++ fields.map line ++ back)
    (hline : ∀ field, (line field).mentions = [field.name] ∧ (line field).local? = none)
    (hmentions : (front ++ back).flatMap Statement.mentions = [])
    (hnames : f.signature.parameters.filterMap (·.name) ++
      (front ++ back).filterMap Statement.local? = names) :
    f.Clear ↔ ∀ field ∈ fields, field.name ∉ names := by
  have hlines : (fields.map line).flatMap Statement.mentions = fields.map (·.name) := by
    rw [List.flatMap_map, List.map_eq_flatMap]
    simp only [hline]
  have hlocals : (fields.map line).filterMap Statement.local? = [] := by
    rw [List.filterMap_map, List.filterMap_eq_nil_iff]
    exact fun field _ => (hline field).2
  obtain ⟨hfront, hback⟩ := List.append_eq_nil_iff.mp
    ((List.flatMap_append (f := Statement.mentions)).symm.trans hmentions)
  have hall : f.mentions = fields.map (·.name) := by
    rw [mentions, hbody, List.flatMap_append, List.flatMap_append, hfront, hback, hlines,
      List.nil_append, List.append_nil]
  have hdeclared : f.locals = names := by
    rw [locals, hbody, List.filterMap_append, List.filterMap_append, hlocals, List.append_nil,
      ← List.filterMap_append, hnames]
  rw [Clear, hall, hdeclared, List.forall_mem_map]

end Function

theorem clear_plain (signature : Signature) (line : String) : (plain signature line).Clear :=
  Function.clear_of_mentions (by simp [plain, Function.mentions])

theorem clear_keyGetter (key : String) : (keyGetter key).Clear := by
  simp [Function.Clear, keyGetter, Function.locals]

theorem clear_keySetter (key : String) : (keySetter key).Clear ↔ key ≠ "id" := by
  simp [Function.Clear, keySetter, Function.mentions, Function.locals]

theorem clear_sorterFunction (owner : String) (f : Field) : (sorterFunction owner f).Clear := by
  refine Function.clear_of_mentions ?_
  unfold sorterFunction comparisonStatements
  cases Sorting.ofField f.name <;> simp [Function.mentions]

theorem clear_cloneFunction (owner : String) : (cloneFunction owner).Clear :=
  Function.clear_of_mentions (by simp [cloneFunction, Function.mentions])

section Shared

variable (owner : String) (fields : KeyedFields)

theorem clear_defaultFunction : (defaultFunction owner fields).Clear := by
  have hlocals : (fields.declared.filterMap defaultStatement?).filterMap Statement.local? = [] := by
    rw [List.filterMap_filterMap, List.filterMap_eq_nil_iff]
    intro f _
    unfold defaultStatement?
    cases initialValue? f.kind <;> simp
  simp [Function.Clear, defaultFunction, Function.locals, hlocals]

theorem clear_assignFunction :
    (assignFunction owner fields).Clear ↔ ∀ f ∈ fields.declared, f.name ∉ ["other"] :=
  Function.clear_iff_of_body _ _ rfl (fun _ => ⟨rfl, rfl⟩) rfl rfl

theorem clear_equalsFunction :
    (equalsFunction owner fields).Clear ↔ ∀ f ∈ fields.declared, f.name ∉ ["other"] := by
  have hline (f : Field) : (differenceStatement f).mentions = [f.name] ∧
      (differenceStatement f).local? = none := by
    unfold differenceStatement
    cases f.kind <;> exact ⟨rfl, rfl⟩
  exact Function.clear_iff_of_body [] _ rfl hline rfl rfl

end Shared

section Row

variable (t : Table)

open TableInterface TableImplementation

theorem clear_matchColumn (f : Field) : (matchColumn f).Clear ↔ f.name ≠ "col" := by
  unfold matchColumn matchPieces
  cases f.kind <;>
    simp [Function.Clear, Function.mentions, Function.locals, reference]

theorem mentions_bindStatements (position : Nat) (values : List Piece) :
    (bindStatements position values).flatMap Statement.mentions =
      values.filterMap Piece.mention? := by
  induction values generalizing position with
  | nil => rfl
  | cons value rest ih =>
    rw [bindStatements, List.flatMap_cons, ih, List.filterMap_cons]
    cases value <;> rfl

theorem locals_bindStatements (position : Nat) (values : List Piece) :
    (bindStatements position values).filterMap Statement.local? = [] := by
  induction values generalizing position with
  | nil => rfl
  | cons value rest ih => exact ih (position + 1)

-- The key is bound to the parameter of the function and is not mentioned.
theorem clear_insertFunction :
    (insertFunction t).Clear ↔ ∀ f ∈ t.fields.others, f.name ∉ ["stmt", "id"] := by
  have hmentions : (insertFunction t).mentions = t.fields.others.map (·.name) := by
    rw [Function.mentions, insertFunction, mentions_bindStatements, List.filterMap_append,
      List.filterMap_map]
    simp [Function.comp_def]
  have hnames : (insertFunction t).locals = ["stmt", "id"] := by
    rw [Function.locals, insertFunction, locals_bindStatements]
    rfl
  rw [Function.Clear, hmentions, hnames, List.forall_mem_map]

theorem clear_selectFunction :
    (selectFunction t).Clear ↔ ∀ f ∈ t.fields.declared, f.name ∉ ["q"] :=
  Function.clear_iff_of_body [] _ rfl (fun _ => ⟨rfl, rfl⟩) rfl rfl

theorem clear_jsonFunction : jsonFunction.Clear := Function.clear_of_mentions rfl

theorem names_pairsStatements (fields : List Field) :
    (pairsStatements fields).flatMap Statement.mentions = fields.map (·.name) ∧
      (pairsStatements fields).filterMap Statement.local? = [] := by
  have hpair (f : Field) : (pairStatements f).flatMap Statement.mentions = [f.name] ∧
      (pairStatements f).filterMap Statement.local? = [] := by
    unfold pairStatements jsonPieces
    cases f.kind <;> exact ⟨rfl, rfl⟩
  fun_induction pairsStatements fields with
  | case1 => exact ⟨rfl, rfl⟩
  | case2 f => exact hpair f
  | case3 f rest hrest ih =>
    obtain ⟨hmentions, hlocals⟩ := ih
    simp only [List.flatMap_append, List.filterMap_append, hpair, hmentions, hlocals]
    exact ⟨rfl, rfl⟩

theorem clear_pairsFunction :
    (pairsFunction t).Clear ↔ ∀ f ∈ t.fields.declared, f.name ∉ ["json_writer"] := by
  obtain ⟨hmentions, hlocals⟩ := names_pairsStatements t.fields.declared
  have hnames : (pairsFunction t).locals = ["json_writer"] := by
    rw [Function.locals, pairsFunction, hlocals]
    rfl
  rw [Function.Clear, hnames, Function.mentions, pairsFunction, hmentions, List.forall_mem_map]

theorem names_slotStatement (target : String) (f : Field) :
    (slotStatement target f).mentions = [f.name] ∧ (slotStatement target f).local? = none := by
  unfold slotStatement valuePieces
  cases f.kind <;> exact ⟨rfl, rfl⟩

theorem clear_reportFunction :
    (reportFunction t).Clear ↔ ∀ f ∈ t.fields.declared, f.name ∉ ["row"] :=
  Function.clear_iff_of_body _ _ rfl (names_slotStatement "row") rfl rfl

theorem clear_templateFunction :
    (templateFunction t).Clear ↔ ∀ f ∈ t.fields.declared, f.name ∉ ["t"] :=
  Function.clear_iff_of_body [] []
    (by rw [List.append_nil, List.nil_append]; rfl) (names_slotStatement "t") rfl rfl

end Row

section Data

variable (t : Table)

open DataInterface DataImplementation

theorem clear_delegateFunctions : ∀ f ∈ delegateFunctions t, f.Clear := by
  simp only [delegateFunctions, List.forall_mem_cons, clear_plain, true_and]
  simp

theorem clear_toRowFunction :
    (toRowFunction t).Clear ↔ ∀ f ∈ t.fields.declared, f.name ∉ ["row"] :=
  Function.clear_iff_of_body _ _ rfl (fun _ => ⟨rfl, rfl⟩) rfl rfl

theorem clear_fromRowFunction :
    (fromRowFunction t).Clear ↔ ∀ f ∈ t.fields.declared, f.name ∉ ["row"] :=
  Function.clear_iff_of_body [] _ rfl (fun _ => ⟨rfl, rfl⟩) rfl rfl

end Data

section Entries

variable (owner : String) (fields : KeyedFields)

-- Entries of which each has a blank line in front of it.
theorem filterMap_spaced {α : Type} {read : Entry → Option α} (hnote : read (.note "") = none)
    (entry : Field → Entry) (fields : List Field) :
    (fields.flatMap fun f => [.note "", entry f]).filterMap read =
      fields.filterMap fun f => read (entry f) := by
  induction fields with
  | nil => rfl
  | cons f rest ih =>
    rw [List.flatMap_cons, List.filterMap_append, ih, List.filterMap_cons_none hnote]
    cases hread : read (entry f) with
    | none => simp [hread]
    | some a => simp [hread]

theorem members_declarationEntries :
    (declarationEntries fields).filterMap Entry.member? = fields.keyFirst.map (·.name) := by
  simp [declarationEntries, KeyedFields.keyFirst, List.filterMap_map, Function.comp_def]

-- What stands in both classes besides the members and the orders by them.

theorem members_fixedEntries (key : String) :
    (constructorEntries owner).filterMap Entry.member? = [] ∧
      (keyEntries key).filterMap Entry.member? = [] ∧
      (conversionEntries owner).filterMap Entry.member? = [] ∧
      (copyEntries owner).filterMap Entry.member? = [] :=
  ⟨rfl, rfl, rfl, rfl⟩

theorem named_fixedEntries (key : String) :
    (constructorEntries owner).filterMap Entry.named? = [owner, owner, owner] ∧
      (keyEntries key).filterMap Entry.named? = ["id", "id"] ∧
      (conversionEntries owner).filterMap Entry.named? =
        ["to_insert_stmt", "to_update_stmt", "from_select_result", "to_json", "as_json",
          "to_html_row", "to_html_template", "destroy"] ∧
      (copyEntries owner).filterMap Entry.named? =
        ["operator=", "clone_from", "equals", "operator<", "operator<"] :=
  ⟨rfl, rfl, rfl, rfl⟩

theorem clear_fixedEntries (key : String) :
    (∀ f ∈ (constructorEntries owner).filterMap Entry.function?, f.Clear) ∧
      ((∀ f ∈ (keyEntries key).filterMap Entry.function?, f.Clear) ↔ key ≠ "id") ∧
      (∀ f ∈ (conversionEntries owner).filterMap Entry.function?, f.Clear) ∧
      ∀ f ∈ (copyEntries owner).filterMap Entry.function?, f.Clear := by
  have hkey : (keyEntries key).filterMap Entry.function? = [keyGetter key, keySetter key] := rfl
  have hcopies : (copyEntries owner).filterMap Entry.function? =
      [plain (lessSignature (reference owner "other")) "return id() < other.id();",
        plain (lessSignature (pointer owner)) "return id() < other->id();"] := rfl
  refine ⟨List.forall_mem_nil _, ?_, List.forall_mem_singleton.mpr (clear_plain _ _), ?_⟩
  · rw [hkey, List.forall_mem_cons, List.forall_mem_singleton, clear_keySetter,
      and_iff_right (clear_keyGetter key)]
  · rw [hcopies, List.forall_mem_cons, List.forall_mem_singleton]
    exact ⟨clear_plain _ _, clear_plain _ _⟩

theorem named_declarationEntries : (declarationEntries fields).filterMap Entry.named? = [] := by
  simp [declarationEntries]

theorem functions_declarationEntries :
    (declarationEntries fields).filterMap Entry.function? = [] := by
  simp [declarationEntries]

theorem members_sorterEntries : (sorterEntries owner fields).filterMap Entry.member? = [] :=
  (filterMap_spaced rfl _ _).trans (by simp)

theorem named_sorterEntries : (sorterEntries owner fields).filterMap Entry.named? = [] :=
  (filterMap_spaced rfl _ _).trans (by simp)

theorem functions_sorterEntries :
    (sorterEntries owner fields).filterMap Entry.function? =
      fields.declared.map (sorterFunction owner) :=
  (filterMap_spaced rfl _ _).trans (by simp)

open TableInterface

theorem members_matchEntries : (matchEntries fields).filterMap Entry.member? = [] := by
  rw [matchEntries, List.filterMap_append, List.filterMap_append, filterMap_spaced rfl]
  simp

theorem mem_named_matchEntries {name : String} :
    name ∈ (matchEntries fields).filterMap Entry.named? ↔ name = "match" := by
  rw [matchEntries, List.filterMap_append, List.filterMap_append, filterMap_spaced rfl]
  have hcolumns : name ∈ fields.declared.filterMap
      (fun f => Entry.named? (.long (matchColumn f))) → name = "match" := by
    simp only [List.mem_filterMap]
    rintro ⟨f, -, hname⟩
    exact (Option.some.inj hname).symm
  simp only [List.mem_append]
  constructor
  · rintro ((hname | hname) | hname)
    · simpa [matchAny, eq_comm] using hname
    · exact hcolumns hname
    · simpa [matchAll, eq_comm] using hname
  · rintro rfl
    exact .inr (by simp [matchAll])

theorem functions_matchEntries :
    (matchEntries fields).filterMap Entry.function? =
      [matchAny] ++ fields.declared.map matchColumn ++ [matchAll] := by
  have hcolumns : fields.declared.filterMap
      (fun f => Entry.function? (.long (matchColumn f))) = fields.declared.map matchColumn := by
    simp
  rw [matchEntries, List.filterMap_append, List.filterMap_append, filterMap_spaced rfl, hcolumns]
  rfl

end Entries

end Code

-- The characters are those of an identifier as far as they are ASCII, and no digit comes first.
def IsIdentifier (s : String) : Prop :=
  s.toList.head?.any (!·.isDigit) ∧
    s.toList.all fun c => 128 ≤ c.toNat || c.isAlphanum || c = '_'

instance (s : String) : Decidable (IsIdentifier s) := inferInstanceAs (Decidable (_ ∧ _))

namespace Table

open Code Code.Member

-- The four modules have the texts of the two classes, and other definitions beside them.
structure Emits (t : Table) : Prop where
  tableInterface : TableInterface.lines t =
    ["", "#pragma once", "", "#include \"_TableBase.h\""] ++ TableInterface.columnClass t ++
      t.rowRecord.classLines ++ TableInterface.tableClass t ++ t.rowRecord.inlinedLines
  tableImplementation : ∃ head, TableImplementation.lines t =
    head ++ TableImplementation.columnNames t ++ t.rowRecord.implementedLines ++
      TableImplementation.tableConstructor t ++ TableImplementation.ensureData t
  dataInterface : ∃ head, DataInterface.lines t =
    head ++ t.dataRecord.classLines ++ t.dataRecord.inlinedLines
  dataImplementation : ∃ head, DataImplementation.lines t = head ++ t.dataRecord.implementedLines

-- Names of member functions that both classes have.
def sharedNames : List String :=
  ["id", "to_insert_stmt", "to_update_stmt", "from_select_result", "to_json", "as_json",
    "to_html_row", "to_html_template", "destroy", "clone_from", "equals"]

def operatorNames : List String := ["operator=", "operator<"]

-- What no member of a class may be called: the class itself, what else it declares, and the
-- variables in bodies that mention all members.
def rowNames (t : Table) : List String :=
  [t.rowClass, "Col", "match"] ++ sharedNames ++ ["q", "json_writer", "row", "t", "other", "col"]

def dataNames (t : Table) : List String :=
  [t.dataClass, "to_row", "from_row"] ++ sharedNames ++ ["row", "other"]

def reservedNames (t : Table) : List String := t.rowNames ++ t.dataNames

variable {t : Table}

theorem members_rowRecord : t.rowRecord.members = t.fields.keyFirst.map (·.name) := by
  obtain ⟨hconstructors, hkey, hconversions, hcopies⟩ :=
    members_fixedEntries t.rowClass t.fields.key.name
  simp only [Record.members, rowRecord, List.filterMap_append, members_declarationEntries,
    members_matchEntries, members_sorterEntries, hconstructors, hkey, hconversions, hcopies,
    List.append_nil]
  rfl

theorem members_dataRecord : t.dataRecord.members = t.fields.keyFirst.map (·.name) := by
  obtain ⟨hconstructors, hkey, hconversions, hcopies⟩ :=
    members_fixedEntries t.dataClass t.fields.key.name
  simp only [Record.members, dataRecord, List.filterMap_append, members_declarationEntries,
    members_sorterEntries, hconstructors, hkey, hconversions, hcopies, List.append_nil]
  exact List.append_nil _

theorem mem_named_rowRecord {name : String} : name ∈ t.rowRecord.named ↔
    name ∈ [t.rowClass, "Col", "match"] ++ sharedNames ++ operatorNames := by
  obtain ⟨hconstructors, hkey, hconversions, hcopies⟩ :=
    named_fixedEntries t.rowClass t.fields.key.name
  simp only [Record.named, rowRecord, List.filterMap_append, List.mem_append,
    named_declarationEntries, mem_named_matchEntries, named_sorterEntries, hconstructors, hkey,
    hconversions, hcopies]
  simp [sharedNames, operatorNames]
  grind

theorem mem_named_dataRecord {name : String} : name ∈ t.dataRecord.named ↔
    name ∈ [t.dataClass, "to_row", "from_row"] ++ sharedNames ++ operatorNames := by
  obtain ⟨hconstructors, hkey, hconversions, hcopies⟩ :=
    named_fixedEntries t.dataClass t.fields.key.name
  simp only [Record.named, dataRecord, List.filterMap_append, List.mem_append,
    named_declarationEntries, named_sorterEntries, hconstructors, hkey, hconversions, hcopies]
  simp [DataInterface.toRowSignature, DataInterface.fromRowSignature, sharedNames, operatorNames]
  grind

theorem clear_rowRecord : (∀ f ∈ t.rowRecord.functions, f.Clear) ↔
    t.fields.key.name ≠ "id" ∧ (∀ f ∈ t.fields.declared, f.name ≠ "col") ∧
      (∀ f ∈ t.fields.others, f.name ∉ ["stmt", "id"]) ∧
      ∀ f ∈ t.fields.declared, f.name ∉ ["q", "json_writer", "row", "t", "other"] := by
  have hany : TableInterface.matchAny.Clear := Function.clear_of_mentions rfl
  have hall : TableInterface.matchAll.Clear := Function.clear_of_mentions rfl
  have hentries : (∀ f ∈ t.rowRecord.entries.filterMap Entry.function?, f.Clear) ↔
      t.fields.key.name ≠ "id" ∧ ∀ f ∈ t.fields.declared, f.name ≠ "col" := by
    obtain ⟨hconstructors, hkey, hconversions, hcopies⟩ :=
      clear_fixedEntries t.rowClass t.fields.key.name
    simp only [rowRecord, List.filterMap_append, List.forall_mem_append, functions_declarationEntries,
      functions_matchEntries, functions_sorterEntries, List.forall_mem_map, clear_matchColumn, hkey,
      iff_true_intro hconstructors, iff_true_intro hconversions, iff_true_intro hcopies]
    simp [hany, hall, clear_sorterFunction]
  have hinlined : ∀ d ∈ t.rowRecord.inlined, d.function.Clear := by
    simp only [rowRecord, List.forall_mem_cons, resultFunction, TableInterface.updateFunction,
      clear_plain, clear_cloneFunction, true_and]
    exact List.forall_mem_nil _
  have himplemented : (∀ d ∈ t.rowRecord.implemented, d.function.Clear) ↔
      (∀ f ∈ t.fields.others, f.name ∉ ["stmt", "id"]) ∧
        ∀ f ∈ t.fields.declared, f.name ∉ ["q", "json_writer", "row", "t", "other"] := by
    simp only [rowRecord, TableImplementation.implemented, List.forall_mem_cons,
      clear_defaultFunction, clear_insertFunction, clear_selectFunction, clear_jsonFunction,
      clear_pairsFunction, clear_reportFunction, clear_templateFunction, clear_assignFunction,
      clear_equalsFunction]
    simp [forall_and]
  rw [Record.forall_mem_functions, hentries, himplemented, and_iff_right hinlined, and_assoc]

theorem clear_dataRecord : (∀ f ∈ t.dataRecord.functions, f.Clear) ↔
    t.fields.key.name ≠ "id" ∧ ∀ f ∈ t.fields.declared, f.name ∉ ["row", "other"] := by
  have hentries : (∀ f ∈ t.dataRecord.entries.filterMap Entry.function?, f.Clear) ↔
      t.fields.key.name ≠ "id" := by
    obtain ⟨hconstructors, hkey, hconversions, hcopies⟩ :=
      clear_fixedEntries t.dataClass t.fields.key.name
    simp only [dataRecord, List.filterMap_append, List.forall_mem_append,
      functions_declarationEntries, functions_sorterEntries, List.forall_mem_map, hkey,
      iff_true_intro hconstructors, iff_true_intro hconversions, iff_true_intro hcopies]
    simp [clear_sorterFunction]
  have hinlined : ∀ d ∈ t.dataRecord.inlined, d.function.Clear := by
    simp only [dataRecord, DataInterface.inlined, List.forall_mem_map, List.forall_mem_append,
      List.forall_mem_singleton, resultFunction, clear_plain, clear_cloneFunction, true_and,
      and_true]
    exact clear_delegateFunctions t
  have himplemented : (∀ d ∈ t.dataRecord.implemented, d.function.Clear) ↔
      ∀ f ∈ t.fields.declared, f.name ∉ ["row", "other"] := by
    simp only [dataRecord, DataImplementation.implemented, List.forall_mem_cons,
      clear_defaultFunction, clear_toRowFunction, clear_fromRowFunction, clear_assignFunction,
      clear_equalsFunction]
    simp [forall_and]
  rw [Record.forall_mem_functions, hentries, himplemented, and_iff_right hinlined]

theorem emits : t.Emits where
  tableInterface := lines_tableInterface t
  tableImplementation := ⟨_, lines_tableImplementation t⟩
  dataInterface := ⟨_, lines_dataInterface t⟩
  dataImplementation := ⟨_, lines_dataImplementation t⟩

-- An operator has no name that is an identifier.
theorem not_mem_operatorNames {name : String} (h : IsIdentifier name) : name ∉ operatorNames := by
  intro hname
  rcases List.mem_pair.mp hname with rfl | rfl
  · exact absurd h (by decide +kernel)
  · exact absurd h (by decide +kernel)

theorem forall_members {names : List String} {p : String → Prop}
    (h : names = t.fields.keyFirst.map (·.name)) :
    (∀ member ∈ names, p member) ↔ ∀ f ∈ t.fields.declared, p f.name := by
  simp only [h, List.forall_mem_map, (KeyedFields.keyFirst_perm t.fields).mem_iff]

theorem nodup_members {names : List String} (h : names = t.fields.keyFirst.map (·.name)) :
    names.Nodup ↔ (t.fields.declared.map (·.name)).Nodup := by
  rw [h]
  exact ((KeyedFields.keyFirst_perm t.fields).map _).nodup_iff

-- For names of columns, the operators may be left out of what a class declares.
theorem forall_not_mem_named {names fixed : List String}
    (hidentifiers : ∀ f ∈ t.fields.declared, IsIdentifier f.name)
    (h : ∀ {name}, name ∈ names ↔ name ∈ fixed ++ operatorNames) :
    (∀ f ∈ t.fields.declared, f.name ∉ names) ↔ ∀ f ∈ t.fields.declared, f.name ∉ fixed := by
  refine forall₂_congr fun f hf => ?_
  rw [h, List.mem_append, or_iff_left (not_mem_operatorNames (hidentifiers f hf))]

section Distinct

variable (hdistinct : (t.fields.declared.map (·.name)).Nodup)
  (hidentifiers : ∀ f ∈ t.fields.declared, IsIdentifier f.name)

include hdistinct hidentifiers

-- The bare key is mentioned where `id` is a parameter and not where `stmt` is one.
theorem keepsNames_rowRecord_iff : t.rowRecord.KeepsNames ↔
    (∀ f ∈ t.fields.declared, f.name ∉ t.rowNames) ∧
      ∀ f ∈ t.fields.others, f.name ≠ "stmt" := by
  have hkey : t.fields.key ∈ t.fields.declared :=
    (KeyedFields.keyFirst_perm t.fields).mem_iff.mp List.mem_cons_self
  have hothers : ∀ f ∈ t.fields.others, f ∈ t.fields.declared := fun f hf =>
    (KeyedFields.keyFirst_perm t.fields).mem_iff.mp (List.mem_cons_of_mem _ hf)
  rw [Record.keepsNames_iff, clear_rowRecord, nodup_members members_rowRecord,
    forall_members members_rowRecord, forall_not_mem_named hidentifiers mem_named_rowRecord]
  simp only [rowNames, sharedNames, hdistinct, true_and]
  grind

theorem keepsNames_dataRecord_iff : t.dataRecord.KeepsNames ↔
    ∀ f ∈ t.fields.declared, f.name ∉ t.dataNames := by
  have hkey : t.fields.key ∈ t.fields.declared :=
    (KeyedFields.keyFirst_perm t.fields).mem_iff.mp List.mem_cons_self
  rw [Record.keepsNames_iff, clear_dataRecord, nodup_members members_dataRecord,
    forall_members members_dataRecord, forall_not_mem_named hidentifiers mem_named_dataRecord]
  simp only [dataNames, sharedNames, hdistinct, true_and]
  grind

-- In the text of both classes each column keeps its own name, and keeps it in every body,
-- exactly for names that are not reserved.
theorem keepsNames_iff_not_reserved : t.Emits ∧
    (t.rowRecord.KeepsNames ∧ t.dataRecord.KeepsNames ↔
      (∀ f ∈ t.fields.declared, f.name ∉ t.reservedNames) ∧
        ∀ f ∈ t.fields.others, f.name ≠ "stmt") := by
  refine ⟨emits, ?_⟩
  rw [keepsNames_rowRecord_iff hdistinct hidentifiers,
    keepsNames_dataRecord_iff hdistinct hidentifiers]
  simp only [reservedNames, List.mem_append, not_or, forall_and]
  exact and_right_comm

end Distinct

def keyAnd (name : String) : Table where
  name := "T"
  definition := "CREATE TABLE T(ID INTEGER PRIMARY KEY, " ++ name ++ " TEXT)"
  fields := ⟨[], ⟨0, "ID", .integer, false⟩, [⟨1, name, .text, true⟩]⟩
  indices := []
  rows := []

theorem keepsNames_of_symbol :
    ((keyAnd "SYMBOL").fields.declared.map (·.name)).Nodup ∧
      (∀ f ∈ (keyAnd "SYMBOL").fields.declared, IsIdentifier f.name) ∧
      (keyAnd "SYMBOL").Emits ∧ (keyAnd "SYMBOL").rowRecord.KeepsNames ∧
      (keyAnd "SYMBOL").dataRecord.KeepsNames := by
  have hdistinct : ((keyAnd "SYMBOL").fields.declared.map (·.name)).Nodup := by decide
  have hidentifiers : ∀ f ∈ (keyAnd "SYMBOL").fields.declared, IsIdentifier f.name := by
    decide +kernel
  obtain ⟨hemits, hiff⟩ := keepsNames_iff_not_reserved hdistinct hidentifiers
  exact ⟨hdistinct, hidentifiers, hemits, hiff.mpr (by decide +kernel)⟩

-- A column of the name `row` is hidden where the row is converted.
theorem not_keepsNames_of_row :
    ((keyAnd "row").fields.declared.map (·.name)).Nodup ∧
      (∀ f ∈ (keyAnd "row").fields.declared, IsIdentifier f.name) ∧
      ¬ (keyAnd "row").rowRecord.KeepsNames ∧ ¬ (keyAnd "row").dataRecord.KeepsNames := by
  refine ⟨by decide, by decide +kernel, fun hrow => ?_, fun hdata => ?_⟩
  · have hreport := hrow.clear (TableImplementation.reportFunction (keyAnd "row"))
      (by simp [Record.functions, rowRecord, TableImplementation.implemented])
    exact absurd hreport (by decide +kernel)
  · have hconvert := hdata.clear (DataImplementation.toRowFunction (keyAnd "row"))
      (by simp [Record.functions, dataRecord, DataImplementation.implemented])
    exact absurd hconvert (by decide +kernel)

end Table

end TableForge
