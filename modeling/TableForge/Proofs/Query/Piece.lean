import TableForge.Query

namespace TableForge

-- A part of a statement. Names and the marks of parameters stand apart from the text around them.
inductive Piece where
  | words (s : String)
  | name (s : String)
  | mark
  | comma
  | equals
  | opening
  | closing
  deriving DecidableEq, Repr

namespace Piece

def text : Piece → String
  | .words s => s
  | .name s => s
  | .mark => "?"
  | .comma => ", "
  | .equals => " = "
  | .opening => "("
  | .closing => ")"

-- The statement that pieces spell.
def spell (ps : List Piece) : String := String.join (ps.map text)

-- Items with commas between them.
def listed : List (List Piece) → List Piece
  | [] => []
  | [item] => item
  | item :: rest => item ++ .comma :: listed rest

def name? : Piece → Option String
  | .name s => some s
  | _ => none

-- The pieces in the first parentheses, and those behind them.
def group (ps : List Piece) : List Piece × List Piece :=
  let inner := (ps.dropWhile (· ≠ .opening)).tail
  (inner.takeWhile (· ≠ .closing), (inner.dropWhile (· ≠ .closing)).tail)

-- The columns that an insertion lists.
def columns (ps : List Piece) : List String := (group ps).1.filterMap name?

-- The columns of an insertion whose values are parameters, in the order of these.
def inserted (ps : List Piece) : List String :=
  let values := (group (group ps).2).1.filter (· ≠ .comma)
  ((columns ps).zip values).filterMap fun (column, value) =>
    if value = .mark then some column else none

-- The columns that parameters are assigned to or compared with, in the order of these.
def assigned : List Piece → List String
  | .name s :: .equals :: .mark :: rest => s :: assigned rest
  | _ :: rest => assigned rest
  | [] => []

-- The columns that a selection lists.
def selected (ps : List Piece) : List String :=
  (ps.takeWhile (· ≠ .words " FROM ")).filterMap name?

@[simp] theorem spell_cons (p : Piece) (ps : List Piece) :
    spell (p :: ps) = p.text ++ spell ps := by
  simp [spell]

@[simp] theorem spell_append (ps qs : List Piece) : spell (ps ++ qs) = spell ps ++ spell qs := by
  simp [spell]

@[simp] theorem spell_nil : spell [] = "" := by simp [spell]

theorem spell_listed (items : List (List Piece)) :
    spell (listed items) = Text.join ", " (items.map spell) := by
  induction items with
  | nil => rfl
  | cons item rest ih =>
    cases rest with
    | nil => rfl
    | cons next rest =>
      simp only [List.map_cons, Text.join] at ih ⊢
      simp [listed, text, ih, String.append_assoc]

-- A reading that passes over commas finds the same in a list as in its items.
theorem filterMap_listed {α : Type} (f : Piece → Option α) (hf : f .comma = none)
    (items : List (List Piece)) : (listed items).filterMap f = items.flatten.filterMap f := by
  induction items with
  | nil => rfl
  | cons item rest ih =>
    cases rest with
    | nil => simp [listed]
    | cons next rest =>
      rw [listed, List.filterMap_append, List.filterMap_cons_none hf, ih]
      · simp
      · simp

theorem filter_listed (f : Piece → Bool) (hf : f .comma = false) (items : List (List Piece)) :
    (listed items).filter f = items.flatten.filter f := by
  have h := filterMap_listed (Option.guard f) (by simp [hf]) items
  simpa only [List.filterMap_eq_filter] using h

theorem count_listed (p : Piece) (hp : p ≠ .comma) (items : List (List Piece)) :
    (listed items).count p = items.flatten.count p := by
  rw [List.count_eq_length_filter, List.count_eq_length_filter]
  rw [filter_listed (· == p) (by simp [Ne.symm hp])]

theorem mem_listed {p : Piece} {items : List (List Piece)} (h : p ∈ listed items) :
    p = .comma ∨ ∃ item ∈ items, p ∈ item := by
  induction items with
  | nil => simp [listed] at h
  | cons item rest ih =>
    cases rest with
    | nil => exact .inr ⟨item, by simp, h⟩
    | cons next rest =>
      simp only [listed, List.mem_append, List.mem_cons] at h
      obtain h | rfl | h := h
      · exact .inr ⟨item, by simp, h⟩
      · exact .inl rfl
      · obtain rfl | ⟨found, hmem, hp⟩ := ih h
        · exact .inl rfl
        · exact .inr ⟨found, List.mem_cons_of_mem _ hmem, hp⟩

theorem group_eq {front inner : List Piece} (rest : List Piece) (hfront : .opening ∉ front)
    (hinner : .closing ∉ inner) :
    group (front ++ .opening :: (inner ++ .closing :: rest)) = (inner, rest) := by
  have hf : ∀ p ∈ front, decide (p ≠ .opening) = true := by
    intro p hp
    exact decide_eq_true fun h => hfront (h ▸ hp)
  have hi : ∀ p ∈ inner, decide (p ≠ .closing) = true := by
    intro p hp
    exact decide_eq_true fun h => hinner (h ▸ hp)
  have hd : ((front ++ .opening :: (inner ++ .closing :: rest)).dropWhile (· ≠ .opening)).tail =
      inner ++ .closing :: rest := by
    rw [List.dropWhile_append_of_pos hf]
    simp
  simp only [group, hd]
  rw [List.takeWhile_append_of_pos hi, List.dropWhile_append_of_pos hi]
  simp

end Piece

namespace Query

open Piece (listed spell columns inserted assigned)

def assignmentPieces (columns : List String) (key : String) : List Piece :=
  match columns with
  | [] => [.name key, .equals, .name key]
  | _ => listed (columns.map fun s => [.name s, .equals, .mark])

-- The parts of the statements.
def pieces : Query → List Piece
  | .create definition => [.words definition]
  | .drop table => [.words "DROP TABLE IF EXISTS ", .name table]
  | .insert table columns =>
    [.words "INSERT INTO ", .name table] ++ .opening ::
      (listed (columns.map fun s => [.name s]) ++ .closing ::
        ([.words " VALUES"] ++ .opening :: (listed (columns.map fun _ => [.mark]) ++ [.closing])))
  | .update table columns key =>
    [.words "UPDATE ", .name table, .words " SET "] ++ assignmentPieces columns key ++
      [.words " WHERE ", .name key, .equals, .mark]
  | .delete table key =>
    [.words "DELETE FROM ", .name table, .words " WHERE ", .name key, .equals, .mark]
  | .select table columns =>
    .words "SELECT " :: listed (columns.map fun s => [.name s]) ++ [.words " FROM ", .name table]

theorem spell_listed_map (item : String → List Piece) (text : String → String)
    (h : ∀ s, spell (item s) = text s) (names : List String) :
    spell (listed (names.map item)) = Text.join ", " (names.map text) := by
  rw [Piece.spell_listed, List.map_map]
  congr 1
  exact List.map_congr_left fun s _ => h s

theorem spell_names (names : List String) :
    spell (listed (names.map fun s => [.name s])) = Text.join ", " names := by
  simpa using spell_listed_map _ id (by simp [Piece.text]) names

theorem spell_assignmentPieces (columns : List String) (key : String) :
    spell (assignmentPieces columns key) = assignments columns key := by
  cases columns with
  | nil =>
    simp only [assignmentPieces, assignments, Piece.spell_cons, Piece.spell_nil, Piece.text,
      String.append_empty, String.append_assoc]
  | cons s rest => exact spell_listed_map _ _ (by simp [Piece.text]) (s :: rest)

-- Every statement is spelled by its pieces.
theorem spell_pieces (q : Query) : spell q.pieces = q.text := by
  cases q with
  | create definition => simp [pieces, text.eq_def, Piece.text]
  | drop table => simp [pieces, text.eq_def, Piece.text]
  | insert table columns =>
    have hmarks := spell_listed_map (fun _ => [.mark]) (fun _ => "?") (by simp [Piece.text]) columns
    have hvalues : ") VALUES(" = ")" ++ (" VALUES" ++ "(") := by decide
    simp only [pieces, text.eq_def, hvalues, Piece.spell_append, Piece.spell_cons, Piece.spell_nil,
      Piece.text, spell_names, hmarks, String.append_assoc, String.append_empty]
  | update table columns key =>
    simp [pieces, text.eq_def, Piece.text, spell_assignmentPieces, String.append_assoc]
  | delete table key => simp [pieces, text.eq_def, Piece.text, String.append_assoc]
  | select table columns => simp [pieces, text.eq_def, Piece.text, spell_names, String.append_assoc]

-- What an insertion and an update say about columns and parameters.
section Parameters

variable (table : String) (names : List String) (key : String)

theorem group_insert : Piece.group (insert table names).pieces =
    (listed (names.map fun s => [.name s]),
      .words " VALUES" :: .opening :: (listed (names.map fun _ => [.mark]) ++ [.closing])) := by
  refine @Piece.group_eq [.words "INSERT INTO ", .name table] _ _ (by simp) ?_
  intro h
  obtain h | ⟨item, hitem, hp⟩ := Piece.mem_listed h
  · simp at h
  · obtain ⟨s, _, rfl⟩ := List.mem_map.mp hitem
    simp at hp

theorem columns_insert : columns (insert table names).pieces = names := by
  rw [columns, group_insert, Piece.filterMap_listed _ rfl, ← List.flatMap_def,
    ← List.map_eq_flatMap, List.filterMap_map]
  exact List.filterMap_some

theorem inserted_insert : inserted (insert table names).pieces = names := by
  have hvalues : Piece.group (Piece.group (insert table names).pieces).2 =
      (listed (names.map fun _ => [.mark]), []) := by
    rw [group_insert]
    refine @Piece.group_eq [.words " VALUES"] _ _ (by simp) ?_
    intro h
    obtain h | ⟨item, hitem, hp⟩ := Piece.mem_listed h
    · simp at h
    · obtain ⟨s, _, rfl⟩ := List.mem_map.mp hitem
      simp at hp
  have hmarks : (listed (names.map fun _ => [.mark])).filter (· ≠ .comma) =
      names.map fun _ => .mark := by
    rw [Piece.filter_listed _ (by simp), ← List.flatMap_def, ← List.map_eq_flatMap]
    exact List.filter_eq_self.mpr (by simp)
  simp only [inserted, columns_insert, hvalues, hmarks]
  clear hvalues hmarks
  induction names with
  | nil => rfl
  | cons s rest ih => simpa using ih

theorem count_insert : (insert table names).pieces.count .mark = names.length := by
  have hnames : (names.map fun s => Piece.name s).count .mark = 0 := by
    rw [List.count_eq_zero]
    simp
  simp [pieces, Piece.count_listed .mark (by decide), ← List.flatMap_def, ← List.map_eq_flatMap,
    hnames, List.map_const']

theorem assigned_listed (w : String) (rest : List Piece) :
    assigned (listed (names.map fun s => [.name s, .equals, .mark]) ++ .words w :: rest) =
      names ++ assigned rest := by
  induction names with
  | nil => rfl
  | cons s names ih =>
    cases names with
    | nil => rfl
    | cons next names =>
      simp only [List.map_cons, listed, List.cons_append, List.nil_append, assigned] at ih ⊢
      rw [ih]

theorem assigned_update : assigned (update table names key).pieces = names ++ [key] := by
  cases names with
  | nil => rfl
  | cons s rest =>
    have h := assigned_listed (s :: rest) " WHERE " [.name key, .equals, .mark]
    simpa [pieces, assignmentPieces, assigned] using h

theorem count_update : (update table names key).pieces.count .mark = names.length + 1 := by
  cases names with
  | nil => rfl
  | cons s rest =>
    simp only [pieces, assignmentPieces, List.count_append,
      Piece.count_listed .mark (by decide)]
    induction rest with
    | nil => rfl
    | cons t rest ih => simpa using ih

end Parameters

theorem selected_select (table : String) (names : List String) :
    Piece.selected (select table names).pieces = names := by
  have hlisted : ∀ p ∈ Piece.words "SELECT " :: listed (names.map fun s => [.name s]),
      decide (p ≠ .words " FROM ") = true := by
    intro p hp
    refine decide_eq_true ?_
    rintro rfl
    obtain h | h := List.mem_cons.mp hp
    · exact absurd h (by decide)
    · obtain h | ⟨item, hitem, hp⟩ := Piece.mem_listed h
      · simp at h
      · obtain ⟨s, _, rfl⟩ := List.mem_map.mp hitem
        simp at hp
  rw [Piece.selected, pieces, List.takeWhile_append_of_pos hlisted,
    List.takeWhile_cons_of_neg (by simp), List.append_nil,
    List.filterMap_cons_none rfl, Piece.filterMap_listed _ rfl, ← List.flatMap_def,
    ← List.map_eq_flatMap, List.filterMap_map]
  exact List.filterMap_some

end Query

end TableForge
