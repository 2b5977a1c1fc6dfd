import TableForge.Proofs.Code.Transfer

namespace TableForge.Table

open Code Code.DataImplementation Code.Member

-- The bodies that go through the members of two objects: a record of sample data and its row are
-- converted into each other, and both classes have a copy and a comparison.
def memberBodies (t : Table) : List (Shape × List String) :=
  [(toRowShape t, toRow t), (fromRowShape t, fromRow t)] ++
  [t.rowClass, t.dataClass].flatMap fun owner =>
    [(assignmentShape owner, assignmentOperator owner t.fields),
      (equalityShape owner, equality owner t.fields)]

-- The generated code loses no member of a record, whatever its values are. Values are equal as the
-- code compares them; with values that are not equal to themselves a record differs from its copy.
structure KeepsMembers (t : Table) (α : Type) [BEq α] : Prop where
  touched : ∀ body ∈ t.memberBodies, body.1.TouchesOnce body.2 t.fields.declared
  restored : ∀ data row start : String → α, ∃ image back,
    (toRowShape t).copied? (toRow t) data row = some image ∧
    (fromRowShape t).copied? (fromRow t) image start = some back ∧
    (∀ f ∈ t.fields.declared, back f.name = data f.name) ∧
    ((∀ x : α, x == x) → (equalityShape t.dataClass).compared? (equality t.dataClass t.fields)
      data back = some true)
  assigned : ∀ owner ∈ [t.rowClass, t.dataClass], ∀ source target : String → α, ∃ copy,
    (assignmentShape owner).copied? (assignmentOperator owner t.fields) source target =
      some copy ∧
    (∀ f ∈ t.fields.declared, copy f.name = source f.name) ∧
    (source = target → copy = target) ∧
    ((∀ x : α, x == x) → (equalityShape owner).compared? (equality owner t.fields)
      source copy = some true)
  compared : ∀ owner ∈ [t.rowClass, t.dataClass], ∀ own other : String → α, ∃ answer,
    (equalityShape owner).compared? (equality owner t.fields) own other = some answer ∧
    (answer = true ↔ ∀ f ∈ t.fields.declared, own f.name == other f.name)
  dataEmitted : ∀ body ∈ [toRow t, fromRow t, assignmentOperator t.dataClass t.fields,
    equality t.dataClass t.fields], body <:+: DataImplementation.lines t
  rowEmitted : ∀ body ∈ [assignmentOperator t.rowClass t.fields, equality t.rowClass t.fields],
    body <:+: TableImplementation.lines t

theorem read_of_mem_memberBodies {t : Table} {body : Shape × List String}
    (h : body ∈ t.memberBodies) : body.1.read? body.2 = some (twins t.fields.declared) := by
  rcases List.mem_append.mp h with h | h
  · obtain rfl | rfl := by simpa only [List.mem_cons, List.not_mem_nil, or_false] using h
    · exact read_toRow t
    · exact read_fromRow t
  · obtain ⟨owner, -, h⟩ := List.mem_flatMap.mp h
    obtain rfl | rfl := by simpa only [List.mem_cons, List.not_mem_nil, or_false] using h
    · exact read_assignmentOperator owner t.fields
    · exact read_equality owner t.fields

section Bodies

variable {α : Type} (t : Table) (owner : String)

theorem compared_eq [BEq α] (own other : String → α) :
    (equalityShape owner).compared? (equality owner t.fields) own other =
      some (sameMembers (twins t.fields.declared) own other) := by
  rw [Shape.compared?, read_equality, Option.map_some]

theorem compared_of_same [BEq α] (hrefl : ∀ x : α, x == x) {own other : String → α}
    (h : ∀ f ∈ t.fields.declared, other f.name = own f.name) :
    (equalityShape owner).compared? (equality owner t.fields) own other = some true := by
  have hsame : sameMembers (twins t.fields.declared) own other = true := by
    rw [sameMembers_twins_iff]
    intro f hf
    rw [h f hf]
    exact hrefl _
  rw [compared_eq, hsame]

theorem copyMembers_declared (source target : String → α) :
    ∀ f ∈ t.fields.declared,
      copyMembers (twins t.fields.declared) source target f.name = source f.name := by
  intro f hf
  rw [copyMembers_twins, if_pos (List.mem_map.mpr ⟨f, hf, rfl⟩)]

end Bodies

-- Fields that do not share a name are kept by all these bodies.
theorem keepsMembers_of_nodup {t : Table} (h : (t.fields.declared.map (·.name)).Nodup)
    (α : Type) [BEq α] : KeepsMembers t α where
  touched := fun _ hbody => Shape.touchesOnce_of_read h (read_of_mem_memberBodies hbody)
  restored := by
    intro data row start
    let image := copyMembers (twins t.fields.declared) data row
    let back := copyMembers (twins t.fields.declared) image start
    have himage : (toRowShape t).copied? (toRow t) data row = some image := by
      rw [Shape.copied?, read_toRow, Option.map_some]
    have hback : (fromRowShape t).copied? (fromRow t) image start = some back := by
      rw [Shape.copied?, read_fromRow, Option.map_some]
    have hsame : ∀ f ∈ t.fields.declared, back f.name = data f.name := by
      intro f hf
      exact (t.copyMembers_declared image start f hf).trans (t.copyMembers_declared data row f hf)
    exact ⟨image, back, himage, hback, hsame, fun hrefl => compared_of_same t _ hrefl hsame⟩
  assigned := by
    intro owner _ source target
    let copy := copyMembers (twins t.fields.declared) source target
    have hcopy : (assignmentShape owner).copied? (assignmentOperator owner t.fields) source target =
        some copy := by
      rw [Shape.copied?, read_assignmentOperator, Option.map_some]
    have hsame : ∀ f ∈ t.fields.declared, copy f.name = source f.name :=
      t.copyMembers_declared source target
    refine ⟨copy, hcopy, hsame, ?_, fun hrefl => compared_of_same t owner hrefl hsame⟩
    rintro rfl
    funext name
    exact (copyMembers_twins _ _ _ _).trans (ite_self _)
  compared := by
    intro owner _ own other
    exact ⟨_, compared_eq t owner own other, sameMembers_twins_iff _ _ _⟩
  dataEmitted := by
    intro body hbody
    refine DataImplementation.infix_lines ?_
    simp only [DataImplementation.definitions, List.mem_cons, List.not_mem_nil, or_false] at hbody ⊢
    grind
  rowEmitted := by
    intro body hbody
    refine TableImplementation.infix_lines ?_
    simp only [TableImplementation.definitions, List.mem_cons, List.not_mem_nil, or_false]
      at hbody ⊢
    grind

-- A table with a member of each kind, and a record that differs in the last one.
theorem keepsMembers_of_four_kinds :
    let t : Table := ⟨"T", "", ⟨[⟨0, "D", .date, true⟩], ⟨1, "ID", .integer, false⟩,
      [⟨2, "X", .real, true⟩, ⟨3, "S", .text, true⟩]⟩, [], []⟩
    let data : String → Nat := fun name => name.length
    let other : String → Nat := Function.update data "S" 5
    (∃ image back,
      (toRowShape t).copied? (toRow t) data (fun _ => 0) = some image ∧
      (fromRowShape t).copied? (fromRow t) image (fun _ => 0) = some back ∧
      ["D", "ID", "X", "S"].map back = [1, 2, 1, 1] ∧
      (equalityShape t.dataClass).compared? (equality t.dataClass t.fields) data back =
        some true) ∧
    (equalityShape t.dataClass).compared? (equality t.dataClass t.fields) data other =
      some false := by
  intro t data other
  have h : KeepsMembers t Nat := keepsMembers_of_nodup (by decide) Nat
  constructor
  · obtain ⟨image, back, himage, hback, hsame, hequal⟩ := h.restored data (fun _ => 0) fun _ => 0
    refine ⟨image, back, himage, hback, ?_, hequal fun _ => beq_self_eq_true _⟩
    have hvalues : t.fields.declared.map (fun f => back f.name) =
        t.fields.declared.map fun f => data f.name := List.map_congr_left hsame
    exact hvalues.trans (by decide)
  · obtain ⟨answer, hanswer, hiff⟩ := h.compared t.dataClass (by simp) data other
    have hdiffers : answer = false := by
      rw [Bool.eq_false_iff]
      intro htrue
      have hlast := hiff.mp htrue ⟨3, "S", .text, true⟩ (by decide)
      exact absurd hlast (by decide)
    rw [hanswer, hdiffers]

end TableForge.Table
