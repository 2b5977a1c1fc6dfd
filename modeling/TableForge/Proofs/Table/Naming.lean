import TableForge.Proofs.Text.Word
import TableForge.Table.Model
import Mathlib.Data.List.Nodup
import Mathlib.Data.List.Pairwise

namespace TableForge

namespace Text

-- Endings of which none is the end of another one.
def Apart (endings : List String) : Prop :=
  endings.Pairwise fun a b => ¬a.toList <:+ b.toList ∧ ¬b.toList <:+ a.toList

instance : DecidablePred Apart := fun _ => inferInstanceAs (Decidable (List.Pairwise _ _))

variable {endings : List String}

-- A text with such an ending tells which one it is and what it was put behind.
theorem Apart.eq_of_append (h : Apart endings) {a b e e' : String} (he : e ∈ endings)
    (he' : e' ∈ endings) (heq : a ++ e = b ++ e') : a = b ∧ e = e' := by
  have hchars := congrArg String.toList heq
  rw [String.toList_append, String.toList_append] at hchars
  have hends : e = e' := by
    by_contra hne
    have : Std.Symm fun a b : String => ¬a.toList <:+ b.toList ∧ ¬b.toList <:+ a.toList :=
      ⟨fun _ _ h => h.symm⟩
    obtain ⟨hnot, hnot'⟩ := h.forall he he' hne
    rcases List.suffix_or_suffix_of_suffix (List.suffix_append a.toList e.toList)
      (hchars ▸ List.suffix_append b.toList e'.toList) with hsuffix | hsuffix
    · exact hnot hsuffix
    · exact hnot' hsuffix
  subst hends
  exact ⟨String.toList_inj.mp (List.append_cancel_right hchars), rfl⟩

theorem Apart.nodup (h : Apart endings) : endings.Nodup := by
  refine h.imp fun {a b} hapart heq => hapart.1 ?_
  subst heq
  exact List.suffix_rfl

theorem Apart.nodup_flatMap (h : Apart endings) {bases : List String} (hbases : bases.Nodup) :
    (bases.flatMap fun base => endings.map (base ++ ·)).Nodup := by
  refine List.nodup_flatMap.mpr ⟨fun base _ => ?_, hbases.imp fun {a b} hne => ?_⟩
  · exact h.nodup.map_on fun e he e' he' heq => (h.eq_of_append he he' heq).2
  · intro s hs hs'
    obtain ⟨e, he, rfl⟩ := List.mem_map.mp hs
    obtain ⟨e', he', heq⟩ := List.mem_map.mp hs'
    exact hne (h.eq_of_append he' he heq).1.symm

end Text

namespace Naming

-- No two tables have classes of the same name, whether it is their own name or not that they begin
-- with.
theorem classBase_injective : Function.Injective classBase := by
  have hvalues : (overrides.map (·.2)).Nodup := by decide +kernel
  have hplain : ∀ e ∈ overrides, e.2.toList.getLast? ≠ some '_' := by decide +kernel
  have hown {table key value : String} (hkey : search? overrides key = some value) :
      value ≠ table ++ "_" := by
    rintro rfl
    exact hplain _ (mem_of_searchWithin hkey) (by simp)
  intro a b h
  rw [classBase, classBase] at h
  cases ha : search? overrides a with
  | none =>
    cases hb : search? overrides b with
    | none =>
      rw [ha, hb] at h
      exact (String.append_left_inj "_").mp h
    | some value =>
      rw [ha, hb] at h
      exact absurd h.symm (hown hb)
  | some value =>
    cases hb : search? overrides b with
    | none =>
      rw [ha, hb] at h
      exact absurd h (hown ha)
    | some other =>
      rw [ha, hb] at h
      have hsame := List.inj_on_of_nodup_map hvalues (mem_of_searchWithin ha)
        (mem_of_searchWithin hb) h
      exact (Prod.mk.inj hsame).1

end Naming

namespace Table

variable {tables : List Table}

-- What the names of the classes of a table end with.
def classEndings : List String := ["Col", "Row", "Data", "Table"]

def classNames (t : Table) : List String :=
  [t.columnClass, t.rowClass, t.dataClass, t.tableClass]

theorem nodup_classBases (h : (tables.map (·.name)).Nodup) : (tables.map classBase).Nodup := by
  have hbases : tables.map classBase = (tables.map (·.name)).map Naming.classBase := by
    rw [List.map_map]
    rfl
  rw [hbases]
  exact h.map Naming.classBase_injective

theorem nodup_classNames (h : (tables.map (·.name)).Nodup) :
    (tables.flatMap classNames).Nodup := by
  have hapart : Text.Apart classEndings := by decide
  have hnames := hapart.nodup_flatMap (nodup_classBases h)
  rwa [List.flatMap_map] at hnames

end Table

end TableForge
