import TableForge.Dump
import TableForge.Proofs.Text.Cleaning
import TableForge.Proofs.Text.Occurrence

namespace TableForge.Dump

open Marker
open Relation (ReflTransGen)

-- What the body of a dump has to do with the source: it is what the passes leave that are made
-- as long as there is a marker, and they do nothing but delete markers, among them those that
-- a deletion brings together.
structure Cleaned (source body : List Char) : Prop where
  passes : ∃ n, body = removePass^[n] source ∧ ∀ k < n, marker <:+: removePass^[k] source
  free : ¬marker <:+: body
  reached : ReflTransGen Deletes source body
  unchanged : body = source ↔ ¬marker <:+: source
  fixed : clean body = body

theorem cleaned_clean (s : List Char) : Cleaned s (clean s) where
  passes := exists_removePasses_eq s.length s
  free := not_infix_clean s
  reached := deletes_clean s
  unchanged := clean_eq_self_iff
  fixed := clean_eq_self_iff.mpr (not_infix_clean s)

-- The dump is a banner with the name of the source above the cleaned source. No marker comes about
-- where they meet, so only the name can bring one in.
theorem render_cleans (sourceName source : String) :
    ∃ body : String,
      render sourceName source =
        "-- NOTE:\n-- This file has been AUTO GENERATED from " ++ sourceName ++
        "\n-- All translation markers have been removed.\n" ++
        "-- This file can be used to manually generate a database.\n\n" ++ body ∧
      Cleaned source.toList body.toList ∧
      (marker <:+: (render sourceName source).toList ↔ marker <:+: sourceName.toList) := by
  have hbody : (cleanText source).toList = clean source.toList := String.toList_ofList
  have hparts : (render sourceName source).toList =
      "-- NOTE:\n-- This file has been AUTO GENERATED from ".toList ++ (sourceName.toList ++
        (("\n-- All translation markers have been removed.\n".toList ++
          "-- This file can be used to manually generate a database.\n\n".toList) ++
          clean source.toList)) := by
    simp only [render, banner, Text.unlines, String.toList_append, hbody]
    repeat rw [String.toList_ofList]
    simp
  refine ⟨cleanText source, ?_, ?_, ?_⟩
  · rw [← String.toList_inj, hparts]
    simp only [String.toList_append, hbody, List.append_assoc]
  · rw [hbody]
    exact cleaned_clean source.toList
  · have habove : Fence marker
        "-- NOTE:\n-- This file has been AUTO GENERATED from ".toList := by
      rw [String.toList_ofList]
      decide
    have hbelow : Fence marker
        ("\n-- All translation markers have been removed.\n".toList ++
          "-- This file can be used to manually generate a database.\n\n".toList) := by
      rw [String.toList_ofList, String.toList_ofList]
      decide
    rw [hparts, habove.infix_start_iff, hbelow.infix_append_iff,
      or_iff_left (not_infix_clean source.toList)]

-- A marker that is made of parts on both sides of another one.
example : cleanText "'_t_tr_r_Euro'" = "'Euro'" := by decide

end TableForge.Dump
