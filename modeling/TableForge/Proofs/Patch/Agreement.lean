import TableForge.Dump
import TableForge.Patch
import TableForge.Proofs.Text.Locality

-- The dump of a schema and a patch script clean the texts of seed rows in the same way.
namespace TableForge.Patch

open Marker (marker clean cleanText)
open Text.Quoted (quoteText)

theorem cleanText_quoteText (s : String) : cleanText (quoteText s) = quoteText (cleanText s) := by
  rw [cleanText, quoteText, String.toList_ofList, Marker.clean_quote, quoteText, cleanText,
    String.toList_ofList]

-- The quotes of a literal keep it apart from whatever stands around it.
theorem cleanText_around_quoteText (front s back : String) :
    cleanText (front ++ quoteText s ++ back) =
      cleanText front ++ quoteText (cleanText s) ++ cleanText back := by
  have hquote : '\'' ∉ marker := by decide
  have hparts : (front ++ quoteText s ++ back).toList =
      front.toList ++ '\'' :: (Text.double '\'' s.toList ++ '\'' :: back.toList) := by
    simp [quoteText, Text.Quoted.quote]
  rw [← String.toList_inj, cleanText, String.toList_ofList, hparts,
    Marker.clean_append_cons hquote, Marker.clean_append_cons hquote, Marker.clean_double]
  simp [cleanText, quoteText, Text.Quoted.quote]

-- A character that the marker does not have keeps what stands on its two sides apart, and a text
-- may be cleaned before or after it is quoted. So a quoted text in the source of a schema, with
-- anything around it, is in the dump the token that a patch script has for the text.
theorem cleans_apart {c : Char} (hc : c ∉ marker) :
    (∀ a b : List Char, clean (a ++ c :: b) = clean a ++ c :: clean b) ∧
      (∀ s : String, cleanText (quoteText s) = quoteText (cleanText s)) ∧
      ∀ sourceName front s back : String,
        Dump.render sourceName (front ++ quoteText s ++ back) =
          Dump.banner sourceName ++ cleanText front ++ token (.text s) ++ cleanText back := by
  refine ⟨Marker.clean_append_cons hc, cleanText_quoteText, fun sourceName front s back => ?_⟩
  rw [Dump.render, cleanText_around_quoteText, token]
  simp only [String.append_assoc]

-- One pass on the left of the comma brings together what would be a marker with the text on its
-- right, and a seed text of two passes stands among other values.
theorem cleans_apart_of_comma :
    ',' ∉ marker ∧ clean "_t_tr_r,_".toList = "_tr,_".toList ∧
      Dump.render "tables.sql" ("VALUES (1, " ++ quoteText "_t_tr_r_Don't" ++ ");") =
        Dump.banner "tables.sql" ++ "VALUES (1, " ++ token (.text "_t_tr_r_Don't") ++ ");" ∧
      token (.text "_t_tr_r_Don't") = "'Don''t'" := by
  have hcomma : ',' ∉ marker := by decide
  obtain ⟨happend, -, hdump⟩ := cleans_apart hcomma
  have hvalues : cleanText "VALUES (1, " = "VALUES (1, " := by decide
  have hclose : cleanText ");" = ");" := by decide
  refine ⟨hcomma, ?_, ?_, by decide⟩
  · exact (happend "_t_tr_r".toList "_".toList).trans (by decide)
  · rw [hdump, hvalues, hclose]

end TableForge.Patch
