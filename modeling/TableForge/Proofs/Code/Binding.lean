import TableForge.Code.TableImplementation
import TableForge.Code.TableInterface

namespace TableForge.Code.TableImplementation

-- A call that binds a value, read back: the number of its parameter and the value.
def readBind? (line : String) : Option (Nat × String) := do
  let call ← Text.dropHead? "    stmt.Bind(".toList line.toList
  let digits := call.takeWhile Char.isDigit
  let value ← Text.dropHead? ", ".toList (call.dropWhile Char.isDigit)
  let reversed ← Text.dropHead? ");".toList.reverse value.reverse
  return (Nat.ofDigitChars 10 digits 0, String.ofList reversed.reverse)

theorem readBind_call (position : Nat) (value : String) :
    readBind? ("    stmt.Bind(" ++ toString position ++ ", " ++ value ++ ");") =
      some (position, value) := by
  have hdigits : ∀ c ∈ Nat.toDigits 10 position, c.isDigit = true := fun c hc =>
    Nat.isDigit_of_mem_toDigits (by decide) (by decide) hc
  have hline : ("    stmt.Bind(" ++ toString position ++ ", " ++ value ++ ");").toList =
      "    stmt.Bind(".toList ++
        (Nat.toDigits 10 position ++ (", ".toList ++ (value.toList ++ ");".toList))) := by
    simp only [String.toList_append, Nat.toString_eq_repr, Nat.toList_repr, List.append_assoc]
  have htake : (Nat.toDigits 10 position ++
      (", ".toList ++ (value.toList ++ ");".toList))).takeWhile Char.isDigit =
      Nat.toDigits 10 position := by
    rw [List.takeWhile_append_of_pos hdigits]
    simp
  have hdrop : (Nat.toDigits 10 position ++
      (", ".toList ++ (value.toList ++ ");".toList))).dropWhile Char.isDigit =
      ", ".toList ++ (value.toList ++ ");".toList) := by
    rw [List.dropWhile_append_of_pos hdigits]
    simp
  have hend : Text.dropHead? ");".toList.reverse (value.toList ++ ");".toList).reverse =
      some value.toList.reverse :=
    Text.dropHead?_eq_some_iff.mpr (List.reverse_append)
  simp only [readBind?, hline, Text.dropHead?_eq_some_iff.mpr rfl, Option.bind_eq_bind,
    Option.bind_some, htake, hdrop, hend, Nat.ofDigitChars_ten_toDigits, List.reverse_reverse,
    String.ofList_toList]
  rfl

theorem filterMap_bindCalls (position : Nat) (values : List String) :
    (bindCalls position values).filterMap readBind? =
      (List.range' position values.length).zip values := by
  induction values generalizing position with
  | nil => rfl
  | cons value rest ih =>
    rw [bindCalls, List.filterMap_cons_some (readBind_call position value), ih]
    rfl

-- A line that begins otherwise is no such call.
theorem readBind_eq_none {line : String} (h : line.toList.head? ≠ some ' ') :
    readBind? line = none := by
  have hspace : "    stmt.Bind(".toList = ' ' :: "   stmt.Bind(".toList := rfl
  cases hl : line.toList with
  | nil => simp [readBind?, hl, hspace, Text.dropHead?]
  | cons c rest =>
    have hc : ' ' ≠ c := by simpa [hl, eq_comm] using h
    simp [readBind?, hl, hspace, Text.dropHead?, hc]

-- The values that a row binds to the parameters of an insertion, with their numbers.
theorem filterMap_toInsertStatement (t : Table) :
    (toInsertStatement t).filterMap readBind? =
      (List.range' 1 (boundValues t).length).zip (boundValues t) := by
  simp only [toInsertStatement, block, List.cons_append, List.nil_append]
  have hhead : readBind? ("void " ++ t.rowClass ++
      "::to_insert_stmt(wxSQLite3Statement& stmt, int64 id) const") = none := by
    apply readBind_eq_none
    simp [String.toList_append]
  rw [List.filterMap_cons_none (by decide), List.filterMap_cons_none (by decide),
    List.filterMap_cons_none hhead, List.filterMap_cons_none (by decide), List.filterMap_append,
    filterMap_bindCalls, List.filterMap_cons_none (by decide), List.filterMap_nil,
    List.append_nil]

end TableForge.Code.TableImplementation
