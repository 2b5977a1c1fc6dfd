import TableForge.Code.TableImplementation
import TableForge.Proofs.Query.Format
import TableForge.Proofs.Text.Lines

namespace TableForge.Code

open StringLiteral

-- A text that fills a slot of a format when the generated code runs: one whose translation is
-- looked up, or one of wide characters.
inductive SlotText where
  | translated (s : List Char)
  | wide (s : List Char)
  deriving DecidableEq, Repr

namespace SlotText

-- What a literal is to put into its slot.
def ofLiteral? : Literal → Option SlotText
  | .plain _ => none
  | .localized s => some (.translated s.toList)
  | .wide s => some (.wide (Text.double '\'' s.toList))

def map (f : List Char → List Char) : SlotText → SlotText
  | .translated s => .translated (f s)
  | .wide s => .wide (f s)

end SlotText

theorem StringLiteral.length_lt_of_readBody {u s rest : List Char}
    (h : readBody u = some (s, rest)) : rest.length < u.length := by
  have hlater {v : List Char} {f : List Char × List Char → List Char × List Char}
      {s rest : List Char} (hread : (readBody v).map f = some (s, rest))
      (hf : ∀ found, (f found).2 = found.2) : ∃ s', readBody v = some (s', rest) := by
    obtain ⟨⟨s', after⟩, hv, heq⟩ := Option.map_eq_some_iff.mp hread
    have hrest := hf (s', after)
    rw [heq] at hrest
    obtain rfl : rest = after := hrest
    exact ⟨s', hv⟩
  fun_induction readBody u generalizing s with
  | case1 => cases h
  | case2 later ih | case3 later ih | case4 later ih =>
    obtain ⟨s', hs⟩ := hlater h fun _ => rfl
    have hlt := ih hs
    simp only [List.length_cons]
    omega
  | case5 =>
    obtain ⟨-, rfl⟩ := Prod.mk.inj (Option.some.inj h)
    simp
  | case6 => cases h
  | case7 c later _ _ _ _ _ ih =>
    obtain ⟨s', hs⟩ := hlater h fun _ => rfl
    exact Nat.lt_succ_of_lt (ih hs)

namespace TableImplementation

-- The argument at the front of a text, and what follows it.
def readArgument? : List Char → Option (SlotText × List Char)
  | 'L' :: '"' :: rest => (readBody rest).map fun (s, after) => (.wide s, after)
  | '_' :: '(' :: '"' :: rest =>
    match readBody rest with
    | some (s, ')' :: after) => some (.translated s, after)
    | _ => none
  | _ => none

theorem length_lt_of_readArgument {s rest : List Char} {x : SlotText}
    (h : readArgument? s = some (x, rest)) : rest.length < s.length := by
  unfold readArgument? at h
  split at h
  · obtain ⟨⟨text, after⟩, hread, heq⟩ := Option.map_eq_some_iff.mp h
    obtain ⟨-, rfl⟩ := Prod.mk.inj heq
    have hlt := length_lt_of_readBody hread
    simp only [List.length_cons]
    omega
  · split at h
    · rename_i hread
      obtain ⟨-, rfl⟩ := Prod.mk.inj (Option.some.inj h)
      have hlt := length_lt_of_readBody hread
      simp only [List.length_cons] at hlt ⊢
      omega
    · cases h
  · cases h

-- Arguments behind the first one of a call, up to the parenthesis that ends it.
def readArguments? (s : List Char) : Option (List SlotText) :=
  match s with
  | [')'] => some []
  | ',' :: ' ' :: rest =>
    match _h : readArgument? rest with
    | some (x, after) => (readArguments? after).map (x :: ·)
    | none => none
  | _ => none
termination_by s.length
decreasing_by
  have := length_lt_of_readArgument _h
  simp only [List.length_cons]
  omega

-- The statement of an insertion and the texts for its slots. A statement without slots is a string
-- literal alone.
def readExpression? (s : List Char) : Option (List Char × List SlotText) :=
  match Text.dropHead? "wxString::Format(\"".toList s with
  | none => (decode? s).map (·, [])
  | some rest => do
    let (statement, after) ← readBody rest
    return (statement, ← readArguments? after)

-- What a line executes.
def readExecution? (line : String) : Option (List Char × List SlotText) := do
  readExpression? (← Text.between? "    m_db->ExecuteUpdate(" ");" line).toList

section Reading

variable {l : Literal} {ls : List Literal} {argument : String} {x : SlotText}

theorem argument_eq_none_iff : l.argument? = none ↔ SlotText.ofLiteral? l = none := by
  cases l <;> simp [Literal.argument?, SlotText.ofLiteral?]

theorem readArgument_append (ha : l.argument? = some argument)
    (hx : SlotText.ofLiteral? l = some x) (rest : List Char) :
    readArgument? (argument.toList ++ rest) = some (x.map (foldLines none), rest) := by
  cases l with
  | plain token => cases ha
  | localized s =>
    obtain rfl := Option.some.inj ha
    obtain rfl := Option.some.inj hx
    have htext : ("_(" ++ render s ++ ")").toList ++ rest =
        '_' :: '(' :: '"' :: ((foldLines none s.toList).flatMap escapeChar ++ '"' :: ')' :: rest) := by
      simp [render, encode]
    rw [htext, readArgument?, readBody_escape (oneLine_foldLines _ _)]
    rfl
  | wide s =>
    obtain rfl := Option.some.inj ha
    obtain rfl := Option.some.inj hx
    have htext : ("L" ++ render (String.ofList (Text.double '\'' s.toList))).toList ++ rest =
        'L' :: '"' :: ((foldLines none (Text.double '\'' s.toList)).flatMap escapeChar ++
          '"' :: rest) := by
      simp [render, encode]
    rw [htext, readArgument?, readBody_escape (oneLine_foldLines _ _)]
    rfl

theorem readArguments_flatMap (ls : List Literal) :
    readArguments? ((ls.filterMap Literal.argument?).flatMap (fun a => ", ".toList ++ a.toList) ++
        [')']) =
      some ((ls.filterMap SlotText.ofLiteral?).map (SlotText.map (foldLines none))) := by
  induction ls with
  | nil =>
    rw [List.filterMap_nil, List.filterMap_nil, List.flatMap_nil, List.nil_append, readArguments?]
    rfl
  | cons l ls ih =>
    cases hx : SlotText.ofLiteral? l with
    | none => rw [List.filterMap_cons_none hx, List.filterMap_cons_none (argument_eq_none_iff.mpr hx), ih]
    | some x =>
      obtain ⟨argument, ha⟩ : ∃ argument, l.argument? = some argument := by
        rw [← Option.ne_none_iff_exists']
        intro hnone
        rw [argument_eq_none_iff.mp hnone] at hx
        cases hx
      have hread := readArgument_append ha hx
        ((ls.filterMap Literal.argument?).flatMap (fun a => ", ".toList ++ a.toList) ++ [')'])
      rw [List.filterMap_cons_some hx, List.filterMap_cons_some ha, List.flatMap_cons,
        List.append_assoc, List.append_assoc]
      show readArguments? (',' :: ' ' :: (argument.toList ++ _)) = _
      rw [readArguments?]
      split
      · rename_i y after hfound
        rw [hread] at hfound
        obtain ⟨rfl, rfl⟩ := Prod.mk.inj (Option.some.inj hfound)
        rw [ih, Option.map_some, List.map_cons]
      · rename_i hnone
        rw [hread] at hnone
        cases hnone

-- The line for a row is read back: its statement, and the texts for the slots of this, each of
-- them brought onto one line.
theorem readExecution_seedCall (s : SeedInsert) :
    readExecution? (seedCall s) = some (foldLines none s.text.toList,
      (s.literals.filterMap SlotText.ofLiteral?).map (SlotText.map (foldLines none))) := by
  have hexpression : Text.between? "    m_db->ExecuteUpdate(" ");" (seedCall s) =
      some (seedExpression s) := by
    rw [Text.between?_eq_some_iff]
    rfl
  rw [readExecution?, hexpression, Option.bind_eq_bind, Option.bind_some, seedExpression]
  by_cases hformatted : s.isFormatted = true
  · have hsome : s.arguments ≠ [] := by
      obtain ⟨l, hl, hwrapped⟩ := List.any_eq_true.mp hformatted
      obtain ⟨argument, ha⟩ : ∃ argument, l.argument? = some argument := by
        cases l with
        | plain token => cases hwrapped
        | localized x => exact ⟨_, rfl⟩
        | wide x => exact ⟨_, rfl⟩
      exact List.ne_nil_of_mem (List.mem_filterMap.mpr ⟨l, hl, ha⟩)
    have htext : ("wxString::Format(" ++ render s.text ++ ", " ++ Text.join ", " s.arguments ++
        ")").toList = "wxString::Format(\"".toList ++ ((foldLines none s.text.toList).flatMap
          escapeChar ++ '"' :: (s.arguments.flatMap (fun a => ", ".toList ++ a.toList) ++ [')'])) := by
      rw [← Text.toList_append_join hsome]
      simp [render, encode]
    have harguments := readArguments_flatMap s.literals
    rw [if_pos hformatted, htext, readExpression?, Text.dropHead?_eq_some_iff.mpr rfl]
    simp only [readBody_escape (oneLine_foldLines _ _), Option.bind_eq_bind, Option.bind_some]
    rw [SeedInsert.arguments, harguments]
    rfl
  · have hnone : s.literals.filterMap SlotText.ofLiteral? = [] := by
      rw [List.filterMap_eq_nil_iff]
      intro l hl
      cases l with
      | plain token => rfl
      | localized x => exact absurd (List.any_eq_true.mpr ⟨_, hl, rfl⟩) hformatted
      | wide x => exact absurd (List.any_eq_true.mpr ⟨_, hl, rfl⟩) hformatted
    have hhead : Text.dropHead? "wxString::Format(\"".toList (render s.text).toList = none := by
      have hquote : (render s.text).toList.head? = some '"' := by
        rw [render, String.toList_ofList]
        rfl
      rw [Option.eq_none_iff_forall_ne_some]
      intro rest hrest
      rw [Text.dropHead?_eq_some_iff.mp hrest, List.head?_append_of_ne_nil _ (by decide)] at hquote
      exact absurd hquote (by decide)
    rw [if_neg hformatted, readExpression?, hhead, hnone]
    simp only [decode_render, Option.map_some, List.map_nil]

end Reading

end TableImplementation

end TableForge.Code
