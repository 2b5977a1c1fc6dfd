import TableForge.Script.Statement.Reader

-- How a comparison of a name with a literal is read.
namespace TableForge.Script.Expr

open Reader

-- Words that begin an expression of their own kind.
def BareName (w : String) : Prop :=
  isReserved w = false ∧ clockWords.any (Text.sameLetters w) = false ∧ isExpressionWord w = false

instance (w : String) : Decidable (BareName w) := inferInstanceAs (Decidable (_ ∧ _))

section Steps

variable {α β : Type} (l : Lexeme) (s : List Lexeme)

@[simp] theorem run_pure (a : α) : (pure a : Reader α) s = some (a, s) := rfl

@[simp] theorem run_bind (p : Reader α) (f : α → Reader β) :
    (p >>= f) s = (p s).bind fun step => f step.1 step.2 := rfl

@[simp] theorem run_map (f : α → β) (p : Reader α) :
    (f <$> p) s = (p s).map fun step => (f step.1, step.2) := by
  cases h : p s <;> simp [Functor.map, StateT.map, h]

@[simp] theorem run_symbol? (k : String) :
    symbol? k (l :: s) =
      if l.token == .symbol k then some (true, s) else some (false, l :: s) := rfl

@[simp] theorem run_keyword? (k : String) :
    keyword? k (l :: s) = if isWord k l.token then some (true, s) else some (false, l :: s) := rfl

@[simp] theorem run_next (f : Token → Option α) :
    next f (l :: s) = (f l.token).map (·, s) := rfl

@[simp] theorem run_discard_next : discard (next some) (l :: s) = some ((), s) := rfl

@[simp] theorem run_peek : peek (l :: s) = some (some l.token, l :: s) := rfl

end Steps

variable {l sign r m : Lexeme} {s : List Lexeme}

theorem operand_name (fuel : Nat) {w : String} (hl : l.token = .word w) (hw : BareName w)
    (hsign : sign.token = .symbol "=") :
    operand (fuel + 1) (l :: sign :: s) = some (.name [] w .bare, sign :: s) := by
  obtain ⟨hreserved, hclock, hkind⟩ := hw
  have hfree {k : String} (hk : k ∈ reservedWords) : Text.sameLetters w k = false :=
    eq_false_of_ne_true (List.any_eq_false.mp hreserved k hk)
  have hnot := hfree (k := "NOT") (by decide)
  have hcase := hfree (k := "CASE") (by decide)
  have hexists := hfree (k := "EXISTS") (by decide)
  have hliteral : literalOf? (.word w) = none := by
    simp only [literalOf?, hfree (k := "NULL") (by decide), hclock, Bool.false_eq_true, if_false]
  have hquoting : quotingOf? (.word w) = some (w, .bare) := by
    simp only [quotingOf?, hreserved, Bool.false_eq_true, if_false]
  simp [operand, hl, hsign, isWord, hnot, hcase, hexists, hliteral, hquoting,
    hkind]

theorem operand_text (fuel : Nat) {t : String} (hl : l.token = .text t)
    (hm : m.token = .symbol ";") :
    operand (fuel + 1) (l :: m :: s) = some (.literal (.ofText t), m :: s) := by
  simp [operand, hl, hm, isWord, literalOf?, Datum.ofText]

theorem operand_null (fuel : Nat) (hl : l.token = .word "NULL") :
    operand (fuel + 1) (l :: s) = some (.literal .null, s) := by
  have hnull : literalOf? (.word "NULL") = some (.literal .null) := rfl
  have hnot : isWord "NOT" (.word "NULL") = false := by decide
  have hcase : isWord "CASE" (.word "NULL") = false := by decide
  have hexists : isWord "EXISTS" (.word "NULL") = false := by decide
  simp [operand, hl, hnull, hnot, hcase, hexists]

-- No operator follows at the end of a statement.
theorem operators_end (fuel level : Nat) (left : Expr) (hm : m.token = .symbol ";") :
    operators (fuel + 2) level left (m :: s) = some (left, m :: s) := by
  have hop : operatorOf? (.symbol ";") = none := by decide
  have harrow : arrowOf? (.symbol ";") = none := by decide
  have hmember : membership (fuel + 1) left (m :: s) = some (none, m :: s) := by
    simp [membership, hm, isWord, patternTestOf?]
  rw [operators]
  by_cases hlevel : 4 < level
  · simp [hm, hop, harrow, isWord, hlevel]
  · simp [hm, hop, harrow, isWord, hlevel, hmember]

-- A name, an equality sign and a literal in front of the end of a statement are a comparison.
theorem read_comparison {w : String} {d : Datum} (hl : l.token = .word w) (hw : BareName w)
    (hsign : sign.token = .symbol "=") (hm : m.token = .symbol ";")
    (hright : ∀ fuel, operand (fuel + 1) (r :: m :: s) = some (.literal d, m :: s)) :
    read (l :: sign :: r :: m :: s) =
      some (.binary .eq (.name [] w .bare) (.literal d), m :: s) := by
  have hvalue (fuel : Nat) : expr (fuel + 3) 5 (r :: m :: s) = some (.literal d, m :: s) := by
    simp [expr, hright, operators_end fuel 5 _ hm]
  have hop : operatorOf? (.symbol "=") = some (.eq, 4) := by decide
  have hall (fuel : Nat) : expr (fuel + 5) 0 (l :: sign :: r :: m :: s) =
      some (.binary .eq (.name [] w .bare) (.literal d), m :: s) := by
    have hleft := operand_name (s := r :: m :: s) (fuel + 3) hl hw hsign
    rw [expr]
    simp only [run_bind, hleft, Option.bind_some]
    rw [operators]
    simp [hsign, hop, hvalue, binaryOf, operators_end, hm]
  obtain ⟨n, hn⟩ : ∃ n, 7 * ((l :: sign :: r :: m :: s).length + 1) = n + 5 :=
    ⟨7 * ((l :: sign :: r :: m :: s).length + 1) - 5, by simp; omega⟩
  simp only [read, run_bind, Reader.fuel, Option.bind_some, hn, hall]
  simp [height, heightLimit]

end TableForge.Script.Expr
