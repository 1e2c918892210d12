import ComponentCanvas.Proofs.Script.Cursor

/-!
# Operands

A literal with a token behind it that ends a value runs through the rules of the grammar without
being changed: nothing calls or indexes it, no operator joins it, it is no arrow and nothing is
assigned to it.  Each rule takes one level of the depth to which the grammar is closed.
-/

namespace ComponentCanvas.Script.Parser

/-! ## Tokens around a value -/

/-- The tokens that end a value: a closing bracket, a comma, and the end of the text. -/
inductive Closes : Token → Prop
  | eof : Closes .eof
  | comma : Closes (.punct ",")
  | bracket : Closes (.punct "]")
  | brace : Closes (.punct "\x7d")

/-- The tokens that open a value without a sign. -/
inductive OpensLiteral : Token → Prop
  | string (s : String) : OpensLiteral (.string s)
  | number (raw : String) (x : Float) : OpensLiteral (.number raw x)
  | yes : OpensLiteral (.word "true" false)
  | no : OpensLiteral (.word "false" false)
  | bracket : OpensLiteral (.punct "[")
  | brace : OpensLiteral (.punct "\x7b")

/-- The tokens that open a value. -/
inductive OpensValue : Token → Prop
  | literal {t : Token} (h : OpensLiteral t) : OpensValue t
  | minus : OpensValue (.punct "-")

theorem Closes.isWord {t : Token} (h : Closes t) (name : String) : t.isWord name = false := by
  cases h <;> rfl

theorem Closes.isPunct {t : Token} (h : Closes t) (text : String)
    (hne : text ∉ [",", "]", "\x7d"]) : t.isPunct text = false := by
  simp only [List.mem_cons, List.not_mem_nil, or_false, not_or] at hne
  obtain ⟨h1, h2, h3⟩ := hne
  cases h <;> simp [Token.isPunct, Ne.symm h1, Ne.symm h2, Ne.symm h3]

theorem OpensLiteral.isWord {t : Token} (h : OpensLiteral t) (name : String)
    (hne : name ∉ ["true", "false"]) : t.isWord name = false := by
  simp only [List.mem_cons, List.not_mem_nil, or_false, not_or] at hne
  obtain ⟨h1, h2⟩ := hne
  cases h <;> simp [Token.isWord, Ne.symm h1, Ne.symm h2]

theorem OpensLiteral.isPunct {t : Token} (h : OpensLiteral t) (text : String)
    (hne : text ∉ ["[", "\x7b"]) : t.isPunct text = false := by
  simp only [List.mem_cons, List.not_mem_nil, or_false, not_or] at hne
  obtain ⟨h1, h2⟩ := hne
  cases h <;> simp [Token.isPunct, Ne.symm h1, Ne.symm h2]

theorem OpensValue.isWord {t : Token} (h : OpensValue t) (name : String)
    (hne : name ∉ ["true", "false"]) : t.isWord name = false := by
  cases h with
  | literal h => exact h.isWord name hne
  | minus => rfl

theorem OpensValue.isPunct {t : Token} (h : OpensValue t) (text : String)
    (hne : text ∉ ["[", "\x7b", "-"]) : t.isPunct text = false := by
  simp only [List.mem_cons, List.not_mem_nil, or_false, not_or] at hne
  obtain ⟨h1, h2, h3⟩ := hne
  cases h with
  | literal h => exact h.isPunct text (by simp [h1, h2])
  | minus => simp [Token.isPunct, Ne.symm h3]

/-- What ends a value is no operator that joins it to another one or assigns to it. -/
theorem operatorHere_of_closes {c : Cursor} (h : Closes c.token) :
    ∃ op, operatorHere c = .ok (op, c) ∧
      (op.bind fun op => infixOperators.find? (·.1 == op)) = none ∧
      op.filter assignmentOperators.contains = none := by
  rw [operatorHere, bind_of_ok (get_apply c)]
  generalize c.token = t at h
  cases h with
  | eof => exact ⟨none, rfl, rfl, rfl⟩
  | comma => exact ⟨some ",", rfl, by decide +kernel, by decide +kernel⟩
  | bracket => exact ⟨some "]", rfl, by decide +kernel, by decide +kernel⟩
  | brace => exact ⟨some "\x7d", rfl, by decide +kernel, by decide +kernel⟩

/-! ## From literals to expressions -/

variable {d : Nat} {c c' : Cursor} {e : Expr}

/-- A literal with nothing to call or index behind it. -/
theorem callee_of_primary (hopen : OpensLiteral c.token) (h : primary (grammar d) c = .ok (e, c'))
    (hclose : Closes c'.token) (hroom : c'.start ≤ c'.size) :
    grammar (d + 1) .callee c = .ok (e, c') := by
  have hnew := hopen.isWord "new" (by decide)
  have himport := hopen.isWord "import" (by decide)
  -- the loop of links stops in its first round
  have hstep : linkStep (grammar d) c.start true ⟨e, false⟩ c' = .ok (.inr ⟨e, false⟩, c') := by
    rw [linkStep, bind_of_ok (token_apply c')]
    generalize c'.token = t at hclose
    cases hclose <;> rfl
  have hlink := iterate_of_inr hstep (n := c'.size + 2 - c'.start) (by omega)
  show calleeStep (grammar d) c = _
  simp [calleeStep, bind_apply, repeating, hnew, himport, h, hlink]

/-- A literal with no operator in front of it or stepping it. -/
theorem unary_of_callee (hopen : OpensLiteral c.token) (h : grammar d .callee c = .ok (e, c'))
    (hclose : Closes c'.token) : grammar (d + 1) .unary c = .ok (e, c') := by
  -- no operator stands in front of the literal and none behind it
  have hop : unaryOperator? c.token = none := by
    generalize c.token = t at hopen
    cases hopen <;> rfl
  have hangle := hopen.isPunct "<" (by decide)
  have hup := hopen.isPunct "++" (by decide)
  have hdown := hopen.isPunct "--" (by decide)
  have hawait := hopen.isWord "await" (by decide)
  have hup' := hclose.isPunct "++" (by decide)
  have hdown' := hclose.isPunct "--" (by decide)
  show unaryStep (grammar d) c = _
  simp [unaryStep, isStep, bind_apply, hop, hangle, hup, hdown, hawait, h, hup', hdown',
    opensOperand, peekOnLine]

/-- A literal with a minus in front of it. -/
theorem unary_of_minus (ht : c.token = .punct "-")
    (h : grammar d .unary c.advance = .ok (e, c')) :
    grammar (d + 1) .unary c = .ok (.mk ⟨c.start, c'.previous⟩ (.unary .minus e), c') := by
  show unaryStep (grammar d) c = _
  simp [unaryStep, bind_apply, ht, unaryOperator?, h]

/-- An operand with no operator behind it. -/
theorem binary_of_unary (hopen : OpensValue c.token) (h : grammar d .unary c = .ok (e, c'))
    (hclose : Closes c'.token) (hroom : c'.start ≤ c'.size) (floor : Nat) :
    grammar (d + 1) (.binary floor) c = .ok (e, c') := by
  -- neither `as` and `satisfies` nor an infix operator stands behind the operand
  have hassertion : assertion? (grammar d) floor c.start e c' = .ok (none, c') := by
    simp [assertion?, bind_apply, hclose.isWord]
  obtain ⟨op, hop, hinfix, -⟩ := operatorHere_of_closes hclose
  have hrest : infixRest (grammar d) floor c.start e c' = .ok (e, c') := by
    rw [infixRest, repeating, bind_of_ok (bound_apply c')]
    apply iterate_of_inr _ (by omega)
    rw [bind_of_ok hassertion]
    dsimp only
    rw [bind_of_ok hop, hinfix]
    rfl
  show binaryStep (grammar d) floor c = _
  rw [binaryStep, bind_of_ok (position_apply c), bind_of_ok (token_apply c)]
  -- only a private name is read in another way here
  generalize c.token = t at hopen
  cases hopen with
  | literal hopen => cases hopen <;> exact (bind_of_ok h).trans hrest
  | minus => exact (bind_of_ok h).trans hrest

/-- An operand that is no arrow and that nothing is assigned to. -/
theorem assignment_of_binary (hopen : OpensValue c.token)
    (h : grammar d (.binary 0) c = .ok (e, c')) (hclose : Closes c'.token) (arrowReturns : Bool) :
    grammar (d + 1) (.assignment arrowReturns) c = .ok (e, c') := by
  have hyield := hopen.isWord "yield" (by decide)
  have hasync := hopen.isWord "async" (by decide)
  have hparen := hopen.isPunct "(" (by decide)
  have hangle := hopen.isPunct "<" (by decide)
  have harrow := hclose.isPunct "=>" (by decide)
  have hquestion := hclose.isPunct "?" (by decide)
  obtain ⟨op, hop, -, hassign⟩ := operatorHere_of_closes hclose
  -- both readings as an arrow decline before the plain operand is tried
  have hbracketed : bracketedArrow (grammar d) arrowReturns c = .ok (none, c) := by
    simp [bracketedArrow, arrowOutlook, bind_apply, hparen, hangle, hasync]
  have hlone : asyncLoneArrow (grammar d) arrowReturns c = .ok (none, c) := by
    simp [asyncLoneArrow, lookAhead, expectWord, eatWord, bind_apply, hasync, fail]
  have hoperand : assignmentFromOperand (grammar d) arrowReturns c = .ok (e, c') := by
    simp [assignmentFromOperand, bind_apply, h, harrow, hop, hassign, conditionalRest, hquestion]
  show assignmentStep (grammar d) arrowReturns c = _
  simp [assignmentStep, opensOperand, peekOnLine, bind_apply, hyield, hbracketed, hlone, hoperand]

/-- A literal that a value consists of, as an operand. -/
theorem unary_of_primary (hopen : OpensLiteral c.token) (h : primary (grammar d) c = .ok (e, c'))
    (hclose : Closes c'.token) (hroom : c'.start ≤ c'.size) :
    grammar (d + 2) .unary c = .ok (e, c') :=
  unary_of_callee hopen (callee_of_primary hopen h hclose hroom) hclose

/-- An operand that a value consists of, as an expression. -/
theorem assignment_of_unary (hopen : OpensValue c.token) (h : grammar d .unary c = .ok (e, c'))
    (hclose : Closes c'.token) (hroom : c'.start ≤ c'.size) (arrowReturns : Bool) :
    grammar (d + 2) (.assignment arrowReturns) c = .ok (e, c') :=
  assignment_of_binary hopen (binary_of_unary hopen h hclose hroom 0) hclose arrowReturns

end ComponentCanvas.Script.Parser
