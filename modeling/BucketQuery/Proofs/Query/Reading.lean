import BucketQuery.Proofs.Filter.Satisfaction
import BucketQuery.Proofs.Query.Expression

set_option autoImplicit false

/-! # What the text of an expression decides

Nesting conjunctions to the right changes nothing that an expression owes to its operands alone,
as long as it does not matter how three expressions are joined (`IgnoresNesting`): neither the text
nor the parameters nor what the expression yields. Well-formed expressions with the same text are
the same once they are nested to the right, so they agree in all of that (`text_eq_iff_reassociate`).
-/

namespace BucketQuery

namespace Expression

/-! ## Right-nested expressions -/

/-- Nowhere in the expression a conjunction starts with a conjunction. -/
def RightNested : Expression → Prop
  | .path _ | .parameter _ | .literal _ | .documentId _ => True
  | .lower operand | .check operand _ => operand.RightNested
  | .contains left right | .or left right | .compare left _ right =>
    left.RightNested ∧ right.RightNested
  | .and left right => left.IsConjunct ∧ left.RightNested ∧ right.RightNested

theorem rightNested_conjoin {first other : Expression} (hfirst : first.RightNested)
    (hother : other.RightNested) : (first.conjoin other).RightNested := by
  induction first with
  | and left right _ ih => exact ⟨hfirst.1, hfirst.2.1, ih hfirst.2.2⟩
  | _ => exact ⟨trivial, hfirst, hother⟩

/-- **Reassociating nests every conjunction to the right.** -/
theorem rightNested_reassociate (e : Expression) : e.reassociate.RightNested := by
  induction e with
  | path _ | parameter _ | literal _ | documentId _ => trivial
  | lower operand ih | check operand _ ih => exact ih
  | contains left right ihl ihr | or left right ihl ihr | compare left _ right ihl ihr =>
      exact ⟨ihl, ihr⟩
  | and left right ihl ihr => exact rightNested_conjoin ihl ihr

/-- What is nested to the right stays as it is. -/
theorem reassociate_of_rightNested {e : Expression} (h : e.RightNested) : e.reassociate = e := by
  induction e with
  | path _ | parameter _ | literal _ | documentId _ => rfl
  | lower operand ih | check operand _ ih => rw [reassociate, ih h]
  | contains left right ihl ihr | or left right ihl ihr | compare left _ right ihl ihr =>
      rw [reassociate, ihl h.1, ihr h.2]
  | and left right ihl ihr =>
      rw [reassociate, ihl h.2.1, ihr h.2.2, conjoin_of_isConjunct h.1]

/-! ## What nesting does not change -/

/-- What is asked of an expression depends on the answers for its operands only, and it does not
matter how a conjunction of three expressions is nested. -/
structure IgnoresNesting {β : Type} (f : Expression → β) : Prop where
  lower {a b : Expression} (h : f a = f b) : f (.lower a) = f (.lower b)
  check {a b : Expression} (test : Check) (h : f a = f b) : f (.check a test) = f (.check b test)
  contains {a b c d : Expression} (h : f a = f b) (h' : f c = f d) :
    f (.contains a c) = f (.contains b d)
  compare {a b c d : Expression} (comparison : Comparison) (h : f a = f b) (h' : f c = f d) :
    f (.compare a comparison c) = f (.compare b comparison d)
  or {a b c d : Expression} (h : f a = f b) (h' : f c = f d) : f (.or a c) = f (.or b d)
  and {a b c d : Expression} (h : f a = f b) (h' : f c = f d) : f (.and a c) = f (.and b d)
  assoc (a b c : Expression) : f (.and (.and a b) c) = f (.and a (.and b c))

theorem IgnoresNesting.conjoin {β : Type} {f : Expression → β} (hf : IgnoresNesting f)
    (first other : Expression) : f (first.conjoin other) = f (.and first other) := by
  induction first with
  | and left right _ ih => exact (hf.and rfl ih).trans (hf.assoc left right other).symm
  | _ => rfl

/-- **What ignores nesting is not changed by nesting to the right.** -/
theorem IgnoresNesting.reassociate {β : Type} {f : Expression → β} (hf : IgnoresNesting f)
    (e : Expression) : f e.reassociate = f e := by
  induction e with
  | path _ | parameter _ | literal _ | documentId _ => rfl
  | lower operand ih => exact hf.lower ih
  | check operand test ih => exact hf.check test ih
  | contains whole part ihw ihp => exact hf.contains ihw ihp
  | compare left comparison right ihl ihr => exact hf.compare comparison ihl ihr
  | or left right ihl ihr => exact hf.or ihl ihr
  | and left right ihl ihr => exact (hf.conjoin _ _).trans (hf.and ihl ihr)

theorem ignoresNesting_text : IgnoresNesting text where
  lower h := by rw [text, text, h]
  check _ h := by rw [text, text, h]
  contains h h' := by rw [text, text, h, h']
  compare _ h h' := by rw [text, text, h, h']
  or h h' := by rw [text, text, h, h']
  and h h' := by rw [text, text, h, h']
  assoc a b c := by simp only [text, String.append_assoc]

theorem ignoresNesting_parameters : IgnoresNesting parameters where
  lower h := h
  check _ h := h
  contains h h' := by rw [parameters, parameters, h, h']
  compare _ h h' := by rw [parameters, parameters, h, h']
  or h h' := by rw [parameters, parameters, h, h']
  and h h' := by rw [parameters, parameters, h, h']
  assoc a b c := by simp only [parameters, List.append_assoc]

theorem ignoresNesting_evaluate (scope : Scope) : IgnoresNesting (evaluate scope) where
  lower h := by rw [evaluate, evaluate, h]
  check _ h := by rw [evaluate, evaluate, h]
  contains h h' := by rw [evaluate, evaluate, h, h']
  compare _ h h' := by rw [evaluate, evaluate, h, h']
  or h h' := by rw [evaluate, evaluate, h, h']
  and h h' := by rw [evaluate, evaluate, h, h']
  assoc a b c := by simp only [evaluate, Outcome.isTrue_ofBool, Bool.and_assoc]

theorem conjuncts_conjoin (first other : Expression) :
    (first.conjoin other).conjuncts = first.conjuncts ++ other.conjuncts := by
  induction first with
  | and left right _ ih => rw [conjoin, conjuncts, conjuncts, ih, List.append_assoc]
  | _ => rfl

theorem conjuncts_reassociate (e : Expression) :
    e.reassociate.conjuncts = e.conjuncts.map reassociate := by
  induction e using induction_conjuncts with
  | conjunct e he =>
      rw [conjuncts_of_isConjunct (isConjunct_reassociate he), conjuncts_of_isConjunct he,
        List.map_singleton]
  | and left right ihl ihr =>
      rw [reassociate, conjuncts_conjoin, ihl, ihr, conjuncts, List.map_append]

/-- The texts of the conjuncts are the same, too. -/
theorem map_text_conjuncts_reassociate (e : Expression) :
    e.reassociate.conjuncts.map text = e.conjuncts.map text := by
  rw [conjuncts_reassociate, List.map_map]
  exact List.map_congr_left fun c _ => ignoresNesting_text.reassociate c

/-! ## Reading back -/

theorem ends_nil : Ends [] := ⟨trivial, by simp⟩

theorem reassociate_eq_of_text {a b : Expression} (ha : a.WellFormed) (hb : b.WellFormed)
    (h : a.text = b.text) : a.reassociate = b.reassociate :=
  (legible ha b ⟨trivial, hb⟩ [] [] ends_nil ends_nil (by rw [h])).1

/-- **The text of a well-formed expression says which one it is**, up to the nesting of
conjunctions at any depth: with every conjunction nested to the right, expressions with the same
text are the same. So they have the same conjuncts in writing and the same parameters, and they
yield the same in every scope. -/
theorem text_eq_iff_reassociate {a b : Expression} (ha : a.WellFormed) (hb : b.WellFormed) :
    a.reassociate.RightNested ∧ (a.RightNested → a.reassociate = a) ∧
    (a.text = b.text ↔ a.reassociate = b.reassociate) ∧
    (a.text = b.text → a.conjuncts.map text = b.conjuncts.map text ∧
      a.parameters = b.parameters ∧ ∀ scope, a.evaluate scope = b.evaluate scope) := by
  have hnested := reassociate_eq_of_text ha hb
  refine ⟨rightNested_reassociate a, reassociate_of_rightNested, ⟨hnested, fun h => ?_⟩,
    fun h => ⟨?_, ?_, fun scope => ?_⟩⟩
  · rw [← ignoresNesting_text.reassociate a, h, ignoresNesting_text.reassociate]
  · rw [← map_text_conjuncts_reassociate a, hnested h, map_text_conjuncts_reassociate]
  · rw [← ignoresNesting_parameters.reassociate a, hnested h,
      ignoresNesting_parameters.reassociate]
  · rw [← (ignoresNesting_evaluate scope).reassociate a, hnested h,
      (ignoresNesting_evaluate scope).reassociate]

/-- A disjunction in which three conjuncts, with names that look like words of the language, are
nested to the left. -/
def nestedLeft : Expression :=
  .or (.and (.and (.path "AND") (.check (.path "IS NULL") .isNull)) (.lower (.parameter "LOWER")))
    (.literal ") OR (")

/-- The same with the conjuncts nested to the right. -/
def nestedRight : Expression :=
  .or (.and (.path "AND") (.and (.check (.path "IS NULL") .isNull) (.lower (.parameter "LOWER"))))
    (.literal ") OR (")

/-- The two are different expressions with the same text. -/
theorem text_nestedLeft :
    nestedLeft.WellFormed ∧ nestedRight.WellFormed ∧ nestedLeft ≠ nestedRight ∧
    nestedLeft.text = nestedRight.text ∧ nestedLeft.reassociate = nestedRight.reassociate ∧
    nestedLeft.parameters = nestedRight.parameters ∧
    nestedRight.RightNested ∧ nestedRight.reassociate = nestedRight := by
  have hleft : nestedLeft.WellFormed := by
    simp [nestedLeft, WellFormed, IsOperand]
  have hright : nestedRight.WellFormed := by
    simp [nestedRight, WellFormed, IsOperand]
  have hnested : nestedRight.RightNested := by
    simp [nestedRight, RightNested, IsConjunct]
  obtain ⟨-, -, htext, hagree⟩ := text_eq_iff_reassociate hleft hright
  obtain ⟨-, hself, -⟩ := text_eq_iff_reassociate hright hleft
  have heq : nestedLeft.text = nestedRight.text := htext.mpr rfl
  exact ⟨hleft, hright, by decide, heq, htext.mp heq, (hagree heq).2.1, hnested, hself hnested⟩

end Expression

end BucketQuery
