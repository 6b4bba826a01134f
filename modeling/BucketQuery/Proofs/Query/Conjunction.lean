import BucketQuery.Query.Expression

set_option autoImplicit false

/-! # Conjunctions

A conjunction is written without parentheses, so its text does not say how it is nested. It says
what the conjuncts are (`text_eq_intercalate`), and these decide what the expression is once every
conjunction in it is nested to the right (`reassociate_eq_of_conjuncts`).
-/

namespace BucketQuery

namespace Expression

/-! ## Conjuncts -/

/-- Everything that is not a conjunction itself. -/
def IsConjunct : Expression → Prop
  | .and _ _ => False
  | _ => True

/-- Induction over the conjunctions at the top of an expression. -/
@[elab_as_elim]
theorem induction_conjuncts {motive : Expression → Prop}
    (conjunct : ∀ e, e.IsConjunct → motive e)
    (and : ∀ left right, motive left → motive right → motive (.and left right))
    (e : Expression) : motive e := by
  induction e with
  | and left right ihl ihr => exact and left right ihl ihr
  | _ => exact conjunct _ trivial

theorem conjuncts_of_isConjunct {e : Expression} (h : e.IsConjunct) : e.conjuncts = [e] := by
  cases e with
  | and left right => exact h.elim
  | _ => rfl

theorem isConjunct_of_mem_conjuncts {e c : Expression} (h : c ∈ e.conjuncts) : c.IsConjunct := by
  induction e using induction_conjuncts with
  | conjunct e he =>
      rw [conjuncts_of_isConjunct he, List.mem_singleton] at h
      exact h ▸ he
  | and left right ihl ihr =>
      rw [conjuncts, List.mem_append] at h
      exact h.elim ihl ihr

/-! ## Conjunctions nested to the right -/

/-- The conjunction of two expressions, nested to the right if they are. -/
def conjoin : Expression → Expression → Expression
  | .and left right, other => .and left (right.conjoin other)
  | first, other => .and first other

/-- The expression with every conjunction in it nested to the right. -/
def reassociate : Expression → Expression
  | .lower operand => .lower operand.reassociate
  | .contains whole part => .contains whole.reassociate part.reassociate
  | .compare left comparison right => .compare left.reassociate comparison right.reassociate
  | .check operand test => .check operand.reassociate test
  | .and left right => left.reassociate.conjoin right.reassociate
  | .or left right => .or left.reassociate right.reassociate
  | other => other

/-- The conjunction of a first expression and others, nested to the right. -/
def conjunction (first : Expression) : List Expression → Expression
  | [] => first
  | second :: rest => .and first (conjunction second rest)

theorem conjoin_of_isConjunct {first : Expression} (h : first.IsConjunct) (other : Expression) :
    first.conjoin other = .and first other := by
  cases first with
  | and left right => exact h.elim
  | _ => rfl

theorem conjoin_conjunction {first : Expression} {rest : List Expression}
    (hfirst : first.IsConjunct) (hrest : ∀ e ∈ rest, IsConjunct e) (other : Expression)
    (others : List Expression) :
    (conjunction first rest).conjoin (conjunction other others) =
      conjunction first (rest ++ other :: others) := by
  induction rest generalizing first with
  | nil => exact conjoin_of_isConjunct hfirst _
  | cons second rest ih =>
      rw [conjunction, conjoin, ih (hrest second List.mem_cons_self)
        fun e he => hrest e (List.mem_cons_of_mem _ he)]
      rfl

theorem isConjunct_reassociate {e : Expression} (h : e.IsConjunct) :
    e.reassociate.IsConjunct := by
  cases e with
  | and left right => exact h.elim
  | _ => trivial

/-- Nesting to the right keeps the conjuncts, each of them nested to the right itself. -/
theorem reassociate_eq_conjunction (e : Expression) :
    ∃ first rest, e.conjuncts = first :: rest ∧
      e.reassociate = conjunction first.reassociate (rest.map reassociate) := by
  induction e using induction_conjuncts with
  | conjunct e he => exact ⟨e, [], conjuncts_of_isConjunct he, rfl⟩
  | and left right ihl ihr =>
      -- both sides are chains, and joining them puts the second at the end of the first
      obtain ⟨first, rest, hleft, hnested⟩ := ihl
      obtain ⟨other, others, hright, hnested'⟩ := ihr
      have hconjunct : ∀ e ∈ first :: rest, e.reassociate.IsConjunct := by
        intro e he
        rw [← hleft] at he
        exact isConjunct_reassociate (isConjunct_of_mem_conjuncts he)
      refine ⟨first, rest ++ other :: others, ?_, ?_⟩
      · rw [conjuncts, hleft, hright, List.cons_append]
      · rw [reassociate, hnested, hnested', conjoin_conjunction, List.map_append, List.map_cons]
        · exact hconjunct first List.mem_cons_self
        · intro nested hmem
          obtain ⟨e, he, rfl⟩ := List.mem_map.mp hmem
          exact hconjunct e (List.mem_cons_of_mem _ he)

/-- The conjuncts decide what the expression is nested to the right. -/
theorem reassociate_eq_of_conjuncts {a b : Expression}
    (h : a.conjuncts.map reassociate = b.conjuncts.map reassociate) :
    a.reassociate = b.reassociate := by
  obtain ⟨first, rest, hconjuncts, hnested⟩ := reassociate_eq_conjunction a
  obtain ⟨other, others, hconjuncts', hnested'⟩ := reassociate_eq_conjunction b
  rw [hconjuncts, hconjuncts', List.map_cons, List.map_cons, List.cons.injEq] at h
  rw [hnested, hnested', h.1, h.2]

theorem conjuncts_ne_nil (e : Expression) : e.conjuncts ≠ [] := by
  obtain ⟨first, rest, hconjuncts, _⟩ := reassociate_eq_conjunction e
  rw [hconjuncts]
  exact List.cons_ne_nil _ _

/-! ## Texts -/

/-- The text of an expression joins the texts of its conjuncts. -/
theorem text_eq_intercalate (e : Expression) :
    e.text = " AND ".intercalate (e.conjuncts.map text) := by
  induction e using induction_conjuncts with
  | conjunct e he =>
      rw [conjuncts_of_isConjunct he, List.map_singleton, String.intercalate_singleton]
  | and left right ihl ihr =>
      have hleft : left.conjuncts.map text ≠ [] := mt List.map_eq_nil_iff.mp (conjuncts_ne_nil left)
      have hright : right.conjuncts.map text ≠ [] :=
        mt List.map_eq_nil_iff.mp (conjuncts_ne_nil right)
      rw [text, conjuncts, List.map_append, String.intercalate_append_of_ne_nil hleft hright,
        ← ihl, ← ihr]

end Expression

end BucketQuery
