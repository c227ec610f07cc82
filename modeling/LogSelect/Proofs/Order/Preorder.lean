import LogSelect.Proofs.Order.Place
import LogSelect.Query.Execute

/-!
The order of sorting is a total preorder on values.  A key has a place in its direction, and keys
are compared from left to right.
-/

namespace LogSelect

namespace Collation

variable {collation : Collation} {a b c : Value}

theorem order_ne_gt_iff (orderedLeft : a.IsOrdered) (orderedRight : b.IsOrdered) :
    collation.order a b ≠ .gt ↔ collation.place a ≤ collation.place b :=
  (order_compares orderedLeft orderedRight).ne_gt

theorem order_eq_lt_iff (orderedLeft : a.IsOrdered) (orderedRight : b.IsOrdered) :
    collation.order a b = .lt ↔ collation.place a < collation.place b :=
  (order_compares orderedLeft orderedRight).eq_lt

theorem order_eq_eq_iff (orderedLeft : a.IsOrdered) (orderedRight : b.IsOrdered) :
    collation.order a b = .eq ↔ collation.place a = collation.place b :=
  (order_compares orderedLeft orderedRight).eq_eq

theorem order_swap (orderedLeft : a.IsOrdered) (orderedRight : b.IsOrdered) :
    collation.order a b = (collation.order b a).swap := by
  rw [order_eq_cmp orderedLeft orderedRight, order_eq_cmp orderedRight orderedLeft, cmp_swap]

theorem order_self (collation : Collation) (v : Value) : collation.order v v = .eq := by
  by_cases ordered : v.IsOrdered
  · exact (order_eq_eq_iff ordered ordered).2 rfl
  · rw [not_not.1 ordered]
    rfl

theorem order_eq_compare {m n : Number} (readLeft : a.number? = some m)
    (readRight : b.number? = some n) : collation.order a b = m.compare n := by
  have presentLeft : a ≠ .missing := by
    rintro rfl
    cases readLeft
  have presentRight : b ≠ .missing := by
    rintro rfl
    cases readRight
  rw [order_of_ne_missing presentLeft presentRight, comparePresent, readLeft, readRight]
  rfl

/-- Sorting by a collation is a total preorder on all values but the number that is none.  Strict
steps stay strict, and what reads as a number stands by its exact value. -/
theorem order_totalPreorder (collation : Collation) :
    (∀ a b : Value, a.IsOrdered → b.IsOrdered →
        collation.order a b = (collation.order b a).swap) ∧
      (∀ a : Value, a.IsOrdered → collation.order a a = .eq) ∧
      (∀ a b c : Value, a.IsOrdered → b.IsOrdered → c.IsOrdered →
        collation.order a b ≠ .gt → collation.order b c ≠ .gt →
          collation.order a c ≠ .gt ∧
            (collation.order a b = .lt ∨ collation.order b c = .lt → collation.order a c = .lt)) ∧
      ∀ (a b : Value) (m n : Number), a.IsOrdered → b.IsOrdered →
        a.number? = some m → b.number? = some n →
          collation.order a b = cmp m.exact n.exact := by
  refine ⟨fun a b => order_swap, ?_, ?_, ?_⟩
  · intro a ordered
    exact (order_eq_eq_iff ordered ordered).2 rfl
  · intro a b c ordered ordered' ordered'' notGreater notGreater'
    have le := (order_ne_gt_iff ordered ordered').1 notGreater
    have le' := (order_ne_gt_iff ordered' ordered'').1 notGreater'
    refine ⟨(order_ne_gt_iff ordered ordered'').2 (le.trans le'), ?_⟩
    rintro (less | less)
    · have lt := (order_eq_lt_iff ordered ordered').1 less
      exact (order_eq_lt_iff ordered ordered'').2 (lt.trans_le le')
    · have lt := (order_eq_lt_iff ordered' ordered'').1 less
      exact (order_eq_lt_iff ordered ordered'').2 (le.trans_lt lt)
  · intro a b m n ordered ordered' reads reads'
    rw [order_eq_compare reads reads']
    exact (Number.compare_compares (Value.isOrdered_of_number? ordered reads)
      (Value.isOrdered_of_number? ordered' reads')).cmp_eq.symm

/-- Nine comes before ten by value, ten before a text that is no numeral. -/
theorem order_totalPreorder_mixed :
    let nine : Value := .text "9"
    let ten : Value := .number (.int 10)
    let other : Value := .text "1a"
    (nine.IsOrdered ∧ ten.IsOrdered ∧ other.IsOrdered) ∧
      order .exact nine ten = .lt ∧ order .exact ten other = .lt ∧
      order .exact nine other = .lt ∧ order .exact other nine = .gt := by
  intro nine ten other
  have ordered : nine.IsOrdered ∧ ten.IsOrdered ∧ other.IsOrdered := by decide
  have first : order .exact nine ten = .lt := by decide +kernel
  have second : order .exact ten other = .lt := by decide +kernel
  obtain ⟨swap, _, trans, _⟩ := order_totalPreorder .exact
  have whole := (trans nine ten other ordered.1 ordered.2.1 ordered.2.2 (by simp [first])
    (by simp [second])).2 (.inl first)
  refine ⟨ordered, first, second, whole, ?_⟩
  rw [swap other nine ordered.2.2 ordered.1, whole]
  rfl

end Collation

/-! ## Rows of sort keys -/

/-- The places of a key, in one order for both directions. -/
abbrev KeyPlace :=
  Place ⊕ₗ Placeᵒᵈ

namespace Query

def keyPlace : Direction → Place → KeyPlace
  | .ascending, place => Sum.inlₗ place
  | .descending, place => Sum.inrₗ (OrderDual.toDual place)

def keyPlaces (collation : Collation) (directions : List Direction) (values : List Value) :
    List KeyPlace :=
  List.zipWith (fun direction v => keyPlace direction (collation.place v)) directions values

theorem keyPlace_compares {order : Ordering} {x y : Place} (direction : Direction)
    (compares : order.Compares x y) :
    (Direction.apply direction order).Compares (keyPlace direction x) (keyPlace direction y) := by
  cases direction with
  | ascending => exact Sum.Lex.inl_strictMono.compares.2 compares
  | descending =>
    exact Sum.Lex.inr_strictMono.compares.2
      (toDual_compares_toDual.2 (Ordering.compares_swap.2 compares))

theorem compareKeys_cons (collation : Collation) (direction : Direction)
    (directions : List Direction) (a b : Value) (as bs : List Value) :
    compareKeys collation (direction :: directions) (a :: as) (b :: bs) =
      (Direction.apply direction (collation.order a b)).then
        (compareKeys collation directions as bs) := by
  rw [compareKeys]
  cases collation.order a b <;> cases direction <;> rfl

end Query

end LogSelect
