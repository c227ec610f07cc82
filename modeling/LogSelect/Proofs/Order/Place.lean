import Mathlib.Data.List.Lex
import Mathlib.Data.Sum.Order
import LogSelect.Collation
import LogSelect.Proofs.Order.Exact

/-!
The order of sorting as a linear order of places.

A value has a place: missing values first, then what reads as a number by its exact value, then all
other texts by their code points.  The order of two values is the order of their places, so it is
total and transitive for every mix of kinds.
-/

namespace LogSelect

/-- Where a value can stand: in front, among the numbers, or among the texts behind them. -/
abbrev Place :=
  WithBot (ExtendedRat ⊕ₗ List ℕ)

def codePoints (s : String) : List ℕ :=
  s.toList.map Char.toNat

theorem compares_cons {α : Type} [LinearOrder α] {first others : Ordering} {x y : α}
    {xs ys : List α} (compares : first.Compares x y) (comparesRest : others.Compares xs ys) :
    (first.then others).Compares (x :: xs) (y :: ys) := by
  cases first with
  | lt => exact List.cons_lt_cons_iff.2 (.inl compares)
  | gt => exact List.cons_lt_cons_iff.2 (.inl compares)
  | eq =>
    obtain rfl : x = y := compares
    cases others with
    | lt => exact List.cons_lt_cons_iff.2 (.inr ⟨rfl, comparesRest⟩)
    | eq => exact congrArg (List.cons x) comparesRest
    | gt => exact List.cons_lt_cons_iff.2 (.inr ⟨rfl, comparesRest⟩)

theorem compareCodes_compares (s t : List Char) :
    (compareCodes s t).Compares (s.map Char.toNat) (t.map Char.toNat) := by
  induction s generalizing t with
  | nil =>
    cases t with
    | nil => rfl
    | cons d t => exact List.nil_lt_cons _ _
  | cons c s ih =>
    cases t with
    | nil => exact List.nil_lt_cons _ _
    | cons d t =>
      simp only [compareCodes]
      split
      · rename_i less
        exact compares_cons (show Ordering.lt.Compares _ _ from less) (ih t)
      · split
        · rename_i _ greater
          exact compares_cons (show Ordering.gt.Compares _ _ from greater) (ih t)
        · rename_i notLess notGreater
          have same : c.toNat = d.toNat := by omega
          exact compares_cons (show Ordering.eq.Compares _ _ from same) (ih t)

namespace Value

def IsOrdered (v : Value) : Prop :=
  v ≠ .number (.real .nan)

instance (v : Value) : Decidable v.IsOrdered :=
  inferInstanceAs (Decidable (_ ≠ _))

theorem isOrdered_number {n : Number} (ordered : n.IsOrdered) : (number n).IsOrdered :=
  fun isNan => ordered (number.inj isNan)

theorem isOrdered_of_number? {v : Value} {n : Number} (ordered : v.IsOrdered)
    (reads : v.number? = some n) : n.IsOrdered := by
  cases v with
  | text s => exact Number.isOrdered_of_ofText? reads
  | number m =>
    obtain rfl : m = n := Option.some.inj reads
    rintro rfl
    exact ordered rfl
  | missing => cases reads

end Value

namespace Collation

def presentPlace (collation : Collation) (v : Value) : ExtendedRat ⊕ₗ List ℕ :=
  match v.number? with
  | some n => Sum.inlₗ n.exact
  | none => Sum.inrₗ (codePoints (collation.key v.render))

def place (collation : Collation) : Value → Place
  | .missing => ⊥
  | v => collation.presentPlace v

variable {collation : Collation} {a b : Value}

theorem place_of_ne_missing (present : a ≠ .missing) :
    collation.place a = collation.presentPlace a := by
  cases a with
  | missing => exact absurd rfl present
  | _ => rfl

theorem order_of_ne_missing (presentLeft : a ≠ .missing) (presentRight : b ≠ .missing) :
    collation.order a b =
      match a.number?.isSome, b.number?.isSome with
      | true, false => .lt
      | false, true => .gt
      | _, _ => collation.comparePresent a b := by
  cases a with
  | missing => exact absurd rfl presentLeft
  | _ =>
    cases b with
    | missing => exact absurd rfl presentRight
    | _ => rfl

theorem order_compares_present (orderedLeft : a.IsOrdered) (orderedRight : b.IsOrdered)
    (presentLeft : a ≠ .missing) (presentRight : b ≠ .missing) :
    (collation.order a b).Compares (collation.presentPlace a) (collation.presentPlace b) := by
  rw [order_of_ne_missing presentLeft presentRight, presentPlace, presentPlace, comparePresent]
  cases readLeft : a.number? with
  | some m =>
    cases readRight : b.number? with
    | some n =>
      exact Sum.Lex.inl_strictMono.compares.2 (Number.compare_compares
        (Value.isOrdered_of_number? orderedLeft readLeft)
        (Value.isOrdered_of_number? orderedRight readRight))
    | none => exact Sum.Lex.inl_lt_inr _ _
  | none =>
    cases readRight : b.number? with
    | some n => exact Sum.Lex.inl_lt_inr _ _
    | none => exact Sum.Lex.inr_strictMono.compares.2 (compareCodes_compares _ _)

/-- Sorting compares places. -/
theorem order_compares (orderedLeft : a.IsOrdered) (orderedRight : b.IsOrdered) :
    (collation.order a b).Compares (collation.place a) (collation.place b) := by
  by_cases presentLeft : a = .missing
  · subst presentLeft
    cases b with
    | missing => rfl
    | _ => exact WithBot.bot_lt_coe _
  · by_cases presentRight : b = .missing
    · subst presentRight
      cases a with
      | missing => exact absurd rfl presentLeft
      | _ => exact WithBot.bot_lt_coe _
    · rw [place_of_ne_missing presentLeft, place_of_ne_missing presentRight]
      exact WithBot.coe_strictMono.compares.2
        (order_compares_present orderedLeft orderedRight presentLeft presentRight)

theorem order_eq_cmp (orderedLeft : a.IsOrdered) (orderedRight : b.IsOrdered) :
    collation.order a b = cmp (collation.place a) (collation.place b) :=
  (order_compares orderedLeft orderedRight).cmp_eq.symm

end Collation

end LogSelect
