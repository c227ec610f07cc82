import LogSelect.Proofs.Execution.Rearrangement
import LogSelect.Proofs.Order.Passes

/-!
Sorting by several keys as sorting by one key at a time.

Sorting succeeds if no key is the wildcard and, where there are rows, every key stands for an
operand.  The rows then stand in the order of the places of their keys, for each key in its
direction; so one pass for each key, from the last to the first, leads to the same rows.
-/

namespace LogSelect

variable {collation : Collation} {columns : List String} {a b : Row} {rows sorted : List Row}

namespace Query

variable {query : Query}

def placeOf (query : Query) (collation : Collation) (columns : List String) (key : OrderItem)
    (row : Row) : KeyPlace :=
  keyPlace key.direction (collation.place (query.keyValue columns row key))

theorem rowPlace_eq_placeOf (query : Query) (collation : Collation) (columns : List String)
    (row : Row) : query.rowPlace collation columns row =
      query.order.map fun key => query.placeOf collation columns key row :=
  rowPlace_eq query collation columns row

/-! ## When sorting succeeds -/

/-- No key is the wildcard, and where there are rows every key stands for an operand. -/
def CanSort (query : Query) (columns : List String) (rows : List Row) : Prop :=
  ∀ key ∈ query.order, key.term ≠ .wildcard ∧
    (rows ≠ [] → (query.keyTerm columns key.term).IsOperand)

theorem sortRows_of_canSort_stably (can : query.CanSort columns rows) :
    query.sortRows collation columns rows =
      .ok ((stableSort (query.compareRows collation columns) rows).map Prod.fst) := by
  have found : query.sortTerms columns =
      .ok (query.order.map fun key => query.keyTerm columns key.term) :=
    mapM_eq_ok fun key member => resolveKey_eq (can key member).1
  apply sortRows_of_terms found
  intro row inside
  rw [List.mapM_map]
  apply mapM_eq_ok
  intro key member
  exact Term.evaluate_of_isOperand ((can key member).2 (List.ne_nil_of_mem inside))

theorem sortRows_of_canSort (can : query.CanSort columns rows)
    (ordered : ∀ row ∈ rows, row.IsOrdered) :
    query.sortRows collation columns rows =
      .ok (sortByPlace (query.rowPlace collation columns) rows) := by
  rw [← map_fst_stableSort_eq (compareRows_compares ordered)]
  exact sortRows_of_canSort_stably can

theorem Term.isOperand_of_evaluate {a : Term} {row : Row} {v : Value}
    (evaluates : a.evaluate row = .ok v) : a.IsOperand := by
  cases a with
  | column _ | literal _ _ => trivial
  | _ => cases evaluates

theorem canSort_of_sortRows (sorts : query.sortRows collation columns rows = .ok sorted) :
    query.CanSort columns rows := by
  unfold sortRows at sorts
  split at sorts
  next noKeys =>
    rw [CanSort, List.isEmpty_iff.1 noKeys]
    exact nofun
  simp only [bind, Except.bind] at sorts
  split at sorts
  · cases sorts
  next terms found =>
  split at sorts
  · cases sorts
  next keyed evaluated =>
  have notAll : ∀ key ∈ query.order, key.term ≠ .wildcard := by
    intro key member isAll
    obtain ⟨term, resolved⟩ := exists_ok_of_mapM found key member
    rw [isAll] at resolved
    cases resolved
  have isFound : query.sortTerms columns =
      .ok (query.order.map fun key => query.keyTerm columns key.term) :=
    mapM_eq_ok fun key member => resolveKey_eq (notAll key member)
  obtain rfl := Except.ok.inj (found.symm.trans isFound)
  intro key member
  refine ⟨notAll key member, ?_⟩
  intro some
  obtain ⟨row, inside⟩ := List.exists_mem_of_ne_nil rows some
  obtain ⟨entry, isEntry⟩ := exists_ok_of_mapM evaluated row inside
  split at isEntry
  · cases isEntry
  next values isValues =>
  obtain ⟨value, evaluates⟩ := exists_ok_of_mapM isValues _ (List.mem_map_of_mem member)
  exact Term.isOperand_of_evaluate evaluates

theorem sortRows_eq_ok_iff (ordered : ∀ row ∈ rows, row.IsOrdered) :
    query.sortRows collation columns rows = .ok sorted ↔
      query.CanSort columns rows ∧
        sorted = sortByPlace (query.rowPlace collation columns) rows := by
  constructor
  · intro sorts
    have can := canSort_of_sortRows sorts
    rw [sortRows_of_canSort can ordered] at sorts
    exact ⟨can, (Except.ok.inj sorts).symm⟩
  · rintro ⟨can, rfl⟩
    exact sortRows_of_canSort can ordered

/-! ## Passes -/

def withOrder (query : Query) (keys : List OrderItem) : Query :=
  { query with order := keys }

/-- Sort by one key at a time, by the last key first and by the first key last. -/
def sortByPasses (query : Query) (collation : Collation) (columns : List String)
    (rows : List Row) : Except EvalError (List Row) :=
  query.order.foldrM (fun key rows => (query.withOrder [key]).sortRows collation columns rows) rows

variable {key : OrderItem} {keys : List OrderItem}

theorem sortByPlace_withOrder_cons (rows : List Row) :
    sortByPlace ((query.withOrder (key :: keys)).rowPlace collation columns) rows =
      sortByPlace (query.placeOf collation columns key)
        (sortByPlace ((query.withOrder keys).rowPlace collation columns) rows) := by
  have places : (query.withOrder (key :: keys)).rowPlace collation columns = fun row =>
      query.placeOf collation columns key row ::
        (query.withOrder keys).rowPlace collation columns row := by
    funext row
    rw [rowPlace_eq_placeOf, rowPlace_eq_placeOf]
    rfl
  rw [places, sortByPlace_cons]

theorem sortByPlace_withOrder_singleton (rows : List Row) :
    sortByPlace ((query.withOrder [key]).rowPlace collation columns) rows =
      sortByPlace (query.placeOf collation columns key) rows := by
  have places : (query.withOrder []).rowPlace collation columns = fun _ => [] := by
    funext row
    rw [rowPlace_eq_placeOf]
    rfl
  rw [sortByPlace_withOrder_cons, places, sortByPlace_const]

theorem canSort_withOrder_singleton :
    (query.withOrder [key]).CanSort columns rows ↔
      key.term ≠ .wildcard ∧ (rows ≠ [] → (query.keyTerm columns key.term).IsOperand) :=
  List.forall_mem_singleton

theorem canSort_withOrder_cons :
    (query.withOrder (key :: keys)).CanSort columns rows ↔
      (query.withOrder [key]).CanSort columns rows ∧
        (query.withOrder keys).CanSort columns rows := by
  rw [canSort_withOrder_singleton]
  exact List.forall_mem_cons

theorem canSort_of_perm {rows' : List Row} (perm : rows.Perm rows')
    (can : query.CanSort columns rows) : query.CanSort columns rows' := by
  intro key member
  refine ⟨(can key member).1, ?_⟩
  intro some
  apply (can key member).2
  rintro rfl
  exact some perm.nil_eq.symm

theorem foldrM_sortRows_eq_ok_iff (ordered : ∀ row ∈ rows, row.IsOrdered)
    (keys : List OrderItem) :
    keys.foldrM (fun key rows => (query.withOrder [key]).sortRows collation columns rows) rows =
        .ok sorted ↔
      (query.withOrder keys).sortRows collation columns rows = .ok sorted := by
  induction keys generalizing sorted with
  | nil => exact Iff.rfl
  | cons key keys ih =>
    have perm := sortByPlace_perm ((query.withOrder keys).rowPlace collation columns) rows
    have orderedPass : ∀ row ∈ sortByPlace ((query.withOrder keys).rowPlace collation columns) rows,
        row.IsOrdered :=
      fun row member => ordered row (perm.subset member)
    rw [List.foldrM_cons]
    change Except.bind _ _ = _ ↔ _
    rw [bind_eq_ok, sortRows_eq_ok_iff ordered, sortByPlace_withOrder_cons,
      canSort_withOrder_cons]
    constructor
    · rintro ⟨passed, before, last⟩
      obtain ⟨can, rfl⟩ := (sortRows_eq_ok_iff ordered).1 (ih.1 before)
      obtain ⟨canLast, isSorted⟩ := (sortRows_eq_ok_iff orderedPass).1 last
      rw [sortByPlace_withOrder_singleton] at isSorted
      exact ⟨⟨canSort_of_perm perm canLast, can⟩, isSorted⟩
    · rintro ⟨⟨canLast, can⟩, isSorted⟩
      refine ⟨_, ih.2 ((sortRows_eq_ok_iff ordered).2 ⟨can, rfl⟩), ?_⟩
      rw [sortRows_eq_ok_iff orderedPass, sortByPlace_withOrder_singleton]
      exact ⟨canSort_of_perm perm.symm canLast, isSorted⟩

/-! ## Directions -/

theorem placeOf_ascending_le (term : Term) :
    query.placeOf collation columns ⟨term, .ascending⟩ a ≤
        query.placeOf collation columns ⟨term, .ascending⟩ b ↔
      collation.place ((query.keyTerm columns term).valueIn a) ≤
        collation.place ((query.keyTerm columns term).valueIn b) :=
  Sum.Lex.inl_le_inl_iff

theorem placeOf_descending_le (term : Term) :
    query.placeOf collation columns ⟨term, .descending⟩ a ≤
        query.placeOf collation columns ⟨term, .descending⟩ b ↔
      OrderDual.toDual (collation.place ((query.keyTerm columns term).valueIn a)) ≤
        OrderDual.toDual (collation.place ((query.keyTerm columns term).valueIn b)) :=
  Sum.Lex.inr_le_inr_iff

theorem sortByPlace_descending (term : Term) (rows : List Row) :
    sortByPlace (query.placeOf collation columns ⟨term, .descending⟩) rows =
      (sortByPlace (query.placeOf collation columns ⟨term, .ascending⟩) rows.reverse).reverse := by
  rw [sortByPlace_congr (fun _ _ => placeOf_descending_le term),
    sortByPlace_congr (fun _ _ => placeOf_ascending_le term), sortByPlace_toDual]

/-- A descending sort is the reversed ascending sort of the reversed rows. -/
theorem sortRows_descending_eq_ok_iff (ordered : ∀ row ∈ rows, row.IsOrdered) (term : Term) :
    (query.withOrder [⟨term, .descending⟩]).sortRows collation columns rows = .ok sorted ↔
      (query.withOrder [⟨term, .ascending⟩]).sortRows collation columns rows.reverse =
        .ok sorted.reverse := by
  have ordered' : ∀ row ∈ rows.reverse, row.IsOrdered :=
    fun row member => ordered row (List.mem_reverse.1 member)
  have can : (query.withOrder [⟨term, .descending⟩]).CanSort columns rows ↔
      (query.withOrder [⟨term, .ascending⟩]).CanSort columns rows.reverse := by
    rw [canSort_withOrder_singleton, canSort_withOrder_singleton, ne_eq rows.reverse,
      List.reverse_eq_nil_iff]
  rw [sortRows_eq_ok_iff ordered, sortRows_eq_ok_iff ordered', can,
    sortByPlace_withOrder_singleton, sortByPlace_withOrder_singleton, sortByPlace_descending,
    List.reverse_eq_iff]

/-- Sorting by several keys is sorting by one key at a time, the last one first, and the one
succeeds when the other does, which it always does for keys that are operands.  A descending sort is
the reversed ascending sort of the reversed rows.  No value may be the number that is none, which no
reading of a log gives (`readSource_isOrdered`). -/
theorem sortRows_passes (query : Query) (collation : Collation) (columns : List String)
    {rows : List Row} (ordered : ∀ row ∈ rows, row.IsOrdered) :
    (∀ sorted, query.sortByPasses collation columns rows = .ok sorted ↔
        query.sortRows collation columns rows = .ok sorted) ∧
      ((∀ key ∈ query.order, key.term.IsOperand) →
        (∀ item ∈ query.select, item.label ≠ none → item.term.IsOperand) →
          ∃ sorted, query.sortRows collation columns rows = .ok sorted) ∧
      ∀ (term : Term) (sorted : List Row),
        (query.withOrder [⟨term, .descending⟩]).sortRows collation columns rows = .ok sorted ↔
          (query.withOrder [⟨term, .ascending⟩]).sortRows collation columns rows.reverse =
            .ok sorted.reverse := by
  refine ⟨?_, ?_, ?_⟩
  · intro sorted
    exact foldrM_sortRows_eq_ok_iff ordered query.order
  · intro operands labelled
    refine ⟨_, sortRows_of_canSort ?_ ordered⟩
    intro key member
    have operand := operands key member
    exact ⟨operand.ne_wildcard, fun _ => keyTerm_all operand labelled⟩
  · intro term sorted
    exact sortRows_descending_eq_ok_iff ordered term

/-- Two keys, of which the first is a label: the two spellings of nine are told apart by the second
key only. -/
theorem sortRows_passes_two :
    let row (a b : String) : Row := Row.ofFields (.ofList [("a", [a]), ("b", [b])]) .empty
    let rows := [row "9" "y", row "10" "z", row "9.0" "x"]
    let sorted := [row "10" "z", row "9.0" "x", row "9" "y"]
    let query : Query :=
      { select := [⟨.column "a", some "k"⟩]
        filter := none
        order := [⟨.column "k", .descending⟩, ⟨.column "b", .ascending⟩]
        limit := none
        offset := none }
    (∀ row ∈ rows, row.IsOrdered) ∧
      query.sortRows .exact ["a", "b"] rows = .ok sorted ∧
      query.sortByPasses .exact ["a", "b"] rows = .ok sorted := by
  intro row rows sorted query
  have ordered : ∀ row ∈ rows, row.IsOrdered := by
    have each (a b : String) : (row a b).IsOrdered := Row.ofFields_isOrdered Record.all_empty
    simp only [rows, List.forall_mem_cons, List.not_mem_nil, false_implies, implies_true, each,
      and_self]
  obtain ⟨passes, succeeds, _⟩ := sortRows_passes query .exact ["a", "b"] ordered
  have compares : ∀ a ∈ rows, ∀ b ∈ rows, (query.compareRows .exact ["a", "b"] a b).Compares
      (query.rowPlace .exact ["a", "b"] a) (query.rowPlace .exact ["a", "b"] b) :=
    compareRows_compares ordered
  have sorts : IsStableSort (query.compareRows .exact ["a", "b"]) rows
      [(row "10" "z", 1), (row "9.0" "x", 2), (row "9" "y", 0)] :=
    ⟨.trans (.cons _ (.swap _ _ _)) (.swap _ _ _), by decide +kernel, by decide +kernel⟩
  have isSorted : query.sortRows .exact ["a", "b"] rows = .ok sorted := by
    obtain ⟨other, isOther⟩ := succeeds (by simp [query, Term.IsOperand])
      (by simp [query, Term.IsOperand])
    obtain ⟨_, rfl⟩ := (sortRows_eq_ok_iff ordered).1 isOther
    rw [isOther, ← map_fst_stableSort_eq compares, ← (isStableSort_iff compares).1 sorts]
    rfl
  exact ⟨ordered, isSorted, (passes sorted).2 isSorted⟩

end Query

end LogSelect
