import LogSelect.Proofs.Except
import LogSelect.Proofs.Execution.Evaluate
import LogSelect.Proofs.Order.Preorder

/-!
The phases of an execution compute what the query asks for: filter, keys, sort, page, projection.
None of them fails for a query that has a text.
-/

namespace LogSelect

/-- The value of a term in ordered rows is compared by place: a term other than a column has one
value in all rows. -/
theorem Term.order_valueIn_compares {collation : Collation} {a b : Row}
    (orderedLeft : a.IsOrdered) (orderedRight : b.IsOrdered) (term : Term) :
    (collation.order (term.valueIn a) (term.valueIn b)).Compares
      (collation.place (term.valueIn a)) (collation.place (term.valueIn b)) := by
  have tie (v : Value) : (collation.order v v).Compares (collation.place v) (collation.place v) :=
    (collation.order_self v).symm ▸ rfl
  cases term with
  | column name => exact Collation.order_compares (orderedLeft name) (orderedRight name)
  | literal value spelling => exact tie value
  | _ => exact tie .missing

namespace Query

variable {query : Query} {collation : Collation} {columns : List String} {row : Row}

theorem filterRows_eq (renderable : query.IsRenderable) (rows : List Row) :
    query.filterRows collation rows = (.ok (query.admitted collation rows), rows.length) := by
  have tested (row : Row) : (query.filter.map (·.test collation row)).getD (.ok true) =
      .ok (query.filter.all (·.holds collation row)) := by
    cases isFilter : query.filter with
    | none => rfl
    | some p => exact Term.test_eq (renderable.filter p isFilter)
  induction rows with
  | nil => rfl
  | cons row rows ih =>
    rw [filterRows, tested row, ih]
    cases holds : query.filter.all (·.holds collation row) <;>
      simp [admitted, holds, Except.map]

/-! ## Columns -/

theorem isWildcard_iff (renderable : query.IsRenderable) :
    query.isWildcard = true ↔ query.select = [⟨.wildcard, none⟩] := by
  constructor
  · intro wildcard
    rcases renderable.select with all | ⟨_, items⟩
    · exact all
    · unfold isWildcard at wildcard
      split at wildcard
      · rename_i item single
        have operand := (items item (by simp [single])).1
        exact absurd (beq_iff_eq.1 wildcard) operand.isOperand.ne_wildcard
      · cases wildcard
  · intro all
    simp [isWildcard, all]

theorem select_operand (renderable : query.IsRenderable)
    (notAll : query.select ≠ [⟨.wildcard, none⟩]) :
    ∀ item ∈ query.select, item.term.IsRenderableOperand := by
  rcases renderable.select with all | ⟨_, items⟩
  · exact absurd all notAll
  · exact fun item member => (items item member).1

theorem outputColumns_eq (renderable : query.IsRenderable) :
    query.outputColumns columns = .ok (query.outputNames columns) := by
  unfold outputColumns outputNames
  by_cases all : query.select = [⟨.wildcard, none⟩]
  · rw [if_pos ((isWildcard_iff renderable).2 all), if_pos all]
  · have operands := select_operand renderable all
    have noWildcard : ¬ (query.select.any fun item => item.term == .wildcard) = true := by
      simp only [List.any_eq_true, beq_iff_eq, not_exists, not_and]
      exact fun item member => (operands item member).isOperand.ne_wildcard
    rw [if_neg (mt (isWildcard_iff renderable).1 all), if_neg noWildcard, if_neg all]

theorem project_eq (renderable : query.IsRenderable) :
    query.project (query.outputNames columns) row = .ok (query.outputRow columns row) := by
  unfold project outputRow
  by_cases all : query.select = [⟨.wildcard, none⟩]
  · rw [if_pos ((isWildcard_iff renderable).2 all), if_pos all, outputNames, if_pos all]
  · have values : query.select.mapM (·.term.evaluate row) =
        .ok (query.select.map fun item => item.term.valueIn row) :=
      mapM_eq_ok fun item member => Term.evaluate_eq (select_operand renderable all item member)
    rw [if_neg (mt (isWildcard_iff renderable).1 all), if_neg all, values]
    rfl

/-! ## Sort keys -/

theorem lookup_labelled (query : Query) (columns : List String) (name : String) :
    (query.labelled columns).lookup name =
      if name ∈ columns then none
      else ((query.select.filter fun item => item.label = some name).getLast?).map (·.term) := by
  rw [labelled, List.getLast?_eq_head?_reverse, ← List.filter_reverse, ← List.filterMap_reverse]
  induction query.select.reverse with
  | nil => simp
  | cons item items ih =>
    obtain ⟨term, label⟩ := item
    cases label with
    | none => simpa using ih
    | some label =>
      by_cases column : label ∈ columns
      · by_cases same : label = name
        · subst same
          simpa [column] using ih
        · simpa [column, same] using ih
      · by_cases same : label = name
        · subst same
          simp [column]
        · have other : (name == label) = false := beq_false_of_ne (Ne.symm same)
          simpa [column, same, List.lookup_cons, other] using ih

theorem resolveKey_eq {a : Term} (notAll : a ≠ .wildcard) :
    resolveKey (query.labelled columns) a = .ok (query.keyTerm columns a) := by
  cases a with
  | column name =>
    rw [resolveKey, lookup_labelled, keyTerm]
    split <;> rfl
  | wildcard => exact absurd rfl notAll
  | _ => rfl

/-- What holds of a key and of all terms with labels holds of the term that the key stands for. -/
theorem keyTerm_all {p : Term → Prop} {a : Term} (holds : p a)
    (labelled : ∀ item ∈ query.select, item.label ≠ none → p item.term) :
    p (query.keyTerm columns a) := by
  cases a with
  | column name =>
    unfold keyTerm
    by_cases column : name ∈ columns
    · simpa [column] using holds
    · simp only [column, if_false]
      cases last : (query.select.filter fun item => item.label = some name).getLast? with
      | none => exact holds
      | some item =>
        have member := List.mem_of_getLast? last
        rw [List.mem_filter, decide_eq_true_iff] at member
        apply labelled item member.1
        rw [member.2]
        exact nofun
  | _ => exact holds

theorem keyTerm_operand (renderable : query.IsRenderable) {a : Term}
    (operand : a.IsRenderableOperand) : (query.keyTerm columns a).IsRenderableOperand := by
  apply keyTerm_all operand
  intro item member isLabelled
  apply select_operand renderable _ item member
  intro all
  rw [all, List.mem_singleton] at member
  rw [member] at isLabelled
  exact isLabelled rfl

def keyValues (query : Query) (columns : List String) (row : Row) : List Value :=
  query.order.map (query.keyValue columns row)

theorem compareBy_eq (a b : Row) (key : OrderItem) :
    query.compareBy collation columns a b key = Direction.apply key.direction
      (collation.order (query.keyValue columns a key) (query.keyValue columns b key)) := by
  unfold compareBy
  cases key.direction <;> rfl

theorem compareRows_congr_order {a a' b b' : Row}
    (same : ∀ key ∈ query.order,
      collation.order (query.keyValue columns a key) (query.keyValue columns a' key) =
        collation.order (query.keyValue columns b key) (query.keyValue columns b' key)) :
    query.compareRows collation columns a a' = query.compareRows collation columns b b' := by
  have keys : query.order.map (query.compareBy collation columns a a') =
      query.order.map (query.compareBy collation columns b b') := by
    apply List.map_congr_left
    intro key member
    rw [compareBy_eq, compareBy_eq, same key member]
  rw [compareRows, compareRows, keys]

theorem compareKeys_eq (query : Query) (collation : Collation) (columns : List String)
    (a b : Row) :
    compareKeys collation (query.order.map (·.direction)) (query.keyValues columns a)
      (query.keyValues columns b) = query.compareRows collation columns a b := by
  rw [keyValues, keyValues, compareRows]
  induction query.order with
  | nil => rfl
  | cons key keys ih =>
    rw [List.map_cons, List.map_cons, List.map_cons, List.map_cons, compareKeys_cons, ih,
      ← compareBy_eq]
    cases decides : query.compareBy collation columns a b key <;> rfl

def rowPlace (query : Query) (collation : Collation) (columns : List String) (row : Row) :
    List KeyPlace :=
  keyPlaces collation (query.order.map (·.direction)) (query.keyValues columns row)

theorem rowPlace_eq (query : Query) (collation : Collation) (columns : List String) (row : Row) :
    query.rowPlace collation columns row =
      query.order.map fun key =>
        keyPlace key.direction (collation.place (query.keyValue columns row key)) := by
  simp [rowPlace, keyPlaces, keyValues, List.zipWith_map]

/-- Rows are compared as the places of their sort keys are, whatever the keys are. -/
theorem compareRows_compares {rows : List Row} (ordered : ∀ row ∈ rows, row.IsOrdered) :
    ∀ a ∈ rows, ∀ b ∈ rows, (query.compareRows collation columns a b).Compares
      (query.rowPlace collation columns a) (query.rowPlace collation columns b) := by
  intro a member b member'
  rw [rowPlace_eq, rowPlace_eq, compareRows]
  induction query.order with
  | nil => rfl
  | cons key keys ih =>
    have first : (query.compareBy collation columns a b key).Compares
        (keyPlace key.direction (collation.place (query.keyValue columns a key)))
        (keyPlace key.direction (collation.place (query.keyValue columns b key))) := by
      rw [compareBy_eq]
      exact keyPlace_compares _ (Term.order_valueIn_compares (ordered a member)
        (ordered b member') _)
    have both := compares_cons first ih
    cases decides : query.compareBy collation columns a b key <;>
      simpa [decides] using both

/-! ## Sorting and paging -/

theorem stableSort_of_no_keys (noKeys : query.order = []) (rows : List Row) :
    stableSort (query.compareRows collation columns) rows = rows.zipIdx := by
  have tie (a b : Row) : query.compareRows collation columns a b = .eq := by
    rw [compareRows, noKeys]
    rfl
  refine List.mergeSort_of_pairwise ?_
  have places : rows.zipIdx.Pairwise fun a b => a.2 ≤ b.2 := by
    refine List.pairwise_map.1 ?_
    rw [List.zipIdx_map_snd]
    exact List.pairwise_le_range'
  refine places.imp ?_
  intro a b le
  simpa [List.zipIdxLE, tie] using le

theorem sortTerms_eq (renderable : query.IsRenderable) :
    query.sortTerms columns = .ok (query.order.map fun key => query.keyTerm columns key.term) :=
  mapM_eq_ok fun key member => resolveKey_eq (renderable.order key member).isOperand.ne_wildcard

theorem evaluateKeys_eq (renderable : query.IsRenderable) (row : Row) :
    (query.order.map fun key => query.keyTerm columns key.term).mapM (·.evaluate row) =
      .ok (query.keyValues columns row) := by
  rw [List.mapM_map]
  exact mapM_eq_ok fun key member =>
    Term.evaluate_eq (keyTerm_operand renderable (renderable.order key member))

theorem map_snd_mergeSort_keyed (order : List Value → List Value → Ordering)
    (keys : Row → List Value) (rows : List Row) :
    ((rows.map fun row => (keys row, row)).mergeSort fun a b => order a.1 b.1 != .gt).map Prod.snd =
      rows.mergeSort fun a b => order (keys a) (keys b) != .gt := by
  rw [← List.map_mergeSort (r := fun a b => order (keys a) (keys b) != .gt) fun _ _ _ _ => rfl,
    List.map_map]
  exact List.map_id _

/-- Where the terms of the keys are found and have values, sorting puts the rows in the order of
these and keeps ties. -/
theorem sortRows_of_terms {rows : List Row}
    (found : query.sortTerms columns =
      .ok (query.order.map fun key => query.keyTerm columns key.term))
    (evaluated : ∀ row ∈ rows,
      (query.order.map fun key => query.keyTerm columns key.term).mapM (·.evaluate row) =
        .ok (query.keyValues columns row)) :
    query.sortRows collation columns rows =
      .ok ((stableSort (query.compareRows collation columns) rows).map Prod.fst) := by
  unfold sortRows
  by_cases noKeys : query.order = []
  · rw [stableSort_of_no_keys noKeys, List.zipIdx_map_fst, noKeys]
    rfl
  · have keyed : ∀ row ∈ rows, (do
          return ((← (query.order.map fun key => query.keyTerm columns key.term).mapM
            (·.evaluate row)), row) : Except EvalError (List Value × Row)) =
        .ok (query.keyValues columns row, row) := by
      intro row member
      rw [evaluated row member]
      rfl
    rw [if_neg (by simpa using noKeys), found]
    change (rows.mapM (m := Except EvalError) _ >>= _) = _
    rw [mapM_eq_ok keyed, map_fst_stableSort]
    simp only [← compareKeys_eq]
    exact congrArg Except.ok (map_snd_mergeSort_keyed
      (compareKeys collation (query.order.map (·.direction))) (query.keyValues columns) rows)

theorem sortRows_eq (renderable : query.IsRenderable) (rows : List Row) :
    query.sortRows collation columns rows =
      .ok ((stableSort (query.compareRows collation columns) rows).map Prod.fst) := by
  apply sortRows_of_terms (sortTerms_eq renderable)
  intro row _
  exact evaluateKeys_eq renderable row

theorem place_ofNat (size index : Nat) : place size index = min index size := by
  unfold place
  split
  · omega
  · split <;> omega

theorem drop_min_take_min {α : Type} (xs : List α) (start size : Nat) :
    (xs.take (min (start + size) xs.length)).drop (min start xs.length) =
      (xs.drop start).take size := by
  rcases Nat.le_total start xs.length with inside | outside
  · have shown : min (start + size) xs.length - start = min size (xs.length - start) := by omega
    rw [Nat.min_eq_left inside, List.drop_take, shown, List.take_eq_take_iff, List.length_drop]
    omega
  · rw [Nat.min_eq_right outside, List.drop_eq_nil_of_le (List.length_take_le' _ _),
      List.drop_eq_nil_of_le outside, List.take_nil]

theorem pageRows_eq {α : Type} (renderable : query.IsRenderable) (xs : List α) :
    query.pageRows xs = query.page xs := by
  obtain ⟨start, isStart⟩ : ∃ start : ℕ, query.offset.getD 0 = start := by
    cases offset : query.offset with
    | none => exact ⟨0, rfl⟩
    | some n => exact Int.eq_ofNat_of_zero_le (renderable.offset n offset).1
  rw [pageRows, page, isStart]
  cases limit : query.limit with
  | none => simp [slice, place_ofNat]
  | some n =>
    obtain ⟨size, rfl⟩ := Int.eq_ofNat_of_zero_le (renderable.limit n limit).1
    have stop : place xs.length (start + size) = min (start + size) xs.length :=
      place_ofNat xs.length (start + size)
    simp only [slice, Option.map_some, Option.getD_some, place_ofNat, stop, Int.toNat_natCast]
    exact drop_min_take_min xs start size

theorem page_map {α β : Type} (query : Query) (f : α → β) (xs : List α) :
    query.page (xs.map f) = (query.page xs).map f := by
  unfold page
  cases query.limit <;> simp

theorem page_sublist {α : Type} (query : Query) (xs : List α) : (query.page xs).Sublist xs := by
  unfold page
  cases query.limit with
  | none => exact List.drop_sublist _ xs
  | some limit => exact (List.take_sublist _ _).trans (List.drop_sublist _ xs)

end Query

end LogSelect
