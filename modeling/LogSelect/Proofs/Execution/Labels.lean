import LogSelect.Proofs.Execution.Rearrangement

/-!
Results in the order of their first sort key.

A page is a part of the sorted rows, so the rows that are shown never go against the first sort key.
Where labels are distinct, a key that is a label and no column of the source has in every row the
value that is shown under the label; a key that is a column has the value of that column.
-/

namespace LogSelect

namespace Collation

/-- The first value may stand before the second in this direction. -/
def Precedes (collation : Collation) : Direction → Value → Value → Prop
  | .ascending, a, b => collation.order a b ≠ .gt
  | .descending, a, b => collation.order a b ≠ .lt

theorem precedes_iff {collation : Collation} {direction : Direction} {a b : Value} :
    collation.Precedes direction a b ↔
      Query.Direction.apply direction (collation.order a b) ≠ .gt := by
  cases direction with
  | ascending => exact Iff.rfl
  | descending => exact not_congr Ordering.swap_eq_gt.symm

end Collation

namespace Query

variable {query : Query} {collation : Collation} {columns : List String} {rows : List Row}
  {a b row : Row} {key : OrderItem} {keys : List OrderItem}

/-! ## The order of the rows -/

theorem shown_pairwise (ordered : ∀ row ∈ rows, row.IsOrdered) :
    (query.shown collation columns rows).Pairwise fun a b =>
      query.compareRows collation columns a b ≠ .gt := by
  apply List.Pairwise.sublist (page_sublist query _)
  rw [List.pairwise_map]
  apply (stableSort_pairwise (compareRows_admitted ordered)).imp
  intro a b before
  exact before.1

theorem precedes_of_compareRows (first : query.order = key :: keys)
    (before : query.compareRows collation columns a b ≠ .gt) :
    collation.Precedes key.direction (query.keyValue columns a key)
      (query.keyValue columns b key) := by
  rw [Collation.precedes_iff, ← compareBy_eq]
  intro against
  apply before
  rw [compareRows, first, List.map_cons, against]
  rfl

theorem shown_pairwise_precedes (ordered : ∀ row ∈ rows, row.IsOrdered)
    (first : query.order = key :: keys) :
    (query.shown collation columns rows).Pairwise fun a b =>
      collation.Precedes key.direction (query.keyValue columns a key)
        (query.keyValue columns b key) := by
  apply (shown_pairwise ordered).imp
  intro a b before
  exact precedes_of_compareRows first before

/-! ## What a name stands for -/

variable {item other : SelectItem} {name : String}

theorem eq_of_label (distinct : (query.select.filterMap (·.label)).Nodup)
    (member : item ∈ query.select) (member' : other ∈ query.select)
    (isLabel : item.label = some name) (isLabel' : other.label = some name) : item = other := by
  have apart : query.select.Pairwise fun item other =>
      ∀ name, item.label = some name → ∀ name', other.label = some name' → name ≠ name' :=
    List.pairwise_filterMap.1 distinct
  have symmetric : Std.Symm fun item other : SelectItem =>
      ∀ name, item.label = some name → ∀ name', other.label = some name' → name ≠ name' :=
    ⟨fun _ _ apart name isName name' isName' => (apart name' isName' name isName).symm⟩
  by_contra differ
  exact apart.forall member member' differ name isLabel name isLabel' rfl

theorem keyTerm_label (distinct : (query.select.filterMap (·.label)).Nodup)
    (member : item ∈ query.select) (isLabel : item.label = some name) (noColumn : name ∉ columns) :
    query.keyTerm columns (.column name) = item.term := by
  rw [keyTerm, if_neg noColumn]
  have labelled : item ∈ query.select.filter fun item => item.label = some name :=
    List.mem_filter.2 ⟨member, decide_eq_true isLabel⟩
  obtain ⟨last, isLast⟩ := Option.ne_none_iff_exists'.1
    (mt List.getLast?_eq_none_iff.1 (List.ne_nil_of_mem labelled))
  obtain ⟨member', isLabel'⟩ := List.mem_filter.1 (List.mem_of_getLast? isLast)
  rw [isLast, eq_of_label distinct member member' isLabel (of_decide_eq_true isLabel')]
  rfl

theorem keyTerm_column (column : name ∈ columns) :
    query.keyTerm columns (.column name) = .column name := by
  rw [keyTerm, if_pos column]

/-! ## What is shown under a label -/

theorem items_outputRow {index : Nat} (found : query.select[index]? = some item)
    (notAll : query.select ≠ [⟨.wildcard, none⟩]) :
    (query.outputRow columns row).items[index]? =
      some (item.outputName, item.term.valueIn row) := by
  unfold OutputRow.items outputRow outputNames
  rw [if_neg notAll, if_neg notAll, List.zip_map', List.getElem?_map, found]
  rfl

theorem items_outputRow_label {index : Nat} (found : query.select[index]? = some item)
    (isLabel : item.label = some name) :
    (query.outputRow columns row).items[index]? = some (name, item.term.valueIn row) := by
  have notAll : query.select ≠ [⟨.wildcard, none⟩] := by
    intro all
    have member := List.mem_of_getElem? found
    rw [all, List.mem_singleton] at member
    rw [member] at isLabel
    cases isLabel
  have isName : item.outputName = name := by
    unfold SelectItem.outputName
    rw [isLabel]
  rw [items_outputRow found notAll, isName]

/-- A result follows its first sort key.  If the key is a label and no column of the source, what is
shown under the label stands in order on every page; if it is a column, the rows that are shown
follow that column, also where an entry has it as its label.  No value may be the number that is
none, which no reading of a log gives (`readSource_isOrdered`). -/
theorem rest_follows_name {text : String} {query : Query} (isRead : ofText text = .ok query)
    {name : String} {direction : Direction} {keys : List OrderItem}
    (first : query.order = ⟨.column name, direction⟩ :: keys) {rows : List Row}
    (ordered : ∀ row ∈ rows, row.IsOrdered) (collation : Collation) (columns : List String)
    (ε : Type) :
    let sources := query.shown collation columns rows
    ∃ exec last : Execution ε,
      Execution.start collation query columns ⟨rows, none⟩ = .ok exec ∧
      exec.rest = (sources.map (query.outputRow columns), none, last) ∧
      (name ∉ columns → (query.select.filterMap (·.label)).Nodup →
        ∀ (index : Nat) (item : SelectItem), query.select[index]? = some item →
          item.label = some name →
            ∃ values : List Value,
              exec.rest.1.map (·.items[index]?) = values.map (fun v => some (name, v)) ∧
              values.Pairwise (collation.Precedes direction)) ∧
      (name ∈ columns →
        sources.Pairwise fun a b => collation.Precedes direction (a.get name) (b.get name)) := by
  intro sources
  have renderable := isRenderable_of_ofText isRead
  have pulled : (query.unread collation columns ⟨rows, none⟩ : Execution ε).rest = _ :=
    rest_unread renderable rows
  have inOrder : sources.Pairwise fun a b => collation.Precedes direction
      ((query.keyTerm columns (.column name)).valueIn a)
      ((query.keyTerm columns (.column name)).valueIn b) :=
    shown_pairwise_precedes ordered first
  refine ⟨_, _, start_eq renderable _, pulled, ?_, ?_⟩
  · intro noColumn distinct index item found isLabel
    rw [keyTerm_label distinct (List.mem_of_getElem? found) isLabel noColumn] at inOrder
    refine ⟨sources.map item.term.valueIn, ?_, List.pairwise_map.2 inOrder⟩
    rw [pulled, List.map_map, List.map_map]
    apply List.map_congr_left
    intro row _
    exact items_outputRow_label found isLabel
  · intro column
    rw [keyTerm_column column] at inOrder
    exact inOrder

/-- A label over another column: where the label is no column of the source the result follows what
is shown under it, where it is one the result follows the column. -/
theorem rest_follows_name_shadowed :
    let row (a b k : String) : Row :=
      Row.ofFields (.ofList [("a", [a]), ("b", [b]), ("k", [k])]) .empty
    let w := row "w" "7" "4"
    let x := row "x" "9" "1"
    let y := row "y" "10" "2"
    let z := row "z" "9.0" "3"
    ∃ query : Query, ofText "SELECT b AS k, a ORDER BY k DESC LIMIT 2 OFFSET 1" = .ok query ∧
      (∃ exec last : Execution Unit,
        Execution.start .exact query ["a", "b"] ⟨[x, y, z, w], none⟩ = .ok exec ∧
        exec.rest = ([⟨["k", "a"], [.text "9", .text "x"]⟩,
          ⟨["k", "a"], [.text "9.0", .text "z"]⟩], none, last) ∧
        [Value.text "9", .text "9.0"].Pairwise (Collation.exact.Precedes .descending)) ∧
      ∃ exec last : Execution Unit,
        Execution.start .exact query ["a", "b", "k"] ⟨[x, y, z, w], none⟩ = .ok exec ∧
        exec.rest = ([⟨["k", "a"], [.text "9.0", .text "z"]⟩,
          ⟨["k", "a"], [.text "10", .text "y"]⟩], none, last) ∧
        [Value.text "3", .text "2"].Pairwise (Collation.exact.Precedes .descending) := by
  intro row w x y z
  let query : Query :=
    { select := [⟨.column "b", some "k"⟩, ⟨.column "a", none⟩]
      filter := none
      order := [⟨.column "k", .descending⟩]
      limit := some 2
      offset := some 1 }
  have isRead : ofText "SELECT b AS k, a ORDER BY k DESC LIMIT 2 OFFSET 1" = .ok query := by decide +kernel
  have renderable := isRenderable_of_ofText isRead
  have ordered : ∀ row ∈ [x, y, z, w], row.IsOrdered := by
    have each (a b k : String) : (row a b k).IsOrdered := Row.ofFields_isOrdered Record.all_empty
    simp only [List.forall_mem_cons, List.not_mem_nil, false_implies, implies_true, and_true]
    exact ⟨each _ _ _, each _ _ _, each _ _ _, each _ _ _⟩
  have shows (columns : List String) (sorted : List (Row × Nat))
      (sorts : IsStableSort (query.compareRows .exact columns) [x, y, z, w] sorted) :
      query.shown .exact columns [x, y, z, w] = query.page (sorted.map Prod.fst) := by
    have compares := @compareRows_admitted query .exact columns _ ordered
    rw [shown, (isStableSort_iff compares).1 sorts]
  have byLabel := shows ["a", "b"] [(y, 1), (x, 0), (z, 2), (w, 3)]
    ⟨.swap _ _ _, by decide +kernel, by decide +kernel⟩
  have byColumn := shows ["a", "b", "k"] [(w, 3), (z, 2), (y, 1), (x, 0)]
    ⟨List.reverse_perm [(x, 0), (y, 1), (z, 2), (w, 3)], by decide +kernel, by decide +kernel⟩
  refine ⟨query, isRead, ?_, ?_⟩
  · obtain ⟨exec, last, started, pulled, follows, _⟩ :=
      rest_follows_name isRead rfl ordered .exact ["a", "b"] Unit
    rw [byLabel] at pulled
    obtain ⟨values, shown, inOrder⟩ := follows (by decide) (by decide) 0 _ rfl rfl
    have named : Function.Injective fun v : Value => some ("k", v) :=
      (Option.some_injective _).comp (Prod.mk_right_injective "k")
    rw [pulled] at shown
    obtain rfl : [Value.text "9", .text "9.0"] = values := named.list_map shown
    exact ⟨exec, last, started, pulled, inOrder⟩
  · obtain ⟨exec, last, started, pulled, _, follows⟩ :=
      rest_follows_name isRead rfl ordered .exact ["a", "b", "k"] Unit
    rw [byColumn] at pulled follows
    exact ⟨exec, last, started, pulled, List.pairwise_map.2 (follows (by decide))⟩

end Query

end LogSelect
