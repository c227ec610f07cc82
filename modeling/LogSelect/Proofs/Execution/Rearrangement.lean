import LogSelect.Proofs.Execution.Correctness

/-!
Ordered results and the order of the input.

The rows of a result stand in the order of the places of their sort keys.  Rearranging the input
rearranges the admitted rows, and a list has only one arrangement in the order of places; so the
rows at one index of the two results have the same places, and differ only where rows tie.
-/

namespace LogSelect.Query

variable {query : Query} {collation : Collation} {columns : List String} {a b : Row}
  {rows rows' : List Row}

/-- Two rows that no sort key tells apart. -/
def Tie (query : Query) (collation : Collation) (columns : List String) (a b : Row) : Prop :=
  ∀ key ∈ query.order,
    collation.order (query.keyValue columns a key) (query.keyValue columns b key) = .eq

instance : Decidable (query.Tie collation columns a b) :=
  List.decidableBAll _ _

theorem keyPlace_injective (direction : Direction) : Function.Injective (keyPlace direction) := by
  intro x y same
  cases direction with
  | ascending => exact Sum.inl.inj (toLex.injective same)
  | descending => exact OrderDual.toDual.injective (Sum.inr.inj (toLex.injective same))

theorem compareRows_admitted (ordered : ∀ row ∈ rows, row.IsOrdered) :
    ∀ a ∈ query.admitted collation rows, ∀ b ∈ query.admitted collation rows,
      (query.compareRows collation columns a b).Compares (query.rowPlace collation columns a)
        (query.rowPlace collation columns b) :=
  compareRows_compares fun row member => ordered row (List.mem_of_mem_filter member)

theorem tie_of_rowPlace (orderedLeft : a.IsOrdered) (orderedRight : b.IsOrdered)
    (same : query.rowPlace collation columns a = query.rowPlace collation columns b) :
    query.Tie collation columns a b := by
  rw [rowPlace_eq, rowPlace_eq, List.map_inj_left] at same
  intro key member
  apply (Term.order_valueIn_compares orderedLeft orderedRight _).eq_eq.2
  apply keyPlace_injective key.direction
  exact same key member

theorem admitted_perm (perm : rows.Perm rows') :
    (query.admitted collation rows).Perm (query.admitted collation rows') :=
  perm.filter _

theorem shown_of_unlimited (noLimit : query.limit = none) (noOffset : query.offset = none)
    (rows : List Row) :
    query.shown collation columns rows =
      (stableSort (query.compareRows collation columns)
        (query.admitted collation rows)).map Prod.fst := by
  simp [shown, page, noLimit, noOffset]

section Unlimited

variable (noLimit : query.limit = none) (noOffset : query.offset = none)
include noLimit noOffset

theorem shown_perm_admitted (rows : List Row) :
    (query.shown collation columns rows).Perm (query.admitted collation rows) := by
  rw [shown_of_unlimited noLimit noOffset]
  apply map_fst_stableSort_perm

section Rearranged

variable (perm : rows.Perm rows') (ordered : ∀ row ∈ rows, row.IsOrdered)
include perm ordered

/-- The rows at one index of two results tie if the inputs differ in their order only. -/
theorem forall₂_tie_shown :
    List.Forall₂ (query.Tie collation columns) (query.shown collation columns rows)
      (query.shown collation columns rows') := by
  have places : List.Forall₂
      (fun a b => query.rowPlace collation columns a = query.rowPlace collation columns b)
      (query.shown collation columns rows) (query.shown collation columns rows') := by
    rw [shown_of_unlimited noLimit noOffset, shown_of_unlimited noLimit noOffset]
    apply forall₂_stableSort_of_perm (admitted_perm perm)
    exact compareRows_admitted ordered
  rw [List.forall₂_iff_zip] at places
  rw [List.forall₂_iff_zip]
  refine ⟨places.1, ?_⟩
  intro a b member
  obtain ⟨inside, inside'⟩ := List.of_mem_zip member
  apply tie_of_rowPlace
  · exact ordered a (mem_of_mem_shown inside)
  · exact ordered b (perm.symm.subset (mem_of_mem_shown inside'))
  · exact places.2 member

theorem shown_eq_of_perm
    (apart : (query.admitted collation rows).Pairwise fun a b =>
      ¬ query.Tie collation columns a b) :
    query.shown collation columns rows = query.shown collation columns rows' := by
  rw [shown_of_unlimited noLimit noOffset, shown_of_unlimited noLimit noOffset]
  apply map_fst_stableSort_eq_of_perm (admitted_perm perm) (compareRows_admitted ordered)
  apply apart.imp_of_mem
  intro a b member member' untied same
  apply untied
  apply tie_of_rowPlace _ _ same
  · exact ordered a (List.mem_of_mem_filter member)
  · exact ordered b (List.mem_of_mem_filter member')

end Rearranged

end Unlimited

/-- Rearranging the rows rearranges the result of a query that takes all of them: the two results
have the same members, and the rows at one index of them tie on every sort key.  If no two admitted
rows tie, the results are the same.  No value may be the number that is none, which no reading of a
log gives (`readSource_isOrdered`). -/
theorem shown_rearranged {text : String} {query : Query} (isRead : ofText text = .ok query)
    (noLimit : query.limit = none) (noOffset : query.offset = none) {rows rows' : List Row}
    (perm : rows.Perm rows') (ordered : ∀ row ∈ rows, row.IsOrdered) (collation : Collation)
    (columns : List String) (ε : Type) :
    let sources := query.shown collation columns rows
    let sources' := query.shown collation columns rows'
    sources.Perm (query.admitted collation rows) ∧
      sources'.Perm (query.admitted collation rows') ∧
      List.Forall₂ (query.Tie collation columns) sources sources' ∧
      ∃ exec exec' last last' : Execution ε,
        Execution.start collation query columns ⟨rows, none⟩ = .ok exec ∧
        Execution.start collation query columns ⟨rows', none⟩ = .ok exec' ∧
        exec.rest = (sources.map (query.outputRow columns), none, last) ∧
        exec'.rest = (sources'.map (query.outputRow columns), none, last') ∧
        exec.rest.1.Perm exec'.rest.1 ∧
        ((query.admitted collation rows).Pairwise (fun a b => ¬ query.Tie collation columns a b) →
          exec.rest.1 = exec'.rest.1) := by
  intro sources sources'
  have renderable := isRenderable_of_ofText isRead
  have isPerm : sources.Perm _ := shown_perm_admitted noLimit noOffset rows
  have isPerm' : sources'.Perm _ := shown_perm_admitted noLimit noOffset rows'
  have pulled (source : List Row) :
      (query.unread collation columns ⟨source, none⟩ : Execution ε).rest = _ :=
    rest_unread renderable source
  refine ⟨isPerm, isPerm', forall₂_tie_shown noLimit noOffset perm ordered,
    _, _, _, _, start_eq renderable _, start_eq renderable _, pulled rows, pulled rows', ?_, ?_⟩
  · rw [pulled rows, pulled rows']
    apply List.Perm.map
    exact isPerm.trans ((admitted_perm perm).trans isPerm'.symm)
  · intro apart
    rw [pulled rows, pulled rows', shown_eq_of_perm noLimit noOffset perm ordered apart]

/-- A missing value, a number, a numeral and another text, given in two orders. -/
theorem shown_rearranged_mixed :
    let row (a : String) : Row := Row.ofFields (.ofList [("a", [a])]) .empty
    let ten : Row := Row.ofFields (.ofList [("a", ["10"])]) (.ofList [("a", .number (.int 10))])
    let rows := [row "1a", ten, Row.ofFields .empty .empty, row "9"]
    let shown : List OutputRow :=
      [⟨["a"], [.text "1a"]⟩, ⟨["a"], [.number (.int 10)]⟩, ⟨["a"], [.text "9"]⟩,
        ⟨["a"], [.missing]⟩]
    ∃ query : Query, ofText "SELECT a ORDER BY a DESC" = .ok query ∧
      ∃ exec exec' last last' : Execution Unit,
        Execution.start .exact query ["a"] ⟨rows, none⟩ = .ok exec ∧
        Execution.start .exact query ["a"] ⟨rows.reverse, none⟩ = .ok exec' ∧
        exec.rest = (shown, none, last) ∧ exec'.rest = (shown, none, last') := by
  intro row ten rows shown
  let query : Query :=
    { select := [⟨.column "a", none⟩]
      filter := none
      order := [⟨.column "a", .descending⟩]
      limit := none
      offset := none }
  have isRead : ofText "SELECT a ORDER BY a DESC" = .ok query := by decide +kernel
  have ordered : ∀ row ∈ rows, row.IsOrdered := by
    simp only [rows, List.forall_mem_cons, List.not_mem_nil, false_implies, implies_true, and_true]
    refine ⟨Row.ofFields_isOrdered Record.all_empty, Row.ofFields_isOrdered ?_,
      Row.ofFields_isOrdered Record.all_empty, Row.ofFields_isOrdered Record.all_empty⟩
    have isOrdered : Value.IsOrdered (.number (.int 10)) := by decide
    exact Record.all_empty.put isOrdered "a"
  have renderable := isRenderable_of_ofText isRead
  have sorts : IsStableSort (query.compareRows .exact ["a"]) (query.admitted .exact rows)
      [(row "1a", 0), (ten, 1), (row "9", 3), (Row.ofFields .empty .empty, 2)] :=
    ⟨.cons _ (.cons _ (.swap _ _ _)), by decide +kernel, by decide +kernel⟩
  have isShown : query.shown .exact ["a"] rows =
      [row "1a", ten, row "9", Row.ofFields .empty .empty] := by
    rw [shown_of_unlimited rfl rfl,
      ← (isStableSort_iff (compareRows_admitted ordered)).1 sorts]
    rfl
  obtain ⟨_, _, _, exec, exec', last, last', started, started', pulled, pulled', _, same⟩ :=
    shown_rearranged isRead rfl rfl rows.reverse_perm.symm ordered .exact ["a"] Unit
  have apart := same (by decide +kernel)
  have first : exec.rest.1 = shown := by
    rw [start_eq renderable] at started
    cases started
    rw [rest_unread renderable, isShown]
    rfl
  refine ⟨query, isRead, exec, exec', last, last', started, started', ?_, ?_⟩
  · rw [pulled] at first ⊢
    rw [← first]
  · rw [apart, pulled'] at first
    rw [pulled', ← first]

end LogSelect.Query
