import LogSelect.Proofs.Except
import LogSelect.Proofs.Query.Renderable
import LogSelect.Query.Execute

/-!
A query that is read from a text never fails when it is executed.

The grammar puts operands and predicates in their proper places, and a wildcard stands alone without
a label.  This is kept when labels are put in the place of sort keys, and every evaluation in the
course of an execution depends on nothing else.
-/

namespace LogSelect

/-! ## Terms -/

namespace Term

variable {collation : Collation} {row : Row} {a p part : Term}

def predicates : Term → List Term
  | .and left right => .and left right :: (left.predicates ++ right.predicates)
  | .or left right => .or left right :: (left.predicates ++ right.predicates)
  | .not operand => .not operand :: operand.predicates
  | p => [p]

theorem isPredicate_of_mem (predicate : p.IsPredicate) (within : part ∈ p.predicates) :
    part.IsPredicate := by
  induction p with
  | column _ | literal _ _ | wildcard => exact predicate.elim
  | compare left op right _ _ =>
    obtain rfl := List.mem_singleton.1 within
    exact predicate
  | and left right ihLeft ihRight | or left right ihLeft ihRight =>
    rcases List.mem_cons.1 within with rfl | inside
    · exact predicate
    · rcases List.mem_append.1 inside with inLeft | inRight
      · exact ihLeft predicate.1 inLeft
      · exact ihRight predicate.2 inRight
  | not operand ih =>
    rcases List.mem_cons.1 within with rfl | inside
    · exact predicate
    · exact ih predicate inside

theorem IsOperand.evaluate (operand : a.IsOperand) (row : Row) :
    Succeeds (a.evaluate row) fun _ => True := by
  cases a with
  | column name => exact .pure trivial
  | literal value spelling => exact .pure trivial
  | _ => exact operand.elim

theorem IsPredicate.test (predicate : p.IsPredicate) :
    Succeeds (p.test collation row) fun _ => True := by
  induction p with
  | column _ | literal _ _ | wildcard => exact predicate.elim
  | compare left op right _ _ =>
    obtain ⟨isLeft, isRight⟩ := predicate
    have noWildcard : ¬ (left = .wildcard ∨ right = .wildcard) := by
      simp [isLeft.ne_wildcard, isRight.ne_wildcard]
    rw [Term.test, testCompare, if_neg noWildcard]
    apply Succeeds.bind (isLeft.evaluate row)
    intro v _
    apply Succeeds.bind (isRight.evaluate row)
    intro w _
    exact .pure trivial
  | and left right ihLeft ihRight =>
    apply Succeeds.bind (ihLeft predicate.1)
    intro holds _
    cases holds with
    | true => exact ihRight predicate.2
    | false => exact .pure trivial
  | or left right ihLeft ihRight =>
    apply Succeeds.bind (ihLeft predicate.1)
    intro holds _
    cases holds with
    | true => exact .pure trivial
    | false => exact ihRight predicate.2
  | not operand ih =>
    apply Succeeds.bind (ih predicate)
    intro holds _
    exact .pure trivial

end Term

/-! ## Queries -/

namespace Query

/-- All columns are selected, or only columns and constants are. -/
def CanShow (query : Query) : Prop :=
  query.isWildcard = true ∨ ∀ item ∈ query.select, item.term.IsOperand

/-- Operands and predicates stand in their proper places, and a wildcard stands alone and without a
label. -/
structure IsProper (query : Query) : Prop where
  select : query.select = [⟨.wildcard, none⟩] ∨ ∀ item ∈ query.select, item.term.IsOperand
  filter : ∀ p ∈ query.filter, p.IsPredicate
  order : ∀ key ∈ query.order, key.term.IsOperand

theorem IsRenderable.isProper {query : Query} (renderable : query.IsRenderable) :
    query.IsProper where
  select := renderable.select.imp_right fun items item member => (items.2 item member).1.isOperand
  filter p isFilter := (renderable.filter p isFilter).isPredicate
  order key member := (renderable.order key member).isOperand

namespace IsProper

variable {query : Query} {columns : List String}

theorem filterRows (proper : query.IsProper) (collation : Collation) (rows : List Row) :
    ∃ kept scanned, query.filterRows collation rows = (.ok kept, scanned) ∧
      kept.length ≤ rows.length := by
  have tested (row : Row) :
      Succeeds ((query.filter.map (·.test collation row)).getD (.ok true)) fun _ => True := by
    cases isFilter : query.filter with
    | none => exact .pure trivial
    | some p => exact (proper.filter p isFilter).test
  induction rows with
  | nil => exact ⟨[], 0, rfl, Nat.le_refl 0⟩
  | cons row rows ih =>
    obtain ⟨kept, scanned, filtered, fewer⟩ := ih
    obtain ⟨admitted, isAdmitted, _⟩ := tested row
    refine ⟨if admitted then row :: kept else kept, scanned + 1, ?_, ?_⟩
    · rw [Query.filterRows, isAdmitted, filtered]
      rfl
    · cases admitted with
      | true => exact Nat.succ_le_succ fewer
      | false => exact Nat.le_succ_of_le fewer

theorem labelled (proper : query.IsProper) :
    ∀ entry ∈ query.labelled columns, entry.2.IsOperand := by
  intro entry member
  rw [Query.labelled, List.mem_reverse, List.mem_filterMap] at member
  obtain ⟨item, inside, gives⟩ := member
  rcases proper.select with all | operands
  · rw [all, List.mem_singleton] at inside
    subst inside
    cases gives
  · split at gives
    · split at gives
      · cases gives
      · cases gives
        exact operands item inside
    · cases gives

theorem resolveKey (proper : query.IsProper) {a : Term} (operand : a.IsOperand) :
    Succeeds (resolveKey (query.labelled columns) a) Term.IsOperand := by
  cases a with
  | column name =>
    refine .pure ?_
    cases found : (query.labelled columns).lookup name with
    | none => trivial
    | some a =>
      obtain ⟨before, behind, split, _⟩ := List.lookup_eq_some_iff.1 found
      have member : (name, a) ∈ query.labelled columns := by
        rw [split]
        exact List.mem_append_right before List.mem_cons_self
      exact proper.labelled (name, a) member
  | literal value spelling => exact .pure trivial
  | _ => exact operand.elim

theorem sortTerms (proper : query.IsProper) (columns : List String) :
    Succeeds (query.sortTerms columns) fun terms => ∀ a ∈ terms, a.IsOperand := by
  have resolved : ∀ key ∈ query.order,
      Succeeds (Query.resolveKey (query.labelled columns) key.term) Term.IsOperand :=
    fun key member => proper.resolveKey (proper.order key member)
  obtain ⟨terms, isTerms, _, operands⟩ := Succeeds.mapM resolved
  exact ⟨terms, isTerms, operands⟩

theorem sortRows (proper : query.IsProper) (collation : Collation) (columns : List String)
    (rows : List Row) :
    Succeeds (query.sortRows collation columns rows) fun sorted =>
      sorted.length = rows.length := by
  unfold Query.sortRows
  split
  · exact .pure rfl
  · apply Succeeds.bind (proper.sortTerms columns)
    intro terms operands
    have keyed (row : Row) : Succeeds (do return ((← terms.mapM (·.evaluate row)), row) :
        Except EvalError (List Value × Row)) fun _ => True :=
      .bind (.mapM fun a member => (operands a member).evaluate row) fun _ _ => .pure trivial
    apply Succeeds.bind (.mapM fun row _ => keyed row)
    rintro pairs ⟨length, _⟩
    exact .pure (by rw [List.length_map, List.length_mergeSort, length])

theorem canShow (proper : query.IsProper) : query.CanShow := by
  refine proper.select.imp_left ?_
  intro all
  simp [isWildcard, all]

theorem outputColumns (proper : query.IsProper) (columns : List String) :
    Succeeds (query.outputColumns columns) fun _ => True := by
  unfold Query.outputColumns
  split
  · exact .pure trivial
  next notAll =>
    have operands := proper.canShow.resolve_left notAll
    have noWildcard : ¬ (query.select.any fun item => item.term == .wildcard) = true := by
      simp only [List.any_eq_true, beq_iff_eq, not_exists, not_and]
      intro item member
      exact (operands item member).ne_wildcard
    rw [if_neg noWildcard]
    exact .pure trivial

theorem project (proper : query.IsProper) (columns : List String) (row : Row) :
    Succeeds (query.project columns row) fun _ => True := by
  unfold Query.project
  split
  · exact .pure trivial
  next notAll =>
    have operands := proper.canShow.resolve_left notAll
    exact .bind (.mapM fun item member => (operands item member).evaluate row) fun _ _ =>
      .pure trivial

end IsProper

theorem length_pageRows_le {α : Type} (query : Query) (xs : List α) :
    (query.pageRows xs).length ≤ xs.length := by
  rw [pageRows, slice, List.length_drop, List.length_take]
  omega

end Query

/-! ## Executions -/

namespace Execution

inductive Reaches {ε : Type} (exec : Execution ε) : Execution ε → Prop where
  | start : Reaches exec exec
  | pull {later} : Reaches exec later → Reaches exec later.next.2

/-- The query is a proper one, and the feed, if it has not been read, ends without a failure. -/
structure IsSafe {ε : Type} (exec : Execution ε) : Prop where
  query : exec.query.IsProper
  feed : ∀ feed, exec.pending = .feed feed → feed.failure = none

/-- A pull that does not fail: it shows one of the rows that remain, or there is none left. -/
inductive Proceeds {ε : Type} (remaining : Nat) : Pull ε × Execution ε → Prop where
  | row (output : OutputRow) {exec} : exec.IsSafe → exec.remaining < remaining →
      Proceeds remaining (.row output, exec)
  | stop {exec} : exec.IsSafe → exec.pending = .page [] → Proceeds remaining (.stop, exec)

variable {ε : Type} {exec later : Execution ε}

theorem Proceeds.mono {few many : Nat} {pulled : Pull ε × Execution ε}
    (proceeds : Proceeds few pulled) (le : few ≤ many) : Proceeds many pulled := by
  cases proceeds with
  | row output safe less => exact .row output safe (Nat.lt_of_lt_of_le less le)
  | stop safe isEnd => exact .stop safe isEnd

theorem nextOfPage_proceeds (proper : exec.query.IsProper) (rows : List Row) :
    Proceeds rows.length (exec.nextOfPage rows) := by
  cases rows with
  | nil => exact .stop ⟨proper, nofun⟩ rfl
  | cons row rows =>
    obtain ⟨output, shown, _⟩ := proper.project exec.columns row
    rw [nextOfPage, shown]
    exact .row output ⟨proper, nofun⟩ (Nat.lt_succ_self rows.length)

theorem readFeed_isOk (proper : exec.query.IsProper) {feed : Feed ε}
    (noFailure : feed.failure = none) :
    ∃ stats page, exec.readFeed feed = (stats, .ok page) ∧ page.length ≤ feed.rows.length := by
  obtain ⟨kept, scanned, filtered, fewer⟩ := proper.filterRows exec.collation feed.rows
  obtain ⟨sorted, isSorted, length⟩ := proper.sortRows exec.collation exec.sourceColumns kept
  have short := exec.query.length_pageRows_le sorted
  refine ⟨⟨scanned, kept.length, 0⟩, exec.query.pageRows sorted, ?_, by omega⟩
  simp only [readFeed, filtered, noFailure, isSorted]

theorem next_proceeds (safe : exec.IsSafe) : Proceeds exec.remaining exec.next := by
  cases pending : exec.pending with
  | page rows =>
    simp only [remaining, next, pending]
    exact nextOfPage_proceeds safe.query rows
  | feed feed =>
    obtain ⟨stats, page, isRead, fewer⟩ := readFeed_isOk safe.query (safe.feed feed pending)
    simp only [remaining, next, pending, isRead]
    let opened : Execution ε := { exec with stats, pageSize := some page.length }
    have proper : opened.query.IsProper := safe.query
    exact (nextOfPage_proceeds proper page).mono fewer

theorem Reaches.isSafe (safe : exec.IsSafe) (reaches : exec.Reaches later) : later.IsSafe := by
  induction reaches with
  | start => exact safe
  | pull _ ih =>
    generalize isNext : Execution.next _ = pulled at *
    cases isNext ▸ next_proceeds ih with
    | row _ safe _ => exact safe
    | stop safe _ => exact safe

theorem next_ne_failure (safe : exec.IsSafe) (error : PullError ε) :
    exec.next.1 ≠ .failure error := by
  have proceeds := next_proceeds safe
  generalize exec.next = pulled at proceeds
  cases proceeds with
  | row => exact nofun
  | stop => exact nofun

/-- Enough pulls come to the end of the result. -/
theorem pullRows_ends (safe : exec.IsSafe) {count : Nat} (enough : exec.remaining < count) :
    ∃ output last, exec.pullRows count = (output, none, last) ∧ last.next.1 = .stop := by
  induction count generalizing exec with
  | zero => exact absurd enough (Nat.not_lt_zero _)
  | succ count ih =>
    have proceeds := next_proceeds safe
    cases pulled : exec.next with
    | mk pull later =>
      rw [pulled] at proceeds
      cases proceeds with
      | row shown laterSafe less =>
        obtain ⟨output, last, isPulled, ends⟩ := ih laterSafe (by omega)
        exact ⟨shown :: output, last, by rw [pullRows, pulled]; simp only [isPulled], ends⟩
      | stop _ isEnd =>
        exact ⟨[], later, by rw [pullRows, pulled], by rw [next, isEnd]; rfl⟩

end Execution

namespace Query

/-- The execution of a query that is read from a text never fails.  Operands, predicates and the
terms behind the labels among the sort keys stand in their proper places, so every part of the
filter can be tested on every row, also where it is not needed; and however far the result is
pulled, no pull is a failure. -/
theorem pulls_never_fail {text : String} {query : Query} (isRead : ofText text = .ok query)
    (collation : Collation) (columns : List String) (rows : List Row) (ε : Type) :
    query.IsProper ∧
      (∀ p ∈ query.filter, ∀ part ∈ p.predicates, ∀ row, ∃ holds,
        part.test collation row = .ok holds) ∧
      (∃ terms, query.sortTerms columns = .ok terms ∧ ∀ a ∈ terms, a.IsOperand) ∧
      ∃ exec : Execution ε, Execution.start collation query columns ⟨rows, none⟩ = .ok exec ∧
        (∀ later, exec.Reaches later → ∀ error, later.next.1 ≠ .failure error) ∧
        ∃ output last, exec.rest = (output, none, last) ∧ last.next.1 = .stop := by
  have proper := (isRenderable_of_ofText isRead).isProper
  obtain ⟨names, named, _⟩ := proper.outputColumns columns
  have safe : Execution.IsSafe (ε := ε)
      ⟨query, collation, columns, names, ⟨0, 0, 0⟩, .feed ⟨rows, none⟩, none⟩ :=
    ⟨proper, by rintro _ ⟨⟩; rfl⟩
  refine ⟨proper, ?_, proper.sortTerms columns, _, ?_, ?_, Execution.pullRows_ends safe ?_⟩
  · intro p isFilter part within row
    obtain ⟨holds, tested, _⟩ := (Term.isPredicate_of_mem (proper.filter p isFilter) within).test
    exact ⟨holds, tested⟩
  · rw [Execution.start, named]
    rfl
  · intro later reaches error
    exact Execution.next_ne_failure (reaches.isSafe safe) error
  · exact Nat.lt_succ_self _

/-- The sort key stands for a column, and the second part of the filter is not needed for the first
row. -/
theorem pulls_never_fail_label :
    let text := "SELECT a AS k WHERE a = '1' OR NOT b < 'x' ORDER BY k DESC"
    let passed : Term := .not (.compare (.column "b") .lt (.ofText "x"))
    let query : Query :=
      { select := [⟨.column "a", some "k"⟩]
        filter := some (.or (.compare (.column "a") .eq (.ofText "1")) passed)
        order := [⟨.column "k", .descending⟩]
        limit := none
        offset := none }
    let row (a : String) : Row := Row.ofFields (.ofList [("a", [a])]) .empty
    ofText text = .ok query ∧
      (∀ a, ∃ holds, passed.test .exact (row a) = .ok holds) ∧
      query.sortTerms ["a", "b"] = .ok [.column "a"] ∧
      ∃ exec : Execution Unit,
        Execution.start .exact query ["a", "b"] ⟨[row "1", row "2"], none⟩ = .ok exec ∧
        (∀ later, exec.Reaches later → ∀ error, later.next.1 ≠ .failure error) ∧
        ∃ output last, exec.rest = (output, none, last) ∧ last.next.1 = .stop := by
  intro text passed query row
  have isRead : ofText text = .ok query := by decide +kernel
  obtain ⟨_, parts, _, safe⟩ :=
    pulls_never_fail isRead .exact ["a", "b"] [row "1", row "2"] Unit
  have tested (a : String) : ∃ holds, passed.test .exact (row a) = .ok holds := by
    apply parts _ rfl passed
    simp [Term.predicates, passed]
  exact ⟨isRead, tested, by decide, safe⟩

end Query

end LogSelect
