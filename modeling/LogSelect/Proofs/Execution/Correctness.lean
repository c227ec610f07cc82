import LogSelect.Proofs.Execution.Phases
import LogSelect.Proofs.Query.RoundTrip

/-!
Pulling all rows of a result yields what the query asks for.
-/

namespace LogSelect

namespace Execution

variable {ε : Type} {exec other : Execution ε} {rows : List Row}

/-- The execution when `count` more rows have been shown and those of `left` are still to come. -/
def advance (exec : Execution ε) (count : Nat) (left : List Row) : Execution ε :=
  { exec with
    stats := { exec.stats with returned := exec.stats.returned + count }
    pending := .page left }

theorem advance_zero (pending : exec.pending = .page rows) : exec.advance 0 rows = exec := by
  rw [advance, ← pending]
  rfl

theorem advance_advance (exec : Execution ε) (first second : Nat) (left more : List Row) :
    (exec.advance first more).advance second left = exec.advance (first + second) left := by
  simp only [advance, Nat.add_assoc]

theorem next_nil (pending : exec.pending = .page []) : exec.next = (.stop, exec) := by
  rw [next, pending]
  exact congrArg (Prod.mk Pull.stop) (advance_zero pending)

theorem next_cons {row : Row} {output : OutputRow} (pending : exec.pending = .page (row :: rows))
    (shows : exec.query.project exec.columns row = .ok output) :
    exec.next = (.row output, exec.advance 1 rows) := by
  rw [next, pending]
  simp only [nextOfPage, shows, advance]

theorem pullRows_page {output : Row → OutputRow} (pending : exec.pending = .page rows)
    (shows : ∀ row, exec.query.project exec.columns row = .ok (output row)) {count : Nat}
    (enough : rows.length < count) :
    exec.pullRows count = (rows.map output, none, exec.advance rows.length []) := by
  induction rows generalizing exec count with
  | nil =>
    obtain ⟨count, rfl⟩ := Nat.exists_eq_add_one_of_ne_zero (Nat.ne_zero_of_lt enough)
    rw [pullRows, next_nil pending, List.length_nil, advance_zero pending]
    rfl
  | cons row rows ih =>
    obtain ⟨count, rfl⟩ := Nat.exists_eq_add_one_of_ne_zero (Nat.ne_zero_of_lt enough)
    have fewer : rows.length < count := Nat.lt_of_succ_lt_succ enough
    have pulled : (exec.advance 1 rows).pullRows count =
        (rows.map output, none, (exec.advance 1 rows).advance rows.length []) :=
      @ih (exec.advance 1 rows) rfl shows count fewer
    rw [pullRows, next_cons pending (shows row)]
    simp only [pulled, advance_advance, List.map_cons, List.length_cons, Nat.add_comm 1]

theorem pullRows_congr (same : exec.next = other.next) (count : Nat) :
    exec.pullRows (count + 1) = other.pullRows (count + 1) := by
  rw [pullRows, pullRows, same]

/-- The first pull computes the page and goes on as if it had always been there. -/
theorem next_feed {feed : Feed ε} {stats : Stats} (pending : exec.pending = .feed feed)
    (isRead : exec.readFeed feed = (stats, .ok rows)) :
    exec.next = next { exec with
      stats
      pageSize := some rows.length
      pending := .page rows } := by
  rw [next, pending]
  simp only [isRead, next]
  cases rows with
  | nil => rfl
  | cons row rows => rfl

end Execution

namespace Query

variable {query : Query} {collation : Collation} {columns : List String}

def shown (query : Query) (collation : Collation) (columns : List String) (rows : List Row) :
    List Row :=
  query.page ((stableSort (query.compareRows collation columns)
    (query.admitted collation rows)).map Prod.fst)

theorem mem_of_mem_shown {row : Row} (member : row ∈ query.shown collation columns rows) :
    row ∈ rows :=
  List.mem_of_mem_filter
    ((map_fst_stableSort_perm _ _).subset ((page_sublist query _).subset member))

theorem length_shown_le (rows : List Row) :
    (query.shown collation columns rows).length ≤ rows.length := by
  refine (page_sublist query _).length_le.trans ?_
  rw [List.length_map, (stableSort_perm _ _).length_eq, List.length_zipIdx]
  exact List.length_filter_le _ _

theorem readFeed_eq {ε : Type} (exec : Execution ε) (renderable : exec.query.IsRenderable)
    (rows : List Row) :
    exec.readFeed ⟨rows, none⟩ =
      (⟨rows.length, (exec.query.admitted exec.collation rows).length, 0⟩,
        .ok (exec.query.shown exec.collation exec.sourceColumns rows)) := by
  unfold Execution.readFeed
  simp only [filterRows_eq renderable, sortRows_eq renderable, pageRows_eq renderable]
  rfl

def unread {ε : Type} (query : Query) (collation : Collation) (columns : List String)
    (feed : Feed ε) : Execution ε :=
  ⟨query, collation, columns, query.outputNames columns, ⟨0, 0, 0⟩, .feed feed, none⟩

def opened (query : Query) (collation : Collation) (columns : List String) (rows : List Row)
    (ε : Type) : Execution ε :=
  ⟨query, collation, columns, query.outputNames columns,
    ⟨rows.length, (query.admitted collation rows).length, 0⟩,
    .page (query.shown collation columns rows), some (query.shown collation columns rows).length⟩

theorem start_eq {ε : Type} (renderable : query.IsRenderable) (feed : Feed ε) :
    Execution.start collation query columns feed = .ok (query.unread collation columns feed) := by
  rw [Execution.start, outputColumns_eq renderable]
  rfl

theorem next_unread {ε : Type} (renderable : query.IsRenderable) (rows : List Row) :
    (query.unread collation columns ⟨rows, none⟩ : Execution ε).next =
      (query.opened collation columns rows ε).next :=
  Execution.next_feed rfl
    (readFeed_eq (query.unread collation columns ⟨rows, none⟩) renderable rows)

theorem project_opened {ε : Type} (renderable : query.IsRenderable) (rows : List Row) (row : Row) :
    (query.opened collation columns rows ε).query.project
      (query.opened collation columns rows ε).columns row = .ok (query.outputRow columns row) :=
  project_eq renderable

theorem rest_unread {ε : Type} (renderable : query.IsRenderable) (rows : List Row) :
    (query.unread collation columns ⟨rows, none⟩ : Execution ε).rest =
      ((query.shown collation columns rows).map (query.outputRow columns), none,
        (query.opened collation columns rows ε).advance
          (query.shown collation columns rows).length []) := by
  rw [Execution.rest, Execution.pullRows_congr (next_unread renderable rows)]
  exact Execution.pullRows_page rfl (project_opened renderable rows)
    (Nat.lt_succ_of_le (length_shown_le rows))

/-- A query that is read from a text shows, of any rows, the page of the one list that holds the
admitted rows in the order of the sort keys and keeps ties in the order of the rows; each of them
is shown under the output names by its own values. -/
theorem rest_start_exact {text : String} {query : Query} (isRead : ofText text = .ok query)
    {rows : List Row} (ordered : ∀ row ∈ rows, row.IsOrdered) (collation : Collation)
    (columns : List String) (ε : Type) :
    ∃ sorted : List (Row × Nat),
      (∀ other, IsStableSort (query.compareRows collation columns)
        (query.admitted collation rows) other ↔ other = sorted) ∧
      (query.order = [] → sorted.map Prod.fst = query.admitted collation rows) ∧
      ∃ exec last : Execution ε,
        Execution.start collation query columns ⟨rows, none⟩ = .ok exec ∧
        exec.columns = query.outputNames columns ∧
        exec.rest =
          ((query.page sorted).map fun row => query.outputRow columns row.1, none, last) := by
  have renderable := isRenderable_of_ofText isRead
  have admitted : ∀ row ∈ query.admitted collation rows, row.IsOrdered :=
    fun row member => ordered row (List.mem_of_mem_filter member)
  refine ⟨stableSort (query.compareRows collation columns) (query.admitted collation rows),
    fun other => isStableSort_iff (compareRows_compares admitted), ?_, ?_⟩
  · intro noKeys
    rw [stableSort_of_no_keys noKeys, List.zipIdx_map_fst]
  · let unread : Execution ε := query.unread collation columns ⟨rows, none⟩
    have pulled : unread.rest = _ := rest_unread renderable rows
    rw [shown, page_map, List.map_map] at pulled
    exact ⟨unread, _, start_eq renderable _, rfl, pulled⟩

/-- Ten comes before both spellings of nine, which keep their order. -/
theorem rest_start_exact_tie :
    let row (a b : String) : Row := Row.ofFields (.ofList [("a", [a]), ("b", [b])]) .empty
    let rows := [row "9" "1", row "10" "1", row "9.0" "1", row "11" "2"]
    let text := "SELECT a AS k WHERE b = '1' ORDER BY k DESC LIMIT 2 OFFSET 1"
    ∃ query : Query, ofText text = .ok query ∧ (∀ row ∈ rows, row.IsOrdered) ∧
      ∃ exec last : Execution Unit,
        Execution.start .exact query ["a", "b"] ⟨rows, none⟩ = .ok exec ∧
        exec.rest = ([⟨["k"], [.text "9"]⟩, ⟨["k"], [.text "9.0"]⟩], none, last) := by
  intro row rows text
  let query : Query :=
    { select := [⟨.column "a", some "k"⟩]
      filter := some (.compare (.column "b") .eq (.ofText "1"))
      order := [⟨.column "k", .descending⟩]
      limit := some 2
      offset := some 1 }
  have count (n : Nat) (small : n < 10) : IsCount n :=
    ⟨Int.natCast_nonneg n, lt_pow_of_le (show n < 10 ^ 1 by omega) (by decide)⟩
  have renderable : query.IsRenderable := by
    constructor
    · refine .inr ⟨List.cons_ne_nil _ _, ?_⟩
      simp only [query, List.mem_singleton]
      rintro item rfl
      exact ⟨show IsQuotable "a" by decide, by rintro _ ⟨⟩; decide⟩
    · rintro _ ⟨⟩
      exact ⟨show IsQuotable "b" by decide, rfl⟩
    · simp only [query, List.mem_singleton]
      rintro key rfl
      exact show IsQuotable "k" by decide
    · rintro _ ⟨⟩
      exact count 2 (by decide)
    · rintro _ ⟨⟩
      exact count 1 (by decide)
  have isRead : ofText text = .ok query := by
    rw [show text = query.render by decide +kernel]
    exact ofText_render renderable
  have ordered : ∀ row ∈ rows, row.IsOrdered := by
    have each (a b : String) : (row a b).IsOrdered := Row.ofFields_isOrdered Record.all_empty
    simp only [rows, List.mem_cons, List.not_mem_nil, or_false]
    rintro _ (rfl | rfl | rfl | rfl) <;> exact each _ _
  obtain ⟨sorted, only, _, exec, last, started, _, pulled⟩ :=
    rest_start_exact isRead ordered .exact ["a", "b"] Unit
  have admitted : query.admitted .exact rows = [row "9" "1", row "10" "1", row "9.0" "1"] := rfl
  have sorts : IsStableSort (query.compareRows .exact ["a", "b"]) (query.admitted .exact rows)
      [(row "10" "1", 1), (row "9" "1", 0), (row "9.0" "1", 2)] := by
    rw [admitted]
    exact ⟨.swap _ _ _, by decide +kernel, by decide +kernel⟩
  refine ⟨query, isRead, ordered, exec, last, started, ?_⟩
  rw [pulled, ← (only _).1 sorts]
  rfl

end Query

end LogSelect
