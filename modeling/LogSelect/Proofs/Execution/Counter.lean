import LogSelect.Proofs.Execution.Passes
import LogSelect.Proofs.Execution.Pulls
import LogSelect.Proofs.Execution.Safety

/-!
The counter of returned rows, for queries of every kind and for every feed.

A row is counted before it is shown.  Whether a row can be shown depends on the select list alone,
so a query shows every row of its page or none.  Where it shows all, the counter agrees with the
rows that have been handed out, whatever else has failed.  Where it shows none, a page with a row
on it leaves the counter at one although nothing has been handed out.
-/

namespace LogSelect

namespace Query

variable {query : Query} {collation : Collation} {columns : List String} {row : Row}
  {rows kept sorted : List Row}

/-! ## Showing a row -/

theorem exists_project (can : query.CanShow) (columns : List String) :
    ∃ output : Row → OutputRow, ∀ row, query.project columns row = .ok (output row) := by
  by_cases all : query.isWildcard = true
  · refine ⟨fun row => ⟨columns, columns.map row.get⟩, ?_⟩
    intro row
    rw [project, if_pos all]
  · have operands := can.resolve_left all
    refine ⟨fun row => ⟨columns, query.select.map fun item => item.term.valueIn row⟩, ?_⟩
    intro row
    have values : query.select.mapM (·.term.evaluate row) =
        .ok (query.select.map fun item => item.term.valueIn row) :=
      mapM_eq_ok fun item member => Term.evaluate_of_isOperand (operands item member)
    rw [project, if_neg all, values]
    rfl

theorem canShow_of_project {output : OutputRow} (shows : query.project columns row = .ok output) :
    query.CanShow := by
  unfold project at shows
  split at shows
  next all => exact .inl all
  next =>
    right
    intro item member
    cases values : query.select.mapM (·.term.evaluate row) with
    | error e =>
      rw [values] at shows
      cases shows
    | ok vs =>
      obtain ⟨v, evaluates⟩ := exists_ok_of_mapM values item member
      exact Term.isOperand_of_evaluate evaluates

theorem exists_project_error (cannot : ¬ query.CanShow) (columns : List String) (row : Row) :
    ∃ error, query.project columns row = .error error := by
  cases shows : query.project columns row with
  | error error => exact ⟨error, rfl⟩
  | ok output => exact absurd (canShow_of_project shows) cannot

/-! ## The size of the page -/

theorem length_le_of_filterRows {scanned : Nat}
    (filters : query.filterRows collation rows = (.ok kept, scanned)) :
    kept.length ≤ rows.length := by
  induction rows generalizing kept scanned with
  | nil =>
    cases filters
    exact Nat.le_refl 0
  | cons row rows ih =>
    rw [filterRows] at filters
    split at filters
    next => cases filters
    next admitted _ =>
      cases others : query.filterRows collation rows with
      | mk result count =>
        cases result with
        | error e =>
          rw [others] at filters
          cases filters
        | ok rest =>
          rw [others] at filters
          cases filters
          have fewer := ih others
          cases admitted with
          | true => exact Nat.succ_le_succ fewer
          | false => exact Nat.le_succ_of_le fewer

theorem length_of_sortRows (sorts : query.sortRows collation columns rows = .ok sorted) :
    sorted.length = rows.length := by
  rw [sortRows_of_canSort_stably (canSort_of_sortRows sorts)] at sorts
  obtain rfl := Except.ok.inj sorts
  exact (map_fst_stableSort_perm _ _).length_eq

end Query

namespace Execution

variable {ε : Type} {exec : Execution ε} {feed : Feed ε} {stats : Stats} {rows : List Row}

theorem length_le_of_readFeed (opens : exec.readFeed feed = (stats, .ok rows)) :
    rows.length ≤ feed.rows.length := by
  unfold readFeed at opens
  cases filters : exec.query.filterRows exec.collation feed.rows with
  | mk result scanned =>
    simp only [filters] at opens
    split at opens
    next => cases opens
    next => cases opens
    next kept _ =>
      split at opens
      next => cases opens
      next sorted sorts =>
        cases opens
        calc (exec.query.pageRows sorted).length
            ≤ sorted.length := Query.length_pageRows_le _ _
          _ = kept.length := Query.length_of_sortRows sorts
          _ ≤ feed.rows.length := Query.length_le_of_filterRows filters

theorem returned_of_readFeed (exec : Execution ε) (feed : Feed ε) :
    (exec.readFeed feed).1.returned = 0 := by
  unfold readFeed
  cases exec.query.filterRows exec.collation feed.rows with
  | mk result scanned =>
    dsimp only
    split
    · rfl
    · rfl
    · split <;> rfl

/-! ## The first request -/

variable {later : Execution ε}

def openPage (exec : Execution ε) (stats : Stats) (rows : List Row) : Execution ε :=
  { exec with stats, pageSize := some rows.length, pending := .page rows }

theorem remaining_openPage (exec : Execution ε) (stats : Stats) (rows : List Row) :
    (exec.openPage stats rows).remaining = rows.length := rfl

theorem next_of_failing (pending : exec.pending = .feed feed) {error : PullError ε}
    (fails : exec.readFeed feed = (stats, .error error)) :
    exec.next = (.failure error, { exec with stats, pending := .page [] }) := by
  rw [next, pending]
  simp only [fails]

theorem answer_of_failure {error : PullError ε} (fails : exec.next = (.failure error, later))
    (request : Request) : request.answer exec = (.failure error, later) := by
  cases request with
  | next => rw [Request.answer, fails]
  | rest => rw [Request.answer, rest, pullRows, fails]

theorem answer_of_stop (stops : exec.next = (.stop, later)) (request : Request) :
    request.answer exec = (request.nothing, later) := by
  cases request with
  | next => rw [Request.answer, stops, Request.nothing]
  | rest => rw [Request.answer, rest, pullRows, stops, Request.nothing]

/-- The first request opens the page and goes on as if it had always been there. -/
theorem answer_of_opening (pending : exec.pending = .feed feed)
    (opens : exec.readFeed feed = (stats, .ok rows)) {output : Row → OutputRow}
    (shows : ∀ row, exec.query.project exec.columns row = .ok (output row)) (request : Request) :
    request.answer exec = request.answer (exec.openPage stats rows) := by
  have first : exec.next = (exec.openPage stats rows).next := next_feed pending opens
  cases request with
  | next => rw [Request.answer, first, Request.answer]
  | rest =>
    have pulled {count : Nat} (enough : rows.length < count) :
        (exec.openPage stats rows).pullRows count =
          (rows.map output, none, (exec.openPage stats rows).advance rows.length []) :=
      pullRows_page (rfl : (exec.openPage stats rows).pending = .page rows) shows enough
    have enough : rows.length < exec.remaining + 1 := by
      rw [remaining, pending]
      exact Nat.lt_succ_of_le (length_le_of_readFeed opens)
    rw [Request.answer, rest, pullRows_congr first, pulled enough, Request.answer, rest,
      remaining_openPage, pulled (Nat.lt_succ_self rows.length)]

theorem unread_of_start {query : Query} {collation : Collation} {columns : List String}
    (started : start collation query columns feed = .ok exec) :
    exec.pending = .feed feed ∧ exec.stats.returned = 0 := by
  unfold start at started
  cases named : query.outputColumns columns with
  | error error =>
    rw [named] at started
    cases started
  | ok names =>
    rw [named] at started
    cases started
    exact ⟨rfl, rfl⟩

/-! ## Runs -/

def handedOut (answers : List (Answer ε)) : Nat :=
  (answers.flatMap Answer.handed).length

theorem handedOut_nothing (requests : List Request) :
    handedOut (requests.map (Request.nothing (ε := ε))) = 0 := by
  induction requests with
  | nil => rfl
  | cons request requests ih => cases request <;> exact ih

theorem run_of_last {answer : Answer ε} {request : Request}
    (answered : request.answer exec = (answer, later)) (ended : later.pending = .page [])
    (requests : List Request) :
    exec.run (request :: requests) = (answer :: requests.map Request.nothing, later) := by
  rw [run_cons, answered, run_nil ended]

/-- The page that the first request opens has a row on it, and rows cannot be shown. -/
def CountsUnshown (exec : Execution ε) (feed : Feed ε) : Prop :=
  ¬ exec.query.CanShow ∧ ∃ stats row rows, exec.readFeed feed = (stats, .ok (row :: rows))

theorem returned_eq_handedOut (pending : exec.pending = .feed feed)
    (fresh : exec.stats.returned = 0) (shown : ¬ exec.CountsUnshown feed)
    (requests : List Request) :
    (exec.run requests).2.stats.returned = handedOut (exec.run requests).1 := by
  cases requests with
  | nil => exact fresh
  | cons request requests =>
    have zero := returned_of_readFeed exec feed
    cases isRead : exec.readFeed feed with
    | mk stats result =>
      rw [isRead] at zero
      cases result with
      | error error =>
        have answered := answer_of_failure (next_of_failing pending isRead) request
        rw [run_of_last answered rfl]
        exact zero.trans (handedOut_nothing requests).symm
      | ok rows =>
        cases rows with
        | nil =>
          have first := (next_feed pending isRead).trans (next_nil rfl)
          rw [run_of_last (answer_of_stop first request) rfl]
          exact zero.trans (handedOut_nothing (request :: requests)).symm
        | cons row rows =>
          have can : exec.query.CanShow := by
            by_contra cannot
            exact shown ⟨cannot, stats, row, rows, isRead⟩
          obtain ⟨output, shows⟩ := Query.exists_project can exec.columns
          have opened : (exec.openPage stats (row :: rows)).pending = .page (row :: rows) := rfl
          obtain ⟨front, left, -, deals⟩ := run_deals opened shows (request :: requests)
          have same : exec.run (request :: requests) =
              (exec.openPage stats (row :: rows)).run (request :: requests) := by
            rw [run_cons, answer_of_opening pending isRead shows, run_cons]
          rw [same, handedOut, deals.handed, deals.later, List.length_map]
          exact (congrArg (· + front.length) zero).trans (Nat.zero_add _)

theorem next_cons_error {row : Row} {error : EvalError}
    (pending : exec.pending = .page (row :: rows))
    (fails : exec.query.project exec.columns row = .error error) :
    exec.next = (.failure (.eval error), exec.advance 1 []) := by
  rw [next, pending]
  simp only [nextOfPage, fails, advance]

theorem run_of_countsUnshown (pending : exec.pending = .feed feed)
    (unshown : exec.CountsUnshown feed) (request : Request) (requests : List Request) :
    ∃ error later, later.stats.returned = 1 ∧
      exec.run (request :: requests) =
        (.failure (.eval error) :: requests.map Request.nothing, later) := by
  obtain ⟨cannot, stats, row, rows, opens⟩ := unshown
  obtain ⟨error, fails⟩ := Query.exists_project_error cannot exec.columns row
  have zero := returned_of_readFeed exec feed
  rw [opens] at zero
  have first := (next_feed pending opens).trans (next_cons_error rfl fails)
  refine ⟨error, _, ?_, run_of_last (answer_of_failure first request) rfl requests⟩
  exact congrArg (· + 1) zero

end Execution

namespace Query

variable {query : Query} {collation : Collation} {columns : List String} {ε : Type}

/-- The counter of returned rows, at any time in the execution of any query, whatever fails.  It
agrees with the number of rows handed out, unless the select list holds what is neither a column
nor a constant and the first request has met a row to show: then that request fails, nothing is
ever handed out, and one row counts as returned. -/
theorem returned_handedOut {feed : Feed ε} {exec : Execution ε}
    (started : Execution.start collation query columns feed = .ok exec)
    (requests : List Request) :
    ((exec.run requests).2.stats.returned = Execution.handedOut (exec.run requests).1 ↔
        ¬ (requests ≠ [] ∧ exec.CountsUnshown feed)) ∧
      (requests ≠ [] ∧ exec.CountsUnshown feed →
        (∃ error, (exec.run requests).1.head? = some (.failure (.eval error))) ∧
          Execution.handedOut (exec.run requests).1 = 0 ∧
          (exec.run requests).2.stats.returned = 1) := by
  obtain ⟨pending, fresh⟩ := Execution.unread_of_start started
  have ahead : requests ≠ [] ∧ exec.CountsUnshown feed →
      (∃ error, (exec.run requests).1.head? = some (.failure (.eval error))) ∧
        Execution.handedOut (exec.run requests).1 = 0 ∧
        (exec.run requests).2.stats.returned = 1 := by
    rintro ⟨some, unshown⟩
    obtain ⟨request, others, rfl⟩ := List.exists_cons_of_ne_nil some
    obtain ⟨error, later, one, isRun⟩ :=
      Execution.run_of_countsUnshown pending unshown request others
    rw [isRun]
    exact ⟨⟨error, rfl⟩, Execution.handedOut_nothing others, one⟩
  refine ⟨⟨?_, ?_⟩, ahead⟩
  · intro same unshown
    obtain ⟨-, handed, returned⟩ := ahead unshown
    rw [handed, returned] at same
    exact absurd same Nat.one_ne_zero
  · intro shown
    cases requests with
    | nil => exact fresh
    | cons request requests =>
      apply Execution.returned_eq_handedOut pending fresh
      intro unshown
      exact shown ⟨List.cons_ne_nil request requests, unshown⟩

/-- The filter fails at the second row, so the row it has admitted before is not shown. -/
theorem returned_handedOut_filter :
    let row (a : String) : Row := Row.ofFields (.ofList [("a", [a])]) .empty
    let feed : Feed Unit := ⟨[row "1", row "2"], none⟩
    let query : Query :=
      { select := [⟨.column "a", none⟩]
        filter := some (.or (.compare (.column "a") .eq (.ofText "1")) (.column "a"))
        order := []
        limit := none
        offset := none }
    ∃ exec : Execution Unit, Execution.start .exact query ["a"] feed = .ok exec ∧
      (exec.run [.next, .rest]).1.head? =
        some (.failure (.eval (.notAPredicate (.column "a")))) ∧
      (exec.run [.next, .rest]).2.stats.scanned = 2 ∧
      (exec.run [.next, .rest]).2.stats.returned =
        Execution.handedOut (exec.run [.next, .rest]).1 := by
  intro row feed query
  obtain ⟨exec, started⟩ : ∃ exec, Execution.start .exact query ["a"] feed = .ok exec := ⟨_, rfl⟩
  have shown : ¬ ([Request.next, .rest] ≠ [] ∧ exec.CountsUnshown feed) := by
    cases started
    rintro ⟨-, cannot, -⟩
    apply cannot
    right
    simp [query, Term.IsOperand]
  refine ⟨exec, started, ?_, ?_, (returned_handedOut started _).1.2 shown⟩
  · cases started
    rfl
  · cases started
    rfl

/-- A comparison in the select list cannot be shown, and the row on the page counts as returned. -/
theorem returned_unshown :
    let row : Row := Row.ofFields (.ofList [("a", ["1"])]) .empty
    let isOne : Term := .compare (.column "a") .eq (.ofText "1")
    let query : Query := ⟨[⟨isOne, some "one"⟩], none, [], none, none⟩
    ∃ exec last : Execution Unit,
      Execution.start .exact query ["a"] ⟨[row], none⟩ = .ok exec ∧
      exec.run [.next] = ([.failure (.eval (.notAnOperand isOne))], last) ∧
      Execution.handedOut (exec.run [.next]).1 = 0 ∧ last.stats.returned = 1 :=
  ⟨_, _, rfl, rfl, rfl, rfl⟩

end Query

end LogSelect
