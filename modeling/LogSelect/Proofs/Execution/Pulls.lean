import LogSelect.Proofs.Execution.Correctness

/-!
Pulling a result in any order of steps.

A result is asked for its next row or for all rows that are left.  Whatever is asked, the rows that
are handed out are a beginning of the result, and the counters tell how far it has come.  Every
request takes some rows from the front of the page and leaves the others pending; what holds of
whole runs follows by induction on the requests.
-/

namespace LogSelect

inductive Request where
  | next
  | rest
  deriving DecidableEq, Repr

/-- What a request is answered with.  Rows that are pulled together are lost if a failure follows
them. -/
inductive Answer (ε : Type) where
  | row (output : OutputRow)
  | stop
  | rows (outputs : List OutputRow)
  | failure (error : PullError ε)

namespace Answer

variable {ε : Type}

def handed : Answer ε → List OutputRow
  | .row output => [output]
  | .rows outputs => outputs
  | .stop | .failure _ => []

/-- Behind every answer but a single row the result is at its end. -/
def IsLast : Answer ε → Prop
  | .row _ => False
  | .stop | .rows _ | .failure _ => True

end Answer

namespace Request

variable {ε : Type}

def nothing : Request → Answer ε
  | .next => .stop
  | .rest => .rows []

def answer (exec : Execution ε) : Request → Answer ε × Execution ε
  | .next =>
    match exec.next with
    | (.row output, later) => (.row output, later)
    | (.stop, later) => (.stop, later)
    | (.failure e, later) => (.failure e, later)
  | .rest =>
    match exec.rest with
    | (outputs, none, later) => (.rows outputs, later)
    | (_, some e, later) => (.failure e, later)

end Request

namespace Execution

variable {ε : Type} {exec later last : Execution ε} {rows front more left : List Row}
  {output : Row → OutputRow}

def run (exec : Execution ε) : List Request → List (Answer ε) × Execution ε
  | [] => ([], exec)
  | request :: requests =>
    let (answer, later) := request.answer exec
    let (answers, last) := later.run requests
    (answer :: answers, last)

theorem run_cons (exec : Execution ε) (request : Request) (requests : List Request) :
    exec.run (request :: requests) =
      ((request.answer exec).1 :: ((request.answer exec).2.run requests).1,
        ((request.answer exec).2.run requests).2) := rfl

/-! ## Requests at a page -/

theorem answer_nil (pending : exec.pending = .page []) (request : Request) :
    request.answer exec = (request.nothing, exec) := by
  cases request with
  | next => rw [Request.answer, next_nil pending, Request.nothing]
  | rest =>
    have pulled : exec.pullRows 1 = ([], none, exec) := by
      rw [pullRows, next_nil pending]
    have left : exec.remaining = 0 := by
      rw [remaining, pending]
      rfl
    rw [Request.answer, rest, left, pulled, Request.nothing]

theorem run_nil (pending : exec.pending = .page []) (requests : List Request) :
    exec.run requests = (requests.map Request.nothing, exec) := by
  induction requests with
  | nil => rfl
  | cons request requests ih => rw [run_cons, answer_nil pending, ih, List.map_cons]

/-- The answers have handed out the rows of `front`, and those of `left` are still to come. -/
structure Deals (exec : Execution ε) (output : Row → OutputRow) (front left : List Row)
    (answers : List (Answer ε)) (later : Execution ε) : Prop where
  handed : answers.flatMap Answer.handed = front.map output
  later : later = exec.advance front.length left
  last : (∃ answer ∈ answers, answer.IsLast) → left = []
  noFailure : ∀ error, .failure error ∉ answers

theorem Deals.cons {answer : Answer ε} {answers : List (Answer ε)}
    (first : exec.Deals output front (more ++ left) [answer] later)
    (others : later.Deals output more left answers last) :
    exec.Deals output (front ++ more) left (answer :: answers) last where
  handed := by
    have handed := first.handed
    rw [List.flatMap_singleton] at handed
    rw [List.flatMap_cons, handed, others.handed, List.map_append]
  later := by rw [others.later, first.later, advance_advance, List.length_append]
  last := by
    rintro ⟨final, member, isLast⟩
    rcases List.mem_cons.1 member with rfl | behind
    · exact (List.append_eq_nil_iff.1 (first.last ⟨final, List.mem_cons_self, isLast⟩)).2
    · exact others.last ⟨final, behind, isLast⟩
  noFailure error member := by
    rcases List.mem_cons.1 member with same | behind
    · exact first.noFailure error (List.mem_singleton.2 same)
    · exact others.noFailure error behind

theorem answer_deals (pending : exec.pending = .page rows)
    (shows : ∀ row, exec.query.project exec.columns row = .ok (output row)) (request : Request) :
    ∃ front left, rows = front ++ left ∧
      exec.Deals output front left [(request.answer exec).1] (request.answer exec).2 := by
  cases request with
  | next =>
    cases rows with
    | nil =>
      rw [answer_nil pending]
      exact ⟨[], [], rfl, rfl, (advance_zero pending).symm, fun _ => rfl, by simp [Request.nothing]⟩
    | cons row rows =>
      rw [Request.answer, next_cons pending (shows row)]
      exact ⟨[row], rows, rfl, rfl, rfl, by simp [Answer.IsLast], by simp⟩
  | rest =>
    have left : exec.remaining = rows.length := by rw [remaining, pending]
    rw [Request.answer, rest, left, pullRows_page pending shows (Nat.lt_succ_self _)]
    exact ⟨rows, [], (List.append_nil rows).symm, List.flatMap_singleton .., rfl, fun _ => rfl,
      by simp⟩

theorem run_deals (pending : exec.pending = .page rows)
    (shows : ∀ row, exec.query.project exec.columns row = .ok (output row))
    (requests : List Request) :
    ∃ front left, rows = front ++ left ∧
      exec.Deals output front left (exec.run requests).1 (exec.run requests).2 := by
  induction requests generalizing exec rows with
  | nil => exact ⟨[], rows, rfl, rfl, (advance_zero pending).symm, by simp [run], by simp [run]⟩
  | cons request requests ih =>
    obtain ⟨front, behind, rfl, first⟩ := answer_deals pending shows request
    obtain ⟨more, left, rfl, others⟩ : ∃ more left, behind = more ++ left ∧
        Deals (request.answer exec).2 output more left ((request.answer exec).2.run requests).1
          ((request.answer exec).2.run requests).2 := by
      apply ih
      · rw [first.later]
        rfl
      · rw [first.later]
        exact shows
    exact ⟨front ++ more, left, (List.append_assoc ..).symm, first.cons others⟩

end Execution

namespace Query

variable {query : Query} {collation : Collation} {columns : List String} {ε : Type}

/-! ## The first request -/

theorem answer_unread (renderable : query.IsRenderable) (rows : List Row) (request : Request) :
    request.answer (query.unread collation columns ⟨rows, none⟩ : Execution ε) =
      request.answer (query.opened collation columns rows ε) := by
  cases request with
  | next => rw [Request.answer, next_unread renderable, Request.answer]
  | rest =>
    have pulled : (query.opened collation columns rows ε).rest =
        ((query.shown collation columns rows).map (query.outputRow columns), none,
          (query.opened collation columns rows ε).advance
            (query.shown collation columns rows).length []) :=
      Execution.pullRows_page rfl (project_opened renderable rows) (Nat.lt_succ_self _)
    rw [Request.answer, rest_unread renderable, Request.answer, pulled]

def broken (query : Query) (collation : Collation) (columns : List String) (rows : List Row)
    (ε : Type) : Execution ε :=
  ⟨query, collation, columns, query.outputNames columns, ⟨rows.length, 0, 0⟩, .page [], none⟩

/-- A request that meets the failure of the feed hands out nothing, as no row has been shown. -/
theorem answer_failing (renderable : query.IsRenderable) (rows : List Row) (error : ε)
    (request : Request) :
    request.answer (query.unread collation columns ⟨rows, some error⟩) =
      (.failure (.feed error), query.broken collation columns rows ε) := by
  have isRead : (query.unread collation columns ⟨rows, some error⟩).readFeed ⟨rows, some error⟩ =
      (⟨rows.length, 0, 0⟩, .error (.feed error)) := by
    unfold Execution.readFeed
    simp only [unread, filterRows_eq renderable]
  have failed : (query.unread collation columns ⟨rows, some error⟩).next =
      (.failure (.feed error), query.broken collation columns rows ε) := by
    rw [Execution.next]
    simp only [unread] at isRead ⊢
    rw [isRead]
    rfl
  cases request with
  | next => rw [Request.answer, failed]
  | rest => rw [Request.answer, Execution.rest, Execution.pullRows, failed]

/-! ## The number of rows -/

def pageLength (query : Query) (matched : Nat) : Nat :=
  let behind := matched - (query.offset.getD 0).toNat
  match query.limit with
  | none => behind
  | some limit => min limit.toNat behind

theorem length_page {α : Type} (query : Query) (xs : List α) :
    (query.page xs).length = query.pageLength xs.length := by
  unfold page pageLength
  cases query.limit <;> simp

theorem length_shown (query : Query) (collation : Collation) (columns : List String)
    (rows : List Row) :
    (query.shown collation columns rows).length =
      query.pageLength (query.admitted collation rows).length := by
  rw [shown, length_page, List.length_map, (stableSort_perm _ _).length_eq, List.length_zipIdx]

end Query

/-! ## Whole runs -/

/-- A run on `scanned` rows, of which `matched` are admitted and `full` is to be shown. -/
structure Execution.Consistent {ε : Type} (full : List OutputRow) (scanned matched : Nat)
    (requests : List Request) (answers : List (Answer ε)) (last : Execution ε) : Prop where
  handed : answers.flatMap Answer.handed <+: full
  noFailure : ∀ error, .failure error ∉ answers
  counted : requests ≠ [] → last.stats.scanned = scanned ∧ last.stats.matched = matched
  returned : last.stats.returned = (answers.flatMap Answer.handed).length
  ended : (∃ answer ∈ answers, answer.IsLast) →
    answers.flatMap Answer.handed = full ∧
      ∀ request : Request, request.answer last = (request.nothing, last)

namespace Query

variable {query : Query} {collation : Collation} {columns : List String} {ε : Type}

theorem run_unread (renderable : query.IsRenderable) (rows : List Row) (request : Request)
    (requests : List Request) :
    (query.unread collation columns ⟨rows, none⟩ : Execution ε).run (request :: requests) =
      (query.opened collation columns rows ε).run (request :: requests) := by
  rw [Execution.run_cons, Execution.run_cons, answer_unread renderable]

theorem run_consistent (renderable : query.IsRenderable) (rows : List Row)
    (requests : List Request) :
    Execution.Consistent ((query.shown collation columns rows).map (query.outputRow columns))
      rows.length (query.admitted collation rows).length requests
      ((query.unread collation columns ⟨rows, none⟩ : Execution ε).run requests).1
      ((query.unread collation columns ⟨rows, none⟩ : Execution ε).run requests).2 := by
  cases requests with
  | nil => exact ⟨List.nil_prefix, by simp [Execution.run], by simp, rfl, by simp [Execution.run]⟩
  | cons request requests =>
    obtain ⟨front, left, split, deals⟩ : ∃ front left,
        query.shown collation columns rows = front ++ left ∧
          Execution.Deals (query.opened collation columns rows ε) (query.outputRow columns)
            front left
            ((query.opened collation columns rows ε).run (request :: requests)).1
            ((query.opened collation columns rows ε).run (request :: requests)).2 :=
      Execution.run_deals rfl (project_opened renderable rows) (request :: requests)
    rw [run_unread renderable, split]
    constructor
    · rw [deals.handed, List.map_append]
      exact List.prefix_append _ _
    · exact deals.noFailure
    · intro _
      rw [deals.later]
      exact ⟨rfl, rfl⟩
    · rw [deals.handed, deals.later, List.length_map]
      exact Nat.zero_add _
    · intro ends
      have none := deals.last ends
      subst none
      rw [deals.handed, List.append_nil]
      refine ⟨rfl, Execution.answer_nil ?_⟩
      rw [deals.later]
      rfl

/-- However the result of a query that is read from a text is pulled, the rows that are handed out
are a beginning of the full result, and all of it when an answer has shown its end.  Nothing is read
before the first request.  If the feed fails, the first request reports the failure, and no row is
handed out. -/
theorem pulls_consistent {text : String} {query : Query} (isRead : ofText text = .ok query)
    (collation : Collation) (columns : List String) (rows : List Row) (ε : Type) :
    let full := (query.shown collation columns rows).map (query.outputRow columns)
    let matched := (query.admitted collation rows).length
    full.length = query.pageLength matched ∧
      (∃ exec : Execution ε, Execution.start collation query columns ⟨rows, none⟩ = .ok exec ∧
        exec.stats = ⟨0, 0, 0⟩ ∧ exec.pending = .feed ⟨rows, none⟩ ∧
        (∃ last, exec.rest = (full, none, last)) ∧
        ∀ requests, Execution.Consistent full rows.length matched requests
          (exec.run requests).1 (exec.run requests).2) ∧
      ∀ error : ε, ∃ exec, Execution.start collation query columns ⟨rows, some error⟩ = .ok exec ∧
        exec.stats = ⟨0, 0, 0⟩ ∧ exec.pending = .feed ⟨rows, some error⟩ ∧
        ∀ request requests, ∃ last,
          exec.run (request :: requests) =
            (.failure (.feed error) :: requests.map Request.nothing, last) ∧
          last.stats = ⟨rows.length, 0, 0⟩ := by
  intro full matched
  have renderable := isRenderable_of_ofText isRead
  refine ⟨?_, ⟨_, start_eq renderable _, rfl, rfl, ⟨_, rest_unread renderable rows⟩, ?_⟩, ?_⟩
  · rw [List.length_map]
    exact length_shown query collation columns rows
  · exact run_consistent renderable rows
  · intro error
    refine ⟨_, start_eq renderable _, rfl, rfl, ?_⟩
    intro request requests
    refine ⟨query.broken collation columns rows ε, ?_, rfl⟩
    rw [Execution.run_cons, answer_failing renderable, Execution.run_nil rfl]

/-- One row is asked for, then all that are left, then one more; and a feed that fails although the
limit has been reached. -/
theorem pulls_consistent_limit :
    let row (a b : String) : Row := Row.ofFields (.ofList [("a", [a]), ("b", [b])]) .empty
    let rows := [row "9" "1", row "10" "1", row "8" "2", row "7" "1", row "6" "1"]
    let text := "SELECT a WHERE b = '1' LIMIT 2 OFFSET 1"
    let shown (a : String) : OutputRow := ⟨["a"], [.text a]⟩
    ∃ query : Query, ofText text = .ok query ∧
      (∃ exec last : Execution Unit,
        Execution.start .exact query ["a", "b"] ⟨rows, none⟩ = .ok exec ∧
        exec.run [.next, .rest, .next] = ([.row (shown "10"), .rows [shown "7"], .stop], last) ∧
        last.stats = ⟨5, 4, 2⟩ ∧
        ∀ request : Request, request.answer last = (request.nothing, last)) ∧
      ∃ exec last : Execution Unit,
        Execution.start .exact query ["a", "b"] ⟨rows, some ()⟩ = .ok exec ∧
        exec.run [.rest, .next] = ([.failure (.feed ()), .stop], last) ∧
        last.stats = ⟨5, 0, 0⟩ := by
  intro row rows text shown
  let query : Query :=
    { select := [⟨.column "a", none⟩]
      filter := some (.compare (.column "b") .eq (.ofText "1"))
      order := []
      limit := some 2
      offset := some 1 }
  have isRead : ofText text = .ok query := by decide +kernel
  obtain ⟨_, ⟨exec, started, _, _, _, consistent⟩, failing⟩ :=
    pulls_consistent isRead .exact ["a", "b"] rows Unit
  obtain ⟨broken, startedBroken, _, _, failed⟩ := failing ()
  have answers : (exec.run [.next, .rest, .next]).1 =
      [.row (shown "10"), .rows [shown "7"], .stop] := by
    cases started
    rfl
  have run := consistent [.next, .rest, .next]
  rw [answers] at run
  obtain ⟨scanned, matched⟩ := run.counted (by simp)
  have returned : (exec.run [.next, .rest, .next]).2.stats.returned = 2 := run.returned
  have counts : (exec.run [.next, .rest, .next]).2.stats = ⟨5, 4, 2⟩ := by
    rw [← returned, show (5 : Nat) = rows.length from rfl, ← scanned,
      show (4 : Nat) = (query.admitted .exact rows).length from rfl, ← matched]
  obtain ⟨_, ended⟩ := run.ended ⟨.stop, by simp, trivial⟩
  obtain ⟨last, isRun, stats⟩ := failed .rest [.next]
  exact ⟨query, isRead,
    ⟨exec, _, started, Prod.ext answers rfl, counts, ended⟩,
    ⟨broken, last, startedBroken, isRun, stats⟩⟩

end Query

end LogSelect
