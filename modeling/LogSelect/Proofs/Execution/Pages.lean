import Mathlib.Algebra.Order.Floor.Div
import LogSelect.Proofs.Execution.Pulls

/-!
Successive pages of a result.

The counts of a query have a say in its page and in nothing else: with a limit and an offset of its
own, a query admits, sorts and shows the same rows.  Each page is therefore a stretch of one and the
same list, however often the query is executed, and stretches of one size that follow each other
divide that list.
-/

namespace LogSelect

/-! ## Stretches of a list -/

theorem flatMap_range_stretch {α : Type} (xs : List α) (size count : ℕ) :
    ((List.range count).flatMap fun k => (xs.drop (k * size)).take size) =
      xs.take (count * size) := by
  induction count with
  | zero => simp
  | succ count ih =>
    rw [List.range_succ, List.flatMap_append, ih, List.flatMap_singleton, Nat.succ_mul,
      List.take_add]

theorem stretch_eq_nil_iff {α : Type} (xs : List α) {size : ℕ} (positive : 0 < size) (k : ℕ) :
    (xs.drop (k * size)).take size = [] ↔ xs.length ⌈/⌉ size ≤ k := by
  rw [List.take_eq_nil_iff, List.drop_eq_nil_iff, ceilDiv_le_iff_le_mul positive, Nat.mul_comm]
  simp [positive.ne']

theorem length_stretch {α : Type} (xs : List α) {size k : ℕ} (positive : 0 < size)
    (another : k + 1 < xs.length ⌈/⌉ size) : ((xs.drop (k * size)).take size).length = size := by
  have further := mt (ceilDiv_le_iff_le_mul positive).2 (Nat.not_le_of_lt another)
  rw [Nat.mul_succ, Nat.mul_comm] at further
  rw [List.length_take, List.length_drop]
  omega

namespace Query

variable {query : Query} {collation : Collation} {columns : List String} {ε : Type}

def window (query : Query) (size start : ℕ) : Query :=
  { query with limit := some (size : Int), offset := some (start : Int) }

/-! ## The text of a window -/

theorem render_window (noLimit : query.limit = none) (noOffset : query.offset = none)
    (size start : ℕ) :
    (query.window size start).render =
      query.render ++ " LIMIT " ++ toString (size : Int) ++ " OFFSET " ++
        toString (start : Int) := by
  rw [← String.toList_inj]
  simp only [render, window, noLimit, noOffset, List.cons_append, toList_intercalate_blank,
    String.toList_append]
  simp [trail]

theorem isRenderable_window (renderable : query.IsRenderable) {size start : ℕ}
    (countSize : IsCount size) (countStart : IsCount start) :
    (query.window size start).IsRenderable where
  select := renderable.select
  filter := renderable.filter
  order := renderable.order
  limit := by
    rintro _ ⟨⟩
    exact countSize
  offset := by
    rintro _ ⟨⟩
    exact countStart

/-! ## The execution of a window -/

theorem outputColumns_window (size start : ℕ) :
    (query.window size start).outputColumns columns = query.outputColumns columns := rfl

theorem project_window (size start : ℕ) (row : Row) :
    (query.window size start).project columns row = query.project columns row := rfl

theorem sortRows_window (size start : ℕ) (rows : List Row) :
    (query.window size start).sortRows collation columns rows =
      query.sortRows collation columns rows := rfl

theorem filterRows_window (size start : ℕ) (rows : List Row) :
    (query.window size start).filterRows collation rows = query.filterRows collation rows := by
  induction rows with
  | nil => rfl
  | cons row rows ih =>
    rw [filterRows, filterRows, ih]
    rfl

theorem pageRows_window {α : Type} (size start : ℕ) (xs : List α) :
    (query.window size start).pageRows xs = (xs.drop start).take size := by
  have stop : place xs.length (start + size) = min (start + size) xs.length :=
    place_ofNat xs.length (start + size)
  simp only [pageRows, window, Option.getD_some, Option.map_some, slice, place_ofNat, stop]
  exact drop_min_take_min xs start size

theorem page_of_uncounted {α : Type} (noLimit : query.limit = none)
    (noOffset : query.offset = none) (xs : List α) : query.page xs = xs := by
  simp [page, noLimit, noOffset]

/-- A window reads the same rows from a feed and keeps a stretch of them. -/
theorem readFeed_window (renderable : query.IsRenderable) (noLimit : query.limit = none)
    (noOffset : query.offset = none) (size start : ℕ) (rows : List Row) :
    ((query.window size start).unread collation columns ⟨rows, none⟩ : Execution ε).readFeed
        ⟨rows, none⟩ =
      (⟨rows.length, (query.admitted collation rows).length, 0⟩,
        .ok (((query.shown collation columns rows).drop start).take size)) := by
  have sorted : query.sortRows collation columns (query.admitted collation rows) =
      .ok (query.shown collation columns rows) := by
    rw [shown, page_of_uncounted noLimit noOffset]
    exact sortRows_eq renderable _
  simp only [Execution.readFeed, unread, filterRows_window, filterRows_eq renderable,
    sortRows_window, sorted, pageRows_window]

/-- Executing a query shows `output` in all and leaves the counters at `stats`. -/
def Gives (query : Query) (collation : Collation) (columns : List String) (rows : List Row)
    (ε : Type) (output : List OutputRow) (stats : Stats) : Prop :=
  ∃ exec last : Execution ε, Execution.start collation query columns ⟨rows, none⟩ = .ok exec ∧
    exec.rest = (output, none, last) ∧ last.stats = stats

def result (query : Query) (collation : Collation) (columns : List String) (rows : List Row) :
    List OutputRow :=
  (query.shown collation columns rows).map (query.outputRow columns)

theorem length_result (noLimit : query.limit = none) (noOffset : query.offset = none)
    (rows : List Row) :
    (query.result collation columns rows).length = (query.admitted collation rows).length := by
  rw [result, List.length_map, length_shown, pageLength, noLimit, noOffset]
  rfl

theorem gives_result (renderable : query.IsRenderable) (rows : List Row) :
    query.Gives collation columns rows ε (query.result collation columns rows)
      ⟨rows.length, (query.admitted collation rows).length,
        (query.result collation columns rows).length⟩ := by
  refine ⟨_, _, start_eq renderable _, rest_unread renderable rows, ?_⟩
  simp [Execution.advance, opened, result]

theorem gives_window (renderable : query.IsRenderable) (noLimit : query.limit = none)
    (noOffset : query.offset = none) (size start : ℕ) (rows : List Row) :
    (query.window size start).Gives collation columns rows ε
      (((query.result collation columns rows).drop start).take size)
      ⟨rows.length, (query.admitted collation rows).length,
        (((query.result collation columns rows).drop start).take size).length⟩ := by
  let unread : Execution ε := (query.window size start).unread collation columns ⟨rows, none⟩
  have started : Execution.start collation (query.window size start) columns ⟨rows, none⟩ =
      .ok unread := by
    rw [Execution.start, outputColumns_window, outputColumns_eq renderable]
    rfl
  let stretch := ((query.shown collation columns rows).drop start).take size
  let opened : Execution ε :=
    { unread with
      stats := ⟨rows.length, (query.admitted collation rows).length, 0⟩
      pending := .page stretch
      pageSize := some stretch.length }
  have opens : unread.next = opened.next :=
    Execution.next_feed rfl (readFeed_window renderable noLimit noOffset size start rows)
  have shows (row : Row) :
      opened.query.project opened.columns row = .ok (query.outputRow columns row) :=
    (project_window size start row).trans (project_eq renderable)
  have few : stretch.length ≤ rows.length :=
    ((List.take_sublist _ _).trans (List.drop_sublist _ _)).length_le.trans (length_shown_le rows)
  have pulled : opened.pullRows (rows.length + 1) =
      (stretch.map (query.outputRow columns), none, opened.advance stretch.length []) :=
    Execution.pullRows_page rfl shows (Nat.lt_succ_of_le few)
  rw [← Execution.pullRows_congr opens, List.map_take, List.map_drop] at pulled
  refine ⟨unread, _, started, pulled, ?_⟩
  simp [Execution.advance, opened, stretch, result]

/-- Pages of one size, taken one behind the other by queries of their own, make up the result of the
query: up to the first empty page every row comes once and in order, and every page in front of
another one is full.  All pages report the same numbers of rows scanned and matched, and their
numbers of rows returned add up to those matched.  Counts that can be written are read from the text
of the query with a limit and an offset behind it. -/
theorem pages_tile {text : String} {query : Query} (isRead : ofText text = .ok query)
    (noLimit : query.limit = none) (noOffset : query.offset = none) (collation : Collation)
    (columns : List String) (rows : List Row) {size : ℕ} (positive : 0 < size) (ε : Type) :
    ∃ (full : List OutputRow) (pages : ℕ → List OutputRow) (matched count : ℕ),
      query.Gives collation columns rows ε full ⟨rows.length, matched, full.length⟩ ∧
      (∀ k, (query.window size (k * size)).Gives collation columns rows ε (pages k)
        ⟨rows.length, matched, (pages k).length⟩) ∧
      (∀ k, pages k = [] ↔ count ≤ k) ∧
      (List.range count).flatMap pages = full ∧
      (∀ k, k + 1 < count → (pages k).length = size) ∧
      ((List.range count).map fun k => (pages k).length).sum = matched ∧
      ∀ k : ℕ, IsCount size → IsCount (k * size : ℕ) →
        ofText (query.render ++ " LIMIT " ++ toString (size : Int) ++ " OFFSET " ++
          toString ((k * size : ℕ) : Int)) = .ok (query.window size (k * size)) := by
  have renderable := isRenderable_of_ofText isRead
  let full := query.result collation columns rows
  let page (k : ℕ) := (full.drop (k * size)).take size
  have tiled : (List.range (full.length ⌈/⌉ size)).flatMap page = full := by
    rw [flatMap_range_stretch, List.take_of_length_le]
    rw [Nat.mul_comm]
    exact (ceilDiv_le_iff_le_mul positive).1 le_rfl
  refine ⟨full, page, (query.admitted collation rows).length, full.length ⌈/⌉ size,
    gives_result renderable rows, ?_, stretch_eq_nil_iff full positive, tiled,
    fun k => length_stretch full positive, ?_, ?_⟩
  · intro k
    exact gives_window renderable noLimit noOffset size (k * size) rows
  · rw [← List.length_flatMap, tiled, length_result noLimit noOffset]
  · intro k countSize countStart
    rw [← render_window noLimit noOffset]
    exact ofText_render (isRenderable_window renderable countSize countStart)

/-- Two pages hold three rows, and the third page is empty. -/
theorem pages_tile_three :
    let row (a b : String) : Row := Row.ofFields (.ofList [("a", [a]), ("b", [b])]) .empty
    let rows := [row "9" "1", row "10" "2", row "8" "1", row "7" "1"]
    let text := "SELECT a WHERE b = '1'"
    let shown (a : String) : OutputRow := ⟨["a"], [.text a]⟩
    ∃ query : Query, ofText text = .ok query ∧ query.limit = none ∧ query.offset = none ∧ 0 < 2 ∧
      query.Gives .exact ["a", "b"] rows Unit [shown "9", shown "8", shown "7"] ⟨4, 3, 3⟩ ∧
      ∃ pages : ℕ → List OutputRow,
        (∀ k, (query.window 2 (k * 2)).Gives .exact ["a", "b"] rows Unit (pages k)
          ⟨4, 3, (pages k).length⟩) ∧
        (List.range 2).flatMap pages = [shown "9", shown "8", shown "7"] ∧
        ((List.range 2).map fun k => (pages k).length).sum = 3 ∧
        (pages 0).length = 2 ∧ pages 1 = [shown "7"] ∧ pages 2 = [] ∧
        ofText "SELECT a WHERE b = '1' LIMIT 2 OFFSET 2" = .ok (query.window 2 2) := by
  intro row rows text shown
  let query : Query :=
    { select := [⟨.column "a", none⟩]
      filter := some (.compare (.column "b") .eq (.ofText "1"))
      order := []
      limit := none
      offset := none }
  have isRead : ofText text = .ok query := by decide +kernel
  obtain ⟨full, pages, matched, count, gives, windows, ends, tiles, filled, adds, texts⟩ :=
    pages_tile isRead rfl rfl .exact ["a", "b"] rows (show 0 < 2 by decide) Unit
  have ran := gives
  obtain ⟨exec, last, started, pulled, counted⟩ := ran
  obtain rfl : full = [shown "9", shown "8", shown "7"] := by
    cases started
    exact (congrArg Prod.fst pulled).symm
  obtain rfl : matched = 3 := by
    cases started
    have same := congrArg (fun result => result.2.2.stats.matched) pulled
    exact (congrArg Stats.matched counted).symm.trans same.symm
  have last : pages 1 = [shown "7"] := by
    obtain ⟨_, _, started, pulled, _⟩ := windows 1
    cases started
    exact (congrArg Prod.fst pulled).symm
  have empty : pages 2 = [] := by
    obtain ⟨_, _, started, pulled, _⟩ := windows 2
    cases started
    exact (congrArg Prod.fst pulled).symm
  obtain rfl : count = 2 := by
    have atMost := (ends 2).1 empty
    have more : ¬ count ≤ 1 := by
      rw [← ends 1, last]
      exact List.cons_ne_nil _ _
    omega
  have isCount : IsCount 2 := ⟨by decide, lt_pow_of_le (show 2 < 10 ^ 1 by decide) (by decide)⟩
  have second := texts 1 isCount isCount
  rw [show query.render = text by decide +kernel] at second
  exact ⟨query, isRead, rfl, rfl, by decide, gives, pages, windows, tiles, adds,
    filled 0 (by decide), last, empty, second⟩

end Query

end LogSelect
