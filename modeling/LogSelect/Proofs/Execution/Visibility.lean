import LogSelect.Proofs.Execution.Pulls

/-!
What a query sees of its rows: the values of the columns that it names.

Rows that agree on these columns are admitted alike, compared alike and shown alike.  So two lists
of such rows lead to executions that differ at most in rows that are shown alike, and every request
keeps the two executions so.
-/

namespace LogSelect

def Term.columns : Term → List String
  | .column name => [name]
  | .literal _ _ | .wildcard => []
  | .compare left _ right | .and left right | .or left right => left.columns ++ right.columns
  | .not operand => operand.columns

/-- The names of the columns in the select list, the filter and the sort keys. -/
def Query.namedColumns (query : Query) : List String :=
  query.select.flatMap (·.term.columns) ++ query.filter.toList.flatMap Term.columns ++
    query.order.flatMap (·.term.columns)

def Row.AgreeOn (names : List String) (a b : Row) : Prop :=
  ∀ name ∈ names, a.get name = b.get name

variable {a b a' b' : Row} {names : List String}

instance : Decidable (a.AgreeOn names b) :=
  List.decidableBAll _ _

theorem Row.AgreeOn.mono {others : List String} (agree : a.AgreeOn names b)
    (fewer : others ⊆ names) : a.AgreeOn others b :=
  fun name member => agree name (fewer member)

theorem Row.AgreeOn.append {others : List String} (agree : a.AgreeOn (names ++ others) b) :
    a.AgreeOn names b ∧ a.AgreeOn others b :=
  List.forall_mem_append.1 agree

namespace Term

theorem valueIn_congr {t : Term} (agree : a.AgreeOn t.columns b) : t.valueIn a = t.valueIn b := by
  cases t with
  | column name => exact agree name (List.mem_singleton_self name)
  | _ => rfl

theorem holds_congr {p : Term} {collation : Collation} (agree : a.AgreeOn p.columns b) :
    p.holds collation a = p.holds collation b := by
  induction p with
  | column _ | literal _ _ | wildcard => rfl
  | compare left op right _ _ =>
    have parts := agree.append
    rw [holds, holds, valueIn_congr parts.1, valueIn_congr parts.2]
  | and left right ihLeft ihRight | or left right ihLeft ihRight =>
    have parts := agree.append
    rw [holds, holds, ihLeft parts.1, ihRight parts.2]
  | not operand ih => rw [holds, holds, ih agree]

end Term

namespace Query

variable {query : Query} {collation : Collation} {columns : List String}

theorem columns_subset_select {item : SelectItem} (member : item ∈ query.select) :
    item.term.columns ⊆ query.namedColumns := by
  intro name inside
  simp only [namedColumns, List.mem_append]
  exact .inl (.inl (List.mem_flatMap_of_mem member inside))

theorem columns_subset_filter {p : Term} (isFilter : query.filter = some p) :
    p.columns ⊆ query.namedColumns := by
  intro name inside
  simp only [namedColumns, List.mem_append, isFilter]
  exact .inl (.inr (by simpa using inside))

theorem columns_subset_order {key : OrderItem} (member : key ∈ query.order) :
    key.term.columns ⊆ query.namedColumns := by
  intro name inside
  simp only [namedColumns, List.mem_append]
  exact .inr (List.mem_flatMap_of_mem member inside)

/-- What a sort key stands for has its columns in the key or in the select list. -/
theorem columns_keyTerm_subset {key : OrderItem} (member : key ∈ query.order) :
    (query.keyTerm columns key.term).columns ⊆ query.namedColumns := by
  have own := columns_subset_order member
  cases isTerm : key.term with
  | column name =>
    rw [isTerm] at own
    simp only [keyTerm]
    split
    · exact own
    · cases last : (query.select.filter fun item => item.label = some name).getLast? with
      | none => exact own
      | some item =>
        have inside := List.mem_of_mem_filter (List.mem_of_getLast? last)
        exact columns_subset_select inside
  | _ =>
    rw [isTerm] at own
    exact own

section Agree

variable (agree : a.AgreeOn query.namedColumns b)
include agree

theorem filter_congr :
    query.filter.all (·.holds collation a) = query.filter.all (·.holds collation b) := by
  cases isFilter : query.filter with
  | none => rfl
  | some p => exact Term.holds_congr (agree.mono (columns_subset_filter isFilter))

theorem keyValue_congr {key : OrderItem} (member : key ∈ query.order) :
    query.keyValue columns a key = query.keyValue columns b key :=
  Term.valueIn_congr (agree.mono (columns_keyTerm_subset member))

theorem compareRows_congr (agree' : a'.AgreeOn query.namedColumns b') :
    query.compareRows collation columns a a' = query.compareRows collation columns b b' := by
  apply compareRows_congr_order
  intro key member
  rw [keyValue_congr agree member, keyValue_congr agree' member]

theorem outputRow_congr (notAll : query.select ≠ [⟨.wildcard, none⟩]) :
    query.outputRow columns a = query.outputRow columns b := by
  have values : (query.select.map fun item => item.term.valueIn a) =
      query.select.map fun item => item.term.valueIn b := by
    apply List.map_congr_left
    intro item member
    exact Term.valueIn_congr (agree.mono (columns_subset_select member))
  rw [outputRow, outputRow, if_neg notAll, if_neg notAll, values]

end Agree

/-! ## Lists of rows -/

section Lists

variable {rows rows' : List Row}
  (agree : List.Forall₂ (Row.AgreeOn query.namedColumns) rows rows')
include agree

theorem admitted_agree :
    List.Forall₂ (Row.AgreeOn query.namedColumns) (query.admitted collation rows)
      (query.admitted collation rows') := by
  apply List.rel_filter _ agree
  intro a b agree
  exact Bool.eq_iff_iff.1 (filter_congr agree)

theorem shown_agree :
    List.Forall₂ (Row.AgreeOn query.namedColumns) (query.shown collation columns rows)
      (query.shown collation columns rows') := by
  have sorted : List.Forall₂ (Row.AgreeOn query.namedColumns)
      ((stableSort (query.compareRows collation columns)
        (query.admitted collation rows)).map Prod.fst)
      ((stableSort (query.compareRows collation columns)
        (query.admitted collation rows')).map Prod.fst) :=
    forall₂_stableSort (admitted_agree agree) compareRows_congr
  unfold shown page
  cases query.limit with
  | none => exact List.forall₂_drop _ sorted
  | some limit => exact List.forall₂_take _ (List.forall₂_drop _ sorted)

end Lists

end Query

/-! ## Executions -/

namespace Execution

variable {ε : Type} {exec other : Execution ε} {left left' : List Row}

def atPage (exec : Execution ε) (left : List Row) : Execution ε :=
  { exec with pending := .page left }

/-- Rows that are shown alike, at every index. -/
def ShownAlike (exec : Execution ε) (left left' : List Row) : Prop :=
  List.Forall₂ (fun a b => exec.query.project exec.columns a = exec.query.project exec.columns b)
    left left'

/-- Executions that differ at most in pending rows, and these are shown alike. -/
inductive Alike : Execution ε → Execution ε → Prop where
  | atPage {exec : Execution ε} {left left' : List Row} : exec.ShownAlike left left' →
      Alike (exec.atPage left) (exec.atPage left')

theorem Alike.stats_eq (alike : exec.Alike other) : exec.stats = other.stats := by
  cases alike with
  | atPage _ => rfl

theorem Alike.remaining_eq (alike : exec.Alike other) : exec.remaining = other.remaining := by
  cases alike with
  | atPage rows => exact rows.length_eq

theorem Alike.next (alike : exec.Alike other) :
    ∃ pull later later', exec.next = (pull, later) ∧ other.next = (pull, later') ∧
      later.Alike later' := by
  cases alike with
  | @atPage exec left left' rows =>
    cases rows with
    | nil => exact ⟨.stop, _, _, rfl, rfl, .atPage .nil⟩
    | @cons a b left left' same others =>
      let shown : Execution ε :=
        { exec with stats := { exec.stats with returned := exec.stats.returned + 1 } }
      have behind : shown.ShownAlike left left' := others
      have ended : shown.ShownAlike [] [] := .nil
      simp only [Execution.next, Execution.atPage, nextOfPage, same]
      cases exec.query.project exec.columns b with
      | ok output => exact ⟨.row output, _, _, rfl, rfl, .atPage behind⟩
      | error e => exact ⟨.failure (.eval e), _, _, rfl, rfl, .atPage ended⟩

theorem Alike.pullRows (alike : exec.Alike other) (count : Nat) :
    ∃ outputs error last last', exec.pullRows count = (outputs, error, last) ∧
      other.pullRows count = (outputs, error, last') ∧ last.Alike last' := by
  induction count generalizing exec other with
  | zero => exact ⟨[], none, exec, other, rfl, rfl, alike⟩
  | succ count ih =>
    obtain ⟨pull, later, later', pulled, pulled', alike⟩ := alike.next
    rw [Execution.pullRows, Execution.pullRows, pulled, pulled']
    cases pull with
    | stop => exact ⟨[], none, later, later', rfl, rfl, alike⟩
    | failure e => exact ⟨[], some e, later, later', rfl, rfl, alike⟩
    | row output =>
      obtain ⟨outputs, error, last, last', rest, rest', alike⟩ := ih alike
      refine ⟨output :: outputs, error, last, last', ?_, ?_, alike⟩
      · simp only [rest]
      · simp only [rest']

theorem Alike.answer (alike : exec.Alike other) (request : Request) :
    ∃ answer later later', request.answer exec = (answer, later) ∧
      request.answer other = (answer, later') ∧ later.Alike later' := by
  cases request with
  | next =>
    obtain ⟨pull, later, later', pulled, pulled', alike⟩ := alike.next
    rw [Request.answer, Request.answer, pulled, pulled']
    cases pull with
    | row output => exact ⟨.row output, later, later', rfl, rfl, alike⟩
    | stop => exact ⟨.stop, later, later', rfl, rfl, alike⟩
    | failure e => exact ⟨.failure e, later, later', rfl, rfl, alike⟩
  | rest =>
    obtain ⟨outputs, error, last, last', pulled, pulled', alikeAtEnd⟩ :=
      alike.pullRows (exec.remaining + 1)
    rw [Request.answer, Request.answer, rest, rest, ← alike.remaining_eq, pulled, pulled']
    cases error with
    | none => exact ⟨.rows outputs, last, last', rfl, rfl, alikeAtEnd⟩
    | some e => exact ⟨.failure e, last, last', rfl, rfl, alikeAtEnd⟩

theorem Alike.run (alike : exec.Alike other) (requests : List Request) :
    ∃ answers last last', exec.run requests = (answers, last) ∧
      other.run requests = (answers, last') ∧ last.Alike last' := by
  induction requests generalizing exec other with
  | nil => exact ⟨[], exec, other, rfl, rfl, alike⟩
  | cons request requests ih =>
    obtain ⟨answer, later, later', answered, answered', alike⟩ := alike.answer request
    obtain ⟨answers, last, last', others, others', alike⟩ := ih alike
    refine ⟨answer :: answers, last, last', ?_, ?_, alike⟩
    · rw [run_cons, answered, others]
    · rw [run_cons, answered', others']

end Execution

namespace Query

variable {query : Query} {collation : Collation} {columns : List String} {rows rows' : List Row}
  {ε : Type}

section Agree

variable (renderable : query.IsRenderable) (notAll : query.select ≠ [⟨.wildcard, none⟩])
  (agree : List.Forall₂ (Row.AgreeOn query.namedColumns) rows rows')
include renderable notAll agree

theorem opened_alike :
    (query.opened collation columns rows ε).Alike (query.opened collation columns rows' ε) := by
  have pages : (query.opened collation columns rows ε).ShownAlike
      (query.shown collation columns rows) (query.shown collation columns rows') := by
    apply (shown_agree agree).imp
    intro a b agree
    rw [project_opened renderable, project_opened renderable, outputRow_congr agree notAll]
  have counts : query.opened collation columns rows' ε =
      (query.opened collation columns rows ε).atPage (query.shown collation columns rows') := by
    have matched : (query.admitted collation rows).length =
        (query.admitted collation rows').length := (admitted_agree agree).length_eq
    have size : (query.shown collation columns rows).length =
        (query.shown collation columns rows').length := (shown_agree agree).length_eq
    rw [opened, opened, Execution.atPage, agree.length_eq, matched, size]
  rw [counts]
  exact .atPage pages

/-- The runs of a query on rows that agree give the same answers and the same counts, also where
the feeds fail behind these rows. -/
theorem run_unread_agree (failure : Option ε) (requests : List Request) :
    ∃ answers last last',
      (query.unread collation columns ⟨rows, failure⟩ : Execution ε).run requests =
        (answers, last) ∧
      (query.unread collation columns ⟨rows', failure⟩ : Execution ε).run requests =
        (answers, last') ∧
      last.stats = last'.stats := by
  cases requests with
  | nil => exact ⟨[], _, _, rfl, rfl, rfl⟩
  | cons request requests =>
    cases failure with
    | none =>
      have alike : (query.opened collation columns rows ε).Alike
          (query.opened collation columns rows' ε) := opened_alike renderable notAll agree
      obtain ⟨answers, last, last', isRun, isRun', alikeAtEnd⟩ := alike.run (request :: requests)
      rw [run_unread renderable, run_unread renderable]
      exact ⟨answers, last, last', isRun, isRun', alikeAtEnd.stats_eq⟩
    | some error =>
      have same :
          query.broken collation columns rows ε = query.broken collation columns rows' ε := by
        rw [broken, broken, agree.length_eq]
      rw [Execution.run_cons, Execution.run_cons, answer_failing renderable,
        answer_failing renderable, same]
      exact ⟨_, _, _, rfl, rfl, rfl⟩

theorem rest_unread_agree (ε : Type) :
    ∃ outputs last last',
      (query.unread collation columns ⟨rows, none⟩ : Execution ε).rest = (outputs, none, last) ∧
      (query.unread collation columns ⟨rows', none⟩ : Execution ε).rest = (outputs, none, last') ∧
      last.stats = last'.stats := by
  have pulls (source : List Row) :
      (query.unread collation columns ⟨source, none⟩ : Execution ε).rest =
        (query.opened collation columns source ε).pullRows (source.length + 1) :=
    Execution.pullRows_congr (next_unread renderable source) source.length
  have alike : (query.opened collation columns rows ε).Alike
      (query.opened collation columns rows' ε) := opened_alike renderable notAll agree
  obtain ⟨outputs, error, last, last', pulled, pulled', alikeAtEnd⟩ :=
    alike.pullRows (rows.length + 1)
  rw [← pulls rows] at pulled
  rw [agree.length_eq, ← pulls rows'] at pulled'
  have complete : error = none := by
    rw [rest_unread renderable] at pulled
    exact (congrArg (fun result => result.2.1) pulled).symm
  rw [complete] at pulled pulled'
  exact ⟨outputs, last, last', pulled, pulled', alikeAtEnd.stats_eq⟩

end Agree

/-- A query that is read from a text and does not select all columns sees the columns that it
names: on two lists of rows that agree on them pairwise it shows the same rows and counts the same
numbers, however its results are pulled and whether or not the feeds fail. -/
theorem sees_namedColumns {text : String} {query : Query} (isRead : ofText text = .ok query)
    (notWildcard : query.isWildcard = false) {rows rows' : List Row}
    (agree : List.Forall₂ (Row.AgreeOn query.namedColumns) rows rows') (collation : Collation)
    (columns : List String) (ε : Type) :
    (∃ (exec exec' : Execution ε) (outputs : List OutputRow) (last last' : Execution ε),
        Execution.start collation query columns ⟨rows, none⟩ = .ok exec ∧
        Execution.start collation query columns ⟨rows', none⟩ = .ok exec' ∧
        exec.rest = (outputs, none, last) ∧ exec'.rest = (outputs, none, last') ∧
        last.stats = last'.stats) ∧
      ∀ failure : Option ε, ∃ exec exec' : Execution ε,
        Execution.start collation query columns ⟨rows, failure⟩ = .ok exec ∧
        Execution.start collation query columns ⟨rows', failure⟩ = .ok exec' ∧
        ∀ requests, (exec.run requests).1 = (exec'.run requests).1 ∧
          (exec.run requests).2.stats = (exec'.run requests).2.stats := by
  have renderable := isRenderable_of_ofText isRead
  have notAll : query.select ≠ [⟨.wildcard, none⟩] := by
    intro all
    rw [(isWildcard_iff renderable).2 all] at notWildcard
    cases notWildcard
  constructor
  · obtain ⟨outputs, last, last', pulled, pulled', stats⟩ :=
      rest_unread_agree renderable notAll agree ε
    exact ⟨_, _, outputs, last, last', start_eq renderable _, start_eq renderable _, pulled,
      pulled', stats⟩
  · intro failure
    refine ⟨_, _, start_eq renderable _, start_eq renderable _, ?_⟩
    intro requests
    obtain ⟨answers, last, last', isRun, isRun', stats⟩ :=
      run_unread_agree renderable notAll agree failure requests
    rw [isRun, isRun']
    exact ⟨rfl, stats⟩

/-- Fields in another order, a field and a typed value that the query does not name, and a typed
value in place of a field's lines. -/
theorem sees_namedColumns_others :
    let row (a : String) : Row := Row.ofFields (.ofList [("a", [a]), ("b", ["1"])]) .empty
    let other (a : String) : Row :=
      Row.ofFields (.ofList [("c", ["x", a]), ("b", ["1"]), ("a", ["0"])])
        (.ofList [("a", .text a), ("c", .number (.int 7))])
    let text := "SELECT a AS k WHERE b = '1' ORDER BY k DESC LIMIT 2"
    let outputs : List OutputRow := [⟨["k"], [.text "11"]⟩, ⟨["k"], [.text "10"]⟩]
    ∃ query : Query, ofText text = .ok query ∧ query.isWildcard = false ∧
      ∃ exec exec' last last' : Execution Unit,
        Execution.start .exact query ["a", "b"] ⟨[row "9", row "11", row "10"], none⟩ = .ok exec ∧
        Execution.start .exact query ["a", "b"] ⟨[other "9", other "11", other "10"], none⟩ =
          .ok exec' ∧
        exec.rest = (outputs, none, last) ∧ exec'.rest = (outputs, none, last') ∧
        last.stats = last'.stats := by
  intro row other text outputs
  let query : Query :=
    { select := [⟨.column "a", some "k"⟩]
      filter := some (.compare (.column "b") .eq (.ofText "1"))
      order := [⟨.column "k", .descending⟩]
      limit := some 2
      offset := none }
  have isRead : ofText text = .ok query := by decide +kernel
  have agree : List.Forall₂ (Row.AgreeOn query.namedColumns) [row "9", row "11", row "10"]
      [other "9", other "11", other "10"] :=
    .cons (by decide +kernel) (.cons (by decide +kernel) (.cons (by decide +kernel) .nil))
  obtain ⟨⟨exec, exec', found, last, last', started, started', pulled, pulled', stats⟩, _⟩ :=
    sees_namedColumns isRead rfl agree .exact ["a", "b"] Unit
  have renderable := isRenderable_of_ofText isRead
  have isShown : query.shown .exact ["a", "b"] [row "9", row "11", row "10"] =
      [row "11", row "10"] := by
    have admitted : query.admitted .exact [row "9", row "11", row "10"] =
        [row "9", row "11", row "10"] :=
      List.filter_eq_self.2 (by decide +kernel)
    have ordered : ∀ member ∈ [row "9", row "11", row "10"], member.IsOrdered := by
      simp only [List.forall_mem_cons, List.not_mem_nil, false_implies, implies_true, and_true]
      exact ⟨Row.ofFields_isOrdered Record.all_empty, Row.ofFields_isOrdered Record.all_empty,
        Row.ofFields_isOrdered Record.all_empty⟩
    have sorts : IsStableSort (query.compareRows .exact ["a", "b"])
        [row "9", row "11", row "10"] [(row "11", 1), (row "10", 2), (row "9", 0)] :=
      ⟨List.perm_append_singleton _ [_, _], by decide +kernel, by decide +kernel⟩
    rw [shown, admitted, ← (isStableSort_iff (compareRows_compares ordered)).1 sorts]
    rfl
  have same : found = outputs := by
    rw [start_eq renderable] at started
    cases started
    rw [rest_unread renderable, isShown] at pulled
    exact (congrArg Prod.fst pulled).symm
  rw [same] at pulled pulled'
  exact ⟨query, isRead, rfl, exec, exec', last, last', started, started', pulled, pulled', stats⟩

end Query

end LogSelect
