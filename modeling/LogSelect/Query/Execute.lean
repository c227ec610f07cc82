import LogSelect.Query.Evaluate
import LogSelect.Query.Render

/-!
Execution of queries.

A query keeps the rows that its filter admits, sorts them stably by its keys, takes a page of
them, and shows of each row on the page what the select list names.  Rows come from a feed, which
may fail behind its last row.  The result is pulled row by row: the first pull reads the whole feed
and computes the page, every pull shows one row of it.
-/

namespace LogSelect

/-- Rows to be read, and the failure that follows them, if any. -/
structure Feed (ε : Type) where
  rows : List Row
  failure : Option ε

structure Stats where
  scanned : Nat
  matched : Nat
  returned : Nat
  deriving DecidableEq, Repr

inductive PullError (ε : Type) where
  | eval (error : EvalError)
  | feed (error : ε)

/-- A row of a result: a value under each column name, where names may repeat. -/
structure OutputRow where
  columns : List String
  values : List Value
  deriving DecidableEq

namespace OutputRow

def items (row : OutputRow) : List (String × Value) :=
  row.columns.zip row.values

def get? (row : OutputRow) (name : String) : Option Value :=
  row.items.lookup name

/-- The row as a record: a repeated name keeps its first place and its last value. -/
def toRecord (row : OutputRow) : Record Value :=
  Record.ofList row.items

end OutputRow

namespace Query

def outputColumns (query : Query) (columns : List String) : Except EvalError (List String) :=
  if query.isWildcard then .ok columns
  else if query.select.any fun item => item.term == .wildcard then .error .wildcardMixed
  else .ok (query.select.map SelectItem.outputName)

/-- The rows that the filter admits, with the number of rows scanned. -/
def filterRows (query : Query) (collation : Collation) :
    List Row → Except EvalError (List Row) × Nat
  | [] => (.ok [], 0)
  | row :: rows =>
    match (query.filter.map (·.test collation row)).getD (.ok true) with
    | .error e => (.error e, 1)
    | .ok admitted =>
      let (kept, scanned) := filterRows query collation rows
      (kept.map fun kept => if admitted then row :: kept else kept, scanned + 1)

/-- The terms that labels stand for in sort keys.  A label that is also a column of the source
stands for nothing; of equal labels the last one counts. -/
def labelled (query : Query) (columns : List String) : List (String × Term) :=
  (query.select.filterMap fun item =>
    match item.label with
    | some label => if columns.contains label then none else some (label, item.term)
    | none => none).reverse

def resolveKey (labels : List (String × Term)) : Term → Except EvalError Term
  | .wildcard => .error .wildcardKey
  | .column name => .ok ((labels.lookup name).getD (.column name))
  | term => .ok term

def sortTerms (query : Query) (columns : List String) : Except EvalError (List Term) :=
  query.order.mapM fun item => resolveKey (query.labelled columns) item.term

def Direction.apply : Direction → Ordering → Ordering
  | .ascending, order => order
  | .descending, order => order.swap

def compareKeys (collation : Collation) : List Direction → List Value → List Value → Ordering
  | direction :: directions, a :: as, b :: bs =>
    match collation.order a b with
    | .eq => compareKeys collation directions as bs
    | order => Direction.apply direction order
  | _, _, _ => .eq

/-- The rows in the order of the sort keys.  Rows that tie on every key keep their order. -/
def sortRows (query : Query) (collation : Collation) (columns : List String) (rows : List Row) :
    Except EvalError (List Row) :=
  if query.order.isEmpty then .ok rows
  else do
    let terms ← query.sortTerms columns
    let directions := query.order.map (·.direction)
    let keyed ← rows.mapM fun row => do
      return ((← terms.mapM (·.evaluate row)), row)
    let before (a b : List Value × Row) : Bool :=
      compareKeys collation directions a.1 b.1 != .gt
    return (keyed.mergeSort before).map Prod.snd

/-- The place that an index of either sign denotes in a list of `size` members: negative ones count
from the end, and those outside fall on the nearer end. -/
def place (size : Nat) (index : Int) : Nat :=
  if index < 0 then (size + index).toNat
  else if index.toNat < size then index.toNat
  else size

def slice {α : Type} (xs : List α) (start : Int) (stop : Option Int) : List α :=
  let first := place xs.length start
  let last := (stop.map (place xs.length)).getD xs.length
  (xs.take last).drop first

def pageRows {α : Type} (query : Query) (rows : List α) : List α :=
  let start := query.offset.getD 0
  slice rows start (query.limit.map (start + ·))

def project (query : Query) (columns : List String) (row : Row) : Except EvalError OutputRow :=
  if query.isWildcard then .ok ⟨columns, columns.map row.get⟩
  else do
    let values ← query.select.mapM (·.term.evaluate row)
    return ⟨columns, values⟩

end Query

inductive Pending (ε : Type) where
  /-- Nothing has been read. -/
  | feed (feed : Feed ε)
  /-- The rows of the page that have not been pulled. -/
  | page (rows : List Row)

structure Execution (ε : Type) where
  query : Query
  collation : Collation
  sourceColumns : List String
  columns : List String
  stats : Stats
  pending : Pending ε
  /-- The number of rows on the page, once it is known. -/
  pageSize : Option Nat

inductive Pull (ε : Type) where
  | row (row : OutputRow)
  | stop
  | failure (error : PullError ε)

namespace Execution

variable {ε : Type}

def start (collation : Collation) (query : Query) (columns : List String) (feed : Feed ε) :
    Except EvalError (Execution ε) := do
  let outputColumns ← query.outputColumns columns
  return ⟨query, collation, columns, outputColumns, ⟨0, 0, 0⟩, .feed feed, none⟩

/-- Read the whole feed and compute the page.  The counters are kept also on failure. -/
def readFeed (exec : Execution ε) (feed : Feed ε) :
    Stats × Except (PullError ε) (List Row) :=
  let (kept, scanned) := exec.query.filterRows exec.collation feed.rows
  match kept, feed.failure with
  | .error e, _ => (⟨scanned, 0, 0⟩, .error (.eval e))
  | .ok _, some e => (⟨scanned, 0, 0⟩, .error (.feed e))
  | .ok kept, none =>
    let stats : Stats := ⟨scanned, kept.length, 0⟩
    match exec.query.sortRows exec.collation exec.sourceColumns kept with
    | .error e => (stats, .error (.eval e))
    | .ok sorted => (stats, .ok (exec.query.pageRows sorted))

/-- Show the next row of the page.  A row counts as returned before it is shown, and a failure
ends the result. -/
def nextOfPage (exec : Execution ε) : List Row → Pull ε × Execution ε
  | [] => (.stop, { exec with pending := .page [] })
  | row :: rows =>
    let stats := { exec.stats with returned := exec.stats.returned + 1 }
    match exec.query.project exec.columns row with
    | .ok output => (.row output, { exec with stats, pending := .page rows })
    | .error e => (.failure (.eval e), { exec with stats, pending := .page [] })

def next (exec : Execution ε) : Pull ε × Execution ε :=
  match exec.pending with
  | .page rows => exec.nextOfPage rows
  | .feed feed =>
    match exec.readFeed feed with
    | (stats, .error e) => (.failure e, { exec with stats, pending := .page [] })
    | (stats, .ok rows) =>
      nextOfPage { exec with stats, pageSize := some rows.length } rows

def remaining (exec : Execution ε) : Nat :=
  match exec.pending with
  | .page rows => rows.length
  | .feed feed => feed.rows.length

def pullRows (exec : Execution ε) : (count : Nat) →
    List OutputRow × Option (PullError ε) × Execution ε
  | 0 => ([], none, exec)
  | count + 1 =>
    match exec.next with
    | (.stop, exec) => ([], none, exec)
    | (.failure e, exec) => ([], some e, exec)
    | (.row row, exec) =>
      let (rows, error, exec) := pullRows exec count
      (row :: rows, error, exec)

def rest (exec : Execution ε) : List OutputRow × Option (PullError ε) × Execution ε :=
  exec.pullRows (exec.remaining + 1)

end Execution

end LogSelect
