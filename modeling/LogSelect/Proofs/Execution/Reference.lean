import LogSelect.Proofs.Order.StableSort
import LogSelect.Query.Execute

/-!
What a query asks for, written apart from its execution: which rows are admitted, what the sort
keys are, how the rows are put in order, which of them are on the page, and what is shown of them.
-/

namespace LogSelect

namespace Term

def valueIn (row : Row) : Term → Value
  | .column name => row.get name
  | .literal value _ => value
  | _ => .missing

def holds (collation : Collation) (row : Row) : Term → Bool
  | .compare left op right => collation.compare (left.valueIn row) op (right.valueIn row)
  | .and left right => left.holds collation row && right.holds collation row
  | .or left right => left.holds collation row || right.holds collation row
  | .not operand => !operand.holds collation row
  | _ => false

end Term

namespace Query

def admitted (query : Query) (collation : Collation) (rows : List Row) : List Row :=
  rows.filter fun row => query.filter.all (·.holds collation row)

/-- The term that a sort key stands for.  A name that is no column of the source stands for the
last entry of the select list that has it as its label. -/
def keyTerm (query : Query) (columns : List String) : Term → Term
  | .column name =>
    let entries := query.select.filter fun item => item.label = some name
    if name ∈ columns then .column name
    else (entries.getLast?.map (·.term)).getD (.column name)
  | term => term

def keyValue (query : Query) (columns : List String) (row : Row) (key : OrderItem) : Value :=
  (query.keyTerm columns key.term).valueIn row

def compareBy (query : Query) (collation : Collation) (columns : List String) (a b : Row)
    (key : OrderItem) : Ordering :=
  let order := collation.order (query.keyValue columns a key) (query.keyValue columns b key)
  match key.direction with
  | .ascending => order
  | .descending => order.swap

/-- The order of two rows: the first sort key on which they do not tie decides. -/
def compareRows (query : Query) (collation : Collation) (columns : List String) (a b : Row) :
    Ordering :=
  ((query.order.map (query.compareBy collation columns a b)).find? (· != .eq)).getD .eq

def page {α : Type} (query : Query) (xs : List α) : List α :=
  let behind := xs.drop (query.offset.getD 0).toNat
  match query.limit with
  | none => behind
  | some limit => behind.take limit.toNat

def outputNames (query : Query) (columns : List String) : List String :=
  if query.select = [⟨.wildcard, none⟩] then columns else query.select.map SelectItem.outputName

def outputRow (query : Query) (columns : List String) (row : Row) : OutputRow :=
  ⟨query.outputNames columns,
    if query.select = [⟨.wildcard, none⟩] then columns.map row.get
    else query.select.map fun item => item.term.valueIn row⟩

end Query

end LogSelect
