import LogSelect.Proofs.Order.Place
import LogSelect.Proofs.Query.Renderable
import LogSelect.Shell.LogRows

/-!
What all values of the rows of logs have in common: a property of texts and of whatever a column
converts a text to is a property of every value, wherever the log is read from.

So the rows can be put in order, as no text converts to what is not a number, and their whole
numbers are short enough to be read again.
-/

namespace LogSelect

namespace Record

variable {α : Type} {p : α → Prop} {r : Record α}

def All (p : α → Prop) (r : Record α) : Prop :=
  ∀ entry ∈ r.entries, p entry.2

theorem all_empty : All p empty :=
  nofun

theorem All.get? (all : r.All p) {name : String} {v : α} (given : r.get? name = some v) : p v := by
  obtain ⟨before, behind, split, _⟩ := List.lookup_eq_some_iff.1 given
  exact all (name, v) (by simp [split])

theorem All.put (all : r.All p) {v : α} (holds : p v) (name : String) : (r.put name v).All p := by
  have entries : ∀ old : List (String × α), (∀ entry ∈ old, p entry.2) →
      ∀ entry ∈ putEntry name v old, p entry.2 := by
    intro old
    induction old with
    | nil => simpa [putEntry] using holds
    | cons first rest ih =>
      intro each
      have others := ih fun entry member => each entry (List.mem_cons_of_mem first member)
      unfold putEntry
      split
      · intro entry member
        rcases List.mem_cons.1 member with rfl | member
        · exact holds
        · exact each entry (List.mem_cons_of_mem _ member)
      · intro entry member
        rcases List.mem_cons.1 member with rfl | member
        · exact each _ List.mem_cons_self
        · exact others entry member
  exact entries r.entries all

theorem All.filterNames (all : r.All p) (names : String → Bool) : (r.filterNames names).All p :=
  fun entry member => all entry (List.mem_of_mem_filter member)

end Record

/-! ## Columns -/

theorem Numeral.takeDigits_lt (cs : List Char) : ∀ d ∈ (takeDigits cs).1, d < 10 := by
  induction cs with
  | nil => exact List.forall_mem_nil _
  | cons c cs ih =>
    unfold takeDigits
    cases isDigit : digitValue? c with
    | none => exact List.forall_mem_nil _
    | some d => exact List.forall_mem_cons.2 ⟨digitValue?_lt isDigit, ih⟩

/-- A numeral of few digits, none of which is above nine. -/
def Numeral.IsShort (numeral : Numeral) : Prop :=
  numeral.whole.length ≤ maxWholeDigits ∧ ∀ d ∈ numeral.whole, d < 10

theorem Number.short_of_ofText? {s : String} {n : Number} (reads : ofText? s = some n) :
    (∃ numeral : Numeral, numeral.IsShort ∧ n = .int numeral.wholeValue) ∨
      ∃ numeral : Numeral, n = .real numeral.realValue := by
  obtain ⟨numeral, isRead, rfl⟩ := Option.map_eq_some_iff.1 reads
  have digits : ∀ d ∈ numeral.whole, d < 10 := by
    unfold Numeral.read? at isRead
    dsimp only at isRead
    split at isRead
    · cases isRead
    · obtain ⟨exponent, -, rfl⟩ := Option.map_eq_some_iff.1 isRead
      exact Numeral.takeDigits_lt _
  unfold Numeral.value
  split
  · rename_i isWhole
    simp only [Numeral.isWhole, Bool.and_eq_true, decide_eq_true_eq] at isWhole
    exact .inl ⟨numeral, ⟨isWhole.2, digits⟩, rfl⟩
  · exact .inr ⟨numeral, rfl⟩

namespace Column

variable {column : Column} {bits : Nat} {text : String} {v : Value}

theorem convertWhole_short (converts : column.convertWhole bits text = .ok v) :
    ∃ numeral : Numeral, numeral.IsShort ∧ v = .number (.int numeral.wholeValue) := by
  unfold convertWhole at converts
  split at converts
  · cases converts
  · rename_i numeral isWhole
    have digits : ∀ d ∈ numeral.whole, d < 10 := by
      unfold wholeNumeral? at isWhole
      dsimp only at isWhole
      split at isWhole
      · cases isWhole
      · rename_i digits
        cases isWhole
        simp only [Bool.or_eq_true, Bool.not_eq_true', not_or, Bool.not_eq_false] at digits
        exact digitValues_lt (List.all_eq_true.1 digits.2)
    split at converts
    · cases converts
    · rename_i short
      split at converts
      · cases converts
        exact ⟨numeral, ⟨not_lt.1 short, digits⟩, rfl⟩
      · cases converts

theorem convertChecked_eq {passes : Bool} (converts : column.convertChecked passes text = .ok v) :
    v = .text text := by
  unfold convertChecked at converts
  split at converts
  · cases converts
    rfl
  · cases converts

/-- Captured text converts to itself, or to a number: a short one, or a floating-point number that
a numeral denotes. -/
theorem convert_cases (converts : column.convert text = .ok v) :
    v = .text text ∨
      (∃ numeral : Numeral, numeral.IsShort ∧ v = .number (.int numeral.wholeValue)) ∨
      ∃ numeral : Numeral, v = .number (.real numeral.realValue) := by
  have ofText {n : Number} (reads : Number.ofText? (stripText text) = some n) :
      (∃ numeral : Numeral, numeral.IsShort ∧ Value.number n = .number (.int numeral.wholeValue)) ∨
        ∃ numeral : Numeral, Value.number n = .number (.real numeral.realValue) := by
    rcases Number.short_of_ofText? reads with ⟨numeral, short, rfl⟩ | ⟨numeral, rfl⟩
    · exact .inl ⟨numeral, short, rfl⟩
    · exact .inr ⟨numeral, rfl⟩
  unfold convert at converts
  split at converts
  · cases converts
    exact .inl rfl
  · exact .inr (.inl (convertWhole_short converts))
  · exact .inr (.inl (convertWhole_short converts))
  · split at converts
    · cases converts
      exact .inr (ofText ‹_›)
    · cases converts
  · split at converts
    · cases converts
      exact .inr (ofText ‹_›)
    · cases converts
  · exact .inl (convertChecked_eq converts)
  · exact .inl (convertChecked_eq converts)

end Column

namespace Value

/-- A property of missing values, of texts, and of the numbers that numerals denote. -/
structure Ensured (p : Value → Prop) : Prop where
  missing : p .missing
  text (s) : p (.text s)
  short {numeral : Numeral} : numeral.IsShort → p (.number (.int numeral.wholeValue))
  real (numeral : Numeral) : p (.number (.real numeral.realValue))

theorem Ensured.convert {p : Value → Prop} (ensured : Ensured p) {column : Column} {text : String}
    {v : Value} (converts : column.convert text = .ok v) : p v := by
  rcases Column.convert_cases converts with rfl | ⟨numeral, short, rfl⟩ | ⟨numeral, rfl⟩
  · exact ensured.text text
  · exact ensured.short short
  · exact ensured.real numeral

theorem ensured_isOrdered : Ensured IsOrdered where
  missing := nofun
  text _ := nofun
  short _ := nofun
  real _ := isOrdered_number (by
    simp [Number.IsOrdered, Numeral.realValue, Binary64.ofDecimal_ne_nan])

end Value

/-! ## Rows -/

def Row.All (p : Value → Prop) (row : Row) : Prop :=
  ∀ name, p (row.get name)

def Row.IsOrdered (row : Row) : Prop :=
  ∀ name, (row.get name).IsOrdered

def LogRows.All (p : Value → Prop) (log : LogRows) : Prop :=
  ∀ row ∈ log.rows, row.All p

section

variable {p : Value → Prop} (ensured : Value.Ensured p)
include ensured

theorem Row.ofFields_all {fields : Record (List String)} {typed : Record Value}
    (all : typed.All p) : (Row.ofFields fields typed).All p := by
  intro name
  unfold Row.get Row.get?
  cases (Row.ofFields fields typed).fields.get? name with
  | none => exact ensured.missing
  | some lines =>
    cases given : (Row.ofFields fields typed).typed.get? name with
    | none => exact ensured.text _
    | some v => exact (all.filterNames _).get? given

namespace Grouping

variable {grouping : Grouping}

theorem Draft.capture_all {draft next : Draft} {captures : Captures} {column : Column}
    (all : draft.typed.All p) (captured : draft.capture captures column = .ok next) :
    next.typed.All p := by
  unfold Draft.capture at captured
  split at captured
  · cases captured
    exact all
  · rename_i text _
    dsimp only at captured
    split at captured
    · cases captured
      exact all
    · cases converts : column.convert text with
      | error e =>
        rw [converts] at captured
        cases captured
      | ok v =>
        rw [converts] at captured
        cases captured
        exact all.put (ensured.convert converts) column.name

theorem begin_all {captures : Captures} {draft : Draft}
    (begun : grouping.begin captures = .ok draft) : draft.typed.All p := by
  have fold : ∀ (columns : List Column) (first : Draft), first.typed.All p →
      columns.foldlM (Draft.capture captures) first = .ok draft → draft.typed.All p := by
    intro columns
    induction columns with
    | nil =>
      rintro first all ⟨⟩
      exact all
    | cons column columns ih =>
      intro first all folded
      rw [List.foldlM_cons] at folded
      cases captured : first.capture captures column with
      | error e => simp [captured, bind, Except.bind] at folded
      | ok next =>
        rw [captured] at folded
        exact ih next (Draft.capture_all ensured all captured) folded
  exact fold grouping.columns ⟨.empty, .empty⟩ Record.all_empty begun

theorem after_all {current : Option Draft} {rest : Grouped}
    (all : ∀ draft ∈ current, draft.typed.All p) (others : ∀ row ∈ rest.rows, row.All p) :
    ∀ row ∈ (Grouped.after current rest).rows, row.All p := by
  intro row member
  rcases List.mem_append.1 member with inside | inside
  · obtain ⟨draft, isCurrent, rfl⟩ := Option.map_eq_some_iff.1 (Option.mem_toList.1 inside)
    exact Row.ofFields_all ensured (all draft isCurrent)
  · exact others row inside

theorem groupFrom_all {current : Option Draft} {dropped : Nat} {lines : List String}
    (all : ∀ draft ∈ current, draft.typed.All p) :
    ∀ row ∈ (grouping.groupFrom current dropped lines).rows, row.All p := by
  induction lines generalizing current dropped with
  | nil => exact after_all ensured all nofun
  | cons raw lines ih =>
    unfold groupFrom
    dsimp only
    split
    · refine after_all ensured all ?_
      split
      · exact nofun
      · rename_i draft begun
        refine ih ?_
        rintro _ ⟨⟩
        exact begin_all ensured begun
    · split
      · rename_i draft name _
        refine ih ?_
        rintro _ ⟨⟩
        exact all draft rfl
      · exact ih all

end Grouping

/-! ## Logs -/

omit ensured in
theorem LogRows.All.append {first next : LogRows} (all : first.All p) (others : next.All p) :
    (first.append next).All p := by
  unfold LogRows.append
  split
  · exact all
  · intro row member
    rcases List.mem_append.1 member with inside | inside
    · exact all row inside
    · exact others row inside

omit ensured in
theorem LogRows.foldl_all {α : Type} {step : LogRows → α → LogRows}
    (keeps : ∀ log a, log.All p → (step log a).All p) {as : List α} {log : LogRows}
    (all : log.All p) : (as.foldl step log).All p := by
  induction as generalizing log with
  | nil => exact all
  | cons a as ih => exact ih (keeps log a all)

namespace Schema

theorem readFile_all (schema : Schema) (path : Path) (bytes : List Nat) :
    (schema.readFile path bytes).All p :=
  Grouping.groupFrom_all ensured nofun

theorem readBroken_all (schema : Schema) (path : Path) (lines : List String)
    (error : FileError) : (schema.readBroken path lines error).All p := by
  have all : ∀ row ∈ (schema.grouping.group lines).rows, row.All p :=
    Grouping.groupFrom_all ensured nofun
  unfold readBroken
  dsimp only
  split
  · exact all
  · exact fun row member => all row (List.dropLast_subset _ member)

theorem readStream_all (schema : Schema) (path : Path) (stream : Stream) :
    (schema.readStream path stream).All p := by
  cases stream with
  | whole bytes => exact readFile_all ensured schema path bytes
  | broken lines error => exact readBroken_all ensured schema path lines error

theorem readContent_all (schema : Schema) (path : Path) (content : Content) :
    (schema.readContent path content).All p := by
  cases content with
  | file bytes => exact readFile_all ensured schema path bytes
  | directory files =>
    exact LogRows.foldl_all
      (fun log file all => all.append (readFile_all ensured schema _ file.2)) nofun
  | brokenFile lines error => exact readBroken_all ensured schema path lines error
  | mixedDirectory files =>
    exact LogRows.foldl_all
      (fun log file all => all.append (readStream_all ensured schema _ file.2)) nofun
  | closedDirectory error => exact nofun

/-- What is ensured holds of all rows of a log, wherever the log is read from. -/
theorem readSource_all (schema : Schema) (path : Path) (source : Source) :
    (schema.readSource path source).All p := by
  cases source with
  | ok content => exact readContent_all ensured schema path content
  | error e => exact nofun

end Schema

end

theorem Row.ofFields_isOrdered {fields : Record (List String)} {typed : Record Value}
    (ordered : typed.All Value.IsOrdered) : (Row.ofFields fields typed).IsOrdered :=
  Row.ofFields_all Value.ensured_isOrdered ordered

theorem Schema.readSource_isOrdered (schema : Schema) (path : Path) (source : Source) :
    ∀ row ∈ (schema.readSource path source).rows, row.IsOrdered :=
  readSource_all Value.ensured_isOrdered schema path source

end LogSelect
