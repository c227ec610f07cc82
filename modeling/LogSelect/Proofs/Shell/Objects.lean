import LogSelect.Proofs.Json.Names
import LogSelect.Proofs.Shell.OneShot

/-!
A result in JSON.

A row is written as an object, so it keeps one value for each name.  The text gives every value of
the result just if there is no infinite number among them, which JSON has no numeral for, and values
under one name are the same.  All whole numbers of a result are short enough to be read back.
-/

namespace LogSelect

/-! ## Records -/

namespace Record

variable {α : Type}

theorem ofList_concat (pairs : List (String × α)) (pair : String × α) :
    ofList (pairs ++ [pair]) = (ofList pairs).put pair.1 pair.2 := by
  simp [ofList]

/-- Of the pairs of one name the last one counts. -/
theorem get?_ofList (pairs : List (String × α)) (name : String) :
    (ofList pairs).get? name = pairs.reverse.lookup name := by
  induction pairs using List.reverseRecOn with
  | nil => rfl
  | append_singleton pairs pair ih =>
    obtain ⟨other, v⟩ := pair
    rw [ofList_concat, get?_put, ih, List.reverse_concat]
    by_cases same : name = other
    · rw [if_pos same, same, List.lookup_cons_self]
    · rw [if_neg same, lookup_cons_of_ne same]

theorem all_ofList {p : α → Prop} {pairs : List (String × α)}
    (each : ∀ pair ∈ pairs, p pair.2) : (ofList pairs).All p := by
  induction pairs using List.reverseRecOn with
  | nil => exact all_empty
  | append_singleton pairs pair ih =>
    obtain ⟨others, last⟩ := List.forall_mem_append.1 each
    rw [ofList_concat]
    exact (ih others).put (last pair (List.mem_singleton_self pair)) pair.1

theorem get?_mapValues {β : Type} (f : α → β) (r : Record α) (name : String) :
    (r.mapValues f).get? name = (r.get? name).map f := by
  obtain ⟨entries, distinct⟩ := r
  simp only [get?, mapValues]
  clear distinct
  induction entries with
  | nil => rfl
  | cons entry entries ih =>
    obtain ⟨other, v⟩ := entry
    by_cases same : name = other
    · simp [same]
    · rw [List.map_cons, lookup_cons_of_ne same, lookup_cons_of_ne same, ih]

end Record

theorem Json.lookupText_keyed (name : String) (pairs : List (String × Datum)) :
    Datum.lookupText name (keyed pairs) = pairs.lookup name := by
  induction pairs with
  | nil => rfl
  | cons pair pairs ih =>
    obtain ⟨other, d⟩ := pair
    by_cases same : other = name
    · simp [Datum.lookupText, same]
    · rw [keyed_cons, Datum.lookupText, if_neg same, ih, Record.lookup_cons_of_ne (Ne.symm same)]

/-! ## Numbers -/

namespace Number

variable {m n : Number}

theorem isFinite_iff_exact : n.IsFinite ↔ ∃ x : ℚ, n.exact = ((x : WithTop ℚ) : ExtendedRat) := by
  cases n with
  | int n => simp [IsFinite, exact]
  | real x =>
    cases x with
    | nan => simp [IsFinite, exact]
    | infinite negative => cases negative <;> simp [IsFinite, exact]
    | finite negative significand exponent canonical => simp [IsFinite, exact]

theorem IsFinite.of_sameValue (finite : n.IsFinite) (same : m.sameValue n = true) :
    m.IsFinite := by
  rw [isFinite_iff_exact] at finite ⊢
  rwa [(sameValue_iff.1 same).2.2]

end Number

theorem Numeral.natAbs_wholeValue (numeral : Numeral) :
    numeral.wholeValue.natAbs = ofDigits numeral.whole := by
  unfold wholeValue
  split <;> simp

/-! ## Values -/

namespace Value

variable {a b c : Value} {p : Number → Prop}

def NumberIs (p : Number → Prop) (v : Value) : Prop :=
  ∀ n, v = .number n → p n

/-- A datum gives a value: a text as it is, a number by its value, a missing value as null. -/
def IsGivenBy : Value → Datum → Prop
  | .text s, .text t => s = t
  | .number m, .number n => m.sameValue n = true
  | .missing, .null => True
  | _, _ => False

theorem isGivenBy_toDatum : a.IsGivenBy b.toDatum ↔ a.same b = true := by
  cases a <;> cases b <;> simp [IsGivenBy, toDatum, same]

theorem same_symm (isSame : a.same b = true) : b.same a = true := by
  cases a <;> cases b <;> simp_all [same, Number.sameValue_iff]

theorem same_trans (left : a.same b = true) (right : b.same c = true) : a.same c = true := by
  cases a <;> cases b <;> cases c <;> simp_all [same, Number.sameValue_iff]

theorem numberIs_of_same (finite : b.NumberIs Number.IsFinite) (isSame : a.same b = true) :
    a.NumberIs Number.IsFinite := by
  rintro m rfl
  cases b with
  | number n => exact (finite n rfl).of_sameValue isSame
  | _ => cases isSame

theorem ensured_isCitable : Ensured (NumberIs fun n => (Datum.number n).isCitable = true) where
  missing := by rintro _ ⟨⟩
  text := by rintro _ _ ⟨⟩
  short := by
    rintro numeral ⟨few, digits⟩ _ ⟨⟩
    have below := (ofDigits_lt digits).trans_le (Nat.pow_le_pow_right (by decide) few)
    rwa [Datum.isCitable_int, Numeral.natAbs_wholeValue]
  real := by
    rintro numeral _ ⟨⟩
    simp [Datum.isCitable]

theorem isDocument_toDatum : Json.IsDocument p a.toDatum ↔ a.NumberIs p := by
  cases a with
  | text s => exact ⟨by rintro _ _ ⟨⟩, fun _ => .text s⟩
  | missing => exact ⟨by rintro _ _ ⟨⟩, fun _ => .null⟩
  | number n =>
    constructor
    · rintro ⟨⟩ _ ⟨⟩
      assumption
    · exact fun holds => .number (holds n rfl)

end Value

/-! ## Rows -/

namespace OutputRow

variable {row : OutputRow} {columns : List String} {p : Number → Prop}

/-- An object gives the value of every column of a row. -/
def IsGivenBy (columns : List String) (row : OutputRow) (object : Datum) : Prop :=
  ∃ entries, object = .map entries ∧
    List.Forall₂ (fun name v => ∃ d, Datum.lookupText name entries = some d ∧ v.IsGivenBy d)
      columns row.values

/-- The values under one name are the same. -/
def IsConsistent (row : OutputRow) : Prop :=
  ∀ item ∈ row.items, ∀ other ∈ row.items, item.1 = other.1 → item.2.same other.2 = true

instance (row : OutputRow) : Decidable row.IsConsistent :=
  inferInstanceAs (Decidable (∀ item ∈ row.items, ∀ other ∈ row.items, _))

theorem toDatum_eq (row : OutputRow) :
    row.toDatum = .map (Json.keyed (row.toRecord.mapValues Value.toDatum).entries) := by
  simp [toDatum, Json.keyed, Record.mapValues]

theorem lookupText_toDatum (row : OutputRow) (name : String) :
    Datum.lookupText name (Json.keyed (row.toRecord.mapValues Value.toDatum).entries) =
      (row.toRecord.get? name).map Value.toDatum := by
  rw [Json.lookupText_keyed]
  exact Record.get?_mapValues Value.toDatum row.toRecord name

theorem isConsistent_iff :
    row.IsConsistent ↔
      ∀ item ∈ row.items, ∃ v, row.toRecord.get? item.1 = some v ∧ item.2.same v = true := by
  simp only [toRecord, Record.get?_ofList]
  constructor
  · intro consistent item inside
    cases isLast : row.items.reverse.lookup item.1 with
    | none =>
      rw [List.lookup_eq_none_iff] at isLast
      exact absurd (isLast item (List.mem_reverse.2 inside)) (by simp)
    | some v =>
      obtain ⟨front, behind, split, -⟩ := List.lookup_eq_some_iff.1 isLast
      have last : (item.1, v) ∈ row.items := by
        rw [← List.mem_reverse, split]
        simp
      exact ⟨v, rfl, consistent item inside _ last rfl⟩
  · intro each item inside other inside' sameName
    obtain ⟨v, isLast, same⟩ := each item inside
    obtain ⟨v', isLast', same'⟩ := each other inside'
    rw [← sameName, isLast] at isLast'
    obtain rfl := Option.some.inj isLast'
    exact Value.same_trans same (Value.same_symm same')

theorem isGivenBy_toDatum (named : row.columns = columns)
    (fit : row.values.length = columns.length) :
    row.IsGivenBy columns row.toDatum ↔ row.IsConsistent := by
  subst named
  rw [isConsistent_iff]
  simp [IsGivenBy, toDatum_eq, List.forall₂_iff_zip, lookupText_toDatum, fit, items,
    Value.isGivenBy_toDatum]

theorem isDocument_toDatum :
    Json.IsDocument p row.toDatum ↔ row.toRecord.All (Value.NumberIs p) := by
  rw [toDatum_eq, Json.isDocument_map, and_iff_right (Record.distinct _)]
  simp only [Record.mapValues, List.forall_mem_map, Value.isDocument_toDatum, Record.All]

theorem toRecord_all {q : Value → Prop} (each : ∀ v ∈ row.values, q v) : row.toRecord.All q :=
  Record.all_ofList fun item inside => each item.2 (List.of_mem_zip inside).2

theorem numberIs_of_toRecord (fit : row.values.length = row.columns.length)
    (consistent : row.IsConsistent)
    (finite : row.toRecord.All (Value.NumberIs Number.IsFinite)) :
    ∀ v ∈ row.values, v.NumberIs Number.IsFinite := by
  intro v inside
  obtain ⟨name, item⟩ : ∃ name, (name, v) ∈ row.items := by
    rw [← List.map_snd_zip fit.le] at inside
    obtain ⟨⟨name, _⟩, item, rfl⟩ := List.mem_map.1 inside
    exact ⟨name, item⟩
  obtain ⟨last, isLast, same⟩ := isConsistent_iff.1 consistent _ item
  exact Value.numberIs_of_same (finite.get? isLast) same

end OutputRow

/-! ## Results -/

theorem Json.isDocument_rows {p : Number → Prop} {rows : List OutputRow} :
    IsDocument p (.list (rows.map OutputRow.toDatum)) ↔
      ∀ row ∈ rows, row.toRecord.All (Value.NumberIs p) := by
  simp [isDocument_list, OutputRow.isDocument_toDatum]

/-- A JSON text that gives a result: a list of objects, one for each row, in order, and each of them
gives the value of every column. -/
def Json.Gives (columns : List String) (rows : List OutputRow) (text : String) : Prop :=
  ∃ objects, IsText text (.list objects) ∧
    List.Forall₂ (OutputRow.IsGivenBy columns) rows objects

theorem Query.outputRow_all {p : Value → Prop} (ensured : Value.Ensured p) {query : Query}
    (renderable : query.IsRenderable) {row : Row} (all : row.All p) (columns : List String) :
    ∀ v ∈ (query.outputRow columns row).values, p v := by
  unfold outputRow
  split_ifs with wildcard
  · simpa using fun name _ => all name
  · rcases renderable.select with isWildcard | ⟨-, each⟩
    · exact absurd isWildcard wildcard
    · simpa using fun item inside => Term.valueIn_all ensured (each item inside).1 all

namespace Shell

variable {shell : Shell} {source : Source} {text : String} {columns : List String}
  {rows : List OutputRow}

theorem Yields.columns_eq (yields : shell.Yields source text columns rows) :
    ∀ row ∈ rows, row.columns = columns := by
  obtain ⟨path, content, query, -, rfl, rfl⟩ := yields.eq_shown
  simp [Query.outputRow]

theorem Yields.all {p : Value → Prop} (ensured : Value.Ensured p)
    (yields : shell.Yields source text columns rows) : ∀ row ∈ rows, ∀ v ∈ row.values, p v := by
  obtain ⟨path, content, query, isRead, rfl, rfl⟩ := yields.eq_shown
  intro row inside
  obtain ⟨shown, member, rfl⟩ := List.mem_map.1 inside
  exact Query.outputRow_all ensured (Query.isRenderable_of_ofText isRead)
    (Schema.readContent_all ensured _ path content shown (Query.mem_of_mem_shown member)) _

theorem Yields.read_write (yields : shell.Yields source text columns rows)
    (finite : ∀ row ∈ rows, row.toRecord.All (Value.NumberIs Number.IsFinite)) :
    Json.read (Json.write (.list (rows.map OutputRow.toDatum))) =
      .ok (.list (rows.map OutputRow.toDatum)) := by
  apply Json.read_write
  rw [Json.isDocument_rows]
  intro row inside item member n isNumber
  have citable := OutputRow.toRecord_all (yields.all Value.ensured_isCitable row inside)
  exact ⟨finite row inside item member n isNumber, citable item member n isNumber⟩

/-- What is written of a result as JSON is a JSON text that gives the result, just if all numbers
are finite and values under one name are the same.  If all numbers are finite, reading it gives the
objects of the rows. -/
theorem json_gives_iff (yields : shell.Yields source text columns rows) :
    let written := Json.write (.list (rows.map OutputRow.toDatum))
    (Json.Gives columns rows written ↔
        ∀ row ∈ rows, (∀ v ∈ row.values, v.NumberIs Number.IsFinite) ∧ row.IsConsistent) ∧
      ((∀ row ∈ rows, ∀ v ∈ row.values, v.NumberIs Number.IsFinite) →
        Json.read written = .ok (.list (rows.map OutputRow.toDatum))) := by
  intro written
  have gives : List.Forall₂ (OutputRow.IsGivenBy columns) rows (rows.map OutputRow.toDatum) ↔
      ∀ row ∈ rows, row.IsConsistent := by
    rw [List.forall₂_map_right_iff, List.forall₂_same]
    exact forall₂_congr fun row inside =>
      OutputRow.isGivenBy_toDatum (yields.columns_eq row inside) (yields.fit row inside)
  refine ⟨⟨?_, ?_⟩, ?_⟩
  · rintro ⟨objects, isText, given⟩
    have citable := Json.isDocument_rows.2 fun row inside =>
      OutputRow.toRecord_all (yields.all Value.ensured_isCitable row inside)
    have finite := Json.isDocument_rows.1 (Json.isDocument_of_isText citable isText)
    obtain rfl := Datum.list.inj (isText.unique (yields.read_write finite))
    intro row inside
    have consistent := gives.1 given row inside
    have fit : row.values.length = row.columns.length := by
      rw [yields.columns_eq row inside, yields.fit row inside]
    exact ⟨OutputRow.numberIs_of_toRecord fit consistent (finite row inside), consistent⟩
  · intro each
    have document : Json.IsDocument Number.IsFinite (.list (rows.map OutputRow.toDatum)) :=
      Json.isDocument_rows.2 fun row inside => OutputRow.toRecord_all (each row inside).1
    exact ⟨_, Json.isText_write document, gives.2 fun row inside => (each row inside).2⟩
  · intro finite
    exact yields.read_write fun row inside => OutputRow.toRecord_all (finite row inside)

def resultOf? (query : Query) (bytes : List Nat) (schema : Schema) :
    Option (List String × List OutputRow) :=
  match Execution.start .exact query schema.names (schema.readFile (.ofText "log") bytes).feed with
  | .error _ => none
  | .ok exec =>
    match exec.rest with
    | (rows, none, _) => some (exec.columns, rows)
    | _ => none

theorem exists_yields {pattern filename sql : String} {definitions : List Column} {query : Query}
    {bytes : List Nat} (isRead : Query.ofText sql = .ok query)
    (found : (Schema.build pattern definitions filename .null).toOption.bind
      (resultOf? query bytes) = some (columns, rows)) :
    ∃ schema, Schema.build pattern definitions filename .null = .ok schema ∧
      Shell.Yields ⟨⟨schema, .exact, .json⟩, some (.ofText "log"), false⟩ (.ok (.file bytes)) sql
        columns rows := by
  cases built : Schema.build pattern definitions filename .null with
  | error e =>
    rw [built] at found
    cases found
  | ok schema =>
    rw [built] at found
    change resultOf? query bytes schema = _ at found
    refine ⟨schema, rfl, ?_⟩
    unfold resultOf? at found
    split at found
    · cases found
    · rename_i exec started
      split at found
      · rename_i pulled
        cases found
        exact .intro rfl rfl isRead started pulled
      · cases found

/-- A row of a number, a missing value and a text. -/
theorem json_gives_iff_row :
    let columns := ["n", "a", "b"]
    let rows : List OutputRow :=
      [⟨columns, [.number (.real (.ofDecimal false 15 (-1))), .missing, .text "y"]⟩]
    let definitions : List Column := [⟨"a", false, .string⟩, ⟨"n", false, .float⟩]
    ∃ schema, Schema.build "(?P<a>x)?(?P<n>.*)" definitions ".*" .null = .ok schema ∧
      Shell.Yields ⟨⟨schema, .exact, .json⟩, some (.ofText "log"), false⟩
        (.ok (.file ("1.5".toList.map Char.toNat))) "SELECT n, a, 'y' AS b" columns rows ∧
      Json.Gives columns rows (Json.write (.list (rows.map OutputRow.toDatum))) := by
  intro columns rows definitions
  obtain ⟨schema, built, yields⟩ := @exists_yields columns rows "(?P<a>x)?(?P<n>.*)" ".*"
    "SELECT n, a, 'y' AS b" definitions
    ⟨[⟨.column "n", none⟩, ⟨.column "a", none⟩, ⟨.literal (.text "y") "'y'", some "b"⟩], none, [],
      none, none⟩ ("1.5".toList.map Char.toNat) (by decide +kernel) (by decide +kernel)
  refine ⟨schema, built, yields, (json_gives_iff yields).1.2 ?_⟩
  have finite : (Number.real (.ofDecimal false 15 (-1))).IsFinite := by decide +kernel
  have consistent : (rows.headD ⟨[], []⟩).IsConsistent := by decide +kernel
  rintro row inside
  obtain rfl := List.mem_singleton.1 inside
  refine ⟨?_, consistent⟩
  simp [Value.NumberIs, finite]

/-- The number `1e999` is written as `Infinity`. -/
theorem json_not_gives :
    let rows : List OutputRow := [⟨["n"], [.number (.real (.infinite false))]⟩]
    let written := Json.write (.list (rows.map OutputRow.toDatum))
    ∃ schema, Schema.build "(?P<n>.*)" [⟨"n", false, .float⟩] ".*" .null = .ok schema ∧
      Shell.Yields ⟨⟨schema, .exact, .json⟩, some (.ofText "log"), false⟩
        (.ok (.file ("1e999".toList.map Char.toNat))) "SELECT n" ["n"] rows ∧
      written = "[\n  \x7b\n    \"n\": Infinity\n  \x7d\n]" ∧ ¬ Json.Gives ["n"] rows written := by
  intro rows written
  obtain ⟨schema, built, yields⟩ := @exists_yields ["n"] rows "(?P<n>.*)" ".*" "SELECT n"
    [⟨"n", false, .float⟩] ⟨[⟨.column "n", none⟩], none, [], none, none⟩
    ("1e999".toList.map Char.toNat) (by decide +kernel) (by decide +kernel)
  refine ⟨schema, built, yields, by decide +kernel, ?_⟩
  rintro ⟨objects, isText, -⟩
  have document : Json.IsDocument (fun _ => True) (.list (rows.map OutputRow.toDatum)) :=
    Json.isDocument_rows.2 fun _ _ _ _ _ _ => trivial
  have finite := Json.isDocument_rows.1 (Json.isDocument_of_isText document isText)
  have isFinite : Value.NumberIs Number.IsFinite (.number (.real (.infinite false))) :=
    (finite _ List.mem_cons_self) ("n", _) List.mem_cons_self
  exact (isFinite _ rfl).2 false rfl

end Shell

end LogSelect
