import LogSelect.Proofs.Except
import LogSelect.Proofs.Schema.Columns

/-!
What the definition of a schema comes to.

A definition is a schema that obeys all rules, or it is refused with a report.  Three kinds of
definitions are refused without one: columns that are given as a scalar, whole numbers that are too
long to be cited, and patterns that are well formed but cannot be compiled.
-/

namespace LogSelect

/-! ## Parts of data -/

namespace Datum

variable {items : List Datum} {entries : List (Datum × Datum)}

theorem isCitable_of_mem (citable : areCitable items = true) {item : Datum}
    (inside : item ∈ items) : item.isCitable = true := by
  induction items with
  | nil => cases inside
  | cons first items ih =>
    simp only [areCitable, Bool.and_eq_true] at citable
    rcases List.mem_cons.1 inside with rfl | inside
    · exact citable.1
    · exact ih citable.2 inside

theorem isCitable_of_mem_entries (citable : entriesAreCitable entries = true)
    {entry : Datum × Datum} (inside : entry ∈ entries) :
    entry.1.isCitable = true ∧ entry.2.isCitable = true := by
  induction entries with
  | nil => cases inside
  | cons first entries ih =>
    simp only [entriesAreCitable, Bool.and_eq_true] at citable
    rcases List.mem_cons.1 inside with rfl | inside
    · exact citable.1
    · exact ih citable.2 inside

theorem mem_of_lookupText {name : String} {value : Datum}
    (found : lookupText name entries = some value) : (.text name, value) ∈ entries := by
  fun_induction lookupText name entries with
  | case1 => cases found
  | case2 =>
    cases found
    exact List.mem_cons_self
  | case3 key other rest different ih => exact List.mem_cons_of_mem _ (ih found)
  | case4 entry rest noText ih => exact List.mem_cons_of_mem _ (ih found)

theorem isCitable_of_lookupText (citable : entriesAreCitable entries = true) {name : String}
    {value : Datum} (found : lookupText name entries = some value) : value.isCitable = true :=
  (isCitable_of_mem_entries citable (mem_of_lookupText found)).2

theorem isCitable_getD (citable : entriesAreCitable entries = true) (name : String)
    {default : Datum} (plain : default.isCitable = true) :
    ((lookupText name entries).getD default).isCitable = true := by
  cases found : lookupText name entries with
  | none => exact plain
  | some value => exact isCitable_of_lookupText citable found

end Datum

namespace Schema

/-! ## Steps of a definition -/

def IsUncited (datum : Datum) (e : SchemaError) : Prop :=
  datum.isCitable = false ∧ e = .numberTooLong

theorem IsUncited.of_part {part whole : Datum} {e : SchemaError} (uncited : IsUncited part e)
    (inherits : whole.isCitable = true → part.isCitable = true) : IsUncited whole e := by
  refine ⟨Bool.eq_false_iff.2 fun citable => ?_, uncited.2⟩
  exact Bool.false_ne_true (uncited.1.symm.trans (inherits citable))

theorem textOf_error {part : Datum} {e : SchemaError} (fails : textOf part = .error e) :
    IsUncited part e := by
  unfold textOf at fails
  split at fails
  next => cases fails
  next uncited =>
    cases fails
    exact ⟨Bool.eq_false_iff.2 uncited, rfl⟩

theorem eq_toText_of_textOf {part : Datum} {text : String} (spelled : textOf part = .ok text) :
    text = part.toText := by
  unfold textOf at spelled
  split at spelled <;> cases spelled
  rfl

theorem refuseColumn_error {definition : Datum} {e : SchemaError}
    (fails : refuseColumn definition = .error e) :
    e.isReported = true ∨ IsUncited definition e := by
  unfold refuseColumn at fails
  split at fails
  next =>
    cases fails
    exact .inl rfl
  next uncited =>
    cases fails
    exact .inr ⟨Bool.eq_false_iff.2 uncited, rfl⟩

/-- A scalar that counts as true.  It has no members. -/
inductive IsTrueScalar : Datum → Prop where
  | bool : IsTrueScalar (.bool true)
  | number {n : Number} : n.sameValue (.int 0) = false → IsTrueScalar (.number n)
  | date (d : Calendar.Date) : IsTrueScalar (.date d)
  | moment (m : Moment) : IsTrueScalar (.moment m)

theorem membersOf_trueScalar {datum : Datum} (scalar : IsTrueScalar datum) :
    membersOf datum = .error .columnsWithoutMembers := by
  cases scalar with
  | bool | date _ | moment _ => rfl
  | number other => simp [membersOf, Datum.truthy, other]

theorem isTrueScalar_of_membersOf {datum : Datum} {e : SchemaError}
    (fails : membersOf datum = .error e) : e = .columnsWithoutMembers ∧ IsTrueScalar datum := by
  unfold membersOf at fails
  split at fails
  · cases fails
  next truthy =>
    cases datum with
    | bool b =>
      cases fails
      obtain rfl : b = true := by simpa [Datum.truthy] using truthy
      exact ⟨rfl, .bool⟩
    | number n =>
      cases fails
      exact ⟨rfl, .number (by simpa [Datum.truthy] using truthy)⟩
    | date d =>
      cases fails
      exact ⟨rfl, .date d⟩
    | moment m =>
      cases fails
      exact ⟨rfl, .moment m⟩
    | null => simp [Datum.truthy] at truthy
    | text _ | list _ | pair _ _ | map _ | set _ | bytes _ => cases fails

theorem isCitable_of_membersOf {datum : Datum} {members : List Datum}
    (listed : membersOf datum = .ok members) (citable : datum.isCitable = true) :
    ∀ member ∈ members, member.isCitable = true := by
  intro member inside
  unfold membersOf at listed
  split at listed
  · cases listed
    cases inside
  next truthy =>
    cases datum with
    | list items =>
      cases listed
      exact Datum.isCitable_of_mem citable inside
    | set items =>
      cases listed
      exact Datum.isCitable_of_mem citable inside
    | pair first second =>
      cases listed
      simp only [Datum.isCitable, Bool.and_eq_true] at citable
      simp only [List.mem_cons, List.not_mem_nil, or_false] at inside
      rcases inside with rfl | rfl
      · exact citable.1
      · exact citable.2
    | text s =>
      cases listed
      obtain ⟨c, -, rfl⟩ := List.mem_map.1 inside
      rfl
    | map entries =>
      cases listed
      obtain ⟨entry, inEntries, rfl⟩ := List.mem_map.1 inside
      exact (Datum.isCitable_of_mem_entries citable inEntries).1
    | bytes bs =>
      cases listed
      obtain ⟨b, inBytes, rfl⟩ := List.mem_map.1 inside
      have small : b < 256 := of_decide_eq_true (List.all_eq_true.1 citable b inBytes)
      have digits : 3 ≤ maxWholeDigits := by decide
      have limit : 10 ^ 3 ≤ 10 ^ maxWholeDigits := Nat.pow_le_pow_right (by decide) digits
      simp only [Datum.isCitable, Int.natAbs_natCast, decide_eq_true_eq, Nat.pow_eq]
      omega
    | null | bool _ | number _ | date _ | moment _ => cases listed

theorem columnOf_reported {name type : String} {multiline : Bool} {e : SchemaError}
    (fails : columnOf name type multiline = .error e) : e.isReported = true := by
  unfold columnOf at fails
  split at fails <;> cases fails
  rfl

theorem columnOfDatum_error {definition : Datum} {e : SchemaError}
    (fails : columnOfDatum definition = .error e) :
    e.isReported = true ∨ IsUncited definition e := by
  unfold columnOfDatum at fails
  split at fails
  · exact .inl (columnOf_reported fails)
  next entries =>
    split at fails
    · exact refuseColumn_error fails
    next name found =>
      simp only [bind, Except.bind] at fails
      split at fails
      next refused =>
        cases fails
        exact .inr ((textOf_error refused).of_part fun citable =>
          Datum.isCitable_of_lookupText citable found)
      split at fails
      next refused =>
        cases fails
        exact .inr ((textOf_error refused).of_part fun citable =>
          Datum.isCitable_getD citable "type" rfl)
      next => exact .inl (columnOf_reported fails)
  · exact refuseColumn_error fails

/-- The errors of patterns that are well formed and yet cannot be compiled. -/
inductive IsOutsized : SchemaError → Prop where
  | repetition : IsOutsized .repetitionTooLarge
  | count : IsOutsized .countTooLong
  | flags : IsOutsized .flagConflict

theorem compile_error {fault e : SchemaError} {text : String}
    (fails : compile fault text = .error e) :
    e = fault ∨
      IsOutsized e ∧ ∃ cause, Pattern.ofText text = .error cause ∧ cause ≠ .malformed := by
  unfold compile at fails
  cases result : Pattern.ofText text with
  | ok pattern =>
    rw [result] at fails
    cases fails
  | error cause =>
    rw [result] at fails
    cases cause with
    | malformed =>
      cases fails
      exact .inl rfl
    | repetitionTooLarge =>
      cases fails
      exact .inr ⟨.repetition, _, rfl, nofun⟩
    | countTooLong digits =>
      cases fails
      exact .inr ⟨.count, _, rfl, nofun⟩
    | flagConflict =>
      cases fails
      exact .inr ⟨.flags, _, rfl, nofun⟩

theorem ofText_of_compile {fault : SchemaError} {text : String} {pattern : Pattern}
    (compiles : compile fault text = .ok pattern) : Pattern.ofText text = .ok pattern := by
  unfold compile at compiles
  cases result : Pattern.ofText text with
  | ok other =>
    rw [result] at compiles
    cases compiles
    rfl
  | error cause =>
    rw [result] at compiles
    cases compiles

theorem checkColumns_reported {groups : List String} {columns : List Column} {e : SchemaError}
    (fails : checkColumns groups columns = .error e) : e.isReported = true := by
  unfold checkColumns at fails
  dsimp only at fails
  repeat' split at fails
  all_goals
    cases fails
    try rfl

theorem groups_of_check {groups : List String} {columns : List Column}
    (accepted : checkColumns groups columns = .ok ()) :
    columns ≠ [] ∧ ∀ column ∈ columns, column.name ∈ groups := by
  unfold checkColumns at accepted
  dsimp only at accepted
  split at accepted
  · cases accepted
  next some =>
  split at accepted
  · cases accepted
  split at accepted
  · cases accepted
  next allThere =>
  constructor
  · rintro rfl
    exact some rfl
  · intro column inside
    have absent : (columns.map (·.name)).filter (fun name => !groups.contains name) = [] := by
      simpa using allThere
    simpa using List.filter_eq_nil_iff.1 absent column.name (List.mem_map_of_mem inside)

/-! ## Whole definitions -/

/-- A schema that obeys all rules, with the patterns that its texts spell. -/
structure IsSound (schema : Schema) : Prop where
  columns : schema.columns ≠ []
  lawful : Lawful schema.columns
  groups : ∀ column ∈ schema.columns, column.name ∈ schema.pattern.names.map Prod.fst
  pattern : Pattern.ofText schema.patternText = .ok schema.pattern
  filename : Pattern.ofText schema.filenameText = .ok schema.filenamePattern

theorem isSound_of_build {patternText filenameText : String} {columns : List Column}
    {table : Datum} {schema : Schema}
    (built : build patternText columns filenameText table = .ok schema) : schema.IsSound := by
  obtain ⟨pattern, filenamePattern, compiled, compiledName, checked, rfl⟩ := build_eq_ok built
  have isGroup := groups_of_check checked
  exact ⟨isGroup.1, .of_check checked, isGroup.2, ofText_of_compile compiled,
    ofText_of_compile compiledName⟩

theorem build_error {patternText filenameText : String} {columns : List Column} {table : Datum}
    {e : SchemaError} (fails : build patternText columns filenameText table = .error e) :
    e.isReported = true ∨
      IsOutsized e ∧ ∃ text cause, (text = patternText ∨ text = filenameText) ∧
        Pattern.ofText text = .error cause ∧ cause ≠ .malformed := by
  unfold build at fails
  simp only [bind, Except.bind] at fails
  split at fails
  next compiled =>
    cases fails
    rcases compile_error compiled with rfl | ⟨outsized, cause, fails, other⟩
    · exact .inl rfl
    · exact .inr ⟨outsized, _, cause, .inl rfl, fails, other⟩
  split at fails
  next compiledName =>
    cases fails
    rcases compile_error compiledName with rfl | ⟨outsized, cause, fails, other⟩
    · exact .inl rfl
    · exact .inr ⟨outsized, _, cause, .inr rfl, fails, other⟩
  split at fails
  next checked =>
    cases fails
    exact .inl (checkColumns_reported checked)
  next => cases fails

theorem exists_build_of_ofDatum {definition : Datum} {schema : Schema}
    (accepted : ofDatum definition = .ok schema) :
    ∃ patternText columns filenameText table,
      build patternText columns filenameText table = .ok schema := by
  unfold ofDatum at accepted
  split at accepted
  next entries =>
    dsimp only at accepted
    split at accepted
    · cases accepted
    next pattern given =>
      simp only [bind, Except.bind] at accepted
      iterate 4
        split at accepted
        · cases accepted
      exact ⟨_, _, _, _, accepted⟩
  · cases accepted

/-- Whatever a definition is, an accepted one obeys all rules. -/
theorem isSound_of_ofDatum {definition : Datum} {schema : Schema}
    (accepted : ofDatum definition = .ok schema) : schema.IsSound := by
  obtain ⟨_, _, _, _, built⟩ := exists_build_of_ofDatum accepted
  exact isSound_of_build built

inductive HasScalarColumns : Datum → Prop where
  | intro {entries pattern columns} : Datum.lookupText "regex" entries = some pattern →
      Datum.lookupText "columns" entries = some columns → IsTrueScalar columns →
      HasScalarColumns (.map entries)

theorem HasScalarColumns.of_getD {entries : List (Datum × Datum)} {pattern : Datum}
    (given : Datum.lookupText "regex" entries = some pattern)
    (scalar : IsTrueScalar ((Datum.lookupText "columns" entries).getD .null)) :
    HasScalarColumns (.map entries) := by
  cases found : Datum.lookupText "columns" entries with
  | none =>
    rw [found] at scalar
    cases scalar
  | some columns =>
    rw [found] at scalar
    exact .intro given found scalar

inductive HasOutsizedPattern : Datum → Prop where
  | intro {entries name part cause} : name = "regex" ∨ name = "filename" →
      Datum.lookupText name entries = some part →
      Pattern.ofText part.toText = .error cause → cause ≠ .malformed →
      HasOutsizedPattern (.map entries)

/-- What a definition may come to.  Without scalar columns, numbers that are too long and outsized
patterns, it is a sound schema or a report. -/
inductive Verdict (definition : Datum) : Except SchemaError Schema → Prop where
  | schema {schema} : ¬ HasScalarColumns definition → schema.IsSound →
      Verdict definition (.ok schema)
  | reported {e} : ¬ HasScalarColumns definition → e.isReported = true →
      Verdict definition (.error e)
  | scalarColumns : HasScalarColumns definition →
      Verdict definition (.error .columnsWithoutMembers)
  | numberTooLong : ¬ HasScalarColumns definition → definition.isCitable = false →
      Verdict definition (.error .numberTooLong)
  | outsizedPattern {e} : ¬ HasScalarColumns definition → HasOutsizedPattern definition →
      IsOutsized e → Verdict definition (.error e)

theorem ofText_anyName {cause : Pattern.ReadError} : Pattern.ofText ".*" ≠ .error cause := by
  have reads : (Pattern.ofText ".*").isOk = true := by decide +kernel
  intro fails
  rw [fails] at reads
  cases reads

theorem HasOutsizedPattern.of_getD {entries : List (Datum × Datum)} {cause : Pattern.ReadError}
    (fails : Pattern.ofText ((Datum.lookupText "filename" entries).getD (.text ".*")).toText =
      .error cause)
    (other : cause ≠ .malformed) : HasOutsizedPattern (.map entries) := by
  cases found : Datum.lookupText "filename" entries with
  | none =>
    rw [found] at fails
    exact absurd fails ofText_anyName
  | some part =>
    rw [found] at fails
    exact .intro (.inr rfl) found fails other

/-- If the columns can be listed, a definition is refused without a report only for a number or for
a pattern. -/
theorem ofDatum_error {entries : List (Datum × Datum)} {pattern : Datum} {members : List Datum}
    {e : SchemaError} (given : Datum.lookupText "regex" entries = some pattern)
    (listed : membersOf ((Datum.lookupText "columns" entries).getD .null) = .ok members)
    (fails : ofDatum (.map entries) = .error e) :
    e.isReported = true ∨ IsUncited (.map entries) e ∨
      HasOutsizedPattern (.map entries) ∧ IsOutsized e := by
  simp only [ofDatum, given, listed, bind, Except.bind] at fails
  split at fails
  next refused =>
    cases fails
    obtain ⟨member, inside, refused⟩ := exists_mem_of_mapM refused
    rcases columnOfDatum_error refused with reported | uncited
    · exact .inl reported
    · refine .inr (.inl (uncited.of_part fun citable => ?_))
      exact isCitable_of_membersOf listed (Datum.isCitable_getD citable "columns" rfl) member inside
  split at fails
  next refused =>
    cases fails
    exact .inr (.inl ((textOf_error refused).of_part fun citable =>
      Datum.isCitable_of_lookupText citable given))
  next patternText isPattern =>
  split at fails
  next refused =>
    cases fails
    exact .inr (.inl ((textOf_error refused).of_part fun citable =>
      Datum.isCitable_getD citable "filename" rfl))
  next filenameText isFilename =>
    rw [eq_toText_of_textOf isPattern, eq_toText_of_textOf isFilename] at fails
    rcases build_error fails with reported | ⟨outsized, text, cause, rfl | rfl, fails, other⟩
    · exact .inl reported
    · exact .inr (.inr ⟨.intro (.inl rfl) given fails other, outsized⟩)
    · exact .inr (.inr ⟨.of_getD fails other, outsized⟩)

/-- Every definition is a schema that obeys all rules, or it is refused with a report, unless it
gives its columns as a scalar, holds a whole number that is too long, or has a pattern that cannot
be compiled although it is well formed.  In the first of these cases it is always refused without
a report. -/
theorem ofDatum_verdict (definition : Datum) : Verdict definition (ofDatum definition) := by
  cases definition with
  | map entries =>
    cases given : Datum.lookupText "regex" entries with
    | none =>
      simp only [ofDatum, given]
      refine .reported ?_ rfl
      rintro ⟨isGiven, -⟩
      rw [given] at isGiven
      cases isGiven
    | some pattern =>
      cases listed : membersOf ((Datum.lookupText "columns" entries).getD .null) with
      | error e =>
        obtain ⟨rfl, scalar⟩ := isTrueScalar_of_membersOf listed
        have refused : ofDatum (.map entries) = .error .columnsWithoutMembers := by
          simp only [ofDatum, given, listed, bind, Except.bind]
        rw [refused]
        exact .scalarColumns (.of_getD given scalar)
      | ok members =>
        have noScalar : ¬ HasScalarColumns (.map entries) := by
          rintro ⟨-, isColumns, scalar⟩
          rw [isColumns, Option.getD_some, membersOf_trueScalar scalar] at listed
          cases listed
        cases result : ofDatum (.map entries) with
        | ok schema => exact .schema noScalar (isSound_of_ofDatum result)
        | error e =>
          rcases ofDatum_error given listed result with
            reported | ⟨uncited, rfl⟩ | ⟨hasOutsized, outsized⟩
          · exact .reported noScalar reported
          · exact .numberTooLong noScalar uncited
          · exact .outsizedPattern noScalar hasOutsized outsized
  | _ => exact .reported nofun rfl

/-- A number in the place of the list of columns is refused without a report. -/
theorem ofDatum_unreported :
    ∃ e, ofDatum (.map [(.text "regex", .text "(?P<a>.)"), (.text "columns", .number (.int 5))]) =
      .error e ∧ e.isReported = false :=
  ⟨.columnsWithoutMembers, rfl, rfl⟩

end Schema

end LogSelect
