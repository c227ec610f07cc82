import Mathlib.Data.List.Nodup
import LogSelect.Schema.Basic

/-!
What is true of the columns of every schema: their names are distinct, and at most one of them takes
the lines that match nothing, which is then a text column.
-/

namespace LogSelect.Schema

theorem length_eraseDups_le (names : List String) : names.eraseDups.length ≤ names.length := by
  induction h : names.length using Nat.strongRecOn generalizing names with
  | ind size ih =>
    cases names with
    | nil => simp
    | cons name names =>
      have shorter := List.length_filter_le (fun other => !other == name) names
      simp only [List.length_cons] at h
      rw [List.eraseDups_cons, List.length_cons, ← h]
      have others := ih _ (by omega) (names.filter fun other => !other == name) rfl
      omega

theorem nodup_of_length_eraseDups {names : List String}
    (full : names.length ≤ names.eraseDups.length) : names.Nodup := by
  induction names with
  | nil => exact List.nodup_nil
  | cons name names ih =>
    have shorter := List.length_filter_le (fun other => !other == name) names
    have others := length_eraseDups_le (names.filter fun other => !other == name)
    rw [List.eraseDups_cons, List.length_cons, List.length_cons] at full
    have all : names.filter (fun other => !other == name) = names :=
      List.filter_eq_self.2 (List.length_filter_eq_length_iff.1 (by omega))
    rw [all] at full
    refine List.nodup_cons.2 ⟨?_, ih (by omega)⟩
    intro member
    simpa using List.filter_eq_self.1 all name member

/-- The rules that the columns of a schema obey. -/
structure Lawful (columns : List Column) : Prop where
  distinct : (columns.map (·.name)).Nodup
  /-- At most one column is a multiline one. -/
  single : ∀ c ∈ columns, ∀ d ∈ columns, c.multiline = true → d.multiline = true → c = d
  text : ∀ c ∈ columns, c.multiline = true → c.type = .string

theorem Lawful.of_check {groups : List String} {columns : List Column}
    (accepted : checkColumns groups columns = .ok ()) : Lawful columns := by
  unfold checkColumns at accepted
  dsimp only at accepted
  split at accepted
  · cases accepted
  split at accepted
  · cases accepted
  next noRepetition =>
  split at accepted
  · cases accepted
  split at accepted
  · cases accepted
  next few =>
  split at accepted
  · cases accepted
  next textOnly =>
  refine ⟨nodup_of_length_eraseDups (Nat.not_lt.1 noRepetition), ?_, ?_⟩
  · intro c inC d inD isC isD
    have first := List.mem_filter.2 ⟨inC, isC⟩
    have second := List.mem_filter.2 ⟨inD, isD⟩
    rw [List.length_map] at few
    cases multiline : columns.filter (·.multiline) with
    | nil => simp [multiline] at first
    | cons only others =>
      rw [multiline, List.length_cons] at few
      obtain rfl : others = [] := List.eq_nil_of_length_eq_zero (by omega)
      rw [multiline, List.mem_singleton] at first second
      rw [first, second]
  · intro c inside isC
    simpa [isC] using List.find?_eq_none.1 textOnly c inside

/-- What a schema is built from, and what is checked of it. -/
theorem build_eq_ok {patternText filenameText : String} {columns : List Column} {table : Datum}
    {schema : Schema} (accepted : build patternText columns filenameText table = .ok schema) :
    ∃ pattern filenamePattern, compile (.badPattern patternText) patternText = .ok pattern ∧
      compile (.badFilename filenameText) filenameText = .ok filenamePattern ∧
      checkColumns (pattern.names.map Prod.fst) columns = .ok () ∧
      schema = ⟨patternText, columns, filenameText, table, pattern, filenamePattern⟩ := by
  unfold build at accepted
  simp only [bind, Except.bind] at accepted
  split at accepted
  · cases accepted
  next pattern compiled =>
  split at accepted
  · cases accepted
  next filenamePattern compiledName =>
  split at accepted
  · cases accepted
  next checked =>
  exact ⟨pattern, filenamePattern, compiled, compiledName, checked, (Except.ok.inj accepted).symm⟩

/-- A schema has the columns it was given, and they obey the rules. -/
theorem columns_of_build {patternText filenameText : String} {columns : List Column}
    {table : Datum} {schema : Schema}
    (accepted : build patternText columns filenameText table = .ok schema) :
    schema.columns = columns ∧ Lawful columns := by
  obtain ⟨_, _, _, _, checked, rfl⟩ := build_eq_ok accepted
  exact ⟨rfl, .of_check checked⟩

namespace Lawful

variable {columns : List Column} {c d : Column}

theorem eq_of_name (lawful : Lawful columns) (inC : c ∈ columns) (inD : d ∈ columns)
    (same : c.name = d.name) : c = d :=
  List.inj_on_of_nodup_map lawful.distinct inC inD same

theorem multilineColumn (lawful : Lawful columns) {name : String}
    (found : multilineColumn? columns = some name) :
    ∃ column ∈ columns, column.name = name ∧
      ∀ c ∈ columns, c.multiline = true ↔ c = column := by
  obtain ⟨column, isFound, rfl⟩ := Option.map_eq_some_iff.1 found
  have inside := List.mem_of_find?_eq_some isFound
  have multiline : column.multiline = true := by simpa using List.find?_some isFound
  refine ⟨column, inside, rfl, ?_⟩
  intro c inC
  constructor
  · intro isC
    exact lawful.single c inC column inside isC multiline
  · rintro rfl
    exact multiline

end Lawful

theorem multiline_of_none {columns : List Column} (none : multilineColumn? columns = none)
    {c : Column} (inside : c ∈ columns) : c.multiline = false := by
  have absent := List.find?_eq_none.1 (Option.map_eq_none_iff.1 none) c inside
  simpa using absent

end LogSelect.Schema
