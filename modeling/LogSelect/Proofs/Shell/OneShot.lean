import LogSelect.Proofs.Execution.Pulls
import LogSelect.Proofs.Table.Widths
import LogSelect.Shell.Program

/-!
A run of one statement writes its whole result or nothing.

All rows of the result are pulled before anything is written, so a failure leaves the output empty,
wherever it comes up: at the path, in the text, in the query, or behind any number of rows and files
of the log.  Only a whole result ends in the status 0.
-/

namespace LogSelect

/-! ## Logs -/

/-- What is read of each part of a log, in the order of reading: of the one file, or of all selected
files of a directory. -/
def Schema.parts (schema : Schema) (path : Path) : Content → List LogRows
  | .file bytes => [schema.readFile path bytes]
  | .directory files =>
    (schema.selectFiles files).map fun (name, bytes) => schema.readFile (path.child name) bytes
  | .brokenFile lines error => [schema.readBroken path lines error]
  | .mixedDirectory files =>
    (schema.selectFiles files).map fun (name, stream) => schema.readStream (path.child name) stream
  | .closedDirectory error => [⟨[], some (.file error path), []⟩]

theorem LogRows.failure_foldl {α : Type} (read : α → LogRows) (parts : List α) (log : LogRows) :
    (parts.foldl (fun log part => log.append (read part)) log).failure =
      log.failure.or ((parts.map read).findSome? (·.failure)) := by
  induction parts generalizing log with
  | nil => simp
  | cons part parts ih =>
    rw [List.foldl_cons, ih, List.map_cons, List.findSome?_cons, append]
    cases failed : log.failure with
    | some e => simp [failed]
    | none => cases next : (read part).failure <;> simp

/-- A log fails as the first of its parts that fails. -/
theorem Schema.failure_readContent (schema : Schema) (path : Path) (content : Content) :
    (schema.readContent path content).failure =
      (schema.parts path content).findSome? (·.failure) := by
  cases content with
  | file bytes => exact (List.findSome?_singleton ..).symm
  | brokenFile lines error => exact (List.findSome?_singleton ..).symm
  | closedDirectory error => rfl
  | directory files => exact LogRows.failure_foldl _ _ _
  | mixedDirectory files => exact LogRows.failure_foldl _ _ _

theorem Schema.failure_of_parts {schema : Schema} {path : Path} {content : Content}
    {front behind : List LogRows} {part : LogRows} {e : LogError}
    (split : schema.parts path content = front ++ part :: behind)
    (complete : ∀ earlier ∈ front, earlier.failure = none) (fails : part.failure = some e) :
    (schema.readContent path content).failure = some e := by
  rw [Schema.failure_readContent, split, List.findSome?_append,
    List.findSome?_eq_none_iff.2 complete, List.findSome?_cons, fails]
  rfl

/-! ## Results -/

inductive Format.Shows (columns : List String) (rows : List OutputRow) :
    Format → String → Prop where
  | table {table} : Table.format? columns (rows.map fun row => row.values.map Value.render) =
      some table →
      Shows columns rows .table (table ++ "\n(" ++ toString rows.length ++ " row(s))\n")
  | json : Shows columns rows .json (Json.write (.list (rows.map OutputRow.toDatum)) ++ "\n")

theorem Format.render_shows {columns : List String} {rows : List OutputRow}
    (fit : ∀ row ∈ rows, row.values.length ≤ columns.length) (format : Format) :
    format.Shows columns rows (format.render columns rows) := by
  cases format with
  | json => exact .json
  | table =>
    obtain ⟨table, isTable⟩ : ∃ table, Table.format? columns
        (rows.map fun row => row.values.map Value.render) = some table := by
      apply Table.exists_format
      intro cells inside
      obtain ⟨row, inRows, rfl⟩ := List.mem_map.1 inside
      rw [List.length_map]
      exact fit row inRows
    rw [render, isTable]
    exact .table isTable

namespace Execution

variable {ε : Type}

theorem columns_next (exec : Execution ε) : exec.next.2.columns = exec.columns := by
  have page (exec : Execution ε) (rows : List Row) :
      (exec.nextOfPage rows).2.columns = exec.columns := by
    unfold nextOfPage
    split
    · rfl
    · dsimp only
      split <;> rfl
  unfold next
  split
  · exact page exec _
  · split
    · rfl
    · exact page _ _

theorem columns_pullRows (exec : Execution ε) (count : Nat) :
    (exec.pullRows count).2.2.columns = exec.columns := by
  induction count generalizing exec with
  | zero => rfl
  | succ count ih =>
    have first := columns_next exec
    unfold pullRows
    split <;> rename_i pulled <;> rw [pulled] at first
    · exact first
    · exact first
    · exact (ih _).trans first

end Execution

namespace Query

variable {query : Query} {collation : Collation} {columns : List String} {ε : Type}

theorem length_outputRow (query : Query) (columns : List String) (row : Row) :
    (query.outputRow columns row).values.length = (query.outputNames columns).length := by
  unfold outputRow outputNames
  split <;> simp

theorem rest_failing (renderable : query.IsRenderable) (collation : Collation)
    (columns : List String) {feed : Feed ε} {error : ε} (fails : feed.failure = some error) :
    ∃ handed last,
      (query.unread collation columns feed).rest = (handed, some (.feed error), last) := by
  obtain ⟨rows, failure⟩ := feed
  cases fails
  have failed : Request.rest.answer (query.unread collation columns ⟨rows, some error⟩) =
      (.failure (.feed error), query.broken collation columns rows ε) :=
    answer_failing renderable rows error .rest
  rw [Request.answer] at failed
  split at failed
  next => cases failed
  next handed e last isRest =>
    cases failed
    exact ⟨handed, _, isRest⟩

end Query

/-! ## Statements -/

theorem Written.ofNotes_append (verbose : Bool) (front behind : List Note) (written : Written) :
    (Written.ofNotes verbose front).append ((Written.ofNotes verbose behind).append written) =
      ⟨written.output, (Written.ofNotes verbose (front ++ behind)).aside ++ written.aside⟩ := by
  cases verbose <;> simp [ofNotes, append, String.append_assoc]

namespace Shell

section

variable (shell : Shell) (source : Source) (text : String)

/-- A statement whose result can be pulled to its end, with the columns and the rows of it. -/
inductive Yields : List String → List OutputRow → Prop where
  | intro {path content query exec rows last} : shell.path = some path → source = .ok content →
      Query.ofText text = .ok query →
      Execution.start shell.setting.collation query shell.setting.schema.names
        (shell.setting.schema.readContent path content).feed = .ok exec →
      exec.rest = (rows, none, last) → Yields exec.columns rows

/-- A statement that fails: there is no path, it leads nowhere, the text is no query, the query
cannot be executed, or its result cannot be pulled to its end. -/
inductive Fails : Outcome → Prop where
  | noPath : shell.path = none → Fails (.crashed .noPath)
  | path {path e} : shell.path = some path → source = .error e →
      Fails (Setting.lookError path e)
  | text {path content e} : shell.path = some path → source = .ok content →
      Query.ofText text = .error e → Fails e.outcome
  | query {path content query e} : shell.path = some path → source = .ok content →
      Query.ofText text = .ok query →
      Execution.start shell.setting.collation query shell.setting.schema.names
        (shell.setting.schema.readContent path content).feed = .error e →
      Fails (.reported e.message)
  | pull {path content query exec rows e last} : shell.path = some path → source = .ok content →
      Query.ofText text = .ok query →
      Execution.start shell.setting.collation query shell.setting.schema.names
        (shell.setting.schema.readContent path content).feed = .ok exec →
      exec.rest = (rows, some e, last) → Fails e.outcome

/-- How a run of one statement ends: with the whole result, with a report aside and no output, or
with a crash and no output. -/
inductive Ends : Finish → Prop where
  | whole {columns rows output notes} : shell.Yields source text columns rows →
      shell.setting.format.Shows columns rows output →
      Ends (.exit 0 ⟨output, (Written.ofNotes shell.verbose notes).aside⟩)
  | reported {message notes} : shell.Fails source text (.reported message) →
      Ends (.exit 1 ⟨"", (Written.ofNotes shell.verbose notes).aside ++ message ++ "\n"⟩)
  | crashed {crash} : shell.Fails source text (.crashed crash) → Ends (.crashed crash)

end

variable {shell : Shell} {source : Source} {text : String} {columns : List String}
  {rows : List OutputRow} {outcome : Outcome}

theorem yields_or_fails (shell : Shell) (source : Source) (text : String) :
    (∃ columns rows, shell.Yields source text columns rows) ∨
      ∃ outcome, shell.Fails source text outcome := by
  cases isPath : shell.path with
  | none => exact .inr ⟨_, .noPath isPath⟩
  | some path =>
    cases isContent : source with
    | error e => exact .inr ⟨_, .path isPath rfl⟩
    | ok content =>
      cases isRead : Query.ofText text with
      | error e => exact .inr ⟨_, .text isPath rfl isRead⟩
      | ok query =>
        cases started : Execution.start shell.setting.collation query shell.setting.schema.names
            (shell.setting.schema.readContent path content).feed with
        | error e => exact .inr ⟨_, .query isPath rfl isRead started⟩
        | ok exec =>
          rcases pulled : exec.rest with ⟨rows, error, last⟩
          cases error with
          | none => exact .inl ⟨_, _, .intro isPath rfl isRead started pulled⟩
          | some e => exact .inr ⟨_, .pull isPath rfl isRead started pulled⟩

/-- A result is what the query asks for, of a log that has been read to its end. -/
theorem Yields.eq_shown (yields : shell.Yields source text columns rows) :
    ∃ path content query, Query.ofText text = .ok query ∧
      columns = query.outputNames shell.setting.schema.names ∧
      rows = (query.shown shell.setting.collation shell.setting.schema.names
        (shell.setting.schema.readContent path content).rows).map
          (query.outputRow shell.setting.schema.names) := by
  cases yields with
  | @intro path content query _ _ last _ _ isRead started pulled =>
    have renderable := Query.isRenderable_of_ofText isRead
    rw [Query.start_eq renderable] at started
    cases started
    cases failed : (shell.setting.schema.readContent path content).failure with
    | some e =>
      obtain ⟨handed, other, isRest⟩ := Query.rest_failing renderable shell.setting.collation
        shell.setting.schema.names
        (show (shell.setting.schema.readContent path content).feed.failure = some e from failed)
      rw [isRest] at pulled
      cases pulled
    | none =>
      rw [LogRows.feed, failed, Query.rest_unread renderable] at pulled
      cases pulled
      exact ⟨path, content, query, isRead, rfl, rfl⟩

theorem Yields.fit (yields : shell.Yields source text columns rows) :
    ∀ row ∈ rows, row.values.length = columns.length := by
  obtain ⟨path, content, query, -, rfl, rfl⟩ := yields.eq_shown
  intro row inside
  obtain ⟨shown, -, rfl⟩ := List.mem_map.1 inside
  exact Query.length_outputRow query _ shown

theorem Yields.outcome_execute (yields : shell.Yields source text columns rows) :
    (shell.execute source text).outcome = .shown (shell.setting.format.render columns rows) := by
  cases yields with
  | @intro _ _ _ exec _ last isPath isContent isRead started pulled =>
    have same : exec.rest.2.2.columns = exec.columns := exec.columns_pullRows _
    rw [pulled] at same
    change last.columns = exec.columns at same
    simp only [execute, isPath, Setting.run, isContent, isRead, Setting.execute, started, pulled,
      same]

theorem Fails.outcome_execute (fails : shell.Fails source text outcome) :
    (shell.execute source text).outcome = outcome := by
  cases fails with
  | noPath isPath => simp only [execute, isPath]
  | path isPath isError => simp only [execute, isPath, Setting.run, isError]
  | text isPath isContent notRead =>
    simp only [execute, isPath, Setting.run, isContent, notRead]
  | query isPath isContent isRead refused =>
    simp only [execute, isPath, Setting.run, isContent, isRead, Setting.execute, refused]
  | pull isPath isContent isRead started pulled =>
    simp only [execute, isPath, Setting.run, isContent, isRead, Setting.execute, started, pulled]

theorem Fails.reported_or_crashed (fails : shell.Fails source text outcome) :
    (∃ message, outcome = .reported message) ∨ ∃ crash, outcome = .crashed crash := by
  have ofLog (e : LogError) :
      (∃ message, e.outcome = .reported message) ∨ ∃ crash, e.outcome = .crashed crash := by
    unfold LogError.outcome
    split
    · exact .inl ⟨_, rfl⟩
    · exact .inr ⟨_, rfl⟩
    · exact .inl ⟨_, rfl⟩
  cases fails with
  | noPath _ => exact .inr ⟨_, rfl⟩
  | path _ _ =>
    unfold Setting.lookError
    split <;> exact .inl ⟨_, rfl⟩
  | text _ _ _ =>
    unfold QueryError.outcome
    split
    · exact .inr ⟨_, rfl⟩
    · exact .inl ⟨_, rfl⟩
  | query _ _ _ _ => exact .inl ⟨_, rfl⟩
  | @pull _ _ _ _ _ e =>
    cases e with
    | eval e => exact .inl ⟨_, rfl⟩
    | feed e => exact ofLog e

/-! ## Runs -/

section Finishing

variable {report : Report} (notes : List Note)

theorem finish_shown {output : String} (shown : report.outcome = .shown output) :
    finishStatement shell (.ofNotes shell.verbose notes) report =
      .exit 0 ⟨output, (Written.ofNotes shell.verbose (notes ++ report.notes)).aside⟩ := by
  simp only [finishStatement, shown, Written.ofNotes_append, Written.out, String.append_empty]

theorem finish_reported {message : String} (reported : report.outcome = .reported message) :
    finishStatement shell (.ofNotes shell.verbose notes) report =
      .exit 1 ⟨"", (Written.ofNotes shell.verbose (notes ++ report.notes)).aside ++
        message ++ "\n"⟩ := by
  simp only [finishStatement, reported, Written.ofNotes_append, String.append_assoc]

theorem finish_crashed {crash : Crash} (crashed : report.outcome = .crashed crash) :
    finishStatement shell (.ofNotes shell.verbose notes) report = .crashed crash := by
  simp only [finishStatement, crashed]

end Finishing

/-- A run that executes one statement ends with status 0 and the whole result in its output, or its
output is empty: a failure is reported aside, with status 1, or it is a crash.  A statement that
fails has no result, and it fails in one way.  A part of the log that cannot be opened, read or
converted is such a failure, however many rows and files have been read in front of it. -/
theorem ends_oneShot (shell : Shell) (source : Source) (text : String) (notes : List Note) :
    shell.Ends source text
        (finishStatement shell (.ofNotes shell.verbose notes) (shell.execute source text)) ∧
      (∀ outcome, shell.Fails source text outcome →
        (∀ columns rows, ¬ shell.Yields source text columns rows) ∧
          ∀ other, shell.Fails source text other → other = outcome) ∧
      ∀ path content query front part behind e, shell.path = some path → source = .ok content →
        Query.ofText text = .ok query →
        shell.setting.schema.parts path content = front ++ part :: behind →
        (∀ earlier ∈ front, earlier.failure = none) → part.failure = some e →
        shell.Fails source text e.outcome := by
  refine ⟨?_, ?_, ?_⟩
  · rcases yields_or_fails shell source text with ⟨columns, rows, yields⟩ | ⟨outcome, fails⟩
    · rw [finish_shown notes yields.outcome_execute]
      exact .whole yields (Format.render_shows (fun row inside => (yields.fit row inside).le) _)
    · rcases fails.reported_or_crashed with ⟨message, rfl⟩ | ⟨crash, rfl⟩
      · rw [finish_reported notes fails.outcome_execute]
        exact .reported fails
      · rw [finish_crashed notes fails.outcome_execute]
        exact .crashed fails
  · intro outcome fails
    constructor
    · intro columns rows yields
      rcases fails.reported_or_crashed with ⟨message, rfl⟩ | ⟨crash, rfl⟩ <;>
        exact nomatch yields.outcome_execute.symm.trans fails.outcome_execute
    · intro other otherFails
      exact otherFails.outcome_execute.symm.trans fails.outcome_execute
  · intro path content query front part behind e isPath isContent isRead split complete failed
    have renderable := Query.isRenderable_of_ofText isRead
    have fails : (shell.setting.schema.readContent path content).feed.failure = some e :=
      Schema.failure_of_parts split complete failed
    obtain ⟨handed, last, pulled⟩ := Query.rest_failing renderable shell.setting.collation
      shell.setting.schema.names fails
    exact .pull isPath isContent isRead (Query.start_eq renderable _) pulled

/-- One row would do, and the first file has it; but the second file cannot be opened. -/
theorem ends_oneShot_behind :
    let files := [("b", Stream.broken [] .denied), ("a", .whole ['1'.toNat, '\n'.toNat])]
    let message := "I/O error: [Errno 13] Permission denied: 'logs/b'"
    ∃ schema, Schema.build "(?P<n>.)" [⟨"n", false, .string⟩] "." .null = .ok schema ∧
      let shell : Shell := ⟨⟨schema, .exact, .table⟩, some (.ofText "logs"), false⟩
      let source : Source := .ok (.mixedDirectory files)
      shell.Fails source "SELECT n LIMIT 1" (.reported message) ∧
        finishStatement shell (.ofNotes false []) (shell.execute source "SELECT n LIMIT 1") =
          .exit 1 ⟨"", message ++ "\n"⟩ := by
  intro files message
  have facts : (match Schema.build "(?P<n>.)" [⟨"n", false, .string⟩] "." .null with
      | .error _ => false
      | .ok schema =>
        decide ((files.filter fun file => schema.filenamePattern.matchesAll file.1) = files ∧
          (schema.readFile ((Path.ofText "logs").child "a") ['1'.toNat, '\n'.toNat]).failure =
            none)) = true := by
    decide +kernel
  cases built : Schema.build "(?P<n>.)" [⟨"n", false, .string⟩] "." .null with
  | error e =>
    rw [built] at facts
    cases facts
  | ok schema =>
    rw [built] at facts
    obtain ⟨selected, complete⟩ := of_decide_eq_true facts
    have ordered : schema.selectFiles files =
        [("a", .whole ['1'.toNat, '\n'.toNat]), ("b", .broken [] .denied)] := by
      rw [Schema.selectFiles, selected]
      simp [files, List.mergeSort, compareCodes]
    refine ⟨schema, rfl, ?_⟩
    intro shell source
    obtain ⟨-, -, behind⟩ := ends_oneShot shell source "SELECT n LIMIT 1" []
    have fails : shell.Fails source "SELECT n LIMIT 1" (.reported message) := by
      refine behind (.ofText "logs") (.mixedDirectory files)
        ⟨[⟨.column "n", none⟩], none, [], some 1, none⟩
        [schema.readFile ((Path.ofText "logs").child "a") ['1'.toNat, '\n'.toNat]]
        (schema.readBroken ((Path.ofText "logs").child "b") [] .denied) []
        (.file .denied ((Path.ofText "logs").child "b")) rfl rfl (by decide +kernel) ?_ ?_ rfl
      · simp only [Schema.parts, shell, ordered]
        rfl
      · simpa using complete
    exact ⟨fails, finish_reported [] fails.outcome_execute⟩

end Shell

end LogSelect
