import LogSelect.Proofs.Statements.Split
import LogSelect.Shell.Program

/-!
A session executes the statements that are typed in it.

However a text is broken over lines, the statements that the lines complete are those of the whole
text.  The text that waits holds no complete statement, and together with what is typed behind it it
has the statements that are still to come; this is kept from line to line.
-/

namespace LogSelect

/-- A line that is read in a session. -/
structure Turn where
  session : Session
  line : String

namespace Turn

def meaning (turn : Turn) : Meaning :=
  turn.session.read turn.line

/-- What the line adds to the text of the session: a command adds nothing. -/
def typed (turn : Turn) : String :=
  match turn.meaning with
  | .command _ => ""
  | .statements _ _ => turn.line ++ "\n"

def statements (turn : Turn) : List String :=
  match turn.meaning with
  | .command _ => []
  | .statements texts _ => texts

def answer (shell : Shell) (turn : Turn) : Written :=
  match turn.meaning with
  | .command command => .out (command.answer shell.setting.schema.columns)
  | .statements _ _ => .out ""

/-- What is written in the turn: the prompt, the answer, and what the statements come to, one after
the other. -/
def written (shell : Shell) (source : Source) (turn : Turn) : Written :=
  (Written.out turn.session.prompt).append <| (turn.answer shell).append <|
    (turn.statements.map fun text => shell.tell (shell.execute source text)).foldl
      Written.append (.out "")

end Turn

namespace Session

def turns (session : Session) : List String → List Turn
  | [] => []
  | line :: lines =>
    ⟨session, line⟩ ::
      match session.read line with
      | .command .leave => []
      | .command _ => session.turns lines
      | .statements _ next => next.turns lines

def after (session : Session) : List String → Option Session
  | [] => some session
  | line :: lines =>
    match session.read line with
    | .command .leave => none
    | .command _ => session.after lines
    | .statements _ next => next.after lines

def Waits (session : Session) : Prop :=
  (splitStatements session.pending).1 = []

theorem waits_start : start.Waits := rfl

variable {session next : Session} {line : String} {texts : List String}

/-- A line that is no command completes the statements of the waiting text and itself.  What remains
behind them goes on waiting, unless it is blank; if there are none, all of it waits. -/
theorem eq_of_read (read : session.read line = .statements texts next) :
    texts = (splitStatements (session.pending ++ line ++ "\n")).1 ∧
      (texts = [] ∧ next = ⟨session.pending ++ line ++ "\n"⟩ ∨
        isBlankText (splitStatements (session.pending ++ line ++ "\n")).2 = true ∧ next = start ∨
        next = ⟨(splitStatements (session.pending ++ line ++ "\n")).2⟩) := by
  unfold Session.read at read
  split at read
  · cases read
  · dsimp only at read
    split at read
    next none =>
      cases read
      exact ⟨(List.isEmpty_iff.1 none).symm, .inl ⟨rfl, rfl⟩⟩
    next =>
      cases read
      refine ⟨rfl, .inr ?_⟩
      split
      next blank => exact .inl ⟨blank, rfl⟩
      next => exact .inr rfl

/-- The statements of the waiting text, of the line and of whatever is typed behind it are those
that the line completes and those that are still to come. -/
theorem read_statements (read : session.read line = .statements texts next) (more : String) :
    (splitStatements (session.pending ++ line ++ "\n" ++ more)).1 =
      texts ++ (splitStatements (next.pending ++ more)).1 := by
  obtain ⟨rfl, ⟨none, rfl⟩ | ⟨blank, rfl⟩ | rfl⟩ := eq_of_read read
  · rw [none, List.nil_append]
  · rw [splitStatements_append, splitStatements_blank_append blank, start, String.empty_append]
  · rw [splitStatements_append]

theorem waits_of_read (read : session.read line = .statements texts next) : next.Waits := by
  have completed := read_statements read ""
  rw [String.append_empty, String.append_empty, ← (eq_of_read read).1] at completed
  exact List.self_eq_append_right.1 completed

theorem turns_statements (waits : session.Waits) (lines : List String) :
    (session.turns lines).flatMap Turn.statements =
      (splitStatements (session.pending ++
        String.join ((session.turns lines).map Turn.typed))).1 := by
  induction lines generalizing session with
  | nil => simpa [turns] using waits.symm
  | cons line lines ih =>
    rw [turns, List.flatMap_cons, List.map_cons, Turn.statements, Turn.typed, Turn.meaning]
    cases read : session.read line with
    | command command =>
      cases command with
      | leave => simpa using waits.symm
      | _ => simpa using ih waits
    | statements texts next =>
      simp only
      rw [ih (waits_of_read read), String.join_cons, ← String.append_assoc, ← String.append_assoc,
        read_statements read]

def closing (session : Session) (lines : List String) : Written :=
  match session.after lines with
  | some last => .out (last.prompt ++ "\n")
  | none => .out ""

theorem closing_cons (session : Session) (line : String) (lines : List String) :
    session.closing (line :: lines) =
      match session.read line with
      | .command .leave => .out ""
      | .command _ => session.closing lines
      | .statements _ next => next.closing lines := by
  rw [closing, after]
  cases session.read line with
  | command command => cases command <;> rfl
  | statements texts next => rfl

theorem turns_lines (session : Session) (lines : List String) :
    (session.turns lines).map Turn.line <+: lines ∧
      (session.after lines ≠ none → (session.turns lines).map Turn.line = lines) := by
  induction lines generalizing session with
  | nil => exact ⟨List.prefix_refl _, fun _ => rfl⟩
  | cons line lines ih =>
    rw [turns, after, List.map_cons]
    cases session.read line with
    | command command =>
      cases command with
      | leave => simp
      | _ => simpa using ih session
    | statements texts next => simpa using ih next

end Session

/-! ## What is written -/

namespace Written

theorem append_assoc (a b c : Written) : (a.append b).append c = a.append (b.append c) := by
  simp only [append, String.append_assoc]

theorem empty_append (a : Written) : (out "").append a = a := by
  simp only [append, out, String.empty_append]

end Written

theorem Shell.converse_eq (shell : Shell) (source : Source) (session : Session)
    (lines : List String) :
    shell.converse source session (lines.map .line) =
      ((session.turns lines).map (Turn.written shell source)).foldr Written.append
        (session.closing lines) := by
  induction lines generalizing session with
  | nil => rfl
  | cons line lines ih =>
    rw [List.map_cons, converse, step, Session.turns, List.map_cons, List.foldr_cons, Turn.written,
      Turn.answer, Turn.statements, Turn.meaning, Written.append_assoc, Written.append_assoc,
      Session.closing_cons]
    cases session.read line with
    | command command =>
      cases command with
      | leave => rfl
      | _ => simp only [ih session, List.map_nil, List.foldl_nil, Written.empty_append]
    | statements texts next => simp only [ih next, Written.empty_append]

/-- A session tells of a statement what the program writes that executes nothing else; where that
program crashes, the session names the crash and goes on. -/
def Shell.TellsAlone (shell : Shell) (source : Source) (text : String) : Prop :=
  let report := shell.execute source text
  match finishStatement shell (.out "") report with
  | .exit _ written => shell.tell report = written
  | .crashed crash =>
    shell.tell report = (Written.ofNotes shell.verbose report.notes).append
      (.out ("Internal error: " ++ crash.message ++ "\n"))
  | .stopped _ | .badSchema _ => False

theorem Shell.tellsAlone (shell : Shell) (source : Source) (text : String) :
    shell.TellsAlone source text := by
  unfold TellsAlone
  generalize shell.execute source text = report
  obtain ⟨notes, outcome⟩ := report
  cases outcome with
  | crashed crash => rfl
  | _ => simp [finishStatement, tell, Written.append, Written.out]

/-- A session executes the statements of the text that is typed in it, in order and each once,
however the text is broken over lines.  The lines are read in order up to the one that leaves.  A
turn writes of each statement what that statement comes to alone, whatever came before. -/
theorem Shell.converse_runs_typed (shell : Shell) (source : Source) (lines : List String) :
    let turns := Session.start.turns lines
    turns.flatMap Turn.statements =
        (splitStatements (String.join (turns.map Turn.typed))).1 ∧
      turns.map Turn.line <+: lines ∧
      (Session.start.after lines ≠ none → turns.map Turn.line = lines) ∧
      shell.converse source .start (lines.map .line) =
        (turns.map (Turn.written shell source)).foldr Written.append
          (Session.start.closing lines) ∧
      ∀ text, shell.TellsAlone source text := by
  intro turns
  refine ⟨?_, (Session.turns_lines .start lines).1, (Session.turns_lines .start lines).2,
    shell.converse_eq source .start lines, shell.tellsAlone source⟩
  have completed := Session.turns_statements Session.waits_start lines
  rwa [Session.start, String.empty_append] at completed

-- A literal goes on over two lines, and the text behind its statement is no command.
example : (Session.start.turns [".help", "SELECT 'x;", "y'; .help", ".quit;", ".quit", "SELECT a;"]
    ).flatMap Turn.statements = ["SELECT 'x;\ny'", ".help\n.quit"] := by
  decide +kernel

end LogSelect
