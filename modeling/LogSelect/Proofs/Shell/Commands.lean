import Mathlib.Data.List.DropRight
import LogSelect.Proofs.Shell.Conversation
import LogSelect.Proofs.Token.Step

/-!
When a line of a session is a command.

A session is compared with what has been typed in it since it last executed a statement or answered
a command.  A line that begins with a point is a command if all of that stands on the line of the
statement and is empty: blanks, and semicolons that end nothing.  A line typed below, even a blank
one, is kept as the beginning of a statement, and the lines behind it are added to it.
-/

namespace LogSelect

/-! ## The text behind the last statement -/

def IsIdle (cs : List Char) : Prop :=
  ∀ c ∈ cs, isBlank c = true ∨ c = ';'

def remainder (cs : List Char) : List Char :=
  (splitFrom none [] cs).2

def rejoin (pieces : List (List Char)) (last : List Char) : List Char :=
  pieces.flatMap (· ++ [';']) ++ last

/-- The text behind the last statement in a text: the pieces in it are blank. -/
def behindLast (cs : List Char) : List Char :=
  rejoin ((splitFrom none [] cs).1.rtakeWhile (·.all isBlank)) (remainder cs)

theorem rejoin_splitFrom (quote : Option Char) (piece cs : List Char) :
    rejoin (splitFrom quote piece cs).1 (splitFrom quote piece cs).2 = piece.reverse ++ cs := by
  induction quote, cs using splitFrom_induction generalizing piece with
  | stop quote cs stops => rw [stops]; rfl
  | ends rest ih =>
    have behind := ih []
    simp only [rejoin, List.reverse_nil, List.nil_append] at behind
    simp [rejoin, splitFrom_end, behind]
  | reads quote taken quote' rest step ih =>
    rw [step, ih, List.reverse_append, List.reverse_reverse, List.append_assoc]

/-- The text behind the last statement stands at the end of the text. -/
theorem behindLast_suffix (cs : List Char) : behindLast cs <:+ cs := by
  have whole := rejoin_splitFrom none [] cs
  obtain ⟨front, split⟩ := List.rtakeWhile_suffix (·.all isBlank) (splitFrom none [] cs).1
  refine ⟨front.flatMap (· ++ [';']), ?_⟩
  rw [← split] at whole
  simpa [behindLast, rejoin, remainder] using whole

theorem AllBlank.isIdle {cs : List Char} (blank : AllBlank cs) : IsIdle cs :=
  fun c member => .inl (blank c member)

theorem IsIdle.allBlank {cs : List Char} (idle : IsIdle cs)
    (noEnd : (splitFrom none [] cs).1 = []) : AllBlank cs := by
  intro c member
  refine (idle c member).resolve_right ?_
  rintro rfl
  obtain ⟨front, rest, split, first⟩ := List.eq_append_cons_of_mem member
  have blank : AllBlank front := by
    intro d inside
    refine (idle d (split ▸ List.mem_append_left _ inside)).resolve_right ?_
    rintro rfl
    exact first inside
  rw [split, reads_blank blank, splitFrom_end] at noEnd
  cases noEnd

/-! ## Remainders -/

theorem remainder_append (cs more : List Char) :
    remainder (cs ++ more) = remainder (remainder cs ++ more) := by
  rw [remainder, splitFrom_append]
  rfl

theorem splitFrom_remainder (cs : List Char) : (splitFrom none [] (remainder cs)).1 = [] := by
  have again := congrArg Prod.fst (splitFrom_append cs [])
  simpa [remainder] using again

section Blank

variable {pieces : List (List Char)} {front : List Char}

theorem allBlank_of_mem_rtakeWhile {piece : List Char}
    (member : piece ∈ pieces.rtakeWhile (·.all isBlank)) : AllBlank piece := by
  have blank := List.mem_rtakeWhile_imp member
  exact List.all_eq_true.1 blank

theorem isIdle_rejoin (blank : ∀ piece ∈ pieces, AllBlank piece) (last : List Char) :
    IsIdle (rejoin pieces last) ↔ IsIdle last := by
  have front : IsIdle (pieces.flatMap (· ++ [';'])) := by
    intro c member
    obtain ⟨piece, isPiece, inside⟩ := List.mem_flatMap.1 member
    rcases List.mem_append.1 inside with inside | isEnd
    · exact .inl (blank piece isPiece c inside)
    · exact .inr (List.mem_singleton.1 isEnd)
  rw [rejoin, IsIdle, List.forall_mem_append]
  exact and_iff_right front

theorem remainder_rejoin (blank : ∀ piece ∈ pieces, AllBlank piece) (last more : List Char) :
    remainder (rejoin pieces last ++ more) = remainder (last ++ more) := by
  induction pieces with
  | nil => rfl
  | cons piece pieces ih =>
    obtain ⟨first, others⟩ := List.forall_mem_cons.1 blank
    have split : rejoin (piece :: pieces) last ++ more =
        piece ++ ';' :: (rejoin pieces last ++ more) := by
      simp [rejoin]
    rw [split, remainder, reads_blank first, splitFrom_end]
    exact ih others

theorem allBlank_remainder_append (blank : AllBlank front) (more : List Char) :
    AllBlank (remainder (front ++ more)) ↔ AllBlank (remainder more) := by
  rw [remainder, remainder, reads_blank blank, List.append_nil, ← List.nil_append front.reverse,
    splitFrom_behind]
  cases splitFrom none [] more with
  | mk pieces last =>
    cases pieces with
    | nil =>
      rw [extendFirst, AllBlank, List.forall_mem_append]
      exact and_iff_right blank
    | cons piece pieces => rfl

end Blank

theorem isIdle_behindLast (cs : List Char) :
    IsIdle (behindLast cs) ↔ AllBlank (remainder cs) := by
  rw [behindLast, isIdle_rejoin fun piece member => allBlank_of_mem_rtakeWhile member]
  exact ⟨fun idle => idle.allBlank (splitFrom_remainder cs), AllBlank.isIdle⟩

theorem remainder_behindLast (cs more : List Char) :
    remainder (behindLast cs ++ more) = remainder (cs ++ more) := by
  rw [behindLast, remainder_rejoin fun piece member => allBlank_of_mem_rtakeWhile member,
    ← remainder_append]

/-! ## What has been typed -/

/-- What has been typed in a session since a statement was executed or a command answered, or the
text was forgotten: what stands behind the statement on its line, and the lines below. -/
structure Since where
  behind : List Char
  lines : List String

namespace Since

def nothing : Since :=
  ⟨[], []⟩

def text (since : Since) : List Char :=
  since.behind ++ since.lines.flatMap fun line => line.toList ++ ['\n']

def after (since : Since) (session : Session) : Input → Since
  | .interrupt => nothing
  | .line line =>
    match session.read line with
    | .command _ => nothing
    | .statements [] _ => ⟨since.behind, since.lines ++ [line]⟩
    | .statements (_ :: _) _ => ⟨behindLast (since.text ++ (line.toList ++ ['\n'])), []⟩

/-- Nothing has been begun, and no line has been typed. -/
def IsFresh (since : Since) : Prop :=
  since.lines = [] ∧ IsIdle since.behind

theorem text_append (since : Since) (line : String) :
    (Since.mk since.behind (since.lines ++ [line])).text =
      since.text ++ (line.toList ++ ['\n']) := by
  simp [text]

end Since

namespace Shell

inductive Reached (shell : Shell) (source : Source) : Session → Since → Prop where
  | start : Reached shell source .start .nothing
  | next {session since input written next} : Reached shell source session since →
      shell.step source session input = (written, some next) →
      Reached shell source next (since.after session input)

end Shell

namespace Session

variable {session next : Session} {since : Since} {line : String} {command : Command}

theorem read_of_empty (empty : session.pending = "")
    (isCommand : Command.ofLine? line = some command) : session.read line = .command command := by
  simp [Session.read, empty, isCommand]

theorem read_of_pending (waits : session.pending ≠ "") (line : String) :
    ∃ texts next, session.read line = .statements texts next := by
  have notEmpty : ¬ session.pending.isEmpty = true := mt String.isEmpty_iff.1 waits
  unfold Session.read
  rw [if_neg notEmpty]
  dsimp only
  split
  · exact ⟨_, _, rfl⟩
  · exact ⟨_, _, rfl⟩

theorem pending_of_command (read : session.read line = .command command) :
    session.pending = "" := by
  by_contra waits
  obtain ⟨texts, next, isText⟩ := read_of_pending waits line
  cases read.symm.trans isText

/-- What waits in a session and what has been typed: the remainders of both are blank alike,
whatever is typed behind them, and nothing waits just if nothing has been begun. -/
structure Keeps (session : Session) (since : Since) : Prop where
  remains (more : List Char) :
    AllBlank (remainder (since.text ++ more)) ↔
      AllBlank (remainder (session.pending.toList ++ more))
  empty : session.pending = "" ↔ since.IsFresh

theorem keeps_start : start.Keeps .nothing where
  remains more := Iff.rfl
  empty := by simp [start, Since.nothing, Since.IsFresh, IsIdle]

theorem Keeps.wait (keeps : session.Keeps since) (line : String) :
    Keeps ⟨session.pending ++ line ++ "\n"⟩ ⟨since.behind, since.lines ++ [line]⟩ where
  remains more := by
    have same := keeps.remains (line.toList ++ ['\n'] ++ more)
    rw [Since.text_append]
    simpa [String.toList_append, List.append_assoc] using same
  empty := by simp [Since.IsFresh]

/-- A line that completes no statement waits with the text in front of it.  One that completes
statements leaves their remainder, or nothing if that is blank. -/
theorem next_of_read {texts : List String} (read : session.read line = .statements texts next) :
    let rest := remainder (session.pending.toList ++ (line.toList ++ ['\n']))
    texts = [] ∧ next = ⟨session.pending ++ line ++ "\n"⟩ ∨
      texts ≠ [] ∧
        (AllBlank rest ∧ next = start ∨ ¬ AllBlank rest ∧ next = ⟨String.ofList rest⟩) := by
  intro rest
  have split : (splitStatements (session.pending ++ line ++ "\n")).2 = String.ofList rest := by
    simp [splitStatements_eq, rest, remainder]
  have blank : isBlankText (String.ofList rest) = true ↔ AllBlank rest := by
    rw [isBlankText_iff, String.toList_ofList]
  unfold Session.read at read
  split at read
  · cases read
  · dsimp only at read
    rw [split] at read
    split at read
    next none =>
      cases read
      exact .inl ⟨rfl, rfl⟩
    next completes =>
      cases read
      refine .inr ⟨mt List.isEmpty_iff.2 completes, ?_⟩
      split
      next isBlank => exact .inl ⟨blank.1 isBlank, rfl⟩
      next notBlank => exact .inr ⟨mt blank.2 notBlank, rfl⟩

theorem Keeps.execute (keeps : session.Keeps since) {texts : List String} (completes : texts ≠ [])
    (read : session.read line = .statements texts next) :
    next.Keeps ⟨behindLast (since.text ++ (line.toList ++ ['\n'])), []⟩ := by
  obtain ⟨-, left⟩ := (next_of_read read).resolve_left fun none => completes none.1
  generalize line.toList ++ ['\n'] = cs at left ⊢
  have fresh : (Since.mk (behindLast (since.text ++ cs)) []).IsFresh ↔
      AllBlank (remainder (session.pending.toList ++ cs)) := by
    rw [← keeps.remains cs, ← isIdle_behindLast, Since.IsFresh]
    exact and_iff_right rfl
  have resumes (more : List Char) :
      AllBlank (remainder ((Since.mk (behindLast (since.text ++ cs)) []).text ++ more)) ↔
        AllBlank (remainder (remainder (session.pending.toList ++ cs) ++ more)) := by
    rw [Since.text, List.flatMap_nil, List.append_nil, remainder_behindLast, List.append_assoc,
      keeps.remains, ← List.append_assoc, remainder_append]
  rcases left with ⟨blank, rfl⟩ | ⟨notBlank, rfl⟩
  · refine ⟨fun more => ?_, iff_of_true rfl (fresh.2 blank)⟩
    rw [resumes, allBlank_remainder_append blank]
    rfl
  · refine ⟨fun more => ?_, ?_⟩
    · rw [resumes, String.toList_ofList]
    · rw [fresh]
      refine iff_of_false ?_ notBlank
      intro empty
      rw [String.ofList_eq_empty_iff] at empty
      exact notBlank fun c member => absurd (empty ▸ member) List.not_mem_nil

end Session

/-! ## Commands -/

structure IsFirstWord (line : String) (word : List Char) : Prop where
  solid : ∀ c ∈ word, isBlank c = false
  split : ∃ front rest, line.toList = front ++ (word ++ rest) ∧ AllBlank front ∧
    ∀ c ∈ rest.head?, isBlank c = true

theorem IsFirstWord.ofLine? {line : String} {more : List Char}
    (first : IsFirstWord line ('.' :: more)) :
    Command.ofLine? line =
      some (Command.ofName (lowerText (String.ofList ('.' :: more)))) := by
  obtain ⟨front, rest, split, blank, stop⟩ := first.split
  obtain ⟨back, restSplit, -⟩ := exists_dropRightWhile isBlank rest
  have point : ∀ c ∈ ('.' :: more ++ rest).head?, isBlank c = false := by
    rintro c ⟨⟩
    exact first.solid '.' List.mem_cons_self
  have last : ∀ c ∈ ('.' :: more).getLast?, isBlank c = false :=
    fun c back => first.solid c (List.mem_of_getLast? back)
  have stripped : strip line.toList = '.' :: (more ++ dropRightWhile isBlank rest) := by
    rw [split, strip_append blank, strip, dropWhile_eq_self point,
      dropRightWhile_append_of_last last]
    rfl
  have word : (more ++ dropRightWhile isBlank rest).takeWhile (!isBlank ·) = more := by
    apply takeWhile_append
    · intro c member
      simp [first.solid c (List.mem_cons_of_mem _ member)]
    · intro c isHead
      have front : rest.head? = some c := by
        rw [restSplit, List.head?_append, isHead]
        rfl
      simp [stop c front]
  rw [Command.ofLine?, stripped]
  simp only [word]

namespace Shell

variable {shell : Shell} {source : Source} {session next : Session} {since : Since} {input : Input}
  {written : Written}

theorem next_of_step (step : shell.step source session input = (written, some next)) :
    (input = .interrupt ∧ next = .start) ∨
      (∃ line command, input = .line line ∧ session.read line = .command command ∧
        next = session) ∨
      ∃ line texts, input = .line line ∧ session.read line = .statements texts next := by
  cases input with
  | interrupt =>
    cases step
    exact .inl ⟨rfl, rfl⟩
  | line line =>
    rw [Shell.step] at step
    refine .inr ?_
    split at step
    · cases step
    next command _ read =>
      cases step
      exact .inl ⟨line, command, rfl, read, rfl⟩
    next texts _ read =>
      cases step
      exact .inr ⟨line, texts, rfl, read⟩

theorem keeps_step (keeps : session.Keeps since)
    (step : shell.step source session input = (written, some next)) :
    next.Keeps (since.after session input) := by
  rcases next_of_step step with ⟨rfl, rfl⟩ | ⟨line, command, rfl, read, same⟩ |
    ⟨line, texts, rfl, read⟩
  · exact Session.keeps_start
  · have empty : next = .start := by
      rw [same]
      exact congrArg Session.mk (Session.pending_of_command read)
    simp only [Since.after, read, empty]
    exact Session.keeps_start
  · simp only [Since.after, read]
    cases texts with
    | nil =>
      obtain ⟨-, rfl⟩ := (Session.next_of_read read).resolve_right fun some => some.1 rfl
      exact keeps.wait line
    | cons text texts => exact keeps.execute (List.cons_ne_nil _ _) read

theorem Reached.keeps (reached : Reached shell source session since) : session.Keeps since := by
  -- Induction on the inputs: each of them keeps what waits and what was typed in step.
  induction reached with
  | start => exact Session.keeps_start
  | next _ step ih => exact keeps_step ih step

inductive Answered (shell : Shell) (session : Session) :
    String → Written × Option Session → Prop where
  | leave {name} : name = ".exit" ∨ name = ".quit" → Answered shell session name (.out "", none)
  | help : Answered shell session ".help" (.out (Command.help.answer []), some session)
  | columns : Answered shell session ".columns"
      (.out (Command.columns.answer shell.setting.schema.columns), some session)
  | unknown {name} : name ∉ [".exit", ".quit", ".help", ".columns"] →
      Answered shell session name
        (.out ("Unknown command: " ++ name ++ ". Type .help\n"), some session)

theorem answered_of_command {line name : String}
    (read : session.read line = .command (Command.ofName name)) :
    Answered shell session name (shell.step source session (.line line)) := by
  rw [Shell.step, read]
  by_cases leaves : name = ".exit" ∨ name = ".quit"
  · rw [Command.ofName, if_pos leaves]
    exact .leave leaves
  · rw [Command.ofName, if_neg leaves]
    by_cases isHelp : name = ".help"
    · rw [if_pos isHelp, isHelp]
      exact .help
    · rw [if_neg isHelp]
      by_cases isColumns : name = ".columns"
      · rw [if_pos isColumns, isColumns]
        exact .columns
      · rw [if_neg isColumns]
        rw [not_or] at leaves
        exact .unknown (by simp [leaves.1, leaves.2, isHelp, isColumns])

/-- In every session that can be reached, a line whose first word begins with a point is answered as
a command, and nothing is kept of it, if nothing has been begun and no line has been typed since the
last statement or command.  Otherwise the line is added to the text that waits. -/
theorem command_answered_iff (reached : Reached shell source session since) {line : String}
    {more : List Char} (first : IsFirstWord line ('.' :: more)) :
    (since.IsFresh →
      Answered shell session (lowerText (String.ofList ('.' :: more)))
        (shell.step source session (.line line))) ∧
    (¬ since.IsFresh → ∃ texts next, session.read line = .statements texts next ∧
      texts = (splitStatements (session.pending ++ line ++ "\n")).1) := by
  constructor
  · intro fresh
    have empty := reached.keeps.empty.2 fresh
    exact answered_of_command (Session.read_of_empty empty first.ofLine?)
  · intro begun
    have waits := mt reached.keeps.empty.1 begun
    obtain ⟨texts, next, read⟩ := Session.read_of_pending waits line
    exact ⟨texts, next, read, (Session.eq_of_read read).1⟩

theorem reached_of_read {line : String} {texts : List String}
    (reached : Reached shell source session since)
    (read : session.read line = .statements texts next) :
    Reached shell source next (since.after session (.line line)) := by
  have step : shell.step source session (.line line) =
      ((shell.step source session (.line line)).1, some next) := by
    rw [Shell.step, read]
  exact reached.next step

theorem next_of_answered {name : String} {result : Written × Option Session}
    (answered : Answered shell session name result) :
    result.2 = none ∨ result.2 = some session := by
  cases answered with
  | leave _ => exact .inl rfl
  | help | columns | unknown _ => exact .inr rfl

theorem exists_schema :
    ∃ schema, Schema.build "(?P<a>.*)" [⟨"a", false, .string⟩] ".*" .null = .ok schema := by
  have accepted : (Schema.build "(?P<a>.*)" [⟨"a", false, .string⟩] ".*" .null).toBool = true := by
    decide +kernel
  cases built : Schema.build "(?P<a>.*)" [⟨"a", false, .string⟩] ".*" .null with
  | error e =>
    rw [built] at accepted
    cases accepted
  | ok schema => exact ⟨schema, rfl⟩

/-- A command in capitals, behind a statement and an empty one. -/
theorem command_answered_iff_help :
    ∃ schema, Schema.build "(?P<a>.*)" [⟨"a", false, .string⟩] ".*" .null = .ok schema ∧
      let shell : Shell := ⟨⟨schema, .exact, .table⟩, some (.ofText "log"), false⟩
      Reached shell (.ok (.file [])) .start ⟨[' ', ';', '\n'], []⟩ ∧
        IsFirstWord "\t.HELP me" ".HELP".toList ∧ (Since.mk [' ', ';', '\n'] []).IsFresh ∧
        Answered shell .start ".help"
          (shell.step (.ok (.file [])) .start (.line "\t.HELP me")) := by
  obtain ⟨schema, built⟩ := exists_schema
  refine ⟨schema, built, ?_⟩
  intro shell
  have executes : Session.start.read "a; ;" = .statements ["a"] .start := by decide +kernel
  have reached : Reached shell (.ok (.file [])) .start ⟨[' ', ';', '\n'], []⟩ := by
    have next := reached_of_read (@Reached.start shell (.ok (.file []))) executes
    have behind : behindLast ("a; ;".toList ++ ['\n']) = [' ', ';', '\n'] := by decide +kernel
    simp only [Since.after, executes] at next
    exact behind ▸ next
  have tab : isBlank '\t' = true := by decide +kernel
  have space : isBlank ' ' = true := by decide +kernel
  have feed : isBlank '\n' = true := by decide +kernel
  have solid : ".HELP".toList.all (!isBlank ·) = true := by decide +kernel
  have first : IsFirstWord "\t.HELP me" ".HELP".toList :=
    ⟨by simpa using solid, ['\t'], [' ', 'm', 'e'], rfl, by simp [AllBlank, tab], by simp [space]⟩
  have fresh : (Since.mk [' ', ';', '\n'] []).IsFresh := by
    simp [Since.IsFresh, IsIdle, space, feed]
  have name : lowerText (String.ofList ".HELP".toList) = ".help" := by decide +kernel
  exact ⟨reached, first, fresh, name ▸ (command_answered_iff reached first).1 fresh⟩

/-- Behind a blank line `.exit` does not leave the session. -/
theorem command_not_answered :
    ∃ schema, Schema.build "(?P<a>.*)" [⟨"a", false, .string⟩] ".*" .null = .ok schema ∧
      let shell : Shell := ⟨⟨schema, .exact, .table⟩, some (.ofText "log"), false⟩
      Reached shell (.ok (.file [])) ⟨"\n"⟩ ⟨[], [""]⟩ ∧ IsIdle (Since.mk [] [""]).text ∧
        IsFirstWord ".exit" ".exit".toList ∧
        ¬ Answered shell ⟨"\n"⟩ ".exit" (shell.step (.ok (.file [])) ⟨"\n"⟩ (.line ".exit")) := by
  obtain ⟨schema, built⟩ := exists_schema
  refine ⟨schema, built, ?_⟩
  intro shell
  have waits : Session.start.read "" = .statements [] ⟨"\n"⟩ := by decide +kernel
  have added : Session.read ⟨"\n"⟩ ".exit" = .statements [] ⟨"\n.exit\n"⟩ := by decide +kernel
  have feed : isBlank '\n' = true := by decide +kernel
  have solid : ".exit".toList.all (!isBlank ·) = true := by decide +kernel
  refine ⟨?_, ?_, ⟨by simpa using solid, [], [], rfl, nofun, nofun⟩, ?_⟩
  · have reached := reached_of_read (@Reached.start shell (.ok (.file []))) waits
    simp only [Since.after, waits] at reached
    exact reached
  · simp [IsIdle, Since.text, feed]
  · intro answered
    have next := next_of_answered answered
    simp [Shell.step, added] at next

end Shell

end LogSelect
