import LogSelect.Proofs.Token.Step

/-!
Whole scans: the tokens of a text are lexemes and the end, and a text that is laid out from lexemes
scans into their tokens.
-/

namespace LogSelect.Token

/-! ## The steps of a scan -/

theorem scanFrom_nil (pos : Position) : scanFrom pos [] = ⟨[⟨.stop, "", pos⟩], none⟩ := by
  rw [scanFrom]

theorem scanFrom_skip {c : Char} {cs : List Char} {extra : Nat} (read : step c cs = .skip extra)
    (pos : Position) :
    scanFrom pos (c :: cs) = scanFrom (pos.after (c :: cs.take extra)) (cs.drop extra) := by
  rw [scanFrom, read]

theorem scanFrom_token {c : Char} {cs : List Char} {body : Body} {extra : Nat}
    (read : step c cs = .token body extra) (pos : Position) :
    scanFrom pos (c :: cs) =
      ⟨⟨body, String.ofList (c :: cs.take extra), pos⟩ ::
          (scanFrom (pos.after (c :: cs.take extra)) (cs.drop extra)).tokens,
        (scanFrom (pos.after (c :: cs.take extra)) (cs.drop extra)).fault⟩ := by
  rw [scanFrom, read]

/-! ## The tokens of a scan -/

def signs : List Body :=
  [.op .eq, .op .lt, .op .gt, .lparen, .rparen, .comma, .star, .semicolon]

theorem mem_signs {c : Char} {body : Body} (sign : signBody? c = some body) : body ∈ signs := by
  unfold signBody? at sign
  split at sign <;> cases sign <;> decide

theorem wordBody_eq (word : List Char) :
    (∃ keyword, wordBody word = .keyword keyword) ∨ wordBody word = .name (String.ofList word) := by
  unfold wordBody
  split
  · exact .inl ⟨_, rfl⟩
  · exact .inr rfl

theorem Lexeme.ne_stop {body : Body} {cs : List Char} (lexeme : Lexeme body cs) :
    body ≠ .stop := by
  intro isStop
  cases lexeme with
  | sign sign => exact absurd (isStop ▸ mem_signs sign) (by decide)
  | word _ _ => rcases wordBody_eq _ with ⟨_, same⟩ | same <;> cases same.symm.trans isStop
  | _ => cases isStop

theorem Lexeme.ne_nil {body : Body} {cs : List Char} (lexeme : Lexeme body cs) : cs ≠ [] := by
  cases lexeme with
  | number spells =>
    cases spells with
    | whole nonempty _ _ => simp [nonempty]
    | decimal nonempty _ _ _ => simp [nonempty]
  | _ => exact List.cons_ne_nil _ _

/-- A scan without fault yields lexemes, and the end behind them. -/
theorem scanFrom_eq_lexemes {pos : Position} {cs : List Char}
    (faultless : (scanFrom pos cs).fault = none) :
    ∃ ts stop, (scanFrom pos cs).tokens = ts ++ [stop] ∧ stop.body = .stop ∧
      ∀ t ∈ ts, Lexeme t.body t.lexeme.toList := by
  fun_induction scanFrom pos cs with
  | case1 pos => exact ⟨[], _, rfl, rfl, by simp⟩
  | case2 pos c cs extra read ih => exact ih faultless
  | case3 pos c cs body extra read lexeme scan ih =>
    obtain ⟨ts, stop, split, isStop, lexemes⟩ := ih faultless
    refine ⟨⟨body, String.ofList lexeme, pos⟩ :: ts, stop, by simp [scan, split], isStop, ?_⟩
    intro t member
    rcases List.mem_cons.1 member with rfl | member
    · simpa using lexeme_of_step read
    · exact lexemes t member
  | case4 pos c cs fault read => cases faultless

/-! ## Texts laid out from lexemes -/

/-- A set of token lists, such as those that the grammar gives a meaning. -/
abbrev Part :=
  List Token → Prop

def Just (body : Body) (cs : List Char) : Part := fun ts =>
  ∃ t : Token, ts = [t] ∧ t.body = body ∧ t.lexeme = String.ofList cs

def Then (first second : Part) : Part := fun ts =>
  ∃ us vs, ts = us ++ vs ∧ first us ∧ second vs

/-- In front of any text that continues no token, `cs` scans into tokens of the part. -/
def Yields (cs : List Char) (part : Part) : Prop :=
  ∀ rest, Separated rest → ∀ pos, ∃ ts behind, part ts ∧
    scanFrom pos (cs ++ rest) = ⟨ts ++ (scanFrom behind rest).tokens, (scanFrom behind rest).fault⟩

def Separates (cs : List Char) : Prop :=
  ∀ rest, Separated rest → Separated (cs ++ rest)

theorem separates_cons {c : Char} {cs : List Char} (other : continuesToken c = false) :
    Separates (c :: cs) :=
  fun _ _ => separated_cons other

theorem Lexeme.yields {body : Body} {cs : List Char} (lexeme : Lexeme body cs) :
    Yields cs (Just body cs) := by
  obtain ⟨c, more, rfl⟩ := List.exists_cons_of_ne_nil lexeme.ne_nil
  intro rest separated pos
  refine ⟨[⟨body, String.ofList (c :: more), pos⟩], pos.after (c :: more), ⟨_, rfl, rfl, rfl⟩, ?_⟩
  rw [List.cons_append, scanFrom_token (lexeme.step_append separated), List.take_left,
    List.drop_left]
  rfl

namespace Yields

variable {cs ds : List Char} {first second part : Part}

theorem mono (yields : Yields cs first) (sub : ∀ ts, first ts → second ts) :
    Yields cs second := by
  intro rest separated pos
  obtain ⟨ts, behind, forms, scanned⟩ := yields rest separated pos
  exact ⟨ts, behind, sub ts forms, scanned⟩

theorem blank (yields : Yields cs part) : Yields (' ' :: cs) part := by
  intro rest separated pos
  have skips : step ' ' (cs ++ rest) = .skip 0 := rfl
  rw [List.cons_append, scanFrom_skip skips]
  exact yields rest separated _

theorem append (front : Yields cs first) (back : Yields ds second) (separates : Separates ds) :
    Yields (cs ++ ds) (Then first second) := by
  intro rest separated pos
  obtain ⟨us, between, forms, scanned⟩ := front (ds ++ rest) (separates rest separated) pos
  obtain ⟨vs, behind, forms', scanned'⟩ := back rest separated between
  refine ⟨us ++ vs, behind, ⟨us, vs, rfl, forms, forms'⟩, ?_⟩
  rw [List.append_assoc, scanned, scanned', List.append_assoc]

theorem scan {text : String} (yields : Yields text.toList part) :
    ∃ ts stop, part ts ∧ Token.scan text = ⟨ts ++ [stop], none⟩ ∧ stop.body = .stop := by
  obtain ⟨ts, behind, forms, scanned⟩ := yields [] separated_nil .start
  rw [List.append_nil, scanFrom_nil] at scanned
  exact ⟨ts, ⟨.stop, "", behind⟩, forms, scanned, rfl⟩

end Yields

end LogSelect.Token
