import LogSelect.Proofs.Query.RoundTrip
import LogSelect.Proofs.Statements.Agreement

/-!
Rendered queries are statements.

A rendered query is laid out from lexemes, of which none is a semicolon, with at most one blank
between two of them.  Reading such a text ends no piece and leaves no quote open, and no blank
stands at its ends.  So the split gives rendered queries back one by one, whatever blanks stand
between them.
-/

namespace LogSelect

open Token

/-! ## The ends of a lexeme -/

namespace Token

theorem isBlank_of_continuesToken {c : Char} (continues : continuesToken c = true) :
    isBlank c = false := by
  cases blank : isBlank c with
  | false => rfl
  | true => exact absurd continues (Bool.eq_false_iff.1 (continuesToken_of_isBlank blank))

theorem continuesToken_of_continuesWord {c : Char} (continues : continuesWord c = true) :
    continuesToken c = true := by
  simp [continuesToken, continues]

theorem continuesToken_of_isAsciiDigit {c : Char} (digit : isAsciiDigit c = true) :
    continuesToken c = true := by
  simp [continuesToken, digit]

theorem Lexeme.isBlank_first {body : Body} {c : Char} {more : List Char}
    (lexeme : Lexeme body (c :: more)) : isBlank c = false := by
  have read := lexeme.step_append separated_nil
  cases blank : isBlank c with
  | false => rfl
  | true =>
    rw [step, if_pos blank] at read
    cases read

theorem NumberText.continuesToken_last {cs : List Char} {n : Number} (spells : NumberText cs n) :
    ∀ c ∈ cs.getLast?, continuesToken c = true := by
  intro c back
  cases spells with
  | whole nonempty all _ =>
    rw [List.getLast?_append_of_ne_nil _ nonempty] at back
    exact continuesToken_of_isAsciiDigit (all c (List.mem_of_mem_getLast? back))
  | decimal _ nonempty _ all =>
    rw [List.getLast?_append_of_ne_nil _ (by simp), List.getLast?_append_of_ne_nil _ (by simp),
      List.getLast?_cons_of_ne_nil nonempty] at back
    exact continuesToken_of_isAsciiDigit (all c (List.mem_of_mem_getLast? back))

theorem Lexeme.isBlank_last {body : Body} {cs : List Char} (lexeme : Lexeme body cs) :
    ∀ c ∈ cs.getLast?, isBlank c = false := by
  intro c back
  cases lexeme with
  | @pair _ d _ pair =>
    obtain rfl : d = c := Option.some.inj back
    rcases eq_of_pairOp? pair with rfl | rfl <;> decide
  | sign sign =>
    cases back
    exact (Lexeme.sign sign).isBlank_first
  | text isQuote _ =>
    rw [← List.cons_append, List.getLast?_concat] at back
    cases back
    rcases isQuote with rfl | rfl <;> decide
  | number spells => exact isBlank_of_continuesToken (spells.continuesToken_last c back)
  | quoted _ _ =>
    rw [← List.cons_append, List.getLast?_concat] at back
    cases back
    decide
  | word starts all =>
    rcases List.mem_cons.1 (List.mem_of_mem_getLast? back) with rfl | member
    · exact isBlank_of_startsWord starts
    · exact isBlank_of_continuesToken (continuesToken_of_continuesWord (all c member))

end Token

/-! ## Texts laid out from lexemes -/

/-- Texts of lexemes with at most one blank between two of them. -/
inductive LaidOut : List Char → Prop where
  | lexeme {body cs} : Lexeme body cs → body ≠ .semicolon → LaidOut cs
  | append {cs ds} : LaidOut cs → LaidOut ds → LaidOut (cs ++ ds)
  | spaced {cs ds} : LaidOut cs → LaidOut ds → LaidOut (cs ++ ' ' :: ds)

namespace LaidOut

variable {cs ds : List Char}

theorem ne_nil (laid : LaidOut cs) : cs ≠ [] := by
  induction laid with
  | lexeme lexeme _ => exact lexeme.ne_nil
  | append _ _ ih _ | spaced _ _ ih _ => exact List.append_ne_nil_of_left_ne_nil ih _

theorem reads (laid : LaidOut cs) : Reads none cs none := by
  induction laid with
  | lexeme lexeme noEnd => exact lexeme.reads noEnd
  | append _ _ first second => exact first.append second
  | spaced _ _ first second =>
    have blank : Reads none [' '] none := reads_plain (by decide) (by decide)
    exact first.append (blank.cons second)

theorem isBlank_head (laid : LaidOut cs) : ∀ c ∈ cs.head?, isBlank c = false := by
  induction laid with
  | lexeme lexeme _ =>
    obtain ⟨c, more, rfl⟩ := List.exists_cons_of_ne_nil lexeme.ne_nil
    rintro _ ⟨⟩
    exact lexeme.isBlank_first
  | append front _ ih _ | spaced front _ ih _ =>
    rw [List.head?_append_of_ne_nil _ front.ne_nil]
    exact ih

theorem isBlank_last (laid : LaidOut cs) : ∀ c ∈ cs.getLast?, isBlank c = false := by
  induction laid with
  | lexeme lexeme _ => exact lexeme.isBlank_last
  | append _ back _ ih =>
    rw [List.getLast?_append_of_ne_nil _ back.ne_nil]
    exact ih
  | spaced _ back _ ih =>
    rw [List.getLast?_append_of_ne_nil _ (List.cons_ne_nil _ _),
      List.getLast?_cons_of_ne_nil back.ne_nil]
    exact ih

theorem strip_eq (laid : LaidOut cs) : strip cs = cs :=
  strip_eq_self laid.isBlank_head laid.isBlank_last

theorem keyword (keyword : Keyword) (laid : LaidOut cs) :
    LaidOut (keyword.spelling.toList ++ ' ' :: cs) :=
  .spaced (.lexeme keyword.lexeme (by simp)) laid

theorem bracketed (laid : LaidOut cs) : LaidOut ('(' :: (cs ++ [')'])) := by
  have front : LaidOut ['('] := .lexeme (.sign rfl) (by simp)
  have back : LaidOut [')'] := .lexeme (.sign rfl) (by simp)
  exact front.append (laid.append back)

theorem intercalate {separator : String} {texts : List String}
    (joins : ∀ {cs ds}, LaidOut cs → LaidOut ds → LaidOut (cs ++ (separator.toList ++ ds)))
    (nonempty : texts ≠ []) (each : ∀ text ∈ texts, LaidOut text.toList) :
    LaidOut (separator.intercalate texts).toList := by
  induction texts with
  | nil => exact absurd rfl nonempty
  | cons text texts ih =>
    obtain ⟨first, others⟩ := List.forall_mem_cons.1 each
    cases texts with
    | nil => rwa [String.intercalate_singleton]
    | cons next texts =>
      rw [String.intercalate_cons_cons, String.toList_append, String.toList_append,
        List.append_assoc]
      exact joins first (ih (List.cons_ne_nil next texts) others)

theorem list {α : Type} {render : α → String} {as : List α} (nonempty : as ≠ [])
    (each : ∀ a ∈ as, LaidOut (render a).toList) :
    LaidOut (", ".intercalate (as.map render)).toList := by
  apply intercalate
  · intro cs ds front back
    have comma : LaidOut [','] := .lexeme (.sign rfl) (by simp)
    simpa using (front.append comma).spaced back
  · simpa using nonempty
  · simpa using each

end LaidOut

/-! ## Rendered queries -/

namespace Term

theorem laidOut_operand {a : Term} (renderable : a.IsRenderableOperand) :
    LaidOut a.render.toList := by
  cases a with
  | column name => exact .lexeme (lexeme_renderName renderable) (by simp)
  | literal value spelling =>
    cases value with
    | missing => exact renderable.elim
    | text s =>
      obtain rfl : spelling = String.ofList (quoteText s.toList) := renderable
      rw [render, String.toList_ofList]
      exact .lexeme (lexeme_quoteText s) (by simp)
    | number n => exact .lexeme (.number renderable) (by simp)
  | _ => exact renderable.elim

theorem laidOut_bracket {text : String} (needed : Bool) (laid : LaidOut text.toList) :
    LaidOut (bracket needed text).toList := by
  cases needed with
  | false => exact laid
  | true => simpa [bracket] using laid.bracketed

theorem laidOut_render {p : Term} (renderable : p.IsRenderablePredicate) :
    LaidOut p.render.toList := by
  induction p with
  | column _ | literal _ _ | wildcard => exact renderable.elim
  | compare left op right _ _ =>
    have front := (laidOut_operand renderable.1).spaced (.lexeme op.lexeme (by simp))
    simpa [render] using front.spaced (laidOut_operand renderable.2)
  | and left right ihLeft ihRight =>
    have back := laidOut_bracket right.isJunction (ihRight renderable.2)
    simpa [render, Keyword.spelling] using
      (laidOut_bracket left.isOr (ihLeft renderable.1)).spaced (back.keyword .conj)
  | or left right ihLeft ihRight =>
    have back := laidOut_bracket right.isOr (ihRight renderable.2)
    simpa [render, Keyword.spelling] using (ihLeft renderable.1).spaced (back.keyword .disj)
  | not operand ih =>
    simpa [render, Keyword.spelling] using
      (laidOut_bracket operand.isJunction (ih renderable)).keyword .neg

end Term

theorem SelectItem.laidOut_render {item : SelectItem} (renderable : item.IsRenderable) :
    LaidOut item.render.toList := by
  obtain ⟨term, label⟩ := item
  obtain ⟨operand, quotable⟩ := renderable
  cases label with
  | none => exact Term.laidOut_operand operand
  | some label =>
    have name : LaidOut (renderName label).toList :=
      .lexeme (lexeme_renderName (quotable label rfl)) (by simp)
    simpa [render, Keyword.spelling] using
      (Term.laidOut_operand operand).spaced (name.keyword .label)

theorem OrderItem.laidOut_render {key : OrderItem} (renderable : key.IsRenderable) :
    LaidOut key.render.toList := by
  obtain ⟨term, direction⟩ := key
  have word : LaidOut direction.spelling.toList := by
    cases direction with
    | ascending => exact .lexeme (Keyword.lexeme .ascending) (by simp)
    | descending => exact .lexeme (Keyword.lexeme .descending) (by simp)
  simpa [render] using (Term.laidOut_operand renderable).spaced word

namespace Query

theorem laidOut_select {items : List SelectItem} (renderable : items = [⟨.wildcard, none⟩] ∨
      items ≠ [] ∧ ∀ item ∈ items, item.IsRenderable) :
    LaidOut (", ".intercalate (items.map SelectItem.render)).toList := by
  rcases renderable with rfl | ⟨nonempty, each⟩
  · exact .lexeme (.sign (c := '*') rfl) (by simp)
  · exact .list nonempty fun item member => SelectItem.laidOut_render (each item member)

theorem laidOut_count {n : Int} (isCount : IsCount n) : LaidOut (toString n).toList :=
  .lexeme (lexeme_count isCount) (by simp)

theorem laidOut_render {query : Query} (renderable : query.IsRenderable) :
    LaidOut query.render.toList := by
  apply LaidOut.intercalate
  · exact fun front back => front.spaced back
  · simp
  · intro clause member
    simp only [List.mem_append, List.mem_singleton, Option.mem_toList, Option.map_eq_some_iff]
      at member
    rcases member with (((rfl | ⟨p, isFilter, rfl⟩) | isOrder) | ⟨n, isLimit, rfl⟩) |
      ⟨n, isOffset, rfl⟩
    · rw [String.toList_append]
      exact (laidOut_select renderable.select).keyword .select
    · rw [String.toList_append]
      exact (Term.laidOut_render (renderable.filter p isFilter)).keyword .filter
    · split at isOrder
      · cases isOrder
      next some =>
        rw [List.mem_singleton.1 isOrder, String.toList_append]
        have keys : LaidOut (", ".intercalate (query.order.map OrderItem.render)).toList :=
          .list (mt List.isEmpty_iff.2 some) fun key member =>
            OrderItem.laidOut_render (renderable.order key member)
        exact (keys.keyword .key).keyword .order
    · rw [String.toList_append]
      exact (laidOut_count (renderable.limit n isLimit)).keyword .limit
    · rw [String.toList_append]
      exact (laidOut_count (renderable.offset n isOffset)).keyword .offset

end Query

/-! ## Rendered queries in a row -/

theorem splitStatements_cons {gap text : String} (blank : isBlankText gap = true)
    (laid : LaidOut text.toList) (more : String) :
    splitStatements (gap ++ text ++ ";" ++ more) =
      (text :: (splitStatements more).1, (splitStatements more).2) := by
  have blanks : ∀ c ∈ gap.toList, isBlank c = true := List.all_eq_true.1 blank
  have layout : (gap ++ text ++ ";" ++ more).toList =
      (gap.toList ++ text.toList) ++ ';' :: more.toList := by
    simp
  have stripped : strip (gap.toList ++ text.toList) = text.toList := by
    rw [strip_append blanks, laid.strip_eq]
  rw [splitStatements_eq, layout, (reads_blank blanks).append laid.reads, splitFrom_end,
    List.append_nil, List.reverse_reverse, splitStatements_eq]
  simp [statementTexts, stripped, laid.ne_nil]

theorem splitStatements_blank {last : String} (blank : isBlankText last = true) :
    splitStatements last = ([], last) := by
  have read := reads_blank (List.all_eq_true.1 blank) [] []
  rw [List.append_nil] at read
  rw [splitStatements_eq, read]
  simp [splitFrom, statementTexts]

/-- Queries that are read from texts are the statements of their renderings in a row, whatever
blanks stand between these, and each is read back from its statement. -/
theorem Query.splitStatements_rendered (parts : List (String × Query)) (last : String)
    (blank : ∀ part ∈ parts, isBlankText part.1 = true) (blankLast : isBlankText last = true)
    (isRead : ∀ part ∈ parts, ∃ text, ofText text = .ok part.2) :
    let buffer := String.join (parts.map fun part => part.1 ++ part.2.render ++ ";") ++ last
    splitStatements buffer = (parts.map fun part => part.2.render, last) ∧
      (splitStatements buffer).1.map ofText = parts.map fun part => .ok part.2 := by
  intro buffer
  have split : splitStatements buffer = (parts.map fun part => part.2.render, last) := by
    unfold buffer
    induction parts with
    | nil => simpa using splitStatements_blank blankLast
    | cons part parts ih =>
      obtain ⟨blankFirst, blank⟩ := List.forall_mem_cons.1 blank
      obtain ⟨⟨text, first⟩, isRead⟩ := List.forall_mem_cons.1 isRead
      have laid := laidOut_render (isRenderable_of_ofText first)
      rw [List.map_cons, String.join_cons, String.append_assoc,
        splitStatements_cons blankFirst laid, ih blank isRead]
      rfl
  refine ⟨split, ?_⟩
  rw [split, List.map_map]
  apply List.map_congr_left
  intro part member
  obtain ⟨text, read⟩ := isRead part member
  exact ofText_render (isRenderable_of_ofText read)

/-- Semicolons and quotes in a name and in a text constant, which also holds a backslash and a line
end. -/
theorem Query.splitStatements_rendered_quoted :
    let quoted : Query :=
      ⟨[⟨.column "a;'b", none⟩], some (.compare (.ofText "it's;\\\n") .eq (.column "x")), [], none,
        none⟩
    let all : Query := ⟨[⟨.wildcard, none⟩], none, [⟨.column "b", .ascending⟩], none, none⟩
    let buffer := "SELECT \x60a;'b\x60 WHERE 'it''s;\\\\\\n' = x;\n\tSELECT * ORDER BY b ASC; "
    splitStatements buffer = ([quoted.render, all.render], " ") ∧
      (splitStatements buffer).1.map ofText = [.ok quoted, .ok all] := by
  intro quoted all buffer
  have read : ofText "SELECT \x60a;'b\x60 WHERE \"it's;\\\\\n\" = x" = .ok quoted ∧
      ofText "select * order by b" = .ok all := by
    constructor <;> decide +kernel
  have layout : String.join ([("", quoted), ("\n\t", all)].map fun part =>
      part.1 ++ part.2.render ++ ";") ++ " " = buffer := by
    decide +kernel
  rw [← layout]
  apply splitStatements_rendered
  · simp only [List.mem_cons, List.not_mem_nil, or_false]
    rintro part (rfl | rfl) <;> decide
  · decide
  · simp only [List.mem_cons, List.not_mem_nil, or_false]
    rintro part (rfl | rfl)
    · exact ⟨_, read.1⟩
    · exact ⟨_, read.2⟩

end LogSelect
