import LogSelect.Proofs.Query.Renderable

/-!
The text of a query reads as the query.

Every part of a text yields tokens that the grammar derives the part from.  Brackets stand exactly
where the place of a predicate does not allow its rank, so the grammar gives the same tree.
-/

namespace LogSelect

open Token

namespace Query

variable {rank : Rank} {ts : List Token} {p : Term}

theorem Forms.toDisjunction (forms : Forms rank ts p) : Forms .disjunction ts p := by
  cases rank with
  | disjunction => exact forms
  | conjunction => exact .conjunction forms
  | negation => exact .conjunction (.negation forms)
  | comparison => exact .conjunction (.negation (.comparison forms))

theorem Forms.toConjunction (tight : rank ≠ .disjunction) (forms : Forms rank ts p) :
    Forms .conjunction ts p := by
  cases rank with
  | disjunction => exact absurd rfl tight
  | conjunction => exact forms
  | negation => exact .negation forms
  | comparison => exact .negation (.comparison forms)

theorem Forms.toNegation (tight : rank ≠ .disjunction) (tighter : rank ≠ .conjunction)
    (forms : Forms rank ts p) : Forms .negation ts p := by
  cases rank with
  | disjunction => exact absurd rfl tight
  | conjunction => exact absurd rfl tighter
  | negation => exact forms
  | comparison => exact .comparison forms

end Query

open Query

/-! ## Layout -/

namespace Token.Yields

variable {cs ds es : List Char} {first second : Part}

/-- An opening bracket stands for itself whatever follows it. -/
theorem opened (yields : Yields cs first) :
    Yields ('(' :: cs) (Then (Just .lparen ['(']) first) := by
  intro rest separated pos
  -- What follows may continue a token, so the general step for lexemes does not apply.
  have read : step '(' (cs ++ rest) = .token .lparen 0 := step_sign rfl (no_pair (by decide) _)
  obtain ⟨ts, behind, forms, scanned⟩ := yields rest separated (pos.after ['('])
  refine ⟨⟨.lparen, "(", pos⟩ :: ts, behind, ⟨[_], ts, rfl, ⟨_, rfl, rfl, rfl⟩, forms⟩, ?_⟩
  rw [List.cons_append, scanFrom_token read, List.take_zero, List.drop_zero, scanned]
  rfl

theorem bracketed (yields : Yields cs first) :
    Yields ('(' :: (cs ++ [')']))
      (Then (Just .lparen ['(']) (Then first (Just .rparen [')']))) :=
  (yields.append (Lexeme.sign rfl).yields (separates_cons (by decide +kernel))).opened

theorem prefixed {body : Body} (lexeme : Lexeme body ds) (back : Yields es second) :
    Yields (ds ++ ' ' :: es) (Then (Just body ds) second) :=
  lexeme.yields.append back.blank (separates_cons (by decide +kernel))

theorem joined {body : Body} (front : Yields cs first) (lexeme : Lexeme body ds)
    (back : Yields es second) :
    Yields (cs ++ ' ' :: (ds ++ ' ' :: es)) (Then first (Then (Just body ds) second)) :=
  front.append (prefixed lexeme back).blank (separates_cons (by decide +kernel))

end Token.Yields

/-! ## Terms -/

namespace Term

def rank : Term → Rank
  | .or _ _ => .disjunction
  | .and _ _ => .conjunction
  | .not _ => .negation
  | _ => .comparison

theorem yields_render_operand {a : Term} (renderable : a.IsRenderableOperand) :
    Yields a.render.toList fun ts => ∃ t, ts = [t] ∧ IsOperandToken t a := by
  cases a with
  | column name =>
    refine (lexeme_renderName renderable).yields.mono ?_
    rintro _ ⟨t, rfl, isName, _⟩
    exact ⟨t, rfl, .name isName⟩
  | literal value spelling =>
    cases value with
    | missing => exact renderable.elim
    | text s =>
      obtain rfl : spelling = String.ofList (quoteText s.toList) := renderable
      rw [render, String.toList_ofList]
      refine (lexeme_quoteText s).yields.mono ?_
      rintro _ ⟨t, rfl, isText, _⟩
      exact ⟨t, rfl, .text isText⟩
    | number n =>
      refine (Lexeme.number renderable).yields.mono ?_
      rintro _ ⟨t, rfl, isNumber, spelled⟩
      rw [String.ofList_toList] at spelled
      exact ⟨t, rfl, spelled ▸ .number isNumber⟩
  | _ => exact renderable.elim

theorem yields_bracket {p : Term} (yields : Yields p.render.toList (Forms p.rank · p)) :
    Yields ("(" ++ p.render ++ ")").toList (Forms .comparison · p) := by
  have layout : ("(" ++ p.render ++ ")").toList = '(' :: (p.render.toList ++ [')']) := by simp
  rw [layout]
  refine yields.bracketed.mono ?_
  rintro _ ⟨_, _, rfl, ⟨l, rfl, isOpen, _⟩, ts, _, rfl, forms, r, rfl, isClose, _⟩
  exact .group isOpen forms.toDisjunction isClose

theorem yields_bracket_isOr {p : Term} (yields : Yields p.render.toList (Forms p.rank · p)) :
    Yields (bracket p.isOr p.render).toList (Forms .conjunction · p) := by
  cases p with
  | or left right =>
    exact (yields_bracket yields).mono fun ts forms => .negation (.comparison forms)
  | _ => exact yields.mono fun ts forms => forms.toConjunction (by simp [rank])

theorem yields_bracket_isJunction {p : Term}
    (yields : Yields p.render.toList (Forms p.rank · p)) :
    Yields (bracket p.isJunction p.render).toList (Forms .negation · p) := by
  cases p with
  | or left right => exact (yields_bracket yields).mono fun ts forms => .comparison forms
  | and left right => exact (yields_bracket yields).mono fun ts forms => .comparison forms
  | _ => exact yields.mono fun ts forms => forms.toNegation (by simp [rank]) (by simp [rank])

/-- The text of a predicate has its rank. -/
theorem yields_render {p : Term} (renderable : p.IsRenderablePredicate) :
    Yields p.render.toList (Forms p.rank · p) := by
  induction p with
  | column _ | literal _ _ | wildcard => exact renderable.elim
  | compare left op right _ _ =>
    have layout : (compare left op right).render.toList =
        left.render.toList ++ ' ' :: (op.symbol.toList ++ ' ' :: right.render.toList) := by
      simp [render]
    rw [layout]
    refine ((yields_render_operand renderable.1).joined op.lexeme
      (yields_render_operand renderable.2)).mono ?_
    rintro _ ⟨_, _, rfl, ⟨l, rfl, isLeft⟩, _, _, rfl, ⟨o, rfl, isOp, _⟩, r, rfl, isRight⟩
    exact .compare isLeft isOp isRight
  | and left right ihLeft ihRight =>
    have layout : (and left right).render.toList =
        (bracket left.isOr left.render).toList ++ ' ' :: (Keyword.conj.spelling.toList ++
          ' ' :: (bracket right.isJunction right.render).toList) := by
      simp [render, Keyword.spelling]
    rw [layout]
    refine ((yields_bracket_isOr (ihLeft renderable.1)).joined (Keyword.lexeme .conj)
      (yields_bracket_isJunction (ihRight renderable.2))).mono ?_
    rintro _ ⟨us, _, rfl, isLeft, _, vs, rfl, ⟨t, rfl, isAnd, _⟩, isRight⟩
    exact .and isLeft isAnd isRight
  | or left right ihLeft ihRight =>
    have layout : (or left right).render.toList =
        left.render.toList ++ ' ' :: (Keyword.disj.spelling.toList ++
          ' ' :: (bracket right.isOr right.render).toList) := by
      simp [render, Keyword.spelling]
    rw [layout]
    refine ((ihLeft renderable.1).joined (Keyword.lexeme .disj)
      (yields_bracket_isOr (ihRight renderable.2))).mono ?_
    rintro _ ⟨us, _, rfl, isLeft, _, vs, rfl, ⟨t, rfl, isOr, _⟩, isRight⟩
    exact .or isLeft.toDisjunction isOr isRight
  | not operand ih =>
    have layout : (not operand).render.toList = Keyword.neg.spelling.toList ++
        ' ' :: (bracket operand.isJunction operand.render).toList := by
      simp [render, Keyword.spelling]
    rw [layout]
    refine (Yields.prefixed (Keyword.lexeme .neg)
      (yields_bracket_isJunction (ih renderable))).mono ?_
    rintro _ ⟨_, ts, rfl, ⟨t, rfl, isNot, _⟩, forms⟩
    exact .not isNot forms

end Term

/-! ## Lists of parts -/

theorem SelectItem.yields_render {item : SelectItem} (renderable : item.IsRenderable) :
    Yields item.render.toList (FormsItem · item) := by
  obtain ⟨term, label⟩ := item
  obtain ⟨operand, quotable⟩ := renderable
  cases label with
  | none =>
    refine (Term.yields_render_operand operand).mono ?_
    rintro _ ⟨t, rfl, isOperand⟩
    exact .plain isOperand
  | some label =>
    have layout : (SelectItem.mk term (some label)).render.toList = term.render.toList ++
        ' ' :: (Keyword.label.spelling.toList ++ ' ' :: (renderName label).toList) := by
      simp [render, Keyword.spelling]
    rw [layout]
    refine ((Term.yields_render_operand operand).joined (Keyword.lexeme .label)
      (lexeme_renderName (quotable label rfl)).yields).mono ?_
    rintro _ ⟨_, _, rfl, ⟨t, rfl, isOperand⟩, _, _, rfl, ⟨l, rfl, isAs, _⟩, n, rfl, isName, _⟩
    exact .labelled isOperand isAs isName

theorem OrderItem.yields_render {key : OrderItem} (renderable : key.IsRenderable) :
    Yields key.render.toList (FormsKey · key) := by
  obtain ⟨term, direction⟩ := key
  have separates (cs : List Char) : Separates (' ' :: cs) := separates_cons (by decide +kernel)
  have layout : (OrderItem.mk term direction).render.toList =
      term.render.toList ++ ' ' :: direction.spelling.toList := by simp [render]
  rw [layout]
  have operand := Term.yields_render_operand renderable
  cases direction with
  | ascending =>
    refine (operand.append (Keyword.lexeme .ascending).yields.blank (separates _)).mono ?_
    rintro _ ⟨_, _, rfl, ⟨t, rfl, isOperand⟩, d, rfl, isAsc, _⟩
    exact .ascending isOperand isAsc
  | descending =>
    refine (operand.append (Keyword.lexeme .descending).yields.blank (separates _)).mono ?_
    rintro _ ⟨_, _, rfl, ⟨t, rfl, isOperand⟩, d, rfl, isDesc, _⟩
    exact .descending isOperand isDesc

theorem yields_intercalate {α : Type} {part : List Token → α → Prop} {text : α → String}
    {as : List α} (nonempty : as ≠ []) (each : ∀ a ∈ as, Yields (text a).toList (part · a)) :
    Yields (", ".intercalate (as.map text)).toList (FormsList part · as) := by
  induction as with
  | nil => exact absurd rfl nonempty
  | cons a as ih =>
    have first := each a List.mem_cons_self
    cases as with
    | nil =>
      rw [List.map_singleton, String.intercalate_singleton]
      exact first.mono fun ts forms => .one forms
    | cons b as =>
      have rest := ih (List.cons_ne_nil b as) fun c member => each c (List.mem_cons_of_mem a member)
      have comma : Lexeme .comma [','] := .sign rfl
      rw [List.map_cons, List.map_cons, String.intercalate_cons_cons, String.toList_append,
        String.toList_append, List.append_assoc]
      refine (first.append (comma.yields.append rest.blank (separates_cons (by decide +kernel)))
        (separates_cons (by decide +kernel))).mono ?_
      rintro _ ⟨us, _, rfl, forms, _, vs, rfl, ⟨c, rfl, isComma, _⟩, more⟩
      exact .more forms isComma more

/-! ## Clauses -/

/-- The text of clauses behind a query's first clause, each with a blank in front of it. -/
def trail (clauses : List String) : List Char :=
  clauses.flatMap fun clause => ' ' :: clause.toList

theorem toList_intercalate_blank (clause : String) (clauses : List String) :
    (" ".intercalate (clause :: clauses)).toList = clause.toList ++ trail clauses := by
  induction clauses generalizing clause with
  | nil => simp [trail]
  | cons next clauses ih => simp [String.intercalate_cons_cons, ih, trail]

theorem separates_trail (clauses : List String) : Separates (trail clauses) := by
  cases clauses with
  | nil => exact fun _ separated => separated
  | cons clause clauses => exact separates_cons (by decide +kernel)

theorem yields_trail_nil {part : Part} (absent : part []) : Yields (trail []) part :=
  fun _ _ pos => ⟨[], pos, absent, rfl⟩

theorem yields_trail_singleton {clause : String} {part : Part}
    (yields : Yields clause.toList part) : Yields (trail [clause]) part := by
  rw [trail, List.flatMap_singleton]
  exact yields.blank

theorem yields_trail_append {clauses clauses' : List String} {first second : Part}
    (front : Yields (trail clauses) first) (back : Yields (trail clauses') second) :
    Yields (trail (clauses ++ clauses')) (Then first second) := by
  rw [trail, List.flatMap_append]
  exact front.append back (separates_trail clauses')

namespace Query

theorem yields_select {items : List SelectItem} (renderable : items = [⟨.wildcard, none⟩] ∨
      items ≠ [] ∧ ∀ item ∈ items, item.IsRenderable) :
    Yields ("SELECT " ++ ", ".intercalate (items.map SelectItem.render)).toList
      (Then (Just (.keyword .select) Keyword.select.spelling.toList) (FormsSelection · items)) := by
  have list : Yields (", ".intercalate (items.map SelectItem.render)).toList
      (FormsSelection · items) := by
    rcases renderable with rfl | ⟨nonempty, each⟩
    · refine (Lexeme.sign (c := '*') rfl).yields.mono ?_
      rintro _ ⟨t, rfl, isStar, _⟩
      exact .all isStar
    · have list := yields_intercalate nonempty fun item member =>
        SelectItem.yields_render (each item member)
      exact list.mono fun ts forms => .items forms
  rw [String.toList_append]
  exact Yields.prefixed (Keyword.lexeme .select) list

theorem yields_filter {filter : Option Term}
    (renderable : ∀ p ∈ filter, p.IsRenderablePredicate) :
    Yields (trail (filter.map fun p => "WHERE " ++ p.render).toList) (FormsFilter · filter) := by
  cases filter with
  | none => exact yields_trail_nil .absent
  | some p =>
    refine yields_trail_singleton ?_
    rw [String.toList_append]
    refine (Yields.prefixed (Keyword.lexeme .filter)
      (Term.yields_render (renderable p rfl))).mono ?_
    rintro _ ⟨_, ts, rfl, ⟨w, rfl, isWhere, _⟩, forms⟩
    exact .given isWhere forms.toDisjunction

theorem yields_order {keys : List OrderItem} (renderable : ∀ key ∈ keys, key.IsRenderable) :
    Yields (trail (if keys.isEmpty then []
        else ["ORDER BY " ++ ", ".intercalate (keys.map OrderItem.render)]))
      (FormsOrder · keys) := by
  cases keys with
  | nil => exact yields_trail_nil .absent
  | cons key keys =>
    refine yields_trail_singleton ?_
    have list := yields_intercalate (List.cons_ne_nil key keys)
      fun key member => OrderItem.yields_render (renderable key member)
    rw [String.toList_append]
    refine (Yields.prefixed (Keyword.lexeme .order)
      (Yields.prefixed (Keyword.lexeme .key) list)).mono ?_
    rintro _ ⟨_, _, rfl, ⟨o, rfl, isOrder, _⟩, _, ts, rfl, ⟨b, rfl, isBy, _⟩, forms⟩
    exact .given isOrder isBy forms

theorem yields_count (clause : Clause) (word : String) {count : Option Int}
    (spells : word.toList = clause.keyword.spelling.toList ++ [' '])
    (isCount : ∀ n ∈ count, IsCount n) :
    Yields (trail (count.map fun n => word ++ toString n).toList)
      (FormsCount clause · count) := by
  cases count with
  | none => exact yields_trail_nil .absent
  | some n =>
    refine yields_trail_singleton ?_
    rw [String.toList_append, spells, List.append_assoc]
    refine (Yields.prefixed (Keyword.lexeme clause.keyword)
      (lexeme_count (isCount n rfl)).yields).mono ?_
    rintro _ ⟨_, _, rfl, ⟨w, rfl, isWord, _⟩, t, rfl, isNumber, _⟩
    exact .given isWord isNumber (isCount n rfl).1

/-- The text of a query yields tokens that the grammar derives the query from. -/
theorem yields_render {query : Query} (renderable : query.IsRenderable) :
    Yields query.render.toList (Derives · query) := by
  have counts := yields_trail_append (yields_count .limit "LIMIT " rfl renderable.limit)
    (yields_count .offset "OFFSET " rfl renderable.offset)
  have clauses := yields_trail_append (yields_filter renderable.filter)
    (yields_trail_append (yields_order renderable.order) counts)
  have whole := (yields_select renderable.select).append clauses (separates_trail _)
  rw [← toList_intercalate_blank] at whole
  simp only [render, List.append_assoc, List.singleton_append]
  refine whole.mono ?_
  rintro _ ⟨_, _, rfl, ⟨_, us, rfl, ⟨s, rfl, isSelect, _⟩, select⟩, filter, _, rfl, isFilter,
    order, _, rfl, isOrder, limit, offset, rfl, isLimit, isOffset⟩
  have derives := Derives.intro isSelect select .absent isFilter isOrder isLimit isOffset .absent
  simpa using derives

theorem ofText_render {query : Query} (renderable : query.IsRenderable) :
    ofText query.render = .ok query := by
  obtain ⟨ts, stop, derives, scanned, isStop⟩ := (yields_render renderable).scan
  have isRead : ofTokens (ts ++ [stop]) = .ok query :=
    ofTokens_eq_ok.2 ⟨[], derives.read isStop⟩
  simp only [ofText, scanned, isRead]
  rfl

/-- Rendering and reading are inverse: what is read from any text is read back from its rendering,
every query of the form that has a text is, and only such queries are read. -/
theorem render_roundTrip :
    (∀ text query, ofText text = .ok query → ofText query.render = .ok query) ∧
      (∀ query, IsRenderable query → ofText query.render = .ok query) ∧
      ∀ text query, ofText text = .ok query → query.IsRenderable :=
  ⟨fun _ _ isRead => ofText_render (isRenderable_of_ofText isRead), fun _ => ofText_render,
    fun _ _ => isRenderable_of_ofText⟩

/-- A reserved word outside ASCII, a text with a quote and a line end, and brackets on the right. -/
theorem render_roundTrip_quoted :
    let equals (name s : String) : Term := .compare (.column name) .eq (.ofText s)
    let query : Query :=
      { select := [⟨.column "ſelect", some "a b"⟩, ⟨.literal (.number (.int (-7))) "-07", none⟩]
        filter := some (.or (equals "x" "it's\n")
          (.or (.not (.and (equals "y" "") (equals "or" "'"))) (equals "z" "\\")))
        order := [⟨.column "é.1", .descending⟩]
        limit := some 10
        offset := none }
    query.IsRenderable ∧ query.render =
        "SELECT \x60ſelect\x60 AS \x60a b\x60, -07 WHERE x = 'it''s\\n' OR " ++
          "(NOT (y = '' AND \x60or\x60 = '''') OR z = '\\\\') ORDER BY é.1 DESC LIMIT 10" ∧
      ofText query.render = .ok query := by
  intro equals query
  have comparison (name s : String) (quotable : IsQuotable name) :
      (equals name s).IsRenderablePredicate := ⟨quotable, rfl⟩
  have number : NumberText ['-', '0', '7'] (.int (-7)) :=
    @NumberText.whole true ['0', '7'] (by decide) (List.all_eq_true.1 (by decide)) (by decide)
  have renderable : query.IsRenderable := by
    constructor
    · refine .inr ⟨List.cons_ne_nil _ _, ?_⟩
      simp only [query, List.mem_cons, List.not_mem_nil, or_false]
      rintro item (rfl | rfl)
      · refine ⟨show IsQuotable "ſelect" by decide, ?_⟩
        rintro _ ⟨⟩
        decide
      · exact ⟨number, nofun⟩
    · rintro _ ⟨⟩
      exact ⟨comparison _ _ (by decide), ⟨comparison _ _ (by decide), comparison _ _ (by decide)⟩,
        comparison _ _ (by decide)⟩
    · simp only [query, List.mem_singleton]
      rintro _ rfl
      exact show IsQuotable "é.1" by decide
    · rintro _ ⟨⟩
      exact ⟨by decide, lt_pow_of_le (m := 10) (show 10 < 10 ^ 2 by decide) (by decide)⟩
    · exact nofun
  exact ⟨renderable, by decide +kernel, render_roundTrip.2.1 query renderable⟩

end Query

end LogSelect
