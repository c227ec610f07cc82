import LogSelect.Proofs.Number.Positional
import LogSelect.Proofs.Query.RoundTrip

/-!
Queries whose number constants are spelled by the texts of their numbers.

The texts of numbers know exponents, and names for what is infinite; the tokens of a query do not.
So the text of a number is a token of its own only where it is plain decimal, and a query is read
back from its text only if its number constants are plain.
-/

namespace LogSelect

open Token

/-! ## Texts of numbers -/

namespace Token.NumberText

variable {cs : List Char} {n n' : Number}

theorem mem_chars (spells : NumberText cs n) :
    ∀ c ∈ cs, c = '-' ∨ c = '.' ∨ isAsciiDigit c = true := by
  have sign : ∀ negative, ∀ c ∈ minus negative, c = '-' := by
    intro negative c member
    cases negative with
    | false => cases member
    | true => exact List.mem_singleton.1 member
  intro c member
  cases spells with
  | @whole negative digits _ all _ =>
    rcases List.mem_append.1 member with inSign | inDigits
    · exact .inl (sign negative c inSign)
    · exact .inr (.inr (all c inDigits))
  | @decimal negative digits fraction _ _ all allFraction =>
    rw [List.mem_append, List.mem_append, List.mem_cons] at member
    rcases member with inSign | inDigits | isPoint | inFraction
    · exact .inl (sign negative c inSign)
    · exact .inr (.inr (all c inDigits))
    · exact .inr (.inl isPoint)
    · exact .inr (.inr (allFraction c inFraction))

theorem unique (spells : NumberText cs n) (spells' : NumberText cs n') : n = n' := by
  obtain ⟨c, more, rfl⟩ := List.exists_cons_of_ne_nil (Lexeme.number spells).ne_nil
  have read := spells.step_append separated_nil
  rw [spells'.step_append separated_nil] at read
  cases read
  rfl

end Token.NumberText

namespace Number

/-- The numbers that are written in plain decimal: whole numbers that are not too long, and
floating-point numbers neither too great nor, unless zero, too small for positional notation. -/
def IsPlain : Number → Prop
  | .int n => n.natAbs < 10 ^ maxWholeDigits
  | .real (.finite _ m q _) =>
    m = 0 ∨ 1 / 10 ^ 4 ≤ (m : ℚ) * 2 ^ q ∧ (m : ℚ) * 2 ^ q < 10 ^ 16
  | .real _ => False

variable {n n' : Number}

theorem numberText_positional {digits : List Char} (nonempty : digits ≠ [])
    (all : ∀ c ∈ digits, isAsciiDigit c = true) (negative : Bool) (top : ℤ) :
    NumberText (minus negative ++ Binary64.positional digits top)
      (.real (Binary64.ofDecimal negative (Nat.ofDigitChars 10 digits 0)
        (top - digits.length + 1))) := by
  obtain ⟨whole, fraction, layout, someFraction, isWhole, chars, value⟩ :=
    Binary64.exists_positional nonempty top
  have areAll : ∀ c ∈ whole ++ fraction, isAsciiDigit c = true := by
    intro c member
    rcases chars c member with rfl | member
    · rfl
    · exact all c member
  obtain ⟨areWhole, areFraction⟩ := List.forall_mem_append.1 areAll
  have someWhole : whole ≠ [] := by
    rcases isWhole with rfl | ⟨someWhole, -⟩
    · exact List.cons_ne_nil _ _
    · exact someWhole
  rw [layout, ← value negative, ← Binary64.realValue_digits]
  exact .decimal someWhole someFraction areWhole areFraction

theorem isAsciiDigit_of_mem_places {d : Binary64.Decimal} {c : Char} (member : c ∈ d.places.1) :
    isAsciiDigit c = true := by
  obtain ⟨zeros, split⟩ := Binary64.exists_decimalDigits_eq d
  have inDigits : c ∈ Binary64.decimalDigits d.coefficient :=
    split ▸ List.mem_append_left _ member
  exact isAsciiDigit_of_isDigit (Nat.isDigit_of_mem_toDigits (by decide) (by decide) inDigits)

theorem numberText_text (plain : n.IsPlain) : NumberText n.text.toList n := by
  cases n with
  | int n => exact numberText_int plain
  | real x =>
    match x, plain with
    | .finite negative m q canonical, plain =>
      rw [text, Binary64.text, String.toList_ofList, Binary64.chars]
      by_cases zero : m = 0
      · subst zero
        obtain rfl : q = -1074 := canonical.2.2.2.resolve_left (by decide)
        exact @NumberText.decimal negative ['0'] ['0'] (by decide) (by decide)
          (List.all_eq_true.1 (by decide)) (List.all_eq_true.1 (by decide))
      · have positive := Nat.pos_of_ne_zero zero
        have range := (Binary64.positional_iff canonical positive).2 (plain.resolve_left zero)
        have spells := numberText_positional
          (Binary64.places_ne_nil (Binary64.shortest_ne_zero zero q))
          (fun c member => isAsciiDigit_of_mem_places member) negative
          (Binary64.shortest m q).places.2
        rw [Binary64.ofDecimal_places, Binary64.ofDecimal_shortest canonical positive] at spells
        rw [if_neg zero]
        dsimp only
        rw [Binary64.layout, if_pos range]
        exact spells

theorem filter_minus (negative : Bool) {digits : List Char}
    (all : ∀ c ∈ digits, isAsciiDigit c = true) :
    (minus negative ++ digits).filter isAsciiDigit = digits := by
  have sign : (minus negative).filter isAsciiDigit = [] := by
    cases negative <;> rfl
  rw [List.filter_append, sign, List.nil_append, List.filter_eq_self.2 all]

theorem natAbs_lt_of_numberText {n : Int} (spells : NumberText (toString n).toList n') :
    n.natAbs < 10 ^ maxWholeDigits := by
  have all : ∀ c ∈ Binary64.decimalDigits n.natAbs, isAsciiDigit c = true := fun c member =>
    isAsciiDigit_of_isDigit (Nat.isDigit_of_mem_toDigits (by decide) (by decide) member)
  have digits := filter_minus (decide (n < 0)) all
  have noPoint : '.' ∉ minus (decide (n < 0)) ++ Binary64.decimalDigits n.natAbs := by
    intro member
    rcases List.mem_append.1 member with inSign | inDigits
    · cases (decide (n < 0)) <;> simp [minus] at inSign
    · exact absurd (all '.' inDigits) (by decide)
  rw [toList_toString_int] at spells
  change NumberText (minus (decide (n < 0)) ++ Binary64.decimalDigits n.natAbs) n' at spells
  generalize minus (decide (n < 0)) ++ Binary64.decimalDigits n.natAbs = cs at spells digits noPoint
  cases spells with
  | @whole negative whole _ allWhole short =>
    rw [filter_minus negative allWhole] at digits
    rw [digits] at short
    exact (Nat.length_toDigits_le_iff (by decide) (by decide)).1 short
  | decimal _ _ _ _ => simp at noPoint

theorem isPlain_of_numberText (spells : NumberText n.text.toList n') : n.IsPlain := by
  cases n with
  | int n => exact natAbs_lt_of_numberText spells
  | real x =>
    have chars := spells.mem_chars
    rw [text, Binary64.text, String.toList_ofList] at chars
    cases x with
    | nan => exact absurd (chars 'n' (by decide)) (by decide)
    | infinite negative =>
      exact absurd (chars 'i' (List.mem_append_right _ List.mem_cons_self)) (by decide)
    | finite negative m q canonical =>
      by_cases zero : m = 0
      · exact .inl zero
      · right
        by_contra notPlain
        rw [← Binary64.positional_iff canonical (Nat.pos_of_ne_zero zero)] at notPlain
        refine absurd (chars 'e' ?_) (by decide)
        rw [Binary64.chars, if_neg zero]
        dsimp only
        rw [Binary64.layout, if_neg notPlain]
        simp [Binary64.scientific]

theorem numberText_text_iff : NumberText n.text.toList n' ↔ n' = n ∧ n.IsPlain := by
  constructor
  · intro spells
    have plain := isPlain_of_numberText spells
    exact ⟨spells.unique (numberText_text plain), plain⟩
  · rintro ⟨rfl, plain⟩
    exact numberText_text plain

def onlyToken (n : Number) (text : String) : Scan :=
  ⟨[⟨.number n, text, .start⟩, ⟨.stop, "", Position.start.after text.toList⟩], none⟩

theorem scan_eq_onlyToken_iff {text : String} :
    Token.scan text = onlyToken n text ↔ NumberText text.toList n := by
  constructor
  · intro scanned
    have faultless : (scanFrom .start text.toList).fault = none := congrArg Scan.fault scanned
    obtain ⟨ts, stop, split, isStop, lexemes⟩ := scanFrom_eq_lexemes faultless
    have tokens : ts ++ [stop] = [⟨.number n, text, .start⟩] ++ [⟨.stop, "", _⟩] :=
      split.symm.trans (congrArg Scan.tokens scanned)
    obtain ⟨rfl, -⟩ := List.append_inj' tokens rfl
    exact numberText_of_lexeme (lexemes _ List.mem_cons_self)
  · intro spells
    obtain ⟨c, more, isText⟩ := List.exists_cons_of_ne_nil (Lexeme.number spells).ne_nil
    rw [isText] at spells
    have read := spells.step_append separated_nil
    rw [List.append_nil] at read
    rw [Token.scan, onlyToken, isText, scanFrom_token read, List.take_length, List.drop_length,
      scanFrom_nil, ← isText, String.ofList_toList]

end Number

/-! ## Constants of queries -/

namespace Term

/-- The number constants of a term, each with the text that spells it. -/
def constants : Term → List (Number × String)
  | .literal (.number n) spelling => [(n, spelling)]
  | .compare left _ right | .and left right | .or left right => left.constants ++ right.constants
  | .not operand => operand.constants
  | _ => []

def IsPlacedOperand : Term → Prop
  | .column name => IsQuotable name
  | .literal (.text s) spelling => spelling = String.ofList (quoteText s.toList)
  | .literal (.number _) _ => True
  | _ => False

def IsPlacedPredicate : Term → Prop
  | .compare left _ right => left.IsPlacedOperand ∧ right.IsPlacedOperand
  | .and left right | .or left right => left.IsPlacedPredicate ∧ right.IsPlacedPredicate
  | .not operand => operand.IsPlacedPredicate
  | _ => False

theorem isRenderableOperand_iff {a : Term} :
    a.IsRenderableOperand ↔
      a.IsPlacedOperand ∧ ∀ c ∈ a.constants, NumberText c.2.toList c.1 := by
  cases a with
  | literal value spelling =>
    cases value <;> simp [IsRenderableOperand, IsPlacedOperand, constants]
  | _ => simp [IsRenderableOperand, IsPlacedOperand, constants]

theorem isRenderablePredicate_iff {p : Term} :
    p.IsRenderablePredicate ↔
      p.IsPlacedPredicate ∧ ∀ c ∈ p.constants, NumberText c.2.toList c.1 := by
  induction p with
  | column _ | literal _ _ | wildcard => simp [IsRenderablePredicate, IsPlacedPredicate]
  | compare left op right _ _ =>
    rw [IsRenderablePredicate, IsPlacedPredicate, constants, List.forall_mem_append,
      isRenderableOperand_iff, isRenderableOperand_iff]
    exact and_and_and_comm
  | and left right ihLeft ihRight | or left right ihLeft ihRight =>
    rw [IsRenderablePredicate, IsPlacedPredicate, constants, List.forall_mem_append, ihLeft,
      ihRight]
    exact and_and_and_comm
  | not operand ih => exact ih

theorem exists_constant_of_same {t u : Term} (same : t.same u = true) :
    ∀ d ∈ u.constants, ∃ c ∈ t.constants, c.2 = d.2 := by
  have both {a b a' b' : Term} (left : ∀ d ∈ a'.constants, ∃ c ∈ a.constants, c.2 = d.2)
      (right : ∀ d ∈ b'.constants, ∃ c ∈ b.constants, c.2 = d.2) :
      ∀ d ∈ a'.constants ++ b'.constants, ∃ c ∈ a.constants ++ b.constants, c.2 = d.2 := by
    intro d member
    rcases List.mem_append.1 member with inLeft | inRight
    · obtain ⟨c, inside, alike⟩ := left d inLeft
      exact ⟨c, List.mem_append_left _ inside, alike⟩
    · obtain ⟨c, inside, alike⟩ := right d inRight
      exact ⟨c, List.mem_append_right _ inside, alike⟩
  fun_induction Term.same t u with
  | case1 | case3 => simp [constants]
  | case2 v s w t =>
    obtain ⟨sameValue, sameText⟩ := Bool.and_eq_true_iff.1 same
    intro d member
    cases w with
    | number n =>
      obtain rfl := List.mem_singleton.1 member
      cases v with
      | number m => exact ⟨(m, s), List.mem_singleton_self _, eq_of_beq sameText⟩
      | _ => cases sameValue
    | _ => cases member
  | case4 l op r l' op' r' ihLeft ihRight =>
    simp only [Bool.and_eq_true] at same
    exact both (ihLeft same.1.1) (ihRight same.2)
  | case5 l r l' r' ihLeft ihRight | case6 l r l' r' ihLeft ihRight =>
    obtain ⟨sameLeft, sameRight⟩ := Bool.and_eq_true_iff.1 same
    exact both (ihLeft sameLeft) (ihRight sameRight)
  | case7 p q ih => exact ih same
  | case8 => cases same

end Term

namespace Query

/-- A query that has a text, number constants apart. -/
structure IsPlaced (query : Query) : Prop where
  select : query.select = [⟨.wildcard, none⟩] ∨ query.select ≠ [] ∧ ∀ item ∈ query.select,
    item.term.IsPlacedOperand ∧ ∀ label ∈ item.label, IsQuotable label
  filter : ∀ p ∈ query.filter, p.IsPlacedPredicate
  order : ∀ key ∈ query.order, key.term.IsPlacedOperand
  limit : ∀ n ∈ query.limit, IsCount n
  offset : ∀ n ∈ query.offset, IsCount n

theorem isPlaced_unpaged {select : List SelectItem} {filter : Option Term}
    (operands : select ≠ [] ∧ ∀ item ∈ select,
      item.term.IsPlacedOperand ∧ ∀ label ∈ item.label, IsQuotable label)
    (predicate : ∀ p ∈ filter, p.IsPlacedPredicate) :
    IsPlaced ⟨select, filter, [], none, none⟩ where
  select := .inr operands
  filter := predicate
  order _ member := absurd member List.not_mem_nil
  limit _ member := absurd member (Option.not_mem_none _)
  offset _ member := absurd member (Option.not_mem_none _)

/-- The number constants of a query, each with the text that spells it. -/
def constants (query : Query) : List (Number × String) :=
  query.select.flatMap (·.term.constants) ++
    (query.filter.toList.flatMap Term.constants ++ query.order.flatMap (·.term.constants))

theorem forall_constants_iff {query : Query} {p : Number × String → Prop} :
    (∀ c ∈ query.constants, p c) ↔
      (∀ item ∈ query.select, ∀ c ∈ item.term.constants, p c) ∧
        (∀ t ∈ query.filter, ∀ c ∈ t.constants, p c) ∧
          ∀ key ∈ query.order, ∀ c ∈ key.term.constants, p c := by
  simp only [constants, List.forall_mem_append, List.forall_mem_flatMap, Option.mem_toList,
    Option.mem_def]

theorem isRenderable_iff {query : Query} :
    query.IsRenderable ↔
      query.IsPlaced ∧ ∀ c ∈ query.constants, NumberText c.2.toList c.1 := by
  rw [forall_constants_iff]
  constructor
  · intro ⟨select, filter, order, limit, offset⟩
    refine ⟨⟨?_, fun p isFilter => ?_, fun key member => ?_, limit, offset⟩, ?_, ?_, ?_⟩
    · exact select.imp_right fun ⟨nonempty, items⟩ => ⟨nonempty, fun item member =>
        ⟨(Term.isRenderableOperand_iff.1 (items item member).1).1, (items item member).2⟩⟩
    · exact (Term.isRenderablePredicate_iff.1 (filter p isFilter)).1
    · exact (Term.isRenderableOperand_iff.1 (order key member)).1
    · intro item member
      rcases select with wildcard | ⟨-, items⟩
      · rw [wildcard, List.mem_singleton] at member
        simp [member, Term.constants]
      · exact (Term.isRenderableOperand_iff.1 (items item member).1).2
    · intro p isFilter
      exact (Term.isRenderablePredicate_iff.1 (filter p isFilter)).2
    · intro key member
      exact (Term.isRenderableOperand_iff.1 (order key member)).2
  · intro ⟨placed, inSelect, inFilter, inOrder⟩
    constructor
    · exact placed.select.imp_right fun ⟨nonempty, items⟩ => ⟨nonempty, fun item member =>
        ⟨Term.isRenderableOperand_iff.2 ⟨(items item member).1, inSelect item member⟩,
          (items item member).2⟩⟩
    · intro p isFilter
      exact Term.isRenderablePredicate_iff.2 ⟨placed.filter p isFilter, inFilter p isFilter⟩
    · intro key member
      exact Term.isRenderableOperand_iff.2 ⟨placed.order key member, inOrder key member⟩
    · exact placed.limit
    · exact placed.offset

theorem exists_of_sameList {α : Type} {same : α → α → Bool} {as bs : List α}
    (isSame : sameList same as bs = true) : ∀ b ∈ bs, ∃ a ∈ as, same a b = true := by
  fun_induction sameList same as bs with
  | case1 => exact nofun
  | case2 a as b bs ih =>
    obtain ⟨first, others⟩ := Bool.and_eq_true_iff.1 isSame
    intro b' member
    rcases List.mem_cons.1 member with rfl | inRest
    · exact ⟨a, List.mem_cons_self, first⟩
    · obtain ⟨a', inside, sameAs⟩ := ih others b' inRest
      exact ⟨a', List.mem_cons_of_mem _ inside, sameAs⟩
  | case3 => cases isSame

theorem exists_constant_of_same {query other : Query} (same : other.same query = true) :
    ∀ d ∈ query.constants, ∃ c ∈ other.constants, c.2 = d.2 := by
  simp only [Query.same, Bool.and_eq_true] at same
  obtain ⟨⟨⟨⟨sameSelect, sameFilter⟩, sameOrder⟩, -⟩, -⟩ := same
  rw [forall_constants_iff]
  refine ⟨fun item member d inItem => ?_, fun p isFilter d inFilter => ?_,
    fun key member d inKey => ?_⟩
  · obtain ⟨item', inside, sameItem⟩ := exists_of_sameList sameSelect item member
    obtain ⟨c, isConstant, alike⟩ :=
      Term.exists_constant_of_same (Bool.and_eq_true_iff.1 sameItem).1 d inItem
    exact ⟨c, List.mem_append_left _ (List.mem_flatMap.2 ⟨item', inside, isConstant⟩), alike⟩
  · cases isOther : other.filter with
    | none =>
      rw [isOther, Option.mem_def.1 isFilter] at sameFilter
      cases sameFilter
    | some p' =>
      rw [isOther, isFilter] at sameFilter
      obtain ⟨c, isConstant, alike⟩ := Term.exists_constant_of_same sameFilter d inFilter
      refine ⟨c, List.mem_append_right _ (List.mem_append_left _ ?_), alike⟩
      exact List.mem_flatMap.2 ⟨p', Option.mem_toList.2 isOther, isConstant⟩
  · obtain ⟨key', inside, sameKey⟩ := exists_of_sameList sameOrder key member
    obtain ⟨c, isConstant, alike⟩ :=
      Term.exists_constant_of_same (Bool.and_eq_true_iff.1 sameKey).1 d inKey
    refine ⟨c, List.mem_append_right _ (List.mem_append_right _ ?_), alike⟩
    exact List.mem_flatMap.2 ⟨key', inside, isConstant⟩

/-- Number constants that are built from their numbers, or spelled as a query spells them. -/
def AreBuilt (query : Query) : Prop :=
  ∀ c ∈ query.constants, c.2 = c.1.text ∨ NumberText c.2.toList c.1

def ArePlain (query : Query) : Prop :=
  ∀ c ∈ query.constants, c.2 = c.1.text → c.1.IsPlain

theorem ofText_render_of_arePlain {query : Query} (placed : query.IsPlaced)
    (built : query.AreBuilt) (plain : query.ArePlain) : ofText query.render = .ok query := by
  apply ofText_render
  rw [isRenderable_iff]
  refine ⟨placed, fun c member => ?_⟩
  rcases built c member with isText | spells
  · rw [isText]
    exact Number.numberText_text (plain c member isText)
  · exact spells

theorem arePlain_of_ofText {query other : Query} {text : String} (isRead : ofText text = .ok other)
    (alike : ∀ d ∈ query.constants, ∃ c ∈ other.constants, c.2 = d.2) : query.ArePlain := by
  intro d member isText
  obtain ⟨c, inside, same⟩ := alike d member
  have spells := (isRenderable_iff.1 (isRenderable_of_ofText isRead)).2 c inside
  rw [same, isText] at spells
  exact Number.isPlain_of_numberText spells

/-- The text of a number is one token, of this number, exactly if the number is plain; and a query
with such constants is read back, or read as an equal one, exactly if they are plain. -/
theorem numbers_readBack_iff (n n' : Number) (query : Query) :
    (Token.scan n.text = Number.onlyToken n' n.text ↔ n' = n ∧ n.IsPlain) ∧
      (query.IsPlaced → query.AreBuilt →
        (ofText query.render = .ok query ↔ query.ArePlain) ∧
          ∀ other, ofText query.render = .ok other → other.same query = true →
            query.ArePlain) := by
  refine ⟨?_, fun placed built => ⟨⟨fun isRead => ?_, ?_⟩, ?_⟩⟩
  · rw [Number.scan_eq_onlyToken_iff, Number.numberText_text_iff]
  · exact arePlain_of_ofText isRead fun d member => ⟨d, member, rfl⟩
  · exact ofText_render_of_arePlain placed built
  · exact fun other isRead same => arePlain_of_ofText isRead (exists_constant_of_same same)

theorem numbers_readBack_small :
    let small : Number := .real (.finite false 7378697629483821 (-66) (by decide))
    let query : Query :=
      { select := [⟨Term.ofNumber (.int (-7)), some "seven"⟩]
        filter := some (.compare (.column "a") .lt (Term.ofNumber small))
        order := [], limit := none, offset := none }
    query.IsPlaced ∧ query.AreBuilt ∧ query.ArePlain ∧
      query.render = "SELECT -7 AS seven WHERE a < 0.0001" ∧ ofText query.render = .ok query := by
  intro small query
  have placed : query.IsPlaced := by
    refine isPlaced_unpaged ⟨List.cons_ne_nil _ _, ?_⟩ ?_
    · simp only [List.mem_singleton]
      rintro _ rfl
      exact ⟨trivial, by decide⟩
    · rintro _ ⟨⟩
      exact ⟨show IsQuotable "a" by decide, trivial⟩
  have constants : query.constants = [(.int (-7), Number.text (.int (-7))), (small, small.text)] :=
    rfl
  have built : query.AreBuilt := by
    simp [AreBuilt, constants]
  have plain : query.ArePlain := by
    simp only [ArePlain, constants, List.forall_mem_cons]
    refine ⟨fun _ => ?_, fun _ => .inr ⟨?_, ?_⟩, by simp⟩
    · have short : 1 ≤ maxWholeDigits := by decide
      exact Nat.lt_of_lt_of_le (by decide : 7 < 10 ^ 1) (Nat.pow_le_pow_right (by decide) short)
    · norm_num
    · norm_num
  exact ⟨placed, built, plain, by decide +kernel,
    ((numbers_readBack_iff small small query).2 placed built).1.2 plain⟩

/-- Ten to the sixteenth is written with an exponent. -/
theorem numbers_readBack_exponent :
    let large : Number := .real (.finite false 5000000000000000 1 (by decide))
    let query : Query :=
      { select := [⟨Term.ofNumber large, none⟩]
        filter := none, order := [], limit := none, offset := none }
    large.text = "1e+16" ∧ (∀ n, Token.scan large.text ≠ Number.onlyToken n large.text) ∧
      query.IsPlaced ∧ query.AreBuilt ∧
        ¬ ∃ other, ofText query.render = .ok other ∧ other.same query = true := by
  intro large query
  have notPlain : ¬ large.IsPlain := by
    simp only [large, Number.IsPlain]
    norm_num
  refine ⟨by decide +kernel, fun n scanned => ?_, isPlaced_unpaged ⟨List.cons_ne_nil _ _, ?_⟩ ?_,
    ?_, ?_⟩
  · exact notPlain (Number.isPlain_of_numberText (Number.scan_eq_onlyToken_iff.1 scanned))
  · simp [Term.ofNumber, Term.IsPlacedOperand]
  · exact fun p member => absurd member (Option.not_mem_none p)
  · exact fun c member => .inl (List.mem_singleton.1 member ▸ rfl)
  · rintro ⟨other, isRead, same⟩
    exact notPlain (arePlain_of_ofText isRead (exists_constant_of_same same) _
      List.mem_cons_self rfl)

end Query

end LogSelect
