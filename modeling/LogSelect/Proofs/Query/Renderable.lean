import LogSelect.Proofs.Grammar.Exactness
import LogSelect.Proofs.Query.Spelling
import LogSelect.Proofs.Token.Scan
import LogSelect.Query.Error

/-!
Queries that have a text: names can be quoted, constants carry the text that spells them, counts
are not negative, and a wildcard stands alone.  Every query that is read from a text is one.
-/

namespace LogSelect

open Token

namespace Term

def IsRenderableOperand : Term → Prop
  | .column name => IsQuotable name
  | .literal (.text s) spelling => spelling = String.ofList (quoteText s.toList)
  | .literal (.number n) spelling => NumberText spelling.toList n
  | _ => False

/-- A combination of comparisons of operands that spell themselves. -/
def IsRenderablePredicate : Term → Prop
  | .compare left _ right => left.IsRenderableOperand ∧ right.IsRenderableOperand
  | .and left right | .or left right => left.IsRenderablePredicate ∧ right.IsRenderablePredicate
  | .not operand => operand.IsRenderablePredicate
  | _ => False

section Placement

variable {a p : Term}

theorem IsOperand.ne_wildcard (operand : a.IsOperand) : a ≠ .wildcard := by
  rintro rfl
  exact operand

theorem IsRenderableOperand.isOperand (operand : a.IsRenderableOperand) : a.IsOperand := by
  cases a with
  | column _ | literal _ _ => trivial
  | _ => exact operand.elim

theorem IsRenderablePredicate.isPredicate (predicate : p.IsRenderablePredicate) :
    p.IsPredicate := by
  induction p with
  | column _ | literal _ _ | wildcard => exact predicate.elim
  | compare left op right _ _ => exact ⟨predicate.1.isOperand, predicate.2.isOperand⟩
  | and left right ihLeft ihRight | or left right ihLeft ihRight =>
    exact ⟨ihLeft predicate.1, ihRight predicate.2⟩
  | not operand ih => exact ih predicate

end Placement

end Term

def SelectItem.IsRenderable (item : SelectItem) : Prop :=
  item.term.IsRenderableOperand ∧ ∀ label ∈ item.label, IsQuotable label

def OrderItem.IsRenderable (key : OrderItem) : Prop :=
  key.term.IsRenderableOperand

structure Query.IsRenderable (query : Query) : Prop where
  select : query.select = [⟨.wildcard, none⟩] ∨
    query.select ≠ [] ∧ ∀ item ∈ query.select, item.IsRenderable
  filter : ∀ p ∈ query.filter, p.IsRenderablePredicate
  order : ∀ key ∈ query.order, key.IsRenderable
  limit : ∀ n ∈ query.limit, IsCount n
  offset : ∀ n ∈ query.offset, IsCount n

/-! ## Lexemes of names and numbers -/

theorem isQuotable_of_lexeme {name : String} {cs : List Char} (lexeme : Lexeme (.name name) cs) :
    IsQuotable name := by
  generalize isName : Body.name name = body at lexeme
  cases lexeme with
  | quoted nonempty closed =>
    cases isName
    exact ⟨by rwa [String.toList_ofList], by rwa [String.toList_ofList]⟩
  | @word c more starts continues =>
    rcases wordBody_eq (c :: more) with ⟨_, same⟩ | same
    · cases isName.trans same
    · cases isName.trans same
      rw [IsQuotable, String.toList_ofList]
      refine ⟨List.cons_ne_nil c more, ?_⟩
      intro member
      rcases List.mem_cons.1 member with rfl | member
      · exact absurd starts (by decide +kernel)
      · exact absurd (continues _ member) (by decide +kernel)
  | sign sign => exact absurd (isName ▸ mem_signs sign) (by simp [signs])
  | _ => cases isName

theorem numberText_of_lexeme {n : Number} {cs : List Char} (lexeme : Lexeme (.number n) cs) :
    NumberText cs n := by
  generalize isNumber : Body.number n = body at lexeme
  cases lexeme with
  | number spells =>
    cases isNumber
    exact spells
  | sign sign => exact absurd (isNumber ▸ mem_signs sign) (by simp [signs])
  | @word c more _ _ =>
    rcases wordBody_eq (c :: more) with ⟨_, same⟩ | same <;> cases isNumber.trans same
  | _ => cases isNumber

theorem ofDigits_lt {digits : List Nat} (below : ∀ d ∈ digits, d < 10) :
    ofDigits digits < 10 ^ digits.length := by
  have fold : ∀ value : Nat,
      digits.foldl (fun value d => value * 10 + d) value < (value + 1) * 10 ^ digits.length := by
    induction digits with
    | nil => simp
    | cons d digits ih =>
      intro value
      have digit : d < 10 := below d List.mem_cons_self
      calc
        _ < (value * 10 + d + 1) * 10 ^ digits.length :=
          ih (fun e member => below e (List.mem_cons_of_mem d member)) (value * 10 + d)
        _ ≤ (value + 1) * 10 * 10 ^ digits.length := Nat.mul_le_mul_right _ (by omega)
        _ = (value + 1) * 10 ^ (digits.length + 1) := by rw [Nat.pow_succ']; exact Nat.mul_assoc ..
  simpa [ofDigits] using fold 0

theorem digitValues_lt {digits : List Char} (all : ∀ c ∈ digits, isAsciiDigit c = true) :
    ∀ d ∈ digitValues digits, d < 10 := by
  intro d member
  obtain ⟨c, inside, rfl⟩ := List.mem_map.1 member
  have digit := all c inside
  simp only [isAsciiDigit, Bool.and_eq_true, decide_eq_true_eq] at digit
  have bound : c.toNat ≤ '9'.toNat := digit.2
  have nine : '9'.toNat = 57 := rfl
  have zero : '0'.toNat = 48 := rfl
  omega

theorem lt_pow_of_le {m size limit : Nat} (below : m < 10 ^ size) (short : size ≤ limit) :
    (m : Int) < 10 ^ limit := by
  exact_mod_cast Nat.lt_of_lt_of_le below (Nat.pow_le_pow_right (by decide) short)

theorem Numeral.wholeValue_le (numeral : Numeral) :
    numeral.wholeValue ≤ ofDigits numeral.whole := by
  unfold wholeValue
  split <;> omega

theorem isCount_of_lexeme {n : Int} {cs : List Char} (lexeme : Lexeme (.number (.int n)) cs)
    (nonneg : 0 ≤ n) : IsCount n := by
  have spells := numberText_of_lexeme lexeme
  generalize isWhole : Number.int n = number at spells
  cases spells with
  | decimal _ _ _ _ => cases isWhole
  | @whole negative digits _ all short =>
    cases isWhole
    refine ⟨nonneg, ?_⟩
    have below := ofDigits_lt (digitValues_lt all)
    rw [length_digitValues] at below
    exact Int.lt_of_le_of_lt (Numeral.wholeValue_le _) (lt_pow_of_le below short)

/-! ## What is read can be rendered -/

/-- A token whose text spells it. -/
def Token.IsSpelled (t : Token) : Prop :=
  Lexeme t.body t.lexeme.toList

theorem Token.IsSpelled.of_body {t : Token} {body : Body} (spelled : t.IsSpelled)
    (isBody : t.body = body) : Lexeme body t.lexeme.toList :=
  isBody ▸ spelled

namespace Query

theorem IsOperandToken.isRenderable {t : Token} {a : Term} (operand : IsOperandToken t a)
    (spelled : t.IsSpelled) : a.IsRenderableOperand := by
  cases operand with
  | name isName => exact isQuotable_of_lexeme (spelled.of_body isName)
  | text _ => exact rfl
  | number isNumber => exact numberText_of_lexeme (spelled.of_body isNumber)

theorem Forms.isRenderable {rank : Rank} {ts : List Token} {p : Term} (forms : Forms rank ts p)
    (spelled : ∀ t ∈ ts, t.IsSpelled) : p.IsRenderablePredicate := by
  induction forms with
  | conjunction _ ih | negation _ ih | comparison _ ih => exact ih spelled
  | or _ _ _ ihLeft ihRight | and _ _ _ ihLeft ihRight =>
    simp only [List.mem_append, List.mem_cons] at spelled
    exact ⟨ihLeft fun t member => spelled t (.inl member),
      ihRight fun t member => spelled t (.inr (.inr member))⟩
  | not _ _ ih => exact ih fun t member => spelled t (List.mem_cons_of_mem _ member)
  | group _ _ _ ih =>
    simp only [List.mem_append, List.mem_cons] at spelled
    exact ih fun t member => spelled t (.inr (.inl member))
  | compare left _ right =>
    exact ⟨left.isRenderable (spelled _ (by simp)), right.isRenderable (spelled _ (by simp))⟩

theorem FormsItem.isRenderable {ts : List Token} {item : SelectItem} (forms : FormsItem ts item)
    (spelled : ∀ t ∈ ts, t.IsSpelled) : item.IsRenderable := by
  cases forms with
  | plain operand => exact ⟨operand.isRenderable (spelled _ (by simp)), by simp⟩
  | labelled operand _ isName =>
    refine ⟨operand.isRenderable (spelled _ (by simp)), ?_⟩
    rintro _ ⟨⟩
    exact isQuotable_of_lexeme ((spelled _ (by simp)).of_body isName)

theorem FormsKey.isRenderable {ts : List Token} {key : OrderItem} (forms : FormsKey ts key)
    (spelled : ∀ t ∈ ts, t.IsSpelled) : key.IsRenderable := by
  cases forms with
  | plain operand | ascending operand _ | descending operand _ =>
    exact operand.isRenderable (spelled _ (by simp))

theorem FormsList.ne_nil {α : Type} {part : List Token → α → Prop} {ts : List Token} {as : List α}
    (forms : FormsList part ts as) : as ≠ [] := by
  cases forms <;> exact List.cons_ne_nil _ _

theorem FormsList.forall_mem {α : Type} {part : List Token → α → Prop} {good : Token → Prop}
    {holds : α → Prop} {ts : List Token} {as : List α} (forms : FormsList part ts as)
    (each : ∀ us a, part us a → (∀ t ∈ us, good t) → holds a) (allGood : ∀ t ∈ ts, good t) :
    ∀ a ∈ as, holds a := by
  induction forms with
  | one first =>
    intro a member
    rw [List.mem_singleton.1 member]
    exact each _ _ first allGood
  | more first _ _ ih =>
    simp only [List.mem_append, List.mem_cons] at allGood
    intro a member
    rcases List.mem_cons.1 member with rfl | member
    · exact each _ _ first fun t inside => allGood t (.inl inside)
    · exact ih (fun t inside => allGood t (.inr (.inr inside))) a member

theorem FormsSelection.isRenderable {ts : List Token} {items : List SelectItem}
    (forms : FormsSelection ts items) (spelled : ∀ t ∈ ts, t.IsSpelled) :
    items = [⟨.wildcard, none⟩] ∨ items ≠ [] ∧ ∀ item ∈ items, item.IsRenderable := by
  cases forms with
  | all _ => exact .inl rfl
  | items items =>
    exact .inr ⟨items.ne_nil, items.forall_mem (fun _ _ item => item.isRenderable) spelled⟩

theorem FormsFilter.isRenderable {ts : List Token} {filter : Option Term}
    (forms : FormsFilter ts filter) (spelled : ∀ t ∈ ts, t.IsSpelled) :
    ∀ p ∈ filter, p.IsRenderablePredicate := by
  cases forms with
  | absent => simp
  | given _ forms =>
    rintro _ ⟨⟩
    exact forms.isRenderable fun t member => spelled t (List.mem_cons_of_mem _ member)

theorem FormsOrder.isRenderable {ts : List Token} {keys : List OrderItem}
    (forms : FormsOrder ts keys) (spelled : ∀ t ∈ ts, t.IsSpelled) :
    ∀ key ∈ keys, key.IsRenderable := by
  cases forms with
  | absent => simp
  | given _ _ keys =>
    refine keys.forall_mem (fun _ _ key => key.isRenderable) ?_
    exact fun t member => spelled t (List.mem_cons_of_mem _ (List.mem_cons_of_mem _ member))

theorem FormsCount.isCount {clause : Clause} {ts : List Token} {count : Option Int}
    (forms : FormsCount clause ts count) (spelled : ∀ t ∈ ts, t.IsSpelled) :
    ∀ n ∈ count, IsCount n := by
  cases forms with
  | absent => simp
  | given _ isNumber nonneg =>
    rintro _ ⟨⟩
    exact isCount_of_lexeme ((spelled _ (by simp)).of_body isNumber) nonneg

theorem Derives.isRenderable {ts : List Token} {query : Query} (derives : Derives ts query)
    (spelled : ∀ t ∈ ts, t.IsSpelled) : query.IsRenderable := by
  cases derives with
  | intro _ select _ filter order limit offset _ =>
    simp only [List.mem_append, List.mem_cons] at spelled
    constructor
    · exact select.isRenderable fun t member => spelled t (by simp [member])
    · exact filter.isRenderable fun t member => spelled t (by simp [member])
    · exact order.isRenderable fun t member => spelled t (by simp [member])
    · exact limit.isCount fun t member => spelled t (by simp [member])
    · exact offset.isCount fun t member => spelled t (by simp [member])

/-- What a text reads as is what its tokens derive, and each of them is spelled in the text. -/
theorem exists_derives_of_ofText {text : String} {query : Query}
    (isRead : ofText text = .ok query) :
    ∃ ts, Derives ts query ∧ ∀ t ∈ ts, t.IsSpelled := by
  unfold ofText at isRead
  dsimp only at isRead
  split at isRead
  · cases isRead
  · rename_i faultless
    obtain ⟨ts, stop, split, isStop, spelled⟩ := scanFrom_eq_lexemes faultless
    refine ⟨ts, ?_, spelled⟩
    rw [← ofTokens_eq_ok_iff_derives (fun t member => (spelled t member).ne_stop) isStop, ← split]
    cases result : ofTokens (scanFrom .start text.toList).tokens with
    | error failure =>
      rw [scan, result] at isRead
      cases isRead
    | ok query' =>
      rw [scan, result] at isRead
      exact congrArg Except.ok (Except.ok.inj isRead)

theorem isRenderable_of_ofText {text : String} {query : Query} (isRead : ofText text = .ok query) :
    query.IsRenderable := by
  obtain ⟨ts, derives, spelled⟩ := exists_derives_of_ofText isRead
  exact derives.isRenderable spelled

end Query

end LogSelect
