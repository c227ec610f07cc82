import LogSelect.Proofs.Number.Text
import LogSelect.Proofs.Order.Preorder
import LogSelect.Proofs.Text.Folding

/-!
Equality in a condition against a tie in the order of sorting.

The two agree on all present values but an infinite number and a text that spells it: such a text
is no numeral, so it is compared with the number's own text, while sorting keeps texts behind the
numbers.  Where equality is not transitive, it goes through such a number.
-/

namespace LogSelect

theorem compareCodes_eq_iff {s t : List Char} : compareCodes s t = .eq ↔ s = t := by
  rw [(compareCodes_compares s t).eq_eq]
  exact (List.map_injective_iff.2 fun _ _ => Char.toNat_inj.1).eq_iff

namespace Number

def infinite (negative : Bool) : Number :=
  .real (.infinite negative)

theorem eq_infinite_of_exact {n : Number} {negative : Bool} (ordered : n.IsOrdered)
    (same : (infinite negative).exact = n.exact) : infinite negative = n := by
  cases n with
  | int n => cases negative <;> simp [infinite, exact] at same
  | real x =>
    cases x with
    | nan => exact absurd rfl ordered
    | infinite negative' =>
      cases negative <;> cases negative' <;> simp [infinite, exact] at same ⊢
    | finite => cases negative <;> simp [infinite, exact] at same

end Number

namespace Collation

variable {collation : Collation} {a b c : Value}

/-- A text that is compared as the text of an infinite number is. -/
def Spells (collation : Collation) (word infinite : Value) : Prop :=
  ∃ s negative, word = .text s ∧ infinite = .number (.infinite negative) ∧
    collation.key s = collation.key (Number.infinite negative).text

theorem compare_of_present {op : CompareOp} (presentLeft : a ≠ .missing)
    (presentRight : b ≠ .missing) :
    collation.compare a op b = op.holds (collation.comparePresent a b) := by
  cases a with
  | missing => exact absurd rfl presentLeft
  | _ =>
    cases b with
    | missing => exact absurd rfl presentRight
    | _ => rfl

theorem compare_eq_iff (presentLeft : a ≠ .missing) (presentRight : b ≠ .missing) :
    collation.compare a .eq b = true ↔ collation.comparePresent a b = .eq := by
  rw [compare_of_present presentLeft presentRight, CompareOp.holds, beq_iff_eq]

theorem comparePresent_eq_iff_of_none (noNumber : a.number? = none ∨ b.number? = none) :
    collation.comparePresent a b = .eq ↔ collation.key a.render = collation.key b.render := by
  have asTexts : collation.comparePresent a b =
      compareCodes (collation.key a.render).toList (collation.key b.render).toList := by
    unfold comparePresent
    rcases noNumber with none | none
    · rw [none]
    · rw [none]
      cases a.number? <;> rfl
  rw [asTexts, compareCodes_eq_iff, String.toList_inj]

/-! ## Texts that spell infinite numbers -/

namespace Spells

variable {word infinite : Value}

theorem exists_text (spells : collation.Spells word infinite) : ∃ s, word = .text s := by
  obtain ⟨s, _, isText, _⟩ := spells
  exact ⟨s, isText⟩

theorem exists_infinite (spells : collation.Spells word infinite) :
    ∃ negative, infinite = .number (.infinite negative) := by
  obtain ⟨_, negative, _, isInfinite, _⟩ := spells
  exact ⟨negative, isInfinite⟩

theorem number?_word (spells : collation.Spells word infinite) : word.number? = none := by
  obtain ⟨s, negative, rfl, _, same⟩ := spells
  by_contra isNumeral
  have reads : (Number.ofText? s).isSome = true := Option.isSome_iff_ne_none.2 isNumeral
  have clash := ofText?_of_key_eq reads same
  rw [Number.infinite, Number.ofText?_text_infinite] at clash
  exact isNumeral clash.symm

theorem word_ne_missing (spells : collation.Spells word infinite) : word ≠ .missing := by
  obtain ⟨s, rfl⟩ := spells.exists_text
  exact nofun

theorem infinite_ne_missing (spells : collation.Spells word infinite) : infinite ≠ .missing := by
  obtain ⟨negative, rfl⟩ := spells.exists_infinite
  exact nofun

theorem infinite_isOrdered (spells : collation.Spells word infinite) : infinite.IsOrdered := by
  obtain ⟨negative, rfl⟩ := spells.exists_infinite
  simp [Value.IsOrdered, Number.infinite]

theorem number?_infinite (spells : collation.Spells word infinite) : infinite.number? ≠ none := by
  obtain ⟨negative, rfl⟩ := spells.exists_infinite
  exact nofun

theorem order_eq_gt (spells : collation.Spells word infinite) :
    collation.order word infinite = .gt := by
  rw [order_of_ne_missing spells.word_ne_missing spells.infinite_ne_missing, spells.number?_word,
    Option.isSome_iff_ne_none.2 spells.number?_infinite]
  rfl

theorem order_eq_lt (spells : collation.Spells word infinite) :
    collation.order infinite word = .lt := by
  rw [order_of_ne_missing spells.infinite_ne_missing spells.word_ne_missing, spells.number?_word,
    Option.isSome_iff_ne_none.2 spells.number?_infinite]
  rfl

theorem key_eq (spells : collation.Spells word infinite) :
    collation.key word.render = collation.key infinite.render := by
  obtain ⟨s, negative, rfl, rfl, same⟩ := spells
  exact same

end Spells

theorem spells_of_key_eq (ordered : a.IsOrdered) (isNumber : a.number? ≠ none)
    (present : b ≠ .missing) (noNumber : b.number? = none)
    (same : collation.key a.render = collation.key b.render) : collation.Spells b a := by
  cases b with
  | number n => cases noNumber
  | missing => exact absurd rfl present
  | text t =>
    have noNumeral : Number.ofText? a.render = none := by
      by_contra isNumeral
      have reads := ofText?_of_key_eq (Option.isSome_iff_ne_none.2 isNumeral) same
      exact isNumeral (reads.symm.trans noNumber)
    cases a with
    | missing => exact absurd rfl isNumber
    | text s => exact absurd noNumeral isNumber
    | number n =>
      by_cases isInfinite : ∃ negative, n = .infinite negative
      · obtain ⟨negative, rfl⟩ := isInfinite
        exact ⟨t, negative, rfl, rfl, same.symm⟩
      · have reads : (Number.ofText? n.text).isSome = true :=
          Number.ofText?_text (fun isNan => ordered (congrArg Value.number isNan))
            fun negative isInf => isInfinite ⟨negative, isInf⟩
        exact absurd noNumeral (Option.isSome_iff_ne_none.1 reads)

/-! ## Equality -/

theorem number?_eq_none_iff_of_order_eq (presentLeft : a ≠ .missing) (presentRight : b ≠ .missing)
    (tie : collation.order a b = .eq) : a.number? = none ↔ b.number? = none := by
  rw [order_of_ne_missing presentLeft presentRight] at tie
  cases numberLeft : a.number? <;> cases numberRight : b.number? <;> simp_all

theorem order_eq_comparePresent (presentLeft : a ≠ .missing) (presentRight : b ≠ .missing)
    (alike : a.number? = none ↔ b.number? = none) :
    collation.order a b = collation.comparePresent a b := by
  rw [order_of_ne_missing presentLeft presentRight]
  cases numberLeft : a.number? <;> cases numberRight : b.number? <;> simp_all

/-- Values are equal if they tie, or if one is an infinite number and the other a text that spells
it. -/
theorem compare_eq_iff_order (presentLeft : a ≠ .missing) (presentRight : b ≠ .missing)
    (orderedLeft : a.IsOrdered) (orderedRight : b.IsOrdered) :
    collation.compare a .eq b = true ↔
      collation.order a b = .eq ∨ collation.Spells a b ∨ collation.Spells b a := by
  rw [compare_eq_iff presentLeft presentRight]
  constructor
  · intro equal
    by_cases noLeft : a.number? = none
    · by_cases noRight : b.number? = none
      · have alike := iff_of_true noLeft noRight
        exact .inl ((order_eq_comparePresent presentLeft presentRight alike).trans equal)
      · have same := (comparePresent_eq_iff_of_none (.inl noLeft)).1 equal
        exact .inr (.inl (spells_of_key_eq orderedRight noRight presentLeft noLeft same.symm))
    · by_cases noRight : b.number? = none
      · have same := (comparePresent_eq_iff_of_none (.inr noRight)).1 equal
        exact .inr (.inr (spells_of_key_eq orderedLeft noLeft presentRight noRight same))
      · have alike := iff_of_false noLeft noRight
        exact .inl ((order_eq_comparePresent presentLeft presentRight alike).trans equal)
  · intro equal
    rcases equal with tie | spells | spells
    · rwa [← order_eq_comparePresent presentLeft presentRight
        (number?_eq_none_iff_of_order_eq presentLeft presentRight tie)]
    · exact (comparePresent_eq_iff_of_none (.inl spells.number?_word)).2 spells.key_eq
    · exact (comparePresent_eq_iff_of_none (.inr spells.number?_word)).2 spells.key_eq.symm

theorem compare_eq_self (present : a ≠ .missing) (ordered : a.IsOrdered) :
    collation.compare a .eq a = true :=
  (compare_eq_iff_order present present ordered ordered).2
    (.inl ((order_eq_eq_iff ordered ordered).2 rfl))

theorem order_eq_comm (orderedLeft : a.IsOrdered) (orderedRight : b.IsOrdered) :
    collation.order a b = .eq ↔ collation.order b a = .eq := by
  rw [order_eq_eq_iff orderedLeft orderedRight, order_eq_eq_iff orderedRight orderedLeft, eq_comm]

theorem compare_eq_comm (presentLeft : a ≠ .missing) (presentRight : b ≠ .missing)
    (orderedLeft : a.IsOrdered) (orderedRight : b.IsOrdered) :
    collation.compare a .eq b = collation.compare b .eq a := by
  rw [Bool.eq_iff_iff, compare_eq_iff_order presentLeft presentRight orderedLeft orderedRight,
    compare_eq_iff_order presentRight presentLeft orderedRight orderedLeft,
    order_eq_comm orderedLeft orderedRight, or_comm (a := collation.Spells a b)]

/-! ## Transitivity -/

/-- An infinite number between a text that spells it and a text that reads as it, which are not
equal to one another. -/
def Detour (collation : Collation) (word infinite numeral : Value) : Prop :=
  collation.Spells word infinite ∧ collation.order infinite numeral = .eq ∧
    ∃ s, numeral = .text s

theorem Spells.of_tie (present : a ≠ .missing) (tie : collation.order a b = .eq)
    (spells : collation.Spells b c) : collation.Spells a c := by
  have noNumber : a.number? = none :=
    (number?_eq_none_iff_of_order_eq present spells.word_ne_missing tie).2 spells.number?_word
  have same : collation.key a.render = collation.key b.render := by
    rw [order_eq_comparePresent present spells.word_ne_missing
      (iff_of_true noNumber spells.number?_word)] at tie
    exact (comparePresent_eq_iff_of_none (.inl noNumber)).1 tie
  exact spells_of_key_eq spells.infinite_isOrdered spells.number?_infinite present noNumber
    (same.trans spells.key_eq).symm

theorem Spells.words_tie (left : collation.Spells a b) (right : collation.Spells c b) :
    collation.order a c = .eq := by
  rw [order_eq_comparePresent left.word_ne_missing right.word_ne_missing
    (iff_of_true left.number?_word right.number?_word)]
  exact (comparePresent_eq_iff_of_none (.inl left.number?_word)).2
    (left.key_eq.trans right.key_eq.symm)

theorem key_infinite_ne (collation : Collation) :
    collation.key (Number.infinite false).text ≠ collation.key (Number.infinite true).text := by
  cases collation <;> decide +kernel

theorem key_infinite_injective {negative negative' : Bool}
    (same : collation.key (Number.infinite negative).text =
      collation.key (Number.infinite negative').text) : negative = negative' := by
  cases negative with
  | false =>
    cases negative' with
    | false => rfl
    | true => exact absurd same (key_infinite_ne collation)
  | true =>
    cases negative' with
    | false => exact absurd same.symm (key_infinite_ne collation)
    | true => rfl

theorem Spells.infinite_eq (left : collation.Spells b a) (right : collation.Spells b c) :
    a = c := by
  obtain ⟨s, negative, rfl, rfl, same⟩ := left
  obtain ⟨s', negative', isText, rfl, same'⟩ := right
  obtain rfl := Value.text.inj isText
  rw [key_infinite_injective (same.symm.trans same')]

theorem Spells.of_tie_infinite (ordered : a.IsOrdered) (present : a ≠ .missing)
    (spells : collation.Spells c b) (tie : collation.order b a = .eq) :
    collation.Spells c a ∨ ∃ s, a = .text s := by
  cases a with
  | missing => exact absurd rfl present
  | text s => exact .inr ⟨s, rfl⟩
  | number n =>
    obtain ⟨negative, rfl⟩ := spells.exists_infinite
    have orderedNumber := Value.isOrdered_of_number? ordered (n := n) rfl
    have orderedInfinite : (Number.infinite negative).IsOrdered := by
      simp [Number.IsOrdered, Number.infinite]
    rw [order_eq_compare (m := .infinite negative) (n := n) rfl rfl] at tie
    have same := (Number.compare_compares orderedInfinite orderedNumber).eq_eq.1 tie
    rw [← Number.eq_infinite_of_exact orderedNumber same]
    exact .inl spells

theorem compare_eq_trans (presentLeft : a ≠ .missing) (presentMiddle : b ≠ .missing)
    (presentRight : c ≠ .missing) (orderedLeft : a.IsOrdered) (orderedMiddle : b.IsOrdered)
    (orderedRight : c.IsOrdered) (first : collation.compare a .eq b = true)
    (second : collation.compare b .eq c = true) :
    collation.compare a .eq c = true ∨ collation.Detour a b c ∨ collation.Detour c b a := by
  rw [compare_eq_iff_order presentLeft presentRight orderedLeft orderedRight]
  have first := (compare_eq_iff_order presentLeft presentMiddle orderedLeft orderedMiddle).1 first
  have second :=
    (compare_eq_iff_order presentMiddle presentRight orderedMiddle orderedRight).1 second
  have comm : collation.order a b = .eq ↔ collation.order b a = .eq :=
    order_eq_comm orderedLeft orderedMiddle
  have comm' : collation.order b c = .eq ↔ collation.order c b = .eq :=
    order_eq_comm orderedMiddle orderedRight
  -- Each step ties, leads from a word to its number, or from a number to a word; only a tie beside
  -- the number can leave the pairs that are equal.
  rcases first with tie | isWord | isInfinite
  · rcases second with tie' | isWord' | isInfinite'
    · have places := (order_eq_eq_iff orderedLeft orderedMiddle).1 tie
      have places' := (order_eq_eq_iff orderedMiddle orderedRight).1 tie'
      exact .inl (.inl ((order_eq_eq_iff orderedLeft orderedRight).2 (places.trans places')))
    · exact .inl (.inr (.inl (.of_tie presentLeft tie isWord')))
    · rcases isInfinite'.of_tie_infinite orderedLeft presentLeft (comm.1 tie) with spells | isText
      · exact .inl (.inr (.inr spells))
      · exact .inr (.inr ⟨isInfinite', comm.1 tie, isText⟩)
  · rcases second with tie' | isWord' | isInfinite'
    · rcases isWord.of_tie_infinite orderedRight presentRight tie' with spells | isText
      · exact .inl (.inr (.inl spells))
      · exact .inr (.inl ⟨isWord, tie', isText⟩)
    · exact absurd isWord'.number?_word isWord.number?_infinite
    · exact .inl (.inl (isWord.words_tie isInfinite'))
  · rcases second with tie' | isWord' | isInfinite'
    · exact .inl (.inr (.inr (.of_tie presentRight (comm'.1 tie') isInfinite)))
    · rw [isInfinite.infinite_eq isWord']
      exact .inl (.inl ((order_eq_eq_iff orderedRight orderedRight).2 rfl))
    · exact absurd isInfinite.number?_word isInfinite'.number?_infinite

theorem Detour.not_compare_eq (detour : collation.Detour a b c) :
    collation.compare a .eq c = false := by
  obtain ⟨spells, tie, s, rfl⟩ := detour
  have present : Value.text s ≠ .missing := nofun
  have isNumeral : Number.ofText? s ≠ none := by
    intro noNumber
    exact spells.number?_infinite
      ((number?_eq_none_iff_of_order_eq spells.infinite_ne_missing present tie).2 noNumber)
  apply Bool.eq_false_iff.2
  intro equal
  have same := (comparePresent_eq_iff_of_none (.inl spells.number?_word)).1
    ((compare_eq_iff spells.word_ne_missing present).1 equal)
  obtain ⟨t, rfl⟩ := spells.exists_text
  have reads := ofText?_of_key_eq (Option.isSome_iff_ne_none.2 isNumeral) same.symm
  exact isNumeral (reads.symm.trans spells.number?_word)

/-- Present values are equal exactly if they tie, but for an infinite number and a text that spells
it: these are equal, and sorting keeps the text behind the number.  Equality is reflexive and
symmetric, and it is transitive unless it goes from a text that spells an infinite number over that
number to a text that reads as it. -/
theorem equality_ties (collation : Collation) :
    (∀ a b : Value, a ≠ .missing → b ≠ .missing → a.IsOrdered → b.IsOrdered →
        (collation.compare a .eq b = true ↔
          collation.order a b = .eq ∨ collation.Spells a b ∨ collation.Spells b a)) ∧
      (∀ word infinite : Value, collation.Spells word infinite →
        collation.order word infinite = .gt ∧ collation.order infinite word = .lt) ∧
      (∀ a : Value, a ≠ .missing → a.IsOrdered → collation.compare a .eq a = true) ∧
      (∀ a b : Value, a ≠ .missing → b ≠ .missing → a.IsOrdered → b.IsOrdered →
        collation.compare a .eq b = collation.compare b .eq a) ∧
      ∀ a b c : Value, a ≠ .missing → b ≠ .missing → c ≠ .missing →
        a.IsOrdered → b.IsOrdered → c.IsOrdered →
          collation.compare a .eq b = true → collation.compare b .eq c = true →
            (collation.compare a .eq c = true ↔
              ¬ (collation.Detour a b c ∨ collation.Detour c b a)) := by
  refine ⟨fun a b => compare_eq_iff_order, ?_, fun a => compare_eq_self,
    fun a b => compare_eq_comm, ?_⟩
  · intro word infinite spells
    exact ⟨spells.order_eq_gt, spells.order_eq_lt⟩
  · intro a b c presentLeft presentMiddle presentRight orderedLeft orderedMiddle orderedRight
      first second
    constructor
    · intro equal detour
      rcases detour with detour | detour
      · rw [detour.not_compare_eq] at equal
        cases equal
      · rw [compare_eq_comm presentLeft presentRight orderedLeft orderedRight,
          detour.not_compare_eq] at equal
        cases equal
    · intro noDetour
      exact (compare_eq_trans presentLeft presentMiddle presentRight orderedLeft orderedMiddle
        orderedRight first second).resolve_right noDetour

/-- Infinity equals the text `INF` where case is ignored, and the numeral `1e999`, which does not
equal that text. -/
theorem equality_ties_infinite :
    let infinite : Value := .number (.infinite false)
    let word : Value := .text "INF"
    let numeral : Value := .text "1e999"
    (infinite ≠ .missing ∧ word ≠ .missing ∧ numeral ≠ .missing) ∧
      (infinite.IsOrdered ∧ word.IsOrdered ∧ numeral.IsOrdered) ∧
      compare .ignoringCase word .eq infinite = true ∧
      order .ignoringCase word infinite = .gt ∧
      compare .ignoringCase infinite .eq numeral = true ∧
      compare .ignoringCase word .eq numeral = false := by
  intro infinite word numeral
  have present : infinite ≠ .missing ∧ word ≠ .missing ∧ numeral ≠ .missing := by decide
  have ordered : infinite.IsOrdered ∧ word.IsOrdered ∧ numeral.IsOrdered := by decide
  have spells : Spells .ignoringCase word infinite :=
    ⟨"INF", false, rfl, rfl, by decide +kernel⟩
  have tie : order .ignoringCase infinite numeral = .eq := by decide +kernel
  obtain ⟨equals, behind, _, _, trans⟩ := equality_ties .ignoringCase
  have first := (equals word infinite present.2.1 present.1 ordered.2.1 ordered.1).2
    (.inr (.inl spells))
  have second := (equals infinite numeral present.1 present.2.2 ordered.1 ordered.2.2).2 (.inl tie)
  refine ⟨present, ordered, first, (behind word infinite spells).1, second, ?_⟩
  apply Bool.eq_false_iff.2
  intro equal
  exact (trans word infinite numeral present.2.1 present.1 present.2.2 ordered.2.1 ordered.1
    ordered.2.2 first second).1 equal (.inl ⟨spells, tie, "1e999", rfl⟩)

/-- Equality is not the same as a tie, and it is not transitive: infinity equals the text `inf`
without tying with it, and lies between that text and the numeral `1e999`. -/
theorem equality_ne_tie :
    (¬ ∀ (collation : Collation) (a b : Value), a ≠ .missing → b ≠ .missing →
        a.IsOrdered → b.IsOrdered →
          (collation.compare a .eq b = true ↔ collation.order a b = .eq)) ∧
      ¬ ∀ (collation : Collation) (a b c : Value), a ≠ .missing → b ≠ .missing → c ≠ .missing →
        a.IsOrdered → b.IsOrdered → c.IsOrdered →
          collation.compare a .eq b = true → collation.compare b .eq c = true →
            collation.compare a .eq c = true := by
  constructor
  · intro agree
    have tie := (agree .exact (.number (.infinite false)) (.text "inf") (by decide) (by decide)
      (by decide) (by decide)).1 (by decide +kernel)
    exact absurd tie (by decide +kernel)
  · intro trans
    have equal := trans .exact (.text "inf") (.number (.infinite false)) (.text "1e999")
      (by decide) (by decide) (by decide) (by decide) (by decide) (by decide) (by decide +kernel)
      (by decide +kernel)
    exact absurd equal (by decide +kernel)

end Collation

end LogSelect
