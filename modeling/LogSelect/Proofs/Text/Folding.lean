import LogSelect.Collation
import LogSelect.Proofs.Number.Text

/-!
Case folding keeps numerals apart from other texts.

The characters of numerals fold to themselves, the mark of an exponent apart, and no other
character folds to one of them.  So a text is a numeral if it folds as a numeral does.
-/

namespace LogSelect

/-! ## The characters of numerals -/

def numeralBlocks : List (Nat × Nat) :=
  [(43, 44), (45, 47), (69, 70), (101, 102)] ++ digitZeros.map fun first => (first, first + 10)

def isNumeralChar (c : Char) : Bool :=
  numeralBlocks.any fun block => block.1 ≤ c.toNat && c.toNat < block.2

/-- Whether no character of numerals lies between two code points. -/
def isClear (first last : Nat) : Bool :=
  numeralBlocks.all fun block => last < block.1 || block.2 ≤ first

theorem isNumeralChar_of_isClear {first last : Nat} {c : Char} (clear : isClear first last = true)
    (above : first ≤ c.toNat) (below : c.toNat ≤ last) : isNumeralChar c = false := by
  apply List.any_eq_false.2
  intro block member
  have apart := List.all_eq_true.1 clear block member
  simp only [Bool.or_eq_true, Bool.and_eq_true, decide_eq_true_eq] at apart ⊢
  omega

theorem isNumeralChar_ofNat {first last code : Nat} (clear : isClear first last = true)
    (above : first ≤ code) (below : code ≤ last) : isNumeralChar (Char.ofNat code) = false := by
  by_cases valid : code.isValidChar
  · have same : (Char.ofNat code).toNat = code := by
      rw [Char.ofNat, dif_pos valid]
      rfl
    exact isNumeralChar_of_isClear clear (by rwa [same]) (by rwa [same])
  · rw [Char.ofNat, dif_neg valid]
    decide +kernel

theorem isNumeralChar_of_isDigit {c : Char} (digit : isDigit c = true) :
    isNumeralChar c = true := by
  obtain ⟨value, isValue⟩ := Option.isSome_iff_exists.1 digit
  obtain ⟨first, found, _⟩ := Option.map_eq_some_iff.1 isValue
  have member : (first, first + 10) ∈ numeralBlocks :=
    List.mem_append_right _ (List.mem_map_of_mem (List.mem_of_find?_eq_some found))
  have inside := List.find?_some found
  exact List.any_eq_true.2 ⟨_, member, inside⟩

def lowerMark (c : Char) : Char :=
  if c = 'E' then 'e' else c

@[simp]
theorem isNumeralChar_lowerMark (c : Char) : isNumeralChar (lowerMark c) = isNumeralChar c := by
  unfold lowerMark
  split
  · rename_i isMark
    subst isMark
    decide +kernel
  · rfl

/-! ## Folding of characters -/

/-- How a character folds: one of a numeral to itself, but for the exponent mark, and another to
others. -/
def FoldsApart (c : Char) (image : List Char) : Prop :=
  (isNumeralChar c = true ∧ image = [lowerMark c]) ∨
    (isNumeralChar c = false ∧ image ≠ [] ∧ image.any isNumeralChar = false)

instance (c : Char) (image : List Char) : Decidable (FoldsApart c image) :=
  inferInstanceAs (Decidable (_ ∨ _))

theorem foldsApart_self {c : Char} (notMark : c ≠ 'E') : FoldsApart c [c] := by
  cases numeral : isNumeralChar c with
  | false => exact .inr ⟨numeral, by simp, by simpa using numeral⟩
  | true => exact .inl ⟨numeral, by rw [lowerMark, if_neg notMark]⟩

theorem foldsApart_expansion :
    ∀ entry ∈ foldedCase.expansions,
      FoldsApart (Char.ofNat entry.1) (entry.2.map Char.ofNat) := by
  decide +kernel

theorem foldsApart_capital :
    ∀ i < 26, FoldsApart (Char.ofNat (65 + i)) (foldedCase.image (Char.ofNat (65 + i))) := by
  decide +kernel

/-- All runs but that of the capitals `A` to `Z` keep clear of numerals, and so do their images. -/
theorem isClear_runs :
    ∀ run ∈ foldedCase.runs.tail, isClear run.first run.last = true ∧
      isClear (run.first + run.shift).toNat (run.last + run.shift).toNat = true := by
  decide +kernel

theorem foldsApart_image? {run : CaseRun} {c d : Char} (member : run ∈ foldedCase.runs.tail)
    (image : run.image? c.toNat = some d) : FoldsApart c [d] := by
  obtain ⟨clear, clearImage⟩ := isClear_runs run member
  unfold CaseRun.image? at image
  split at image
  · rename_i inside
    obtain rfl := Option.some.inj image
    have other := isNumeralChar_of_isClear clear inside.1 inside.2.1
    have otherImage : isNumeralChar (Char.ofNat (c.toNat + run.shift).toNat) = false :=
      isNumeralChar_ofNat clearImage (by omega) (by omega)
    exact .inr ⟨other, by simp, by simpa using otherImage⟩
  · cases image

theorem mem_tail_runs {run : CaseRun} {code : Nat} {d : Char}
    (noCapital : ¬ (65 ≤ code ∧ code ≤ 90)) (member : run ∈ foldedCase.runs)
    (image : run.image? code = some d) : run ∈ foldedCase.runs.tail := by
  have split : foldedCase.runs = ⟨65, 90, 1, 32⟩ :: foldedCase.runs.tail := rfl
  rw [split] at member
  rcases List.mem_cons.1 member with isFirst | later
  · subst isFirst
    simp only [CaseRun.image?] at image
    split at image
    · rename_i inside
      exact absurd ⟨inside.1, inside.2.1⟩ noCapital
    · cases image
  · exact later

theorem foldsApart_image (c : Char) : FoldsApart c (foldedCase.image c) := by
  by_cases capital : 65 ≤ c.toNat ∧ c.toNat ≤ 90
  · have apart := foldsApart_capital (c.toNat - 65) (by omega)
    rwa [Nat.add_sub_cancel' capital.1, Char.ofNat_toNat] at apart
  · have notMark : c ≠ 'E' := by
      intro isMark
      subst isMark
      exact capital (by decide)
    unfold CaseMap.image
    split
    · rename_i codes found
      obtain ⟨before, behind, split, _⟩ := List.lookup_eq_some_iff.1 found
      have apart := foldsApart_expansion (c.toNat, codes) (by simp [split])
      rwa [Char.ofNat_toNat] at apart
    · cases found : foldedCase.runs.find? fun run => decide (c.toNat ≤ run.last) with
      | none => exact foldsApart_self notMark
      | some run =>
        cases image : run.image? c.toNat with
        | none =>
          rw [Option.bind_some, image]
          exact foldsApart_self notMark
        | some d =>
          rw [Option.bind_some, image]
          exact foldsApart_image?
            (mem_tail_runs capital (List.mem_of_find?_eq_some found) image) image

/-! ## Folding of texts -/

variable {cs ds : List Char}

theorem flatMap_image (numeral : ∀ c ∈ cs, isNumeralChar c = true) :
    cs.flatMap foldedCase.image = cs.map lowerMark := by
  induction cs with
  | nil => rfl
  | cons c cs ih =>
    obtain ⟨first, others⟩ := List.forall_mem_cons.1 numeral
    have image : foldedCase.image c = [lowerMark c] := by
      rcases foldsApart_image c with ⟨_, image⟩ | ⟨other, _⟩
      · exact image
      · rw [first] at other
        cases other
    rw [List.flatMap_cons, image, ih others]
    rfl

theorem isNumeralChar_of_flatMap_eq (numeral : ∀ c ∈ cs, isNumeralChar c = true)
    (same : ds.flatMap foldedCase.image = cs.flatMap foldedCase.image) :
    ∀ d ∈ ds, isNumeralChar d = true := by
  intro d member
  rcases foldsApart_image d with ⟨isNumeral, _⟩ | ⟨_, nonempty, others⟩
  · exact isNumeral
  · obtain ⟨e, isImage⟩ := List.exists_mem_of_ne_nil _ nonempty
    have folded : e ∈ cs.map lowerMark := by
      rw [← flatMap_image numeral, ← same]
      exact List.mem_flatMap.2 ⟨d, member, isImage⟩
    obtain ⟨c, isChar, rfl⟩ := List.mem_map.1 folded
    apply absurd _ (List.any_eq_false.1 others _ isImage)
    rw [isNumeralChar_lowerMark, numeral c isChar]

/-! ## Numerals -/

namespace Numeral

theorem digitValue?_lowerMark (c : Char) : digitValue? (lowerMark c) = digitValue? c := by
  unfold lowerMark
  split
  · rename_i isMark
    subst isMark
    decide +kernel
  · rfl

theorem takeDigits_map (cs : List Char) :
    takeDigits (cs.map lowerMark) =
      ((takeDigits cs).1, (takeDigits cs).2.map lowerMark) := by
  induction cs with
  | nil => rfl
  | cons c cs ih =>
    rw [List.map_cons, takeDigits, takeDigits, digitValue?_lowerMark]
    cases digitValue? c with
    | none => rfl
    | some value => rw [ih]

theorem takeSign_map (cs : List Char) :
    takeSign (cs.map lowerMark) = ((takeSign cs).1, (takeSign cs).2.map lowerMark) := by
  cases cs with
  | nil => rfl
  | cons c cs =>
    by_cases isMark : c = 'E'
    · subst isMark
      rfl
    · have kept : lowerMark c = c := if_neg isMark
      rw [List.map_cons, kept, takeSign_cons, takeSign_cons]
      split
      · rfl
      · split
        · rfl
        · rw [List.map_cons, kept]

theorem takeFraction_map (cs : List Char) :
    takeFraction (cs.map lowerMark) =
      ((takeFraction cs).1, (takeFraction cs).2.map lowerMark) := by
  cases cs with
  | nil => rfl
  | cons c cs =>
    by_cases isMark : c = 'E'
    · subst isMark
      rfl
    · have kept : lowerMark c = c := if_neg isMark
      rw [List.map_cons, kept, takeFraction_cons, takeFraction_cons, takeDigits_map]
      split
      · rfl
      · rw [List.map_cons, kept]

theorem lowerMark_isMark_iff (c : Char) :
    (lowerMark c = 'e' ∨ lowerMark c = 'E') ↔ (c = 'e' ∨ c = 'E') := by
  unfold lowerMark
  split
  · rename_i isMark
    exact iff_of_true (.inl rfl) (.inr isMark)
  · rfl

theorem readExponent?_map (cs : List Char) :
    readExponent? (cs.map lowerMark) = readExponent? cs := by
  cases cs with
  | nil => rfl
  | cons c cs =>
    simp only [List.map_cons, readExponent?, lowerMark_isMark_iff, takeSign_map, takeDigits_map]
    cases takeDigits (takeSign cs).2 with
    | mk values rest =>
      cases values with
      | nil => rfl
      | cons value values => cases rest <;> rfl

theorem read?_map (cs : List Char) : read? (cs.map lowerMark) = read? cs := by
  simp only [read?, takeSign_map, takeDigits_map, takeFraction_map, readExponent?_map]

/-! ### The characters of a numeral -/

variable {c : Char}

theorem isNumeralChar_mark (mark : c ∈ ['+', '-', '.', 'e', 'E']) : isNumeralChar c = true := by
  have all : ['+', '-', '.', 'e', 'E'].all isNumeralChar = true := by decide +kernel
  exact List.all_eq_true.1 all c mark

theorem mem_takeSign (member : c ∈ cs) : isNumeralChar c = true ∨ c ∈ (takeSign cs).2 := by
  cases cs with
  | nil => cases member
  | cons d cs =>
    rw [takeSign_cons]
    split
    · rename_i isPlus
      subst isPlus
      exact (List.mem_cons.1 member).imp_left fun isFirst =>
        isNumeralChar_mark (by simp [isFirst])
    · split
      · rename_i _ isMinus
        subst isMinus
        exact (List.mem_cons.1 member).imp_left fun isFirst =>
          isNumeralChar_mark (by simp [isFirst])
      · exact .inr member

theorem mem_takeDigits (member : c ∈ cs) : isNumeralChar c = true ∨ c ∈ (takeDigits cs).2 := by
  induction cs with
  | nil => cases member
  | cons d cs ih =>
    cases isValue : digitValue? d with
    | none => exact .inr (by simpa [takeDigits, isValue] using member)
    | some value =>
      simp only [takeDigits, isValue]
      rcases List.mem_cons.1 member with isFirst | later
      · subst isFirst
        exact .inl (isNumeralChar_of_isDigit (by simp [isDigit, isValue]))
      · exact ih later

theorem mem_takeFraction (member : c ∈ cs) :
    isNumeralChar c = true ∨ c ∈ (takeFraction cs).2 := by
  cases cs with
  | nil => cases member
  | cons d cs =>
    rw [takeFraction_cons]
    split
    · rename_i isPoint
      subst isPoint
      rcases List.mem_cons.1 member with isFirst | later
      · exact .inl (isNumeralChar_mark (by simp [isFirst]))
      · exact mem_takeDigits later
    · exact .inr member

theorem isNumeralChar_of_readExponent? (isExponent : (readExponent? cs).isSome = true)
    (member : c ∈ cs) : isNumeralChar c = true := by
  cases cs with
  | nil => cases member
  | cons d cs =>
    simp only [readExponent?] at isExponent
    split at isExponent
    · rename_i isMark
      rcases List.mem_cons.1 member with isFirst | later
      · subst isFirst
        rcases isMark with isMark | isMark
        · exact isNumeralChar_mark (by simp [isMark])
        · exact isNumeralChar_mark (by simp [isMark])
      · rcases mem_takeSign later with isNumeral | behindSign
        · exact isNumeral
        · rcases mem_takeDigits behindSign with isNumeral | behindDigits
          · exact isNumeral
          · split at isExponent
            · rename_i taken
              rw [taken] at behindDigits
              cases behindDigits
            · cases isExponent
    · cases isExponent

theorem isNumeralChar_of_read? (isNumeral : (read? cs).isSome = true) (member : c ∈ cs) :
    isNumeralChar c = true := by
  have isExponent :
      (readExponent? (takeFraction (takeDigits (takeSign cs).2).2).2).isSome = true := by
    simp only [read?] at isNumeral
    split at isNumeral
    · cases isNumeral
    · rwa [Option.isSome_map] at isNumeral
  rcases mem_takeSign member with isChar | behindSign
  · exact isChar
  · rcases mem_takeDigits behindSign with isChar | behindDigits
    · exact isChar
    · rcases mem_takeFraction behindDigits with isChar | behindFraction
      · exact isChar
      · exact isNumeralChar_of_readExponent? isExponent behindFraction

end Numeral

/-- A text that folds as a numeral reads as the same number. -/
theorem Number.ofText?_of_foldText_eq {s t : String} (isNumeral : (ofText? s).isSome = true)
    (same : foldText s = foldText t) : ofText? t = ofText? s := by
  have folded : s.toList.flatMap foldedCase.image = t.toList.flatMap foldedCase.image :=
    String.ofList_injective same
  rw [ofText?, Option.isSome_map] at isNumeral
  have chars : ∀ c ∈ s.toList, isNumeralChar c = true :=
    fun c member => Numeral.isNumeralChar_of_read? isNumeral member
  have charsOther := isNumeralChar_of_flatMap_eq chars folded.symm
  have lowered : s.toList.map lowerMark = t.toList.map lowerMark := by
    rw [← flatMap_image chars, folded, flatMap_image charsOther]
  rw [ofText?, ofText?, ← Numeral.read?_map, ← lowered, Numeral.read?_map]

/-- Whether a text is a numeral is seen from what it is compared as. -/
theorem Collation.ofText?_of_key_eq {collation : Collation} {s t : String}
    (isNumeral : (Number.ofText? s).isSome = true) (same : collation.key s = collation.key t) :
    Number.ofText? t = Number.ofText? s := by
  cases collation with
  | exact => exact congrArg Number.ofText? (show t = s from same.symm)
  | ignoringCase => exact Number.ofText?_of_foldText_eq isNumeral same

end LogSelect
