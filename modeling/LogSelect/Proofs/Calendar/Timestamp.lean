import LogSelect.Proofs.Text.Utf8

/-!
The forms of timestamps.

A date has one of six forms, and its end is seen from the form, whatever follows that neither
continues a number nor is a hyphen.  A time with nothing left behind it consists of digits, points
and colons.
-/

namespace LogSelect.Calendar

/-! ## Numbers -/

def IsDigit (b : Nat) : Prop :=
  48 ≤ b ∧ b ≤ 57

structure Digits (count : Nat) (bytes : List Nat) : Prop where
  size : bytes.length = count
  all : ∀ b ∈ bytes, IsDigit b

variable {bytes rest : List Nat} {count value : Nat}

theorem isDigit_of_digit? {b d : Nat} (isDigit : digit? b = some d) : IsDigit b := by
  unfold digit? at isDigit
  split at isDigit
  next range => exact range
  next => cases isDigit

theorem digit?_isSome_iff {b : Nat} : (digit? b).isSome = true ↔ IsDigit b := by
  unfold digit? IsDigit
  split <;> simp_all

theorem exists_digits_of_takeNumberFrom? {before : Nat}
    (taken : takeNumberFrom? before count bytes = some (value, rest)) :
    ∃ digits, Digits count digits ∧ bytes = digits ++ rest := by
  induction count generalizing before bytes with
  | zero =>
    cases taken
    exact ⟨[], ⟨rfl, nofun⟩, rfl⟩
  | succ count ih =>
    cases bytes with
    | nil => cases taken
    | cons b bytes =>
      obtain ⟨d, isDigit, others⟩ := Option.bind_eq_some_iff.1 taken
      obtain ⟨digits, ⟨size, all⟩, rfl⟩ := ih others
      refine ⟨b :: digits, ⟨by rw [List.length_cons, size], ?_⟩, rfl⟩
      exact List.forall_mem_cons.2 ⟨isDigit_of_digit? isDigit, all⟩

theorem exists_digits (taken : takeNumber? count bytes = some (value, rest)) :
    ∃ digits, Digits count digits ∧ bytes = digits ++ rest :=
  exists_digits_of_takeNumberFrom? taken

/-! ## Dates -/

def dash (extended : Bool) : List Nat :=
  if extended then [hyphen] else []

/-- The forms of dates: of a month or of a week, the day of a week perhaps missing. -/
inductive DateForm : List Nat → Prop where
  | month (extended : Bool) {y m d} : Digits 4 y → Digits 2 m → Digits 2 d →
      DateForm (y ++ (dash extended ++ (m ++ (dash extended ++ d))))
  | week (extended : Bool) {y w} : Digits 4 y → Digits 2 w →
      DateForm (y ++ (dash extended ++ letterW :: w))
  | weekDay (extended : Bool) {y w d} : Digits 4 y → Digits 2 w → Digits 1 d →
      DateForm (y ++ (dash extended ++ letterW :: (w ++ (dash extended ++ d))))

def IsDateByte (b : Nat) : Prop :=
  IsDigit b ∨ b = hyphen ∨ b = letterW

theorem Digits.dateBytes (digits : Digits count bytes) : ∀ b ∈ bytes, IsDateByte b :=
  fun b member => .inl (digits.all b member)

theorem dash_dateBytes (extended : Bool) : ∀ b ∈ dash extended, IsDateByte b := by
  intro b member
  cases extended with
  | false => cases member
  | true => exact .inr (.inl (List.mem_singleton.1 member))

theorem DateForm.dateBytes {date : List Nat} (form : DateForm date) :
    ∀ b ∈ date, IsDateByte b := by
  have letter : IsDateByte letterW := .inr (.inr rfl)
  cases form with
  | month extended y m d =>
    simp only [List.forall_mem_append]
    exact ⟨y.dateBytes, dash_dateBytes _, m.dateBytes, dash_dateBytes _, d.dateBytes⟩
  | week extended y w =>
    simp only [List.forall_mem_append, List.forall_mem_cons]
    exact ⟨y.dateBytes, dash_dateBytes _, letter, w.dateBytes⟩
  | weekDay extended y w d =>
    simp only [List.forall_mem_append, List.forall_mem_cons]
    exact ⟨y.dateBytes, dash_dateBytes _, letter, w.dateBytes, dash_dateBytes _, d.dateBytes⟩

theorem Digits.eq_four (digits : Digits 4 bytes) : ∃ a b c d, bytes = [a, b, c, d] := by
  obtain ⟨size, -⟩ := digits
  match bytes, size with
  | [a, b, c, d], _ => exact ⟨a, b, c, d, rfl⟩

theorem Digits.eq_two (digits : Digits 2 bytes) : ∃ a b, bytes = [a, b] := by
  obtain ⟨size, -⟩ := digits
  match bytes, size with
  | [a, b], _ => exact ⟨a, b, rfl⟩

theorem Digits.eq_one (digits : Digits 1 bytes) : ∃ a, bytes = [a] :=
  List.length_eq_one_iff.1 digits.size

theorem IsDigit.ne {b other : Nat} (isDigit : IsDigit b) (outside : other < 48 ∨ 57 < other) :
    b ≠ other := by
  unfold IsDigit at isDigit
  omega

theorem DateForm.dateEnd {date behind : List Nat} {x : Nat} (form : DateForm date)
    (noDigit : ¬ IsDigit x) (noHyphen : x ≠ hyphen) :
    dateEnd (date ++ x :: behind) = date.length := by
  have stop : (digit? x).isSome = false := by
    rw [Bool.eq_false_iff, Ne, digit?_isSome_iff]
    exact noDigit
  cases form with
  | month extended y m d =>
    obtain ⟨y₁, y₂, y₃, y₄, rfl⟩ := y.eq_four
    obtain ⟨m₁, m₂, rfl⟩ := m.eq_two
    obtain ⟨d₁, d₂, rfl⟩ := d.eq_two
    have first : IsDigit m₁ := m.all m₁ List.mem_cons_self
    have notHyphen : m₁ ≠ hyphen := first.ne (by decide)
    have notLetter : m₁ ≠ letterW := first.ne (by decide)
    cases extended with
    | false => simp [Calendar.dateEnd, byteAt, dash, notHyphen, notLetter]
    | true => simp [Calendar.dateEnd, byteAt, dash, notLetter]
  | week extended y w =>
    obtain ⟨y₁, y₂, y₃, y₄, rfl⟩ := y.eq_four
    obtain ⟨w₁, w₂, rfl⟩ := w.eq_two
    cases extended with
    | false => simp [Calendar.dateEnd, byteAt, dash, stop, show letterW ≠ hyphen by decide]
    | true => simp [Calendar.dateEnd, byteAt, dash, noHyphen]
  | weekDay extended y w d =>
    obtain ⟨y₁, y₂, y₃, y₄, rfl⟩ := y.eq_four
    obtain ⟨w₁, w₂, rfl⟩ := w.eq_two
    obtain ⟨d₁, rfl⟩ := d.eq_one
    have day : (digit? d₁).isSome = true := digit?_isSome_iff.2 (d.all d₁ List.mem_cons_self)
    cases extended with
    | false => simp [Calendar.dateEnd, byteAt, dash, stop, day, show letterW ≠ hyphen by decide]
    | true =>
      have noDay : digit? x = none :=
        Option.isNone_iff_eq_none.1 (Option.isSome_eq_false_iff.1 stop)
      simp [Calendar.dateEnd, byteAt, dash, noDay]

theorem byteAt_append {front : List Nat} {i : Nat} (size : front.length = i) (rest : List Nat) :
    byteAt (front ++ rest) i = rest.headD 0 := by
  subst size
  cases rest <;> simp [byteAt]

theorem dateEnd_cases (bytes : List Nat) :
    dateEnd bytes = 7 ∨ dateEnd bytes = 8 ∨ dateEnd bytes = 10 := by
  unfold dateEnd
  dsimp only
  split_ifs <;> omega

theorem dateEnd_ne_seven (isHyphen : byteAt bytes 4 = hyphen) (long : bytes.length ≠ 7) :
    dateEnd bytes ≠ 7 := by
  unfold dateEnd
  rw [if_neg long, if_pos isHyphen]
  split_ifs <;> decide

theorem dateEnd_ne_ten (isLetter : byteAt bytes 4 = letterW) : dateEnd bytes ≠ 10 := by
  have noHyphen : byteAt bytes 4 ≠ hyphen := by
    rw [isLetter]
    decide
  unfold dateEnd
  rw [if_neg noHyphen, if_pos isLetter]
  dsimp only
  split_ifs <;> omega

theorem dash_of_headD (bytes : List Nat) :
    bytes = dash (bytes.headD 0 == hyphen) ++
      (if bytes.headD 0 == hyphen then bytes.drop 1 else bytes) := by
  cases bytes with
  | nil => rfl
  | cons b bytes =>
    by_cases isHyphen : b = hyphen
    · simp [isHyphen, dash]
    · simp [isHyphen, dash]

theorem dash_of_not {extended : Bool} {bytes : List Nat}
    (passes : ¬ (extended && bytes.headD 0 != hyphen) = true) :
    bytes = dash extended ++ (if extended then bytes.drop 1 else bytes) := by
  cases extended with
  | false => rfl
  | true =>
    have isHyphen : bytes.headD 0 = hyphen := by simpa using passes
    have split := dash_of_headD bytes
    rw [isHyphen, beq_self_eq_true] at split
    exact split

theorem eq_cons_of_headD {b : Nat} (first : bytes.headD 0 = b) (nonzero : b ≠ 0) :
    bytes = b :: bytes.drop 1 := by
  cases bytes with
  | nil => exact absurd first.symm nonzero
  | cons c bytes =>
    obtain rfl : c = b := first
    rfl

variable {year size : Nat} {extended : Bool}

theorem exists_week (isWeek : isWeekDate year extended size bytes = true) :
    ∃ w more, Digits 2 w ∧ bytes = w ++ more ∧
      ((if extended then 8 else 7) < size → ∃ d rest, Digits 1 d ∧
        more = dash extended ++ (d ++ rest)) := by
  unfold isWeekDate at isWeek
  split at isWeek
  next => cases isWeek
  next week more taken =>
    obtain ⟨w, weeks, split⟩ := exists_digits taken
    refine ⟨w, more, weeks, split, fun hasDay => ?_⟩
    rw [if_pos hasDay] at isWeek
    split at isWeek
    next => cases isWeek
    next passes =>
      split at isWeek
      next => cases isWeek
      next day rest takenDay =>
        obtain ⟨d, days, splitDay⟩ := exists_digits takenDay
        exact ⟨d, rest, days, (dash_of_not passes).trans (by rw [splitDay])⟩

theorem exists_month (isMonth : isMonthDate year extended size bytes = true) :
    ∃ m d rest, Digits 2 m ∧ Digits 2 d ∧ bytes = m ++ (dash extended ++ (d ++ rest)) ∧
      size = if extended then 10 else 8 := by
  unfold isMonthDate at isMonth
  split at isMonth
  next => cases isMonth
  next month more taken =>
    obtain ⟨m, months, split⟩ := exists_digits taken
    split at isMonth
    next => cases isMonth
    next passes =>
      split at isMonth
      next => cases isMonth
      next day rest takenDay =>
        obtain ⟨d, days, splitDay⟩ := exists_digits takenDay
        refine ⟨m, d, rest, months, days, ?_, eq_of_beq (Bool.and_eq_true_iff.1 isMonth).1⟩
        rw [split, dash_of_not passes, splitDay]

theorem length_dash (extended : Bool) : (dash extended).length = if extended then 1 else 0 := by
  cases extended <;> rfl

theorem dateEnd_of_week {y w more : List Nat} (years : Digits 4 y) (weeks : Digits 2 w)
    (whole : bytes = y ++ (dash extended ++ letterW :: (w ++ more))) :
    dateEnd bytes = (if extended then 8 else 7) ∨
      dateEnd bytes = if extended then 10 else 8 := by
  have sizes := dateEnd_cases bytes
  cases extended with
  | false =>
    have fourth : byteAt bytes 4 = letterW := whole ▸ byteAt_append years.size _
    exact (or_assoc.2 sizes).resolve_right (dateEnd_ne_ten fourth)
  | true =>
    have fourth : byteAt bytes 4 = hyphen := whole ▸ byteAt_append years.size _
    have long : bytes.length ≠ 7 := by
      simp only [whole, List.length_append, List.length_cons, length_dash, years.size, weeks.size,
        if_true]
      omega
    exact sizes.resolve_left (dateEnd_ne_seven fourth long)

theorem exists_weekForm {y behind : List Nat} (years : Digits 4 y)
    (whole : bytes = y ++ (dash extended ++ letterW :: behind))
    (isWeek : isWeekDate year extended (dateEnd bytes) behind = true) :
    ∃ date rest, bytes = date ++ rest ∧ DateForm date ∧ date.length = dateEnd bytes := by
  obtain ⟨w, more, weeks, rfl, hasDay⟩ := exists_week isWeek
  have size := dateEnd_of_week years weeks whole
  by_cases long : (if extended then 8 else 7) < dateEnd bytes
  · obtain ⟨d, rest, days, rfl⟩ := hasDay long
    have size := size.resolve_left (Nat.ne_of_gt long)
    refine ⟨y ++ (dash extended ++ letterW :: (w ++ (dash extended ++ d))), rest, ?_,
      .weekDay extended years weeks days, ?_⟩
    · rw [whole]
      simp
    · simp only [size, List.length_append, List.length_cons, length_dash, years.size, weeks.size,
        days.size]
      cases extended <;> rfl
  · have size : dateEnd bytes = if extended then 8 else 7 := by
      refine size.resolve_right fun day => long ?_
      rw [day]
      cases extended <;> decide
    refine ⟨y ++ (dash extended ++ letterW :: w), more, ?_, .week extended years weeks, ?_⟩
    · rw [whole]
      simp
    · simp only [size, List.length_append, List.length_cons, length_dash, years.size, weeks.size]
      cases extended <;> rfl

theorem exists_monthForm {y behind : List Nat} (years : Digits 4 y)
    (whole : bytes = y ++ (dash extended ++ behind))
    (isMonth : isMonthDate year extended (dateEnd bytes) behind = true) :
    ∃ date rest, bytes = date ++ rest ∧ DateForm date ∧ date.length = dateEnd bytes := by
  obtain ⟨m, d, rest, months, days, rfl, size⟩ := exists_month isMonth
  refine ⟨y ++ (dash extended ++ (m ++ (dash extended ++ d))), rest, ?_,
    .month extended years months days, ?_⟩
  · rw [whole]
    simp
  · simp only [size, List.length_append, length_dash, years.size, months.size, days.size]
    cases extended <;> rfl

theorem exists_dateForm (isDate : isDate (dateEnd bytes) bytes = true) :
    ∃ date rest, bytes = date ++ rest ∧ DateForm date ∧ date.length = dateEnd bytes := by
  unfold Calendar.isDate at isDate
  split at isDate
  next => cases isDate
  next year behind taken =>
    obtain ⟨y, years, split⟩ := exists_digits taken
    have splitDash := dash_of_headD behind
    dsimp only at isDate
    generalize (behind.headD 0 == hyphen) = extended at isDate splitDash
    generalize (if extended = true then behind.drop 1 else behind) = parts at isDate splitDash
    rw [splitDash] at split
    split at isDate
    next isLetter =>
      rw [eq_cons_of_headD isLetter (by decide)] at split
      exact exists_weekForm years split isDate
    next => exact exists_monthForm years split isDate

/-! ## Times -/

def IsClockByte (b : Nat) : Prop :=
  IsDigit b ∨ b = colon ∨ b = 46 ∨ b = 44

variable {clock : Clock} {colons : Option Bool}

theorem Digits.clockBytes (digits : Digits count bytes) : ∀ b ∈ bytes, IsClockByte b :=
  fun b member => .inl (digits.all b member)

theorem eq_nil_of_headD (noNul : 0 ∉ bytes) (ends : bytes.headD 0 = 0) : bytes = [] := by
  cases bytes with
  | nil => rfl
  | cons b bytes =>
    obtain rfl : b = 0 := ends
    exact absurd List.mem_cons_self noNul

theorem clockBytes_of_readFraction? {size : Nat} (read : readFraction? size bytes = some clock)
    (whole : clock.more = false) (noNul : 0 ∉ bytes) : ∀ b ∈ bytes, IsClockByte b := by
  obtain ⟨⟨value, rest⟩, taken, isClock⟩ := Option.bind_eq_some_iff.1 read
  obtain ⟨digits, areDigits, rfl⟩ := exists_digits taken
  obtain rfl := Option.some.inj isClock
  have split := List.takeWhile_append_dropWhile (p := fun b => (digit? b).isSome) (l := rest)
  have ends : rest.dropWhile (fun b => (digit? b).isSome) = [] := by
    apply eq_nil_of_headD
    · intro member
      exact noNul (List.mem_append_right _ ((List.dropWhile_suffix _).subset member))
    · simpa using whole
  rw [ends, List.append_nil] at split
  refine List.forall_mem_append.2 ⟨areDigits.clockBytes, fun b member => .inl ?_⟩
  rw [← split] at member
  exact digit?_isSome_iff.1 (List.all_eq_true.1 List.all_takeWhile b member)

def readBehind? (colons : Option Bool) (count size : Nat) (rest : List Nat) : Option Clock :=
  let sign := rest.headD 0
  let separated := colons.getD (sign == colon)
  if size ≤ 3 then some ⟨[], sign != 0⟩
  else if separated && sign == colon then
    readClock? (some separated) count (size - 3) (rest.drop 1)
  else if sign = 46 ∨ sign = 44 then readFraction? (size - 3) (rest.drop 1)
  else if !separated then readClock? (some separated) count (size - 2) rest
  else none

theorem readClock?_succ (colons : Option Bool) (count size : Nat) (bytes : List Nat) :
    readClock? colons (count + 1) size bytes =
      (takeNumber? 2 bytes).bind fun (value, rest) =>
        (readBehind? colons count size rest).map fun clock =>
          { clock with parts := value :: clock.parts } := by
  rw [readClock?]
  cases takeNumber? 2 bytes with
  | none => rfl
  | some taken =>
    obtain ⟨value, rest⟩ := taken
    simp only [Option.bind_eq_bind, Option.bind_some, readBehind?]
    split_ifs <;> rw [Option.map_eq_bind] <;> rfl

theorem exists_of_readClock? {size : Nat}
    (read : readClock? colons (count + 1) size bytes = some clock) :
    ∃ digits rest inner, Digits 2 digits ∧ bytes = digits ++ rest ∧
      readBehind? colons count size rest = some inner ∧ inner.more = clock.more := by
  rw [readClock?_succ] at read
  obtain ⟨⟨value, rest⟩, taken, read⟩ := Option.bind_eq_some_iff.1 read
  obtain ⟨inner, isInner, isClock⟩ := Option.map_eq_some_iff.1 read
  obtain ⟨digits, areDigits, split⟩ := exists_digits taken
  exact ⟨digits, rest, inner, areDigits, split, isInner, isClock ▸ rfl⟩

theorem clockBytes_of_readClock? (read : readClock? colons count bytes.length bytes = some clock)
    (whole : clock.more = false) (noNul : 0 ∉ bytes) : ∀ b ∈ bytes, IsClockByte b := by
  induction count generalizing colons bytes clock with
  | zero => exact clockBytes_of_readFraction? read whole noNul
  | succ count ih =>
    obtain ⟨digits, rest, inner, areDigits, rfl, behind, more⟩ := exists_of_readClock? read
    have length : (digits ++ rest).length = rest.length + 2 := by
      rw [List.length_append, areDigits.size, Nat.add_comm]
    have noNulRest : 0 ∉ rest := fun member => noNul (List.mem_append_right _ member)
    have noNulDrop : 0 ∉ rest.drop 1 := fun member => noNulRest (List.mem_of_mem_drop member)
    have shorter : rest.length + 2 - 3 = (rest.drop 1).length := by
      rw [List.length_drop]
      omega
    refine List.forall_mem_append.2 ⟨areDigits.clockBytes, ?_⟩
    rw [← more] at whole
    rw [length, readBehind?, shorter, Nat.add_sub_cancel] at behind
    split at behind
    next short =>
      cases behind
      have ends : rest = [] := eq_nil_of_headD noNulRest (by simpa using whole)
      simp [ends]
    next =>
      split at behind
      next colonNext =>
        have isColon : rest.headD 0 = colon := eq_of_beq (Bool.and_eq_true_iff.1 colonNext).2
        rw [eq_cons_of_headD isColon (by decide)]
        exact List.forall_mem_cons.2 ⟨.inr (.inl rfl), ih behind whole noNulDrop⟩
      next =>
        split at behind
        next point =>
          have fraction := clockBytes_of_readFraction? behind whole noNulDrop
          rcases point with isPoint | isComma
          · rw [eq_cons_of_headD isPoint (by decide)]
            exact List.forall_mem_cons.2 ⟨.inr (.inr (.inl rfl)), fraction⟩
          · rw [eq_cons_of_headD isComma (by decide)]
            exact List.forall_mem_cons.2 ⟨.inr (.inr (.inr rfl)), fraction⟩
        next =>
          split at behind
          next => exact ih behind whole noNulRest
          next => cases behind

/-! ## The sign for UTC -/

def continuesClock (b : Nat) : Bool :=
  b != plus && b != hyphen && b != letterZ

/-- Whether the rest of a time is its offset, if `more` tells that something is left. -/
def endsTime (more : Bool) : List Nat → Bool
  | [] => !more
  | sign :: zone =>
    if sign = letterZ then zone.headD 0 == 0
    else
      match readClock? none 3 zone.length zone with
      | none => false
      | some offset => !offset.more && clockSeconds offset.parts < 86400

theorem isTime_eq_true (isTime : isTime bytes = true) :
    ∃ clock, readClock? none 3 (bytes.takeWhile continuesClock).length bytes = some clock ∧
      endsTime clock.more (bytes.dropWhile continuesClock) = true := by
  have drop : bytes.drop (bytes.takeWhile continuesClock).length =
      bytes.dropWhile continuesClock := by
    have split := List.takeWhile_append_dropWhile (p := continuesClock) (l := bytes)
    exact (congrArg _ split.symm).trans List.drop_left
  unfold Calendar.isTime at isTime
  rw [← drop]
  dsimp only at isTime
  split at isTime
  next => cases isTime
  next clock read =>
    refine ⟨clock, read, ?_⟩
    have ends := (Bool.and_eq_true_iff.1 isTime).2
    unfold endsTime
    exact ends

theorem exists_digits_of_isTime (isTime : isTime bytes = true) :
    ∃ digits rest, Digits 2 digits ∧ bytes = digits ++ rest := by
  obtain ⟨clock, read, -⟩ := isTime_eq_true isTime
  obtain ⟨digits, rest, -, areDigits, split, -⟩ := exists_of_readClock? read
  exact ⟨digits, rest, areDigits, split⟩

theorem dropWhile_continuesClock (front behind : List Nat) :
    (front ++ letterZ :: behind).dropWhile continuesClock =
      front.dropWhile continuesClock ++ letterZ :: behind := by
  rw [List.dropWhile_append]
  split
  next empty =>
    rw [List.isEmpty_iff.1 empty, List.dropWhile_cons_of_neg (by decide), List.nil_append]
  next => rfl

/-- The sign for UTC stands at the end of a time and nowhere inside it. -/
theorem isTime_zulu_inside {front behind : List Nat} (noZulu : letterZ ∉ front)
    (nonempty : behind ≠ []) (noNul : 0 ∉ front ++ behind) :
    isTime (front ++ letterZ :: behind) = false := by
  rw [List.mem_append, not_or] at noNul
  rw [Bool.eq_false_iff]
  intro isTime
  obtain ⟨clock, -, ends⟩ := isTime_eq_true isTime
  rw [dropWhile_continuesClock] at ends
  have inside := (List.dropWhile_suffix (l := front) continuesClock).subset
  cases isRest : front.dropWhile continuesClock with
  | nil =>
    rw [isRest, List.nil_append, endsTime, if_pos rfl] at ends
    exact nonempty (eq_nil_of_headD noNul.2 (eq_of_beq ends))
  | cons sign zone =>
    rw [isRest] at ends inside
    have notZulu : sign ≠ letterZ := fun same => noZulu (same ▸ inside List.mem_cons_self)
    rw [List.cons_append, endsTime, if_neg notZulu] at ends
    split at ends
    next => cases ends
    next offset read =>
      have whole : offset.more = false := by simpa using (Bool.and_eq_true_iff.1 ends).1
      have noNulZone : 0 ∉ zone ++ letterZ :: behind := by
        rw [List.mem_append, List.mem_cons, not_or, not_or]
        exact ⟨fun member => noNul.1 (inside (List.mem_cons_of_mem _ member)), by decide, noNul.2⟩
      have zulu := clockBytes_of_readClock? read whole noNulZone letterZ (by simp)
      revert zulu
      unfold IsClockByte IsDigit
      decide

theorem exists_of_readClock?_zeros {size : Nat}
    (read : readClock? colons (count + 1) size (48 :: 48 :: rest) = some clock) :
    ∃ inner, readBehind? colons count size rest = some inner := by
  rw [readClock?_succ] at read
  obtain ⟨inner, isInner, -⟩ := Option.map_eq_some_iff.1 read
  exact ⟨inner, isInner⟩

theorem isTime_digits_behind {digits : List Nat} (areDigits : Digits 2 digits) (rest : List Nat) :
    isTime ([48, 48, colon, 48, 48] ++ (digits ++ rest)) = false := by
  obtain ⟨d₁, d₂, rfl⟩ := areDigits.eq_two
  have first : IsDigit d₁ := areDigits.all d₁ (by simp)
  have goesOn {d : Nat} (isDigit : IsDigit d) : continuesClock d = true := by
    unfold IsDigit at isDigit
    simp only [continuesClock, plus, hyphen, letterZ, Bool.and_eq_true, bne_iff_ne]
    omega
  rw [Bool.eq_false_iff]
  intro isTime
  obtain ⟨clock, read, -⟩ := isTime_eq_true isTime
  have long : 7 ≤ (([48, 48, colon, 48, 48] ++ ([d₁, d₂] ++ rest)).takeWhile
      continuesClock).length := by
    have second := goesOn (areDigits.all d₂ (by simp))
    simp [goesOn first, second, show continuesClock 48 = true by decide,
      show continuesClock colon = true by decide]
  generalize (([48, 48, colon, 48, 48] ++ ([d₁, d₂] ++ rest)).takeWhile
    continuesClock).length = size at read long
  obtain ⟨_, minute⟩ := exists_of_readClock?_zeros read
  rw [readBehind?, if_neg (by omega)] at minute
  obtain ⟨_, behind⟩ := exists_of_readClock?_zeros minute
  have noColon : d₁ ≠ colon := first.ne (by decide)
  have noPoint : ¬ (d₁ = 46 ∨ d₁ = 44) := not_or.2 ⟨first.ne (by decide), first.ne (by decide)⟩
  simp [readBehind?, noColon, noPoint, show ¬ size - 3 ≤ 3 by omega] at behind

/-! ## Timestamps -/

open Utf8 in
theorem isTimestamp_iff {cs : List Char} :
    isTimestamp (String.ofList cs) = true ↔
      7 ≤ (encode cs).length ∧ isDate (dateEnd (encode cs)) (encode cs) = true ∧
        ((encode cs).length ≤ dateEnd (encode cs) ∨
          isTime (dropSeparator ((encode cs).drop (dateEnd (encode cs)))) = true) := by
  unfold isTimestamp
  rw [toUTF8_ofList]
  simp only [Bool.and_eq_true, Bool.or_eq_true, decide_eq_true_eq, and_assoc]

section Zulu

open Utf8

variable {front behind : List Char}

theorem DateForm.ascii {date : List Nat} (form : DateForm date) : ∀ b ∈ date, b < 128 := by
  intro b member
  rcases form.dateBytes b member with isDigit | rfl | rfl
  · exact Nat.lt_of_le_of_lt isDigit.2 (by decide)
  · decide
  · decide

/-- Where a date stands in front of a text with the sign for UTC, it stands in front of the sign. -/
theorem DateForm.exists_front {date : List Nat} (form : DateForm date) {behind rest : List Nat}
    (split : encode front ++ letterZ :: behind = date ++ rest) :
    ∃ ds ts, front = ds ++ ts ∧ encode ds = date ∧ rest = encode ts ++ letterZ :: behind := by
  have noZulu : letterZ ∉ date := by
    intro member
    have zulu := form.dateBytes letterZ member
    revert zulu
    unfold IsDateByte IsDigit
    decide
  have isFront : ∃ more, encode front = date ++ more ∧ rest = more ++ letterZ :: behind := by
    rcases List.append_eq_append_iff.1 split with ⟨more, isDate, isRest⟩ | ⟨more, isFront, isRest⟩
    · cases more with
      | nil => exact ⟨[], by simpa using isDate.symm, by simpa using isRest.symm⟩
      | cons b more =>
        obtain ⟨rfl, -⟩ := List.cons.inj isRest
        exact absurd (isDate ▸ List.mem_append_right _ List.mem_cons_self) noZulu
    · exact ⟨more, isFront, isRest⟩
  obtain ⟨more, isFront, isRest⟩ := isFront
  obtain ⟨ds, ts, rfl, isDate, rfl⟩ := exists_of_encode_append form.ascii isFront
  exact ⟨ds, ts, rfl, isDate, isRest⟩

/-- Where the sign for UTC stands inside a timestamp, it separates date and time. -/
theorem date_of_isTimestamp (noZulu : 'Z' ∉ front) (nonempty : behind ≠ [])
    (noNul : '\x00' ∉ front ++ behind)
    (isTimestamp : isTimestamp (String.ofList (front ++ 'Z' :: behind)) = true) :
    DateForm (encode front) ∧ isTime (encode behind) = true := by
  have bytes : encode (front ++ 'Z' :: behind) = encode front ++ letterZ :: encode behind := by
    rw [encode_append, encode_cons, encodeChar_ascii (by decide)]
    rfl
  rw [isTimestamp_iff, bytes] at isTimestamp
  obtain ⟨-, isDate, time⟩ := isTimestamp
  obtain ⟨date, rest, split, form, size⟩ := exists_dateForm isDate
  obtain ⟨ds, ts, rfl, isFront, rfl⟩ := form.exists_front split
  rw [← size, split, List.drop_left, List.length_append] at time
  have more : 0 < (encode ts ++ letterZ :: encode behind).length := by
    rw [List.length_append, List.length_cons]
    omega
  have time := time.resolve_left (by omega)
  cases ts with
  | nil =>
    rw [encode_nil, List.nil_append] at time
    have separator := dropSeparator_encodeChar 'Z' (encode behind)
    rw [encodeChar_ascii (by decide)] at separator
    rw [List.append_nil, isFront]
    exact ⟨form, separator ▸ time⟩
  | cons c ts =>
    rw [encode_cons, List.append_assoc, dropSeparator_encodeChar] at time
    have inside : ∀ d ∈ ts, d ∈ ds ++ c :: ts :=
      fun d member => List.mem_append_right _ (List.mem_cons_of_mem _ member)
    have noZuluBytes : letterZ ∉ encode ts :=
      not_mem_encode (c := 'Z') (by decide) fun member => noZulu (inside _ member)
    have noNulBytes : 0 ∉ encode ts ++ encode behind := by
      rw [← encode_append]
      refine not_mem_encode (c := '\x00') (by decide) fun member => noNul ?_
      rcases List.mem_append.1 member with inTime | inBehind
      · exact List.mem_append_left _ (inside _ inTime)
      · exact List.mem_append_right _ inBehind
    rw [isTime_zulu_inside noZuluBytes (encode_ne_nil nonempty) noNulBytes] at time
    cases time

theorem isTimestamp_offset_inside (form : DateForm (encode front)) {digits rest : List Nat}
    (areDigits : Digits 2 digits) (split : encode behind = digits ++ rest) :
    isTimestamp (String.ofList (front ++ (['+', '0', '0', ':', '0', '0'] ++ behind))) = false := by
  have bytes : encode (front ++ (['+', '0', '0', ':', '0', '0'] ++ behind)) =
      encode front ++ plus :: ([48, 48, colon, 48, 48] ++ (digits ++ rest)) := by
    rw [encode_append, encode_append, split]
    rfl
  have noDigit : ¬ IsDigit plus := by
    unfold IsDigit
    decide
  have stop : dateEnd (encode front ++ plus :: ([48, 48, colon, 48, 48] ++ (digits ++ rest))) =
      (encode front).length := form.dateEnd noDigit (by decide)
  rw [Bool.eq_false_iff, Ne, isTimestamp_iff, bytes, stop, List.drop_left, List.length_append]
  rintro ⟨-, -, short | time⟩
  · rw [List.length_cons] at short
    omega
  · have separator := dropSeparator_encodeChar '+' ([48, 48, colon, 48, 48] ++ (digits ++ rest))
    rw [encodeChar_ascii (by decide), List.singleton_append] at separator
    change dropSeparator (plus :: _) = _ at separator
    rw [separator, isTime_digits_behind areDigits] at time
    cases time

end Zulu

end LogSelect.Calendar
