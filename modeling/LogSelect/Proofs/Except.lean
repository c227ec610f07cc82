/-!
Computations that may fail: sequences, and lists that are mapped member by member.
-/

namespace LogSelect

variable {ε α β γ : Type} {x : Except ε α} {f : α → Except ε β} {as : List α}

/-! ## Sequences -/

theorem bind_eq_ok {b : β} : x.bind f = .ok b ↔ ∃ a, x = .ok a ∧ f a = .ok b := by
  cases x with
  | error e => simp [Except.bind]
  | ok a => simp [Except.bind]

theorem bind_eq_error {e : ε} :
    x.bind f = .error e ↔ x = .error e ∨ ∃ a, x = .ok a ∧ f a = .error e := by
  cases x with
  | error e' => simp [Except.bind]
  | ok a => simp [Except.bind]

theorem bind_bind (x : Except ε α) (f : α → Except ε β) (g : β → Except ε γ) :
    (x.bind f).bind g = x.bind fun a => (f a).bind g :=
  bind_assoc x f g

/-! ## Lists -/

theorem mapM_eq_ok {g : α → β} (each : ∀ a ∈ as, f a = .ok (g a)) :
    as.mapM f = .ok (as.map g) := by
  induction as with
  | nil => rfl
  | cons a as ih =>
    rw [List.mapM_cons, each a List.mem_cons_self,
      ih fun b member => each b (List.mem_cons_of_mem a member)]
    rfl

theorem exists_ok_of_mapM {bs : List β} (maps : as.mapM f = .ok bs) :
    ∀ a ∈ as, ∃ b, f a = .ok b := by
  induction as generalizing bs with
  | nil => exact nofun
  | cons a as ih =>
    rw [List.mapM_cons] at maps
    obtain ⟨b, first, maps⟩ := bind_eq_ok.1 maps
    obtain ⟨cs, others, -⟩ := bind_eq_ok.1 maps
    exact List.forall_mem_cons.2 ⟨⟨b, first⟩, ih others⟩

theorem exists_mem_of_mapM {e : ε} (fails : as.mapM f = .error e) : ∃ a ∈ as, f a = .error e := by
  induction as with
  | nil => cases fails
  | cons a as ih =>
    rw [List.mapM_cons] at fails
    rcases bind_eq_error.1 fails with first | ⟨b, -, fails⟩
    · exact ⟨a, List.mem_cons_self, first⟩
    · rcases bind_eq_error.1 fails with others | ⟨bs, -, ⟨⟩⟩
      obtain ⟨a', inside, found⟩ := ih others
      exact ⟨a', List.mem_cons_of_mem a inside, found⟩

/-! ## Success -/

/-- A computation succeeds, with a value of a property. -/
def Succeeds (x : Except ε α) (P : α → Prop) : Prop :=
  ∃ a, x = .ok a ∧ P a

namespace Succeeds

variable {P : α → Prop} {Q : β → Prop}

theorem pure {a : α} (holds : P a) : Succeeds (.ok a : Except ε α) P :=
  ⟨a, rfl, holds⟩

theorem bind (first : Succeeds x P) (second : ∀ a, P a → Succeeds (f a) Q) :
    Succeeds (x >>= f) Q := by
  obtain ⟨a, rfl, holds⟩ := first
  exact second a holds

theorem mapM (each : ∀ a ∈ as, Succeeds (f a) Q) :
    Succeeds (as.mapM f) fun bs => bs.length = as.length ∧ ∀ b ∈ bs, Q b := by
  induction as with
  | nil => exact pure ⟨rfl, nofun⟩
  | cons a as ih =>
    rw [List.mapM_cons]
    refine bind (each a List.mem_cons_self) ?_
    intro b holds
    refine bind (ih fun c member => each c (List.mem_cons_of_mem a member)) ?_
    rintro bs ⟨length, all⟩
    exact pure ⟨by rw [List.length_cons, length, List.length_cons],
      List.forall_mem_cons.2 ⟨holds, all⟩⟩

end Succeeds

end LogSelect
