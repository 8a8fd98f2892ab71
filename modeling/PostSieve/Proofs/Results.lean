import Mathlib.Data.List.Forall2

/-! Steps that may fail: when a chain or a list of them gives a value and when an error, and when
two of them end alike. -/

namespace PostSieve

variable {ε ε' α β γ δ : Type}

/-! ### One step after another -/

section Steps

variable {x : Except ε α} {f : α → Except ε β}

theorem bind_eq_ok_iff {b : β} : (x >>= f) = .ok b ↔ ∃ a, x = .ok a ∧ f a = .ok b := by
  cases x with
  | error e => simp [bind, Except.bind]
  | ok a => simp [bind, Except.bind]

theorem bind_eq_error_iff {e : ε} :
    (x >>= f) = .error e ↔ x = .error e ∨ ∃ a, x = .ok a ∧ f a = .error e := by
  cases x with
  | error e => simp [bind, Except.bind]
  | ok a => simp [bind, Except.bind]

theorem mapError_eq_ok_iff {g : ε → ε'} {a : α} : x.mapError g = .ok a ↔ x = .ok a := by
  cases x <;> simp [Except.mapError]

theorem mapError_eq_error_iff {g : ε → ε'} {e' : ε'} :
    x.mapError g = .error e' ↔ ∃ e, x = .error e ∧ g e = e' := by
  cases x <;> simp [Except.mapError]

theorem pure_eq_ok_iff {a b : α} : (pure a : Except ε α) = .ok b ↔ b = a :=
  ⟨fun h => (Except.ok.inj h).symm, fun h => h ▸ rfl⟩

end Steps

/-! ### A step for each element of a list -/

/-- Whether an element is the first of a list that does not have a property. -/
inductive FirstFault (P : α → Prop) : List α → α → Prop
  | here {x : α} {xs : List α} : ¬ P x → FirstFault P (x :: xs) x
  | later {x y : α} {xs : List α} : P x → FirstFault P xs y → FirstFault P (x :: xs) y

section Lists

variable {P : α → Prop} {x y : α} {xs : List α} {f : α → Except ε β}

theorem firstFault_nil_iff : FirstFault P [] y ↔ False := ⟨nofun, False.elim⟩

theorem firstFault_cons_iff :
    FirstFault P (x :: xs) y ↔ ¬ P x ∧ y = x ∨ P x ∧ FirstFault P xs y := by
  constructor
  · rintro (h | ⟨h, hLater⟩)
    · exact .inl ⟨h, rfl⟩
    · exact .inr ⟨h, hLater⟩
  · rintro (⟨h, rfl⟩ | ⟨h, hLater⟩)
    · exact .here h
    · exact .later h hLater

theorem mapM_eq_ok_iff {ys : List β} :
    xs.mapM f = .ok ys ↔ List.Forall₂ (fun x y => f x = .ok y) xs ys := by
  induction xs generalizing ys with
  | nil => simp [pure_eq_ok_iff]
  | cons x xs ih =>
    simp only [List.mapM_cons, bind_eq_ok_iff, pure_eq_ok_iff, ih, List.forall₂_cons_left_iff,
      exists_and_left]

theorem exists_mapM_eq_ok_iff : (∃ ys, xs.mapM f = .ok ys) ↔ ∀ x ∈ xs, ∃ y, f x = .ok y := by
  induction xs with
  | nil => simp [pure_eq_ok_iff]
  | cons x xs ih =>
    rw [List.forall_mem_cons, ← ih]
    simp only [List.mapM_cons, bind_eq_ok_iff, pure_eq_ok_iff]
    constructor
    · rintro ⟨_, y, hFirst, ys, hOthers, -⟩
      exact ⟨⟨y, hFirst⟩, ys, hOthers⟩
    · rintro ⟨⟨y, hFirst⟩, ys, hOthers⟩
      exact ⟨_, y, hFirst, ys, hOthers, rfl⟩

/-- The error is that of the first element whose step fails. -/
theorem mapM_eq_error_iff {e : ε} : xs.mapM f = .error e ↔
    ∃ x, FirstFault (fun x => ∃ y, f x = .ok y) xs x ∧ f x = .error e := by
  induction xs with
  | nil => simp [firstFault_nil_iff, pure, Except.pure]
  | cons x xs ih =>
    have hOthers (y : β) : (xs.mapM f >>= fun ys => pure (y :: ys)) = .error e ↔
        xs.mapM f = .error e := by
      rw [bind_eq_error_iff, or_iff_left]
      rintro ⟨_, -, ⟨⟩⟩
    rw [List.mapM_cons, bind_eq_error_iff]
    simp only [hOthers, ih]
    constructor
    · rintro (h | ⟨y, hFirst, z, hLater, h⟩)
      · refine ⟨x, .here ?_, h⟩
        rintro ⟨y, hFirst⟩
        cases h.symm.trans hFirst
      · exact ⟨z, .later ⟨y, hFirst⟩ hLater, h⟩
    · rintro ⟨z, hFault | ⟨⟨y, hFirst⟩, hLater⟩, h⟩
      · exact .inl h
      · exact .inr ⟨y, hFirst, z, hLater, h⟩

end Lists

/-! ### Two steps side by side -/

/-- Whether two results are both values that `Value` relates, or both errors that `Error` does. -/
inductive Both (Error : ε → ε' → Prop) (Value : α → β → Prop) :
    Except ε α → Except ε' β → Prop
  | ok {a : α} {b : β} : Value a b → Both Error Value (.ok a) (.ok b)
  | error {e : ε} {e' : ε'} : Error e e' → Both Error Value (.error e) (.error e')

namespace Both

variable {Error : ε → ε' → Prop} {Value : α → β → Prop} {x : Except ε α} {y : Except ε' β}

theorem bind {Value' : γ → δ → Prop} {f : α → Except ε γ} {g : β → Except ε' δ}
    (h : Both Error Value x y) (hRest : ∀ a b, Value a b → Both Error Value' (f a) (g b)) :
    Both Error Value' (x >>= f) (y >>= g) := by
  cases h with
  | ok hValue => exact hRest _ _ hValue
  | error hError => exact .error hError

/-- A step on one side alone. -/
theorem bind_left {Value' : γ → β → Prop} {f : α → Except ε γ} (h : Both Error Value x y)
    (hRest : ∀ a b, Value a b → Both Error Value' (f a) (.ok b)) :
    Both Error Value' (x >>= f) y := by
  cases h with
  | ok hValue => exact hRest _ _ hValue
  | error hError => exact .error hError

theorem bind_right {Value' : α → δ → Prop} {g : β → Except ε' δ} (h : Both Error Value x y)
    (hRest : ∀ a b, Value a b → Both Error Value' (.ok a) (g b)) :
    Both Error Value' x (y >>= g) := by
  cases h with
  | ok hValue => exact hRest _ _ hValue
  | error hError => exact .error hError

theorem mono {Error' : ε → ε' → Prop} {Value' : α → β → Prop} (h : Both Error Value x y)
    (hError : ∀ e e', Error e e' → Error' e e') (hValue : ∀ a b, Value a b → Value' a b) :
    Both Error' Value' x y := by
  cases h with
  | ok h => exact .ok (hValue _ _ h)
  | error h => exact .error (hError _ _ h)

end Both

end PostSieve
