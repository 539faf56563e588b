namespace FieldRules

variable {ε α β : Type}

theorem bind_ok {x : Except ε α} {k : α → Except ε β} {b : β} :
    x >>= k = .ok b ↔ ∃ a, x = .ok a ∧ k a = .ok b := by
  cases x <;> simp [bind, Except.bind]

theorem bind_error {x : Except ε α} {k : α → Except ε β} {e : ε} :
    x >>= k = .error e ↔ x = .error e ∨ ∃ a, x = .ok a ∧ k a = .error e := by
  cases x <;> simp [bind, Except.bind]

theorem bind_error_of_ok {x : Except ε α} {k : α → Except ε β} {a : α} {e : ε} (hx : x = .ok a)
    (h : x >>= k = .error e) : k a = .error e := by
  rw [hx] at h
  exact h

theorem exists_bind_ok {x : Except ε α} {k : α → Except ε β} :
    (∃ b, x >>= k = .ok b) ↔ ∃ a, x = .ok a ∧ ∃ b, k a = .ok b := by
  cases x <;> simp [bind, Except.bind]

theorem bind_congr_ok {x : Except ε α} {k l : α → Except ε β}
    (h : ∀ a, x = .ok a → k a = l a) : x >>= k = x >>= l := by
  cases x with
  | error e => rfl
  | ok a => exact h a rfl

theorem map_ok {x : Except ε α} {g : α → β} {b : β} :
    g <$> x = .ok b ↔ ∃ a, x = .ok a ∧ g a = b := by
  cases x <;> simp [Functor.map, Except.map]

end FieldRules
