namespace HttpScenario

variable {ε δ α β : Type}

theorem toOption_mapError (f : ε → δ) (result : Except ε α) :
    (result.mapError f).toOption = result.toOption := by
  cases result <;> rfl

theorem toOption_eq_some {result : Except ε α} {a : α} :
    result.toOption = some a ↔ result = .ok a := by
  cases result with
  | ok b => exact ⟨fun h => congrArg _ (Option.some.inj h), fun h => by cases h; rfl⟩
  | error e => exact ⟨fun h => (nomatch h), fun h => (nomatch h)⟩

theorem mapError_eq_ok {f : ε → δ} {result : Except ε α} {a : α} :
    result.mapError f = .ok a ↔ result = .ok a := by
  rw [← toOption_eq_some, toOption_mapError, toOption_eq_some]

theorem map_eq_ok {f : α → β} {result : Except ε α} {b : β} :
    result.map f = .ok b ↔ ∃ a, result = .ok a ∧ f a = b := by
  cases result with
  | error e => exact ⟨nofun, nofun⟩
  | ok a => simp [Except.map]

theorem bind_eq_ok {result : Except ε α} {next : α → Except ε β} {b : β} :
    (result >>= next) = .ok b ↔ ∃ a, result = .ok a ∧ next a = .ok b := by
  cases result with
  | error e => exact ⟨nofun, nofun⟩
  | ok a =>
      constructor
      · exact fun h => ⟨a, rfl, h⟩
      · rintro ⟨a', ha, h⟩
        cases ha
        exact h

theorem check_bind_eq_ok {result : Except ε Unit} {next : Unit → Except ε β} {b : β} :
    (result >>= next) = .ok b ↔ result = .ok () ∧ next () = .ok b := by
  rw [bind_eq_ok]
  exact ⟨fun ⟨_, h⟩ => h, fun h => ⟨(), h⟩⟩

end HttpScenario
