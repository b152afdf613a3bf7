/-!
Outcomes of steps that may fail.
-/

set_option autoImplicit false

namespace ShowRemote

variable {ε α β : Type}

theorem exists_of_bind_ok {x : Except ε α} {f : α → Except ε β} {b : β}
    (run : (x >>= f) = .ok b) : ∃ a, x = .ok a ∧ f a = .ok b := by
  cases x with
  | error fault => cases run
  | ok a => exact ⟨a, rfl, run⟩

theorem eq_ok_of_toOption {x : Except ε α} {a : α} (read : x.toOption = some a) : x = .ok a := by
  cases x with
  | ok other => exact congrArg Except.ok (Option.some.inj read)
  | error fault => cases read

theorem exists_error_of_ne_ok {outcome : Except ε α} (never : ∀ a, outcome ≠ .ok a) :
    ∃ fault, outcome = .error fault := by
  cases outcome with
  | ok a => exact (never a rfl).elim
  | error fault => exact ⟨fault, rfl⟩

end ShowRemote
