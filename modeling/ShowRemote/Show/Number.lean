import ShowRemote.Text.Blank
import ShowRemote.Text.Numeral

/-!
Show numbers and show identifiers. An identifier travels as it was written; a number is read from it
only to decide whether the player would accept it.
-/

set_option autoImplicit false

namespace ShowRemote.Show

def greatestNumber : Nat := 99

structure ShowNumber where
  value : Nat
  value_le : value ≤ greatestNumber
  deriving DecidableEq, Repr

namespace ShowNumber

def ofInt? (n : Int) : Option ShowNumber :=
  if h : 0 ≤ n ∧ n ≤ greatestNumber then
    some ⟨n.toNat, by have := h.1; have := h.2; omega⟩
  else none

theorem isSome_ofInt? (n : Int) : (ofInt? n).isSome ↔ 0 ≤ n ∧ n ≤ greatestNumber := by
  by_cases h : 0 ≤ n ∧ n ≤ greatestNumber <;> simp [ofInt?, h]

theorem value_of_ofInt? {n : Int} {number : ShowNumber} (h : ofInt? n = some number) :
    (number.value : Int) = n := by
  unfold ofInt? at h
  split at h
  · injection h with h
    subst h
    exact Int.toNat_of_nonneg (by omega)
  · contradiction

def parse? (text : String) : Option ShowNumber :=
  match Text.readInteger .signed64 (Text.trimBlanks text.toList) with
  | .ok n => ofInt? n
  | .error _ => none

end ShowNumber

structure ShowId where
  text : String
  deriving DecidableEq, Repr

def ShowId.number? (id : ShowId) : Option ShowNumber :=
  ShowNumber.parse? id.text

end ShowRemote.Show
