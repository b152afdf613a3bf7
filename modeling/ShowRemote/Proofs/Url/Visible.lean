import ShowRemote.Proofs.Text.Blank
import ShowRemote.Url.File

/-!
Visible characters. Nothing is dropped from a text of them before it is read: it has no blanks and
no controls at its ends, and no tabs and line ends inside.
-/

set_option autoImplicit false

namespace ShowRemote.Url

def isVisible (c : Char) : Bool :=
  0x20 < c.toNat && c.toNat < 0x7F

private theorem toNat_bounds_of_isVisible {c : Char} (visible : isVisible c) :
    0x20 < c.toNat ∧ c.toNat < 0x7F := by
  simpa [isVisible] using visible

theorem isVisible_of_not_isControl {c : Char} (control : isControl c = false) (space : c ≠ ' ') :
    isVisible c := by
  have other : c.toNat ≠ 0x20 := fun same => space (Char.toNat_inj.mp same)
  rw [isControl, Bool.or_eq_false_iff, decide_eq_false_iff_not, decide_eq_false_iff_not] at control
  rw [isVisible, Bool.and_eq_true, decide_eq_true_eq, decide_eq_true_eq]
  omega

theorem not_isControl_of_isVisible {c : Char} (visible : isVisible c) : isControl c = false := by
  have bounds := toNat_bounds_of_isVisible visible
  rw [isControl, Bool.or_eq_false_iff, decide_eq_false_iff_not, decide_eq_false_iff_not]
  omega

theorem le_of_isBreak {c : Char} (isBreak : isBreak c) : c.toNat ≤ 0x20 := by
  simp only [Url.isBreak, Bool.or_eq_true, decide_eq_true_eq] at isBreak
  rcases isBreak with (rfl | rfl) | rfl <;> decide

private theorem not_isBlank_of_isVisible {c : Char} (visible : isVisible c) :
    Text.isBlank c = false := by
  have bounds := toNat_bounds_of_isVisible visible
  rw [Text.isBlank, Unicode.isIn, List.any_eq_false]
  intro range mem
  have outside : range.2 ≤ 0x20 ∨ 0x7F ≤ range.1 := by
    revert range
    decide
  rw [Bool.and_eq_true, decide_eq_true_eq, decide_eq_true_eq]
  omega

section Text

variable {s : List Char} (visible : ∀ c ∈ s, isVisible c)

include visible

theorem trimEnds_of_isVisible : Text.trimEnds (fun c => c.toNat ≤ 0x20) s = s := by
  refine Text.trimEnds_eq_self fun c mem => ?_
  have bounds := toNat_bounds_of_isVisible (visible c mem)
  rw [decide_eq_false_iff_not]
  omega

theorem trimBlanks_of_isVisible : Text.trimBlanks s = s :=
  Text.trimEnds_eq_self fun c mem => not_isBlank_of_isVisible (visible c mem)

theorem withoutBreaks_of_isVisible : withoutBreaks s = s := by
  refine List.filter_eq_self.mpr fun c mem => ?_
  have bounds := toNat_bounds_of_isVisible (visible c mem)
  have kept : ¬ isBreak c := by
    intro isBreak
    have low := le_of_isBreak isBreak
    omega
  simpa using kept

end Text

end ShowRemote.Url
