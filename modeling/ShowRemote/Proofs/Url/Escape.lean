import Mathlib
import ShowRemote.Proofs.Url.Visible

/-!
Escaped texts. What an escape is written with is not escaped itself, so that a text that has been
escaped is left as it is when it is escaped again (`Escaped.escape_eq`, `escaped_escape`).
-/

set_option autoImplicit false

namespace ShowRemote.Url

theorem ne_of_spared {set : Char → Bool} {c d : Char} (spared : set c = false)
    (member : set d = true) : c ≠ d := by
  rintro rfl
  exact Bool.false_ne_true (spared.symm.trans member)

def Escaped (set : Char → Bool) (s : List Char) : Prop :=
  ∀ c ∈ s, isControl c = false ∧ set c = false

/-- A class of characters that holds none of those that escapes are written with. -/
structure Spares (set : Char → Bool) : Prop where
  percent : set '%' = false
  digits : ∀ n < 16, set (hexUpper n) = false

theorem spares_pathSet : Spares pathSet := by
  constructor <;> decide

theorem spares_userInfoSet : Spares userInfoSet := by
  constructor <;> decide

section Escape

variable {set : Char → Bool}

theorem escaped_nil : Escaped set [] :=
  nofun

theorem Escaped.escape_eq {s : List Char} (escaped : Escaped set s) : escape set s = s := by
  induction s with
  | nil => rfl
  | cons c s ih =>
    obtain ⟨⟨control, other⟩, others⟩ := List.forall_mem_cons.mp escaped
    rw [escape, List.flatMap_cons, escapeChar, control, other]
    exact congrArg (c :: ·) (ih others)

private theorem escaped_escapeByte (spares : Spares set) (b : UInt8) :
    Escaped set (escapeByte b) := by
  have controls : ∀ n < 16, isControl (hexUpper n) = false := by decide
  have byte : b.toNat < 256 := b.toNat_lt
  have high : b.toNat / 16 < 16 := by omega
  have low : b.toNat % 16 < 16 := by omega
  intro c mem
  simp only [escapeByte, List.mem_cons, List.not_mem_nil, or_false] at mem
  rcases mem with rfl | rfl | rfl
  · exact ⟨by decide, spares.percent⟩
  · exact ⟨controls _ high, spares.digits _ high⟩
  · exact ⟨controls _ low, spares.digits _ low⟩

private theorem escaped_escapeChar (spares : Spares set) (c : Char) :
    Escaped set (escapeChar set c) := by
  intro d mem
  unfold escapeChar at mem
  split at mem
  · obtain ⟨b, -, mem⟩ := List.mem_flatMap.mp mem
    exact escaped_escapeByte spares b d mem
  · next kept =>
    obtain rfl := List.mem_singleton.mp mem
    rwa [Bool.not_eq_true, Bool.or_eq_false_iff] at kept

theorem escaped_escape (spares : Spares set) (s : List Char) : Escaped set (escape set s) := by
  intro d mem
  obtain ⟨c, -, mem⟩ := List.mem_flatMap.mp mem
  exact escaped_escapeChar spares c d mem

theorem escape_ne_nil {s : List Char} (nonempty : s ≠ []) : escape set s ≠ [] := by
  obtain ⟨c, s, rfl⟩ := List.exists_cons_of_ne_nil nonempty
  have kept : escapeChar set c ≠ [] := by
    unfold escapeChar
    split
    · intro none
      have bytes : ∀ b ∈ String.utf8EncodeChar c, escapeByte b = [] :=
        List.flatMap_eq_nil_iff.mp none
      obtain ⟨b, rest, encoded⟩ :=
        List.exists_cons_of_ne_nil (String.utf8EncodeChar_ne_nil (c := c))
      have none := bytes b (by rw [encoded]; exact List.mem_cons_self)
      cases none
    · exact List.cons_ne_nil c []
  rw [escape, List.flatMap_cons]
  exact List.append_ne_nil_of_left_ne_nil kept _

end Escape

theorem isVisible_of_escaped {set : Char → Bool} (space : set ' ') {s : List Char}
    (escaped : Escaped set s) : ∀ c ∈ s, isVisible c := by
  intro c mem
  obtain ⟨control, spared⟩ := escaped c mem
  exact isVisible_of_not_isControl control (ne_of_spared spared space)

end ShowRemote.Url
