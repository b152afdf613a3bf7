import ShowRemote.Session.Event

/-!
A receiver of events. It keeps the latest events that have not been taken, up to a fixed number, and
counts those that it had to give up.

Main statements: `waiting_push` and `missed_add_length_push` say that after an event the latest ones
of all are there, and that none goes uncounted.
-/

set_option autoImplicit false

namespace ShowRemote

def Receiver.capacity : Nat := 64

structure Receiver where
  missed : Nat
  waiting : List Event
  length_le : waiting.length ≤ Receiver.capacity := by decide
  deriving DecidableEq, Repr

namespace Receiver

def empty : Receiver := ⟨0, [], by decide⟩

/-- Take in an event, and give up the oldest one when there is no room. -/
def push (r : Receiver) (e : Event) : Receiver :=
  if h : r.waiting.length < capacity then
    ⟨r.missed, r.waiting ++ [e], by simpa using Nat.succ_le_of_lt h⟩
  else
    ⟨r.missed + 1, r.waiting.tail ++ [e], by
      have := r.length_le
      simp only [List.length_append, List.length_tail, List.length_singleton]
      unfold capacity at *
      omega⟩

theorem waiting_push (r : Receiver) (e : Event) :
    (r.push e).waiting = (r.waiting ++ [e]).drop (r.waiting.length + 1 - capacity) := by
  by_cases h : r.waiting.length < capacity
  · have hz : r.waiting.length + 1 - capacity = 0 := by omega
    simp [push, h, hz]
  · have hle := r.length_le
    have ho : r.waiting.length + 1 - capacity = 1 := by omega
    have hne : r.waiting ≠ [] := by
      intro hn
      simp [hn, capacity] at h
    simp [push, h, ho, List.tail_append_of_ne_nil hne]

theorem missed_add_length_push (r : Receiver) (e : Event) :
    (r.push e).missed + (r.push e).waiting.length = r.missed + r.waiting.length + 1 := by
  by_cases h : r.waiting.length < capacity
  · simp [push, h]
    omega
  · have hpos : 0 < r.waiting.length := by
      unfold capacity at h
      omega
    simp [push, h]
    omega

end Receiver
end ShowRemote
