import Mathlib
import ShowRemote.CommandLine.Run
import ShowRemote.Proofs.Session.Kinds

/-!
How a dialogue is played in parts. What is seen of two dialogues, one after the other, is what is
seen of the first and then of the second, which gets the exchanges that the first has left over
(`play_bind`). With a player every part is one message that is sent, or is refused before it can be
(`Asked`).
-/

set_option autoImplicit false

namespace ShowRemote.CommandLine

open Http (Exchange Outgoing)
open Show (Intent StatusView)

namespace Transcript

variable {α β : Type}

def andThen (t : Transcript α) (u : Transcript β) : Transcript β :=
  ⟨t.requests ++ u.requests, t.printed ++ u.printed, u.result⟩

end Transcript

namespace Dialogue

variable {α β : Type} (otherwise : Exchange)

@[simp] theorem play_done (a : α) (exchanges : List Exchange) :
    (Dialogue.done a).play otherwise exchanges = ⟨[], "", a⟩ := by
  rw [play]

@[simp] theorem play_print (text : String) (next : Dialogue α) (exchanges : List Exchange) :
    (Dialogue.print text next).play otherwise exchanges =
      { next.play otherwise exchanges with
        printed := text ++ (next.play otherwise exchanges).printed } := by
  rw [play]

@[simp] theorem play_pause (ms : Nat) (next : Unit → Dialogue α) (exchanges : List Exchange) :
    (Dialogue.pause ms next).play otherwise exchanges = (next ()).play otherwise exchanges := by
  rw [play]

theorem play_bind (d : Dialogue α) (f : α → Dialogue β) (exchanges : List Exchange) :
    (d.bind f).play otherwise exchanges =
      (d.play otherwise exchanges).andThen
        ((f (d.play otherwise exchanges).result).play otherwise
          (exchanges.drop (d.play otherwise exchanges).requests.length)) := by
  induction d generalizing exchanges with
  | done a => simp [bind, Transcript.andThen]
  | send request timeout next ih =>
    rw [bind, play, play, ih]
    simp [Transcript.andThen]
  | print text next ih =>
    rw [bind, play_print, play_print, ih]
    simp [Transcript.andThen, String.append_assoc]
  | pause ms next ih =>
    rw [bind, play_pause, play_pause]
    exact ih () exchanges

end Dialogue

/-- What a message comes to: a fault that keeps it from being sent, or what an exchange brings. -/
inductive Asked (base : Url) (message : Message) : Answer → List (Outgoing × Exchange) → Prop
  | refused {fault : Show.TransportFault} (fails : Outgoing.prepare base message = .error fault) :
      Asked base message (.error fault) []
  | sent {o : Outgoing} (prepared : Outgoing.prepare base message = .ok o) (exchange : Exchange) :
      Asked base message (o.settle exchange) [(o, exchange)]

theorem message_of_prepare {base : Url} {message : Message} {o : Outgoing}
    (prepared : Outgoing.prepare base message = .ok o) : o.message = message := by
  unfold Outgoing.prepare at prepared
  extract_lets path at prepared
  split at prepared
  · cases prepared
  · split at prepared
    · cases prepared
      rfl
    · cases prepared

namespace Player

variable (p : Player) (otherwise : Exchange) (exchanges : List Exchange)

theorem play_ask {message : Message} {o : Outgoing}
    (prepared : Outgoing.prepare p.base message = .ok o) :
    (p.ask message).play otherwise exchanges =
      ⟨[(o, exchanges.headD otherwise)], "", o.settle (exchanges.headD otherwise)⟩ := by
  rw [ask, prepared]
  simp only [Dialogue.play]

theorem asked_ask (message : Message) :
    ∃ answer sent, (p.ask message).play otherwise exchanges = ⟨sent, "", answer⟩ ∧
      Asked p.base message answer sent := by
  cases prepared : Outgoing.prepare p.base message with
  | error fault =>
    refine ⟨.error fault, [], ?_, .refused prepared⟩
    rw [ask, prepared, Dialogue.play_done]
  | ok o => exact ⟨_, _, p.play_ask otherwise exchanges prepared, .sent prepared _⟩

def get (kind : Kind) (s : Session) : Dialogue Session :=
  (p.ask (.get (p.endpoints.path kind))).bind fun reply =>
    .done ((s.issue kind).settle kind ((s.issue kind).issued kind) reply).session

theorem refresh_eq_get (s : Session) : p.refresh s = p.get .status s := by
  simp only [get, ← Session.settleRefresh_eq]
  rfl

private theorem loadDirectory_eq_get (s : Session) : p.loadDirectory s = p.get .directory s := by
  simp only [get, ← Session.settleDirectory_eq]
  rfl

theorem command_eq_bind (s : Session) (intent : Intent) :
    p.command s intent =
      (p.ask (.post p.endpoints.command intent.command.toJson)).bind fun reply =>
        p.get .status (s.posted intent.name reply) := by
  refine congrArg (Dialogue.bind _) (funext fun reply => ?_)
  cases reply with
  | ok document => exact p.refresh_eq_get s
  | error fault => exact p.refresh_eq_get _

theorem play_get (kind : Kind) (s : Session) :
    ∃ answer sent, (p.get kind s).play otherwise exchanges =
        ⟨sent, "", ((s.issue kind).settle kind (s.issued kind + 1) answer).session⟩ ∧
      Asked p.base (.get (p.endpoints.path kind)) answer sent := by
  obtain ⟨answer, sent, seen, asked⟩ :=
    p.asked_ask otherwise exchanges (.get (p.endpoints.path kind))
  refine ⟨answer, sent, ?_, asked⟩
  rw [get, Dialogue.play_bind, seen, Dialogue.play_done, Session.issued_issue, if_pos rfl]
  simp [Transcript.andThen]

/-- What a poll prints before the next one: a view that differs from the last one printed. -/
def pollText (s : Session) (printed : Option StatusView) : String :=
  if s.status.isSome ∧ printed ≠ some s.view then s.view.display ++ "\n\n" else ""

def printedAfter (s : Session) (printed : Option StatusView) : Option StatusView :=
  if s.status.isSome ∧ printed ≠ some s.view then some s.view else printed

theorem play_watch (ms polls : Nat) (s : Session) (printed : Option StatusView) :
    (p.watch ms (polls + 1) s printed).play otherwise exchanges =
      ((p.get .status s).bind fun s =>
        .print (pollText s printed) (p.watch ms polls s (printedAfter s printed))).play
          otherwise exchanges := by
  rw [watch, p.refresh_eq_get]
  show ((p.get .status s).bind _).play otherwise exchanges = _
  rw [Dialogue.play_bind, Dialogue.play_bind]
  refine congrArg (Transcript.andThen _) ?_
  generalize ((p.get .status s).play otherwise exchanges).result = s'
  rw [Dialogue.play_print, pollText, printedAfter]
  by_cases fresh : s'.status.isSome ∧ printed ≠ some s'.view
  · simp only [if_pos fresh, Dialogue.play_print]
    cases polls <;> rfl
  · simp only [if_neg fresh, String.empty_append]
    cases polls <;> rfl

end Player

def listText (s : Session) : String :=
  String.join (s.options.map fun o => o.label ++ "\n")

def listAndConclude (s : Session) : Dialogue Ending :=
  .print (listText s) (.done (conclude s))

def viewText (s : Session) : String :=
  if s.status.isSome then s.view.display ++ "\n" else ""

section Conclusions

variable (s : Session) (otherwise : Exchange) (exchanges : List Exchange)

@[simp] theorem play_showAndConclude :
    (showAndConclude s).play otherwise exchanges = ⟨[], viewText s, conclude s⟩ := by
  rw [showAndConclude, viewText]
  split
  · rw [Dialogue.play_print, Dialogue.play_done, String.append_empty]
  · rw [Dialogue.play_done]

@[simp] theorem play_listAndConclude :
    (listAndConclude s).play otherwise exchanges = ⟨[], listText s, conclude s⟩ := by
  rw [listAndConclude, Dialogue.play_print, Dialogue.play_done, String.append_empty]

end Conclusions

/-- The intent of an action that has one. A toggle depends on the status that was confirmed. -/
def Action.intent? : Action → Option (Session → Intent)
  | .playback action => some fun _ => .playback action
  | .select id => some fun _ => .selectShow id
  | .loop => some fun s => .toggleLoop s.loopNext
  | .status | .directory | .watch .. => none

section Perform

variable (p : Player) (settings : Settings)

theorem perform_status :
    perform p settings .status = (p.get .status .fresh).bind showAndConclude := by
  rw [← p.refresh_eq_get]
  rfl

theorem perform_directory :
    perform p settings .directory = (p.get .directory .fresh).bind listAndConclude := by
  rw [← p.loadDirectory_eq_get]
  rfl

theorem perform_intent {action : Action} {intent : Session → Intent}
    (carried : action.intent? = some intent) :
    perform p settings action =
      ((p.get .status .fresh).bind fun s => p.command s (intent s)).bind showAndConclude := by
  rw [← p.refresh_eq_get]
  cases action <;> cases carried <;> rfl

theorem perform_watch {intervalMs count : Option Nat}
    (period : intervalMs.getD settings.pollInterval ≠ 0) :
    perform p settings (.watch intervalMs count) =
      (p.watch (intervalMs.getD settings.pollInterval) (pollCount count) .fresh none).bind
        showAndConclude := by
  simp only [perform, if_neg period]
  rfl

end Perform

theorem period_ne_zero {intervalMs : Option Nat} (given : intervalMs ≠ some 0)
    (settings : Settings) : intervalMs.getD settings.pollInterval ≠ 0 := by
  have least := settings.leastPollInterval_le_pollInterval
  unfold Settings.leastPollInterval at least
  cases intervalMs with
  | none =>
    rw [Option.getD_none]
    omega
  | some ms =>
    rintro rfl
    exact given rfl

end ShowRemote.CommandLine
