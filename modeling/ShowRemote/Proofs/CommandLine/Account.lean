import ShowRemote.Proofs.CommandLine.Dialogue
import ShowRemote.Proofs.Session.Sequence

/-!
A run of the program as a run of a session. What an action does with a player is what a session at
rest does that makes the calls of the action, one after another, and is told of every request what
its exchange has brought (`Recounts`). The session of the program is the session of that run, its
last error is the last failure of the run, and it has heard the player when one of the requests has
brought what it was sent for.

Main statement: `perform_recounts`.
-/

set_option autoImplicit false

namespace ShowRemote.CommandLine

open Http (Exchange Outgoing)
open Journal (Entry)
open Show (Intent)

/-- Requests of a session as they were sent, with what their exchanges have brought. A request that
could not be sent has its fault for an answer. -/
inductive Exchanged (base : Url) : List Entry → List (Outgoing × Exchange) → Prop
  | nil : Exchanged base [] []
  | concat {entries : List Entry} {requests sent : List (Outgoing × Exchange)} {e : Entry}
      {answer : Answer} (before : Exchanged base entries requests)
      (answered : e.answer = some answer) (asked : Asked base e.message answer sent) :
      Exchanged base (entries ++ [e]) (requests ++ sent)

def Obtains (kind : Kind) (sent : Outgoing × Exchange) : Prop :=
  (∃ path, sent.1.message = .get path) ∧
    ∃ document, kind.verdict (sent.1.settle sent.2) = .ok document

private theorem not_exists_obtains_nil (kind : Kind) :
    ¬ ∃ pair ∈ ([] : List (Outgoing × Exchange)), Obtains kind pair := by
  rintro ⟨pair, mem, -⟩
  exact List.not_mem_nil mem

private theorem Asked.obtains_iff {base : Url} {path : String} {answer : Answer}
    {sent : List (Outgoing × Exchange)} (asked : Asked base (.get path) answer sent)
    (kind : Kind) :
    (∃ pair ∈ sent, Obtains kind pair) ↔ ∃ document, kind.verdict answer = .ok document := by
  cases asked with
  | refused fails => exact iff_of_false (not_exists_obtains_nil kind) (by cases kind <;> nofun)
  | sent prepared exchange =>
    have message := message_of_prepare prepared
    constructor
    · rintro ⟨pair, mem, -, good⟩
      rwa [List.mem_singleton.mp mem] at good
    · intro good
      exact ⟨_, List.mem_singleton_self _, ⟨path, message⟩, good⟩

private theorem Asked.not_obtains {base : Url} {path : String} {body : Json} {answer : Answer}
    {sent : List (Outgoing × Exchange)} (asked : Asked base (.post path body) answer sent)
    (kind : Kind) : ¬ ∃ pair ∈ sent, Obtains kind pair := by
  cases asked with
  | refused fails => exact not_exists_obtains_nil kind
  | sent prepared exchange =>
    have message := message_of_prepare prepared
    rintro ⟨pair, mem, ⟨path, gets⟩, -⟩
    rw [List.mem_singleton.mp mem, message] at gets
    cases gets

/-- A run of a session that recounts what a player was asked. -/
structure Recounts (p : Player) (kind : Kind) (h : History)
    (requests : List (Outgoing × Exchange)) : Prop where
  rests : h.Rests p.endpoints
  exchanged : Exchanged p.base h.journal.entries requests
  lastError : h.session.lastError = h.journal.failures.getLast?
  heard : h.session.heard = true ↔ ∃ pair ∈ requests, Obtains kind pair

private theorem recounts_opened (p : Player) (kind : Kind) :
    Recounts p kind (.opened p.endpoints) [] :=
  ⟨History.rests_opened p.endpoints, .nil, rfl,
    iff_of_false Bool.false_ne_true (not_exists_obtains_nil kind)⟩

section Steps

variable {p : Player} {kind : Kind} {h : History} {requests : List (Outgoing × Exchange)}

private theorem exists_obtains_append (front back : List (Outgoing × Exchange)) :
    (∃ pair ∈ front ++ back, Obtains kind pair) ↔
      (∃ pair ∈ front, Obtains kind pair) ∨ ∃ pair ∈ back, Obtains kind pair := by
  simp only [List.mem_append, or_and_right, exists_or]

private theorem Recounts.get (recounts : Recounts p kind h requests) (otherwise : Exchange)
    (exchanges : List Exchange) :
    ∃ h' sent, (p.get kind h.session).play otherwise exchanges = ⟨sent, "", h'.session⟩ ∧
      Recounts p kind h' (requests ++ sent) ∧
      h'.journal.calls = h.journal.calls ++ [kind.call] := by
  obtain ⟨answer, sent, seen, asked⟩ := p.play_get otherwise exchanges kind h.session
  obtain ⟨h', e, rests, session, calls, entries, ⟨⟨rank, errand⟩, message⟩, answered⟩ :=
    recounts.rests.get kind answer
  have failure : e.failure? = (Errand.get kind rank).failure? answer := by
    rw [Entry.failure?, answered, errand]
    rfl
  refine ⟨h', sent, by rw [seen, session], ⟨rests, ?_, ?_, ?_⟩, calls⟩
  · rw [entries]
    exact .concat recounts.exchanged answered (by rwa [message])
  · rw [session, Session.lastError_settle, Session.lastError_issue, recounts.lastError,
      Journal.failures, Journal.failures, entries, Journal.getLast?_filterMap_concat, failure]
    rfl
  · rw [session, Session.heard_settle _ (Nat.succ_pos _), Session.heard_issue, recounts.heard,
      exists_obtains_append, asked.obtains_iff]

private theorem Recounts.command (recounts : Recounts p .status h requests) {c : Call}
    {intent : Intent} (carried : c.intent h.session.loopNext = some intent) (otherwise : Exchange)
    (exchanges : List Exchange) :
    ∃ h' sent, (p.command h.session intent).play otherwise exchanges = ⟨sent, "", h'.session⟩ ∧
      Recounts p .status h' (requests ++ sent) ∧
      h'.journal.calls = h.journal.calls ++ [c] := by
  obtain ⟨posted, front, seen, asked⟩ :=
    p.asked_ask otherwise exchanges (.post p.endpoints.command intent.command.toJson)
  obtain ⟨told, back, seen', asked'⟩ := p.play_get otherwise (exchanges.drop front.length) .status
    (h.session.posted intent.name posted)
  obtain ⟨h', post, get, rests, session, calls, entries, ⟨errand, message, answered⟩,
    ⟨⟨rank, errand'⟩, message'⟩, answered'⟩ := recounts.rests.command carried posted told
  have failure : post.failure? = (Errand.post intent.name).failure? posted := by
    rw [Entry.failure?, answered, errand]
    rfl
  have failure' : get.failure? = (Errand.get .status rank).failure? told := by
    rw [Entry.failure?, answered', errand']
    rfl
  refine ⟨h', front ++ back, ?_, ⟨rests, ?_, ?_, ?_⟩, calls⟩
  · rw [p.command_eq_bind, Dialogue.play_bind, seen, seen', session]
    rfl
  · rw [entries, ← List.append_assoc]
    have first := recounts.exchanged.concat answered (by rwa [message])
    exact first.concat answered' (by rwa [message'])
  · rw [session, Session.lastError_settle, Session.lastError_issue, Session.lastError_posted,
      recounts.lastError, Journal.failures, Journal.failures, entries,
      Journal.getLast?_filterMap_concat, Journal.getLast?_filterMap_concat, failure, failure']
    rfl
  · rw [session, Session.heard_settle _ (Nat.succ_pos _), Session.heard_issue,
      Session.heard_posted, recounts.heard, ← List.append_assoc, exists_obtains_append,
      exists_obtains_append, asked'.obtains_iff]
    simp only [asked.not_obtains, or_false]

private theorem Recounts.watch (recounts : Recounts p .status h requests) (ms polls : Nat)
    (printed : Option Show.StatusView) (otherwise : Exchange) (exchanges : List Exchange) :
    ∃ h' sent text, (p.watch ms polls h.session printed).play otherwise exchanges =
        ⟨sent, text, h'.session⟩ ∧
      Recounts p .status h' (requests ++ sent) ∧
      h'.journal.calls = h.journal.calls ++ List.replicate polls .refresh := by
  induction polls generalizing h requests printed exchanges with
  | zero =>
    refine ⟨h, [], "", ?_, by rwa [List.append_nil], (List.append_nil _).symm⟩
    rw [Player.watch, Dialogue.play_done]
  | succ polls ih =>
    obtain ⟨next, sent, seen, recounts', calls⟩ := recounts.get otherwise exchanges
    obtain ⟨h', more, text, seen', recounts'', calls'⟩ :=
      ih recounts' (Player.printedAfter next.session printed) (exchanges.drop sent.length)
    refine ⟨h', sent ++ more, Player.pollText next.session printed ++ text, ?_,
      by rwa [← List.append_assoc], ?_⟩
    · rw [p.play_watch, Dialogue.play_bind, seen, Dialogue.play_print, seen', Transcript.andThen,
        String.empty_append]
    · rw [calls', calls, List.append_assoc, List.replicate_succ]
      rfl

end Steps

namespace Action

def kind : Action → Kind
  | .directory => .directory
  | _ => .status

/-- The calls that an action makes. An intent is carried out after the status has been got. -/
def calls : Action → List Call
  | .status => [.refresh]
  | .directory => [.loadDirectory]
  | .playback action => [.refresh, .command (.playback action)]
  | .select id => [.refresh, .command (.selectShow id)]
  | .loop => [.refresh, .toggleLoop]
  | .watch _ count => List.replicate (pollCount count) .refresh

/-- An action comes to an end by itself. A watch needs a count for that, and a period to start. -/
def Ends : Action → Prop
  | .watch intervalMs count => count.isSome ∧ intervalMs ≠ some 0
  | _ => True

theorem calls_ne_nil (action : Action) : action.calls ≠ [] := by
  cases action with
  | watch intervalMs count =>
    have polls : pollCount count ≠ 0 := (Nat.lt_of_lt_of_le Nat.one_pos (Nat.le_max_right _ _)).ne'
    rw [calls, Ne, List.replicate_eq_nil_iff]
    exact polls
  | status | directory | playback | select | loop => exact List.cons_ne_nil _ _

private theorem exists_call {action : Action} {intent : Session → Intent}
    (carried : action.intent? = some intent) :
    action.kind = .status ∧ ∃ c : Call, action.calls = [.refresh, c] ∧
      ∀ s : Session, c.intent s.loopNext = some (intent s) := by
  cases action <;> cases carried <;> exact ⟨rfl, _, rfl, fun _ => rfl⟩

end Action

private theorem first_get_recounts (p : Player) (kind : Kind) (otherwise : Exchange)
    (exchanges : List Exchange) :
    ∃ h sent, (p.get kind .fresh).play otherwise exchanges = ⟨sent, "", h.session⟩ ∧
      Recounts p kind h sent ∧ h.journal.calls = [kind.call] :=
  (recounts_opened p kind).get otherwise exchanges

/-- What an action of the program recounts, when it comes to an end: the calls of the action, and
what the session of these calls concludes. -/
theorem perform_recounts (p : Player) (settings : Settings) {action : Action} (ends : action.Ends)
    (otherwise : Exchange) (exchanges : List Exchange) :
    ∃ h requests text, (perform p settings action).play otherwise exchanges =
        ⟨requests, text, conclude h.session⟩ ∧
      Recounts p action.kind h requests ∧ h.journal.calls = action.calls := by
  cases carried : action.intent? with
  | some intent =>
    obtain ⟨status, c, made, carries⟩ := Action.exists_call carried
    obtain ⟨confirmed, front, seen, recounts, calls⟩ :=
      first_get_recounts p .status otherwise exchanges
    obtain ⟨h, back, seen', recounts', calls'⟩ :=
      recounts.command (carries confirmed.session) otherwise (exchanges.drop front.length)
    refine ⟨h, front ++ back, viewText h.session, ?_, by rw [status]; exact recounts', ?_⟩
    · rw [perform_intent p settings carried, Dialogue.play_bind, Dialogue.play_bind, seen,
        seen']
      simp [Transcript.andThen]
    · rw [calls', calls, made]
      rfl
  | none =>
    cases action with
    | status =>
      obtain ⟨h, sent, seen, recounts, calls⟩ :=
        first_get_recounts p .status otherwise exchanges
      refine ⟨h, sent, viewText h.session, ?_, recounts, calls⟩
      rw [perform_status, Dialogue.play_bind, seen]
      simp [Transcript.andThen]
    | directory =>
      obtain ⟨h, sent, seen, recounts, calls⟩ :=
        first_get_recounts p .directory otherwise exchanges
      refine ⟨h, sent, listText h.session, ?_, recounts, calls⟩
      rw [perform_directory, Dialogue.play_bind, seen]
      simp [Transcript.andThen]
    | watch intervalMs count =>
      obtain ⟨-, given⟩ := ends
      obtain ⟨h, sent, text, seen, recounts, calls⟩ :=
        (recounts_opened p .status).watch (intervalMs.getD settings.pollInterval)
          (pollCount count) none otherwise exchanges
      rw [show (History.opened p.endpoints).session = .fresh from rfl] at seen
      refine ⟨h, sent, text ++ viewText h.session, ?_, recounts, calls⟩
      rw [perform_watch p settings (period_ne_zero given settings), Dialogue.play_bind, seen]
      simp [Transcript.andThen]
    | playback | select | loop => cases carried

end ShowRemote.CommandLine
