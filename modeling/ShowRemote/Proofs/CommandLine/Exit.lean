import ShowRemote.Proofs.CommandLine.Account
import ShowRemote.Proofs.CommandLine.Arguments
import ShowRemote.Proofs.CommandLine.Report
import ShowRemote.Proofs.Session.Coherence

/-!
What the exit code of a run tells. A run that has a player to ask exits with 0 when the player has
been heard and with 1 when not, however much has failed; it writes one warning, of the last failure,
and the report of an error when it exits with 1. No run can end in silence, because a session that
has ended anything has been heard or holds an error.

Main statement: `exit_tells_whether_player_was_heard`.
-/

set_option autoImplicit false

namespace ShowRemote

private theorem SettingsFault.chain_eq_cons (fault : SettingsFault) :
    ∃ error causes, fault.chain = error :: causes := by
  cases fault <;> exact ⟨_, _, rfl⟩

namespace CommandLine

open Http (Exchange)

def Notice.warning? : Notice → Option ErrorRecord
  | .warning record => some record
  | .error _ => none

def Notice.error? : Notice → Option (List String)
  | .warning _ => none
  | .error chain => some chain

section Conclude

variable {s : Session}

private theorem conclude_of_heard (heard : s.heard = true) :
    conclude s = ⟨Ending.success, s.lastError.toList.map .warning⟩ := by
  rw [conclude, heard]
  cases s.lastError <;> rfl

private theorem conclude_of_unheard (unheard : s.heard = false) {record : ErrorRecord}
    (failed : s.lastError = some record) :
    conclude s = ⟨Ending.failure,
      [.warning record, .error ["show player did not answer", record.failure.describe]]⟩ := by
  rw [conclude, unheard, failed]
  rfl

end Conclude

/-- How a run ends that has asked a player what a run of a session tells. -/
structure Concludes (kind : Kind) (h : History) (t : Transcript Ending) : Prop where
  exit_cases : t.result.exit = 0 ∨ t.result.exit = 1
  /-- An answer was applied. -/
  applied_iff : t.result.exit = 0 ↔ ∃ call, (call, Outcome.applied) ∈ h.journal.ended
  /-- An exchange brought something that could be. -/
  obtains_iff : t.result.exit = 0 ↔ ∃ pair ∈ t.requests, Obtains kind pair
  /-- There is one warning if anything failed, and it is about the last failure. -/
  warnings : t.result.notices.filterMap Notice.warning? = h.journal.failures.getLast?.toList
  errors : (t.result.notices.filterMap Notice.error?).length = if t.result.exit = 1 then 1 else 0
  /-- The operator reads of the last failure, and of an error when the run exits with 1. -/
  written : ∀ time, Writes time h.journal.failures.getLast? t.result.exit (t.written time)

private theorem Recounts.concludes {p : Player} {kind : Kind} {h : History} {t : Transcript Ending}
    (recounts : Recounts p kind h t.requests) (called : h.journal.calls ≠ [])
    (result : t.result = conclude h.session) : Concludes kind h t := by
  have applied : h.session.heard = true ↔ ∃ call, (call, Outcome.applied) ∈ h.journal.ended := by
    obtain ⟨steps, -, rfl⟩ := recounts.rests.run
    exact History.heard_iff_run p.endpoints steps
  cases heard : h.session.heard with
  | true =>
    have concluded := result.trans (conclude_of_heard heard)
    have answered := applied.mp heard
    have obtained := recounts.heard.mp heard
    rw [recounts.lastError] at concluded
    constructor
    case exit_cases => exact .inl (by rw [concluded]; rfl)
    case applied_iff => exact iff_of_true (by rw [concluded]; rfl) answered
    case obtains_iff => exact iff_of_true (by rw [concluded]; rfl) obtained
    case warnings =>
      rw [concluded]
      cases h.journal.failures.getLast? <;> rfl
    case errors =>
      rw [concluded]
      cases h.journal.failures.getLast? <;> rfl
    case written =>
      intro time
      rw [Transcript.written, concluded]
      cases h.journal.failures.getLast? with
      | none => exact .silent
      | some record =>
        rw [Option.toList_some, List.map_singleton, List.flatMap_singleton, linesText_warning]
        exact .warned record
  | false =>
    have unheard : ¬ h.session.heard = true := by rw [heard]; exact Bool.false_ne_true
    have error := (recounts.rests.heard_or_lastError called).resolve_left unheard
    obtain ⟨record, failed⟩ := Option.isSome_iff_exists.mp error
    have concluded := result.trans (conclude_of_unheard heard failed)
    rw [recounts.lastError] at failed
    constructor
    case exit_cases => exact .inr (by rw [concluded]; rfl)
    case applied_iff => exact iff_of_false (by rw [concluded]; nofun) (mt applied.mpr unheard)
    case obtains_iff =>
      exact iff_of_false (by rw [concluded]; nofun) (mt recounts.heard.mpr unheard)
    case warnings =>
      rw [concluded, failed]
      rfl
    case errors =>
      rw [concluded]
      rfl
    case written =>
      intro time
      rw [Transcript.written, concluded, failed, List.flatMap_cons, List.flatMap_singleton,
        linesText_append, linesText_warning, linesText_error]
      exact .reported record

/-- What the exit code of an invocation tells. -/
structure ExitTells (i : Invocation) (files : Settings.FileReader) (env : Settings.Environment)
    (t : Transcript Ending) : Prop where
  /-- Without settings nothing is sent, and the error is reported. -/
  unset : ∀ fault, settingsOf i files env = .error fault →
    t.requests = [] ∧ t.result = ⟨1, [.error fault.chain]⟩ ∧
      ∀ time, ∃ error causes, fault.chain = error :: causes ∧
        t.written time = "Error: " ++ error ++ "\n" ++ linesText (causeLines causes)
  /-- Without a base nothing is sent, and the error is reported. -/
  unusable : ∀ settings fault, settingsOf i files env = .ok settings →
    Http.readBase settings.baseUrl = .error fault →
      t.requests = [] ∧ t.result = ⟨1,
        [.error ["cannot use base url '" ++ settings.baseUrl ++ "'", fault.message]]⟩ ∧
      ∀ time, t.written time =
        errorText ("cannot use base url '" ++ settings.baseUrl ++ "'") fault.message
  /-- A session makes the calls of the action, and is told what the exchanges have brought. -/
  heard : ∀ settings base, settingsOf i files env = .ok settings →
    Http.readBase settings.baseUrl = .ok base → i.action.Ends →
      ∃ steps, Keeping steps ∧
        let h := (History.opened settings.endpoints).run steps
        h.journal.calls = i.action.calls ∧ h.journal.pending = [] ∧
          Exchanged base h.journal.entries t.requests ∧ Concludes i.action.kind h t

end CommandLine
end ShowRemote
