import ShowRemote.Proofs.Session.Outcomes
import ShowRemote.Proofs.Show.Number

/-!
What a session shows hangs together. The view, the flag of the next toggle and the state of the
player are those of one status, whatever document it was read from, and before there is one they say
so. A number in the row of the show is always one that a player accepts.

Main statement: `rendered_state_is_coherent`.
-/

set_option autoImplicit false

namespace ShowRemote

open Journal (Entry)
open Show (LoopFlag PlayerState ShowNumber ShowOption Status StatusView)

namespace Show

/-- The texts of the row of the show: nothing is known, there is no show, a text that is a show
number between blanks, or a JSON number that is one, as JSON writes it. -/
inductive IsShowRow : String → Prop
  | unrendered : IsShowRow "-"
  | missing : IsShowRow "None"
  | text {text : String} (number : ShowNumber)
      (denotes : Text.Denotes (Text.trimBlanks text.toList) number.value) : IsShowRow text
  | json (n : Json.Number) (number : ShowNumber) (value : n.value = number.value) :
      IsShowRow n.text

private theorem isShowRow_ofJson (document : Json) :
    IsShowRow (StatusView.ofStatus (Status.ofJson document)).current := by
  cases shown : (Status.ofJson document).current with
  | none =>
    simp only [StatusView.ofStatus, shown]
    exact .missing
  | some id =>
    obtain ⟨value, -, named⟩ := Option.bind_eq_some_iff.mp shown
    simp only [StatusView.ofStatus, shown, Option.map_some, Option.getD_some]
    rcases (ShowId.ofJson?_eq_some_iff value id).mp named with
      ⟨-, number, denotes⟩ | ⟨n, -, spelled, number, value⟩
    · exact .text number denotes
    · rw [spelled]
      exact .json n number value

theorem PlayerState.ofStatus_ne_unknown (status : Status) : ofStatus status ≠ .unknown := by
  unfold ofStatus
  split
  · nofun
  · split
    · split <;> nofun
    · nofun

theorem PlayerState.ofStatus_eq_looping_iff (status : Status) :
    ofStatus status = .looping ↔ status.looping = true := by
  unfold ofStatus
  cases status.looping with
  | true => simp
  | false =>
    refine iff_of_false ?_ nofun
    rw [if_neg Bool.false_ne_true]
    split
    · split <;> nofun
    · nofun

theorem PlayerState.text_of_playing {status : Status} (playing : ofStatus status = .playing) :
    ∃ text, status.text = some text ∧
      (Text.lowerAscii (Text.trimBlanks text.toList) = "playing".toList ∨
        Text.lowerAscii (Text.trimBlanks text.toList) = "running".toList) := by
  unfold ofStatus at playing
  split at playing
  · cases playing
  · split at playing
    · next text said =>
      split at playing
      · next word => exact ⟨text, said, by simpa [playingWords] using word⟩
      · cases playing
    · cases playing

end Show

namespace Journal

/-- A call that gets a kind ended with its document shown. -/
def HasApplied (j : Journal) (kind : Kind) : Prop :=
  ∃ end_ ∈ j.ended, j.ending? end_ = some (kind, .applied)

section

variable {endpoints : Endpoints} {x x' : Session} {j j' : Journal} {s : Step}

/-- Something of a kind has been applied when a call has ended so. -/
def Applies (j : Journal) (x : Session) : Prop :=
  ∀ kind, 0 < x.applied kind ↔ j.HasApplied kind

private theorem applies_blank : blank.Applies .fresh := by
  intro kind
  cases kind <;> exact iff_of_false (Nat.lt_irrefl 0) nofun

private theorem Coursing.hasApplied_told (coursing : j.Coursing endpoints) {e : Entry}
    (mem : e ∈ j.entries) {kind : Kind} {rank : Nat} (errand : e.slip.errand = .get kind rank)
    (entries : List Entry) (outcome : Outcome) (other : Kind) :
    (Journal.mk j.calls entries (j.ended ++ [(e.slip.call, outcome)])).HasApplied other ↔
      j.HasApplied other ∨ (kind = other ∧ outcome = .applied) := by
  obtain ⟨c, made, rfl⟩ := coursing.kind_of_get mem errand
  have told : j.ending? (e.slip.call, outcome) = some (c.kind, outcome) := by
    simp [ending?, made]
  constructor
  · rintro ⟨end_, mem, applied⟩
    rcases List.mem_append.mp mem with mem | mem
    · exact .inl ⟨end_, mem, applied⟩
    · obtain rfl := List.mem_singleton.mp mem
      have same : some (c.kind, outcome) = some (other, .applied) := told.symm.trans applied
      exact .inr (by simpa using same)
  · rintro (⟨end_, mem, applied⟩ | ⟨rfl, rfl⟩)
    · exact ⟨end_, List.mem_append_left _ mem, applied⟩
    · exact ⟨_, List.mem_append_right _ (List.mem_singleton.mpr rfl), told⟩

private theorem Coursing.hasApplied_call (coursing : j.Coursing endpoints) (c : Call)
    (entries : List Entry) (kind : Kind) :
    (Journal.mk (j.calls ++ [c]) entries j.ended).HasApplied kind ↔ j.HasApplied kind := by
  constructor
  · rintro ⟨end_, mem, applied⟩
    exact ⟨end_, mem, (coursing.ending?_append c entries mem).symm.trans applied⟩
  · rintro ⟨end_, mem, applied⟩
    exact ⟨end_, mem, (coursing.ending?_append c entries mem).trans applied⟩

private theorem Applies.turn (applies : j.Applies x) (coursing : j.Coursing endpoints)
    (turn : Turn endpoints x j s x' j') : j'.Applies x' := by
  intro kind
  cases turn with
  | ask asked =>
    rw [Session.applied_issue, coursing.hasApplied_call]
    exact applies kind
  | post c intent carried =>
    rw [coursing.hasApplied_call]
    exact applies kind
  | told e got rank answer waits errand =>
    rw [coursing.hasApplied_told (mem_of_mem_pending waits) errand, ← applies kind]
    rcases x.settle_cases got rank answer with
      ⟨failure, -, hs⟩ | ⟨document, -, -, hs⟩ | ⟨document, -, newer, hs⟩
    · simp [hs, Session.settleFailure]
    · simp [hs]
    · -- A document shown has a rank of its own, and ranks start above 0.
      rw [hs, Session.applied_adopt]
      by_cases same : kind = got
      · simp [same, Nat.zero_lt_of_lt newer]
      · simp [same, Ne.symm same]
  | confirm e intent answer waits errand =>
    rw [Session.applied_issue, Session.applied_posted]
    exact applies kind
  | clearError =>
    have same : x.clearError.applied kind = x.applied kind := by cases kind <;> rfl
    rw [same]
    exact applies kind
  | stray | subscribe | drain => exact applies kind

private theorem ShownBy.status_eq_none_iff (shown : j.ShownBy x .status) (numbered : j.Numbered) :
    x.status = none ↔ ¬ 0 < x.applied .status := by
  obtain ⟨last, latest, status, -, -⟩ := shown
  generalize happlied : x.applied .status = applied at latest
  cases latest with
  | unheard _ => simp [status]
  | heard usable _ =>
    obtain ⟨e, mem, errand, -⟩ := usable
    have positive := (numbered.exists_rank_iff.mp ⟨e, mem, errand⟩).1
    refine iff_of_false ?_ (not_not.mpr positive)
    rw [status]
    nofun

end
end Journal

namespace Session

/-- A session that shows that nothing is known. -/
structure Unrendered (x : Session) : Prop where
  rows : x.view.rows = [("Show", "-"), ("Status", "-"), ("Looping", "-")]
  button : x.view.button.text = "Looping"
  loopNext : x.loopNext.text = "1"

/-- A session that shows a status: all that tells whether the show is repeated tells the same. -/
structure Renders (x : Session) (status : Status) : Prop where
  view : x.view = .ofStatus status
  next_iff : x.loopNext.text = "0" ↔ status.looping = true
  button_iff : x.view.button.text = "No loop" ↔ status.looping = true
  row_iff : x.view.looping = "Yes" ↔ status.looping = true
  player_iff : x.player = .looping ↔ status.looping = true
  text_of_playing : x.player = .playing → ∃ text, status.text = some text ∧
    (Text.lowerAscii (Text.trimBlanks text.toList) = "playing".toList ∨
      Text.lowerAscii (Text.trimBlanks text.toList) = "running".toList)

variable {x : Session}

private theorem unrendered_of_shows (shows : x.Shows .status none) : x.Unrendered := by
  obtain ⟨-, view, loopNext⟩ := shows
  constructor
  · rw [view]
    rfl
  · rw [view]
    rfl
  · rw [loopNext]
    rfl

private theorem renders_of_shows {document : Json} (shows : x.Shows .status (some document)) :
    x.Renders (Status.ofJson document) := by
  obtain ⟨status, view, loopNext⟩ := shows
  have player : x.player = .ofStatus (Status.ofJson document) := by rw [Session.player, status]; rfl
  constructor
  case view => exact view
  case next_iff =>
    rw [loopNext]
    show (LoopFlag.ofBool _).toggled.text = _ ↔ _
    cases (Status.ofJson document).looping <;> decide
  case button_iff =>
    rw [view]
    show (Show.LoopButton.ofLooping _).text = _ ↔ _
    cases (Status.ofJson document).looping <;> decide
  case row_iff =>
    rw [view]
    show (if (Status.ofJson document).looping then "Yes" else "No") = _ ↔ _
    cases (Status.ofJson document).looping <;> decide
  case player_iff =>
    rw [player]
    exact PlayerState.ofStatus_eq_looping_iff _
  case text_of_playing =>
    rw [player]
    exact PlayerState.text_of_playing

end Session

namespace History

private theorem applies_run (endpoints : Endpoints) (steps : List Step) :
    ((opened endpoints).run steps).journal.Applies ((opened endpoints).run steps).session := by
  induction steps using List.reverseRecOn with
  | nil => exact Journal.applies_blank
  | append_singleton steps s ih =>
    exact ih.turn (coursing_run endpoints steps) (turn_run endpoints steps s)

/-- All that a session shows tells the same story. -/
structure Coherent (h : History) : Prop where
  /-- There is no status until one is applied, and until then nothing is known of the player. -/
  status_none_iff : h.session.status = none ↔ ¬ h.journal.HasApplied .status
  unknown_iff : h.session.player = .unknown ↔ h.session.status = none
  unrendered : h.session.status = none → h.session.Unrendered
  renders : ∀ status, h.session.status = some status → h.session.Renders status
  options : h.session.options = h.session.directory.ids.map fun id => ⟨id.text, id.text⟩
  heard_iff : h.session.heard = true ↔ ∃ call, (call, Outcome.applied) ∈ h.journal.ended
  isShowRow : Show.IsShowRow h.session.view.current

/-- An adopted answer is one that ended a call, of whatever kind. -/
theorem heard_iff_run (endpoints : Endpoints) (steps : List Step) :
    ((opened endpoints).run steps).session.heard = true ↔
      ∃ call, (call, Outcome.applied) ∈ ((opened endpoints).run steps).journal.ended := by
  have applies := applies_run endpoints steps
  have coursing := coursing_run endpoints steps
  have heard : ((opened endpoints).run steps).session.heard = true ↔
      0 < ((opened endpoints).run steps).session.applied .status ∨
        0 < ((opened endpoints).run steps).session.applied .directory := by
    simp [Session.heard, Session.applied]
  rw [heard, applies .status, applies .directory]
  constructor
  · rintro (⟨⟨call, outcome⟩, mem, told⟩ | ⟨⟨call, outcome⟩, mem, told⟩)
    all_goals
      obtain ⟨kind, told'⟩ := coursing.ending?_eq_some mem
      obtain ⟨-, rfl⟩ := Prod.mk.inj (Option.some.inj (told.symm.trans told'))
      exact ⟨call, mem⟩
  · rintro ⟨call, mem⟩
    obtain ⟨kind, told⟩ := coursing.ending?_eq_some mem
    cases kind with
    | status => exact .inl ⟨_, mem, told⟩
    | directory => exact .inr ⟨_, mem, told⟩

private theorem status_eq_none_iff_run (endpoints : Endpoints) (steps : List Step) :
    ((opened endpoints).run steps).session.status = none ↔
      ¬ 0 < ((opened endpoints).run steps).session.applied .status :=
  (shownBy_run endpoints steps .status).status_eq_none_iff (numbered_run endpoints steps)

private theorem coherent_run (endpoints : Endpoints) (steps : List Step) :
    ((opened endpoints).run steps).Coherent := by
  obtain ⟨last, -, shows⟩ := shownBy_run endpoints steps .status
  constructor
  case status_none_iff =>
    rw [status_eq_none_iff_run, applies_run endpoints steps .status]
  case unknown_iff =>
    cases hs : ((opened endpoints).run steps).session.status with
    | none => simp [Session.player, hs]
    | some status => simp [Session.player, hs, PlayerState.ofStatus_ne_unknown]
  case unrendered =>
    intro unknown
    cases last with
    | none => exact Session.unrendered_of_shows shows
    | some document => cases shows.1.symm.trans unknown
  case renders =>
    intro status known
    cases last with
    | none => cases shows.1.symm.trans known
    | some document =>
      obtain rfl := Option.some.inj (shows.1.symm.trans known)
      exact Session.renders_of_shows shows
  case options => rfl
  case heard_iff => exact heard_iff_run endpoints steps
  case isShowRow =>
    rw [shows.2.1]
    cases last with
    | none => exact .unrendered
    | some document => exact Show.isShowRow_ofJson document

private theorem heard_run (endpoints : Endpoints) (steps more : List Step)
    (heard : ((opened endpoints).run steps).session.heard = true) :
    ((opened endpoints).run (steps ++ more)).session.heard = true := by
  have refreshed := applied_le_run endpoints steps more .status
  have loaded := applied_le_run endpoints steps more .directory
  simp only [Session.heard, Bool.or_eq_true, decide_eq_true_eq] at heard ⊢
  exact heard.imp (fun positive => positive.trans_le refreshed)
    fun positive => positive.trans_le loaded

private theorem status_ne_none_run (endpoints : Endpoints) (steps more : List Step)
    (known : ((opened endpoints).run steps).session.status ≠ none) :
    ((opened endpoints).run (steps ++ more)).session.status ≠ none := by
  rw [Ne, status_eq_none_iff_run, not_not] at known ⊢
  exact known.trans_le (applied_le_run endpoints steps more .status)

/-- In every run, whatever the player answers, all that a session shows is that of one status, and
says so before there is one. What was heard stays heard, and a status once known stays known. -/
theorem rendered_state_is_coherent (endpoints : Endpoints) (steps : List Step) :
    ((opened endpoints).run steps).Coherent ∧
      ∀ more,
        (((opened endpoints).run steps).session.heard = true →
          ((opened endpoints).run (steps ++ more)).session.heard = true) ∧
        (((opened endpoints).run steps).session.status ≠ none →
          ((opened endpoints).run (steps ++ more)).session.status ≠ none) :=
  ⟨coherent_run endpoints steps, fun more =>
    ⟨heard_run endpoints steps more, status_ne_none_run endpoints steps more⟩⟩

/-- A show number out of range is not shown, and a later failure forgets nothing. -/
theorem status_out_of_range_is_coherent :
    let steps : List Step :=
      [.call .refresh, .answer 1 (.ok (.object
        [("show", .number (.integer 100)), ("status", .string "Running"), ("loop", .string "1")]))]
    let more : List Step := [.call .refresh, .answer 2 (.error (.timeout "player"))]
    let h := (opened .standard).run steps
    let later := (opened .standard).run (steps ++ more)
    h.session.view = ⟨"None", "Running", "Yes", .noLoop⟩ ∧ h.Coherent ∧
      (h.session.heard = true ∧ later.session.heard = true) ∧
      h.session.status ≠ none ∧ later.session.status ≠ none := by
  intro steps more h later
  obtain ⟨coherent, stays⟩ := rendered_state_is_coherent .standard steps
  have heard : h.session.heard = true := by decide
  have known : h.session.status ≠ none := by decide
  exact ⟨by decide, coherent, ⟨heard, (stays more).1 heard⟩, known, (stays more).2 known⟩

end History
end ShowRemote
