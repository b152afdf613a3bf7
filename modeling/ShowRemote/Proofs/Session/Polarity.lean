import ShowRemote.Proofs.Session.Conservation
import ShowRemote.Proofs.Session.Effects
import ShowRemote.Proofs.Session.Latest

/-!
What a toggle posts. It is read off the button at the moment of the call, and the button tells the
latest status that was answered, and no other thing (`button_run`). So the flag stays the same for
as long as no status is shown (`loopNext_of_unconfirmed`), however many toggles are sent in that
time, and no answer that comes after a toggle reaches what it has posted (`post_of_call`).

Main statement: `toggles_follow_confirmed_status`.
-/

set_option autoImplicit false

namespace ShowRemote

open Journal (Entry)
open Show (Command Intent LoopFlag Status)

namespace Show

theorem Command.member?_loop (c : Command) :
    c.toJson.member? "loop" = c.loopFlag.map fun flag => .string flag.text := by
  obtain ⟨selection, action, loopFlag⟩ := c
  cases action <;> cases loopFlag <;> rfl

theorem Intent.member?_loop {intent : Intent} {value : Json}
    (member : intent.command.toJson.member? "loop" = some value) :
    ∃ next, intent = .toggleLoop next ∧ value = .string next.text := by
  rw [Command.member?_loop] at member
  cases intent with
  | playback action => cases member
  | selectShow id => cases member
  | toggleLoop next =>
    cases member
    exact ⟨next, rfl, rfl⟩

end Show

private theorem Desk.sent_post {d : Desk} {s : Step} {request : Request} {path : String}
    {body : Json} (sent : (d.step s).2.sent = some request)
    (posts : request.message = .post path body) :
    ∃ c intent, s = .call c ∧ c.intent d.session.loopNext = some intent ∧
      body = intent.command.toJson := by
  cases s with
  | call c =>
    rcases c.asks_or_posts d.session.loopNext with ⟨kind, rfl⟩ | ⟨intent, carried⟩
    · rw [Desk.step_ask] at sent
      cases sent
      cases posts
    · rw [Desk.step_post carried] at sent
      cases sent
      cases posts
      exact ⟨c, intent, rfl, carried, rfl⟩
  | answer number answer =>
    cases found : d.waiting.find? fun w => w.request = number with
    | none =>
      rw [Desk.step, Desk.answer_unknown found] at sent
      cases sent
    | some w =>
      rw [Desk.step] at sent
      cases errand : w.purpose.errand with
      | get kind rank =>
        rw [Desk.answer_get found errand] at sent
        cases sent
      | post intent =>
        obtain ⟨receivers, emitted, after⟩ := Desk.answer_post found errand answer
        rw [after] at sent
        cases sent
        cases posts
  | subscribe | drain | clearError => cases sent

namespace Session

private theorem button_of_shows {x : Session} {last : Option Json} (shows : x.Shows .status last) :
    x.loopNext.text = (if x.view.button.text = "Looping" then "1" else "0") ∧
      (x.view.button.text = "Looping" ↔
        ∀ document, last = some document → (Status.ofJson document).looping = false) := by
  obtain ⟨-, view, loopNext⟩ := shows
  rw [view, loopNext]
  cases last with
  | none => exact ⟨rfl, iff_of_true rfl nofun⟩
  | some document =>
    show (LoopFlag.ofBool (Status.ofJson document).looping).toggled.text =
        (if (Show.LoopButton.ofLooping (Status.ofJson document).looping).text = "Looping"
          then "1" else "0") ∧
      ((Show.LoopButton.ofLooping (Status.ofJson document).looping).text = "Looping" ↔ _)
    cases looping : (Status.ofJson document).looping with
    | true =>
      refine ⟨by decide, iff_of_false (by decide) ?_⟩
      intro off
      have := off document rfl
      rw [looping] at this
      cases this
    | false =>
      refine ⟨by decide, iff_of_true (by decide) ?_⟩
      rintro _ ⟨⟩
      exact looping

end Session

namespace Journal

variable {endpoints : Endpoints} {x x' : Session} {j j' : Journal} {s : Step}

/-- Of the statuses that were answered the latest one does not loop, or there is none. -/
def Unlooped (j : Journal) : Prop :=
  (∀ rank document, ¬ j.Answered .status rank document) ∨
    ∃ rank document, j.Answered .status rank document ∧
      (∀ other older, j.Answered .status other older → other ≤ rank) ∧
      (Status.ofJson document).looping = false

def outbox (j : Journal) : List (Slip × Message) :=
  j.entries.map fun e => (e.slip, e.message)

private theorem mem_outbox {slip : Slip} {message : Message} :
    (slip, message) ∈ j.outbox ↔ ∃ e ∈ j.entries, e.slip = slip ∧ e.message = message := by
  simp [outbox]

private theorem outbox_hear (j : Journal) (number : Nat) (answer : Answer) :
    (j.entries.map (Entry.hear number answer)).map (fun e => (e.slip, e.message)) = j.outbox := by
  rw [outbox, List.map_map]
  apply List.map_congr_left
  intro e mem
  rw [Function.comp_apply, Entry.hear]
  split <;> rfl

private theorem outbox_turn (turn : Turn endpoints x j s x' j') : j.outbox <+: j'.outbox := by
  cases turn with
  | ask kind => exact ⟨_, (List.map_append ..).symm⟩
  | post c intent carried => exact ⟨_, (List.map_append ..).symm⟩
  | told e kind rank answer waits errand =>
    rw [← j.outbox_hear e.slip.number answer]
    exact List.prefix_rfl
  | confirm e intent answer waits errand =>
    rw [← j.outbox_hear e.slip.number answer]
    exact ⟨_, (List.map_append ..).symm⟩
  | stray | subscribe | drain | clearError => exact List.prefix_rfl

private theorem Course.eq_of_post {c : Call} {entries : List Entry} {outcomes : List Outcome}
    (course : Course endpoints c entries outcomes) {e e' : Entry} (mem : e ∈ entries)
    (mem' : e' ∈ entries) {path path' : String} {body body' : Json}
    (posts : e.message = .post path body) (posts' : e'.message = .post path' body') : e = e' := by
  cases course with
  | asking gets ends =>
    obtain rfl := List.mem_singleton.mp mem
    exact (gets.message_ne path body posts).elim
  | posting _ _ =>
    obtain rfl := List.mem_singleton.mp mem
    exact (List.mem_singleton.mp mem').symm
  | confirming _ _ gets ends =>
    rcases List.mem_pair.mp mem with rfl | rfl
    · rcases List.mem_pair.mp mem' with rfl | rfl
      · rfl
      · exact (gets.message_ne path' body' posts').elim
    · exact (gets.message_ne path body posts).elim

private theorem Coursing.eq_of_post (coursing : j.Coursing endpoints) {e e' : Entry}
    (mem : e ∈ j.entries) (mem' : e' ∈ j.entries) (call : e.slip.call = e'.slip.call)
    {path path' : String} {body body' : Json} (posts : e.message = .post path body)
    (posts' : e'.message = .post path' body') : e = e' := by
  obtain ⟨c, -, own, course⟩ := coursing.of_mem mem
  exact course.eq_of_post own (mem_entriesOf.mpr ⟨mem', call.symm⟩) posts posts'

end Journal

namespace History

/-- The body that a toggle posts at a moment: the flag is on if the button offers to loop. -/
def toggleBody (h : History) : Json :=
  .object [("show", .string ""),
    ("loop", .string (if h.session.view.button.text = "Looping" then "1" else "0"))]

/-- No status is shown in some steps that come next. -/
def Unconfirmed (h : History) (more : List Step) : Prop :=
  ∀ view, Event.statusUpdated view ∉ h.log more

private theorem toggleBody_eq_toJson (endpoints : Endpoints) (steps : List Step) :
    ((opened endpoints).run steps).toggleBody =
      (Intent.toggleLoop ((opened endpoints).run steps).session.loopNext).command.toJson := by
  obtain ⟨last, -, shows⟩ := shownBy_run endpoints steps .status
  rw [toggleBody, ← (Session.button_of_shows shows).1]
  rfl

private theorem toggle_sends (endpoints : Endpoints) (steps : List Step) :
    (((opened endpoints).run steps).desk.step (.call .toggleLoop)).2.sent =
      some ⟨((opened endpoints).run steps).desk.requests + 1,
        .post endpoints.command ((opened endpoints).run steps).toggleBody⟩ := by
  have kept := kept_run endpoints steps
  have sent := Desk.step_post (d := ((opened endpoints).run steps).desk) (c := .toggleLoop) rfl
  rw [sent, kept.endpoints_eq, toggleBody_eq_toJson]
  rfl

theorem button_run (endpoints : Endpoints) (steps : List Step) :
    ((opened endpoints).run steps).session.view.button.text = "Looping" ↔
      ((opened endpoints).run steps).journal.Unlooped := by
  have numbered := numbered_run endpoints steps
  obtain ⟨last, latest, shows⟩ := shownBy_run endpoints steps .status
  rw [(Session.button_of_shows shows).2]
  generalize ((opened endpoints).run steps).session.applied .status = applied at latest
  cases latest with
  | unheard never =>
    refine iff_of_true nofun (.inl ?_)
    intro rank document answered
    exact never rank document (Journal.usable_status_iff.mpr answered)
  | @heard _ document usable greatest =>
    have answered := Journal.usable_status_iff.mp usable
    have newest : ∀ rank document',
        ((opened endpoints).run steps).journal.Answered .status rank document' →
          rank ≤ applied := by
      intro rank document' answered'
      exact greatest rank document' (Journal.usable_status_iff.mpr answered')
    constructor
    · intro off
      exact .inr ⟨applied, document, answered, newest, off document rfl⟩
    · rintro (never | ⟨rank, document', answered', greatest', off⟩) _ ⟨⟩
      · exact (never _ document answered).elim
      · obtain rfl := Nat.le_antisymm (newest _ _ answered') (greatest' _ _ answered)
        obtain rfl := numbered.usable_unique usable (Journal.usable_status_iff.mpr answered')
        exact off

private theorem loopNext_step (endpoints : Endpoints) (steps : List Step) (s : Step) :
    (((opened endpoints).run steps).step s).session.loopNext =
        ((opened endpoints).run steps).session.loopNext ∨
      ∃ get ∈ ((opened endpoints).run steps).journal.pending, ∃ rank answer view,
        get.slip.errand = .get .status rank ∧ s = .answer get.slip.number answer ∧
        (((opened endpoints).run steps).desk.step s).2 =
          ⟨none, some (get.slip.call, .applied), some (.statusUpdated view), none⟩ := by
  have kept := kept_run endpoints steps
  have numbered := numbered_run endpoints steps
  rcases (kept.effect numbered s).agrees .status with
    ⟨-, -, -, loopNext, -⟩ | ⟨get, waits, rank, answer, errand, rfl, ended⟩
  · exact .inl loopNext
  · right
    have report := kept.report_get numbered waits errand answer
    rw [report] at ended
    have outcome : (((opened endpoints).run steps).session.settle .status rank answer).outcome =
        .applied := by
      simpa using ended
    rcases ((opened endpoints).run steps).session.settle_cases .status rank answer with
      ⟨failure, -, hs⟩ | ⟨document, -, -, hs⟩ | ⟨document, -, -, hs⟩
    · rw [hs] at outcome
      cases outcome
    · rw [hs] at outcome
      cases outcome
    · rw [hs] at report
      exact ⟨get, waits, rank, answer, _, errand, rfl, report⟩

theorem loopNext_of_unconfirmed (endpoints : Endpoints) (steps more : List Step)
    (unconfirmed : ((opened endpoints).run steps).Unconfirmed more) :
    ((opened endpoints).run (steps ++ more)).session.loopNext =
      ((opened endpoints).run steps).session.loopNext := by
  induction more using List.reverseRecOn with
  | nil => rw [List.append_nil]
  | append_singleton more s ih =>
    have front : ((opened endpoints).run steps).Unconfirmed more := by
      intro view mem
      apply unconfirmed view
      rw [log_append]
      exact List.mem_append_left _ mem
    rw [← ih front, ← List.append_assoc, run_append]
    rcases loopNext_step endpoints (steps ++ more) s with
      same | ⟨get, -, rank, answer, view, -, -, report⟩
    · exact same
    · have told : Event.statusUpdated view ∈ ((opened endpoints).run steps).log (more ++ [s]) := by
        rw [log_append, log_singleton, ← run_append, report]
        exact List.mem_append_right _ (List.mem_singleton.mpr rfl)
      exact (unconfirmed view told).elim

private theorem outbox_run (endpoints : Endpoints) (steps more : List Step) :
    ((opened endpoints).run steps).journal.outbox <+:
      ((opened endpoints).run (steps ++ more)).journal.outbox :=
  run_induction_from
    (P := fun _ j => ((opened endpoints).run steps).journal.outbox <+: j.outbox)
    List.prefix_rfl (fun _ _ _ _ _ sent turn => sent.trans (Journal.outbox_turn turn)) more

theorem post_of_call (endpoints : Endpoints) (steps more : List Step) :
    ∃ post ∈ ((opened endpoints).run (steps ++ .call .toggleLoop :: more)).journal.entries,
      post.slip.call = ((opened endpoints).run steps).journal.calls.length + 1 ∧
      post.message = .post endpoints.command ((opened endpoints).run steps).toggleBody ∧
      ∀ e ∈ ((opened endpoints).run (steps ++ .call .toggleLoop :: more)).journal.entries,
        e.slip.call = post.slip.call → ∀ path body, e.message = .post path body → e = post := by
  have turn := turn_run endpoints steps (.call .toggleLoop)
  have coursing := coursing_run endpoints (steps ++ .call .toggleLoop :: more)
  have went_out := outbox_run endpoints (steps ++ [.call .toggleLoop]) more
  rw [List.append_assoc, List.singleton_append] at went_out
  obtain ⟨-, journal⟩ := Journal.turn_post rfl turn
  have sent : ∃ e ∈ ((opened endpoints).run (steps ++ [.call .toggleLoop])).journal.entries,
      e.slip.call = ((opened endpoints).run steps).journal.calls.length + 1 ∧
      e.message = .post endpoints.command ((opened endpoints).run steps).toggleBody := by
    rw [journal]
    refine ⟨_, List.mem_append_right _ (List.mem_singleton.mpr rfl), rfl, ?_⟩
    rw [Journal.nextPost, toggleBody_eq_toJson]
  obtain ⟨first, mem, call, message⟩ := sent
  obtain ⟨post, mem', slip, same⟩ :=
    Journal.mem_outbox.mp (went_out.subset (Journal.mem_outbox.mpr ⟨first, mem, rfl, rfl⟩))
  rw [message] at same
  refine ⟨post, mem', by rw [slip, call], same, ?_⟩
  intro e he own path body posts
  exact coursing.eq_of_post he mem' own posts same

/-- How toggles stand at a moment of a run. The flag is the one that the button offers, and the
button goes by the latest status that was answered. A post keeps its body whatever comes, and the
body of the next one changes when a status is shown, and at no other time. -/
structure TogglesConfirmed (endpoints : Endpoints) (steps : List Step) : Prop where
  sends : (((opened endpoints).run steps).desk.step (.call .toggleLoop)).2.sent =
    some ⟨((opened endpoints).run steps).desk.requests + 1,
      .post endpoints.command ((opened endpoints).run steps).toggleBody⟩
  offers : ((opened endpoints).run steps).session.view.button.text = "Looping" ↔
    ((opened endpoints).run steps).journal.Unlooped
  keeps : ∀ more,
    ∃ post ∈ ((opened endpoints).run (steps ++ .call .toggleLoop :: more)).journal.entries,
      post.slip.call = ((opened endpoints).run steps).journal.calls.length + 1 ∧
      post.message = .post endpoints.command ((opened endpoints).run steps).toggleBody ∧
      ∀ e ∈ ((opened endpoints).run (steps ++ .call .toggleLoop :: more)).journal.entries,
        e.slip.call = post.slip.call → ∀ path body, e.message = .post path body → e = post
  changes : ∀ s, ((opened endpoints).run (steps ++ [s])).toggleBody ≠
      ((opened endpoints).run steps).toggleBody →
    ∃ get ∈ ((opened endpoints).run steps).journal.pending, ∃ rank answer view,
      get.slip.errand = .get .status rank ∧ s = .answer get.slip.number answer ∧
      (((opened endpoints).run steps).desk.step s).2 =
        ⟨none, some (get.slip.call, .applied), some (.statusUpdated view), none⟩
  repeats : ∀ more, ((opened endpoints).run steps).Unconfirmed more →
    (((opened endpoints).run (steps ++ more)).desk.step (.call .toggleLoop)).2.sent =
      some ⟨((opened endpoints).run (steps ++ more)).desk.requests + 1,
        .post endpoints.command ((opened endpoints).run steps).toggleBody⟩
  only : ∀ s request path body value,
    (((opened endpoints).run steps).desk.step s).2.sent = some request →
    request.message = .post path body → body.member? "loop" = some value →
      (s = .call .toggleLoop ∧ body = ((opened endpoints).run steps).toggleBody) ∨
      ∃ next, s = .call (.command (.toggleLoop next)) ∧ value = .string next.text

/-- Toggles follow the confirmed status, in every run. -/
theorem toggles_follow_confirmed_status (endpoints : Endpoints) (steps : List Step) :
    TogglesConfirmed endpoints steps := by
  have same_body : ∀ more, ((opened endpoints).run (steps ++ more)).session.loopNext =
      ((opened endpoints).run steps).session.loopNext →
      ((opened endpoints).run (steps ++ more)).toggleBody =
        ((opened endpoints).run steps).toggleBody := by
    intro more same
    rw [toggleBody_eq_toJson, toggleBody_eq_toJson, same]
  constructor
  case sends => exact toggle_sends endpoints steps
  case offers => exact button_run endpoints steps
  case keeps => exact post_of_call endpoints steps
  case changes =>
    intro s changed
    rcases loopNext_step endpoints steps s with same | shown
    · exact (changed (same_body [s] (by rw [run_append]; exact same))).elim
    · exact shown
  case repeats =>
    intro more unconfirmed
    have same := same_body more (loopNext_of_unconfirmed endpoints steps more unconfirmed)
    rw [toggle_sends, same]
  case only =>
    intro s request path body value sent posts member
    obtain ⟨c, intent, rfl, carried, rfl⟩ := Desk.sent_post sent posts
    obtain ⟨next, rfl, rfl⟩ := Intent.member?_loop member
    cases c with
    | refresh => cases carried
    | loadDirectory => cases carried
    | command intent =>
      cases carried
      exact .inr ⟨next, rfl, rfl⟩
    | toggleLoop =>
      cases carried
      exact .inl ⟨rfl, (toggleBody_eq_toJson endpoints steps).symm⟩

/-- Two toggles in a row ask for the same, though the post of the first has failed. The answer that
comes then turns the next one, and leaves what was posted. -/
theorem hasty_toggles_ask_for_the_same :
    let steps : List Step := [.call .refresh]
    let failing : List Step := [.call .toggleLoop, .answer 2 (.error (.timeout "player"))]
    let late : List Step := [.answer 1 (.ok (.object [("loop", .string "1")]))]
    let on : Json := .object [("show", .string ""), ("loop", .string "1")]
    let off : Json := .object [("show", .string ""), ("loop", .string "0")]
    let h := (opened .standard).run
    ((h steps).desk.step (.call .toggleLoop)).2.sent = some ⟨2, .post "showfile" on⟩ ∧
      ((h (steps ++ failing)).desk.step (.call .toggleLoop)).2.sent =
        some ⟨4, .post "showfile" on⟩ ∧
      (h (steps ++ failing ++ late)).toggleBody = off ∧
      ∃ post ∈ (h (steps ++ .call .toggleLoop :: late)).journal.entries,
        post.slip.call = 2 ∧ post.message = .post "showfile" on := by
  intro steps failing late on off h
  have confirmed := toggles_follow_confirmed_status .standard steps
  have body : (h steps).toggleBody = on := rfl
  have unconfirmed : (h steps).Unconfirmed failing := by
    intro view mem
    cases mem with
    | tail _ mem => cases mem
  refine ⟨?_, ?_, rfl, ?_⟩
  · rw [confirmed.sends, body]
    rfl
  · rw [confirmed.repeats failing unconfirmed, body]
    rfl
  · obtain ⟨post, mem, call, message, -⟩ := confirmed.keeps late
    rw [body] at message
    exact ⟨post, mem, call, message⟩

end History
end ShowRemote
