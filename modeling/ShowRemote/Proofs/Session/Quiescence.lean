import ShowRemote.Proofs.Session.Conservation
import ShowRemote.Proofs.Session.Latest

/-!
A session beside its player. Posts change the player while they wait for an answer, and a get of the
status is answered with what the player reported at some moment while it waited. What the newest get
has seen is the current report, or a post is still in flight (`Scene.Sound.current`): a post is
followed by a get that is newer. So a session with nothing left to do shows its player as it is.

Main statement: `quiescent_session_shows_player`.
-/

set_option autoImplicit false

namespace ShowRemote

open Journal (Entry)
open Show (LoopFlag PlayerState Status StatusView)

/-- How a player behaves: what the body of a post does to its state, and what it reports of that. -/
structure Behaviour (σ : Type*) where
  apply : Json → σ → σ
  report : σ → Json

/-- A session beside its player. What the player reported to requests is kept by their numbers. -/
structure Scene (σ : Type*) where
  history : History
  state : σ
  reported : List (Nat × Json)

namespace Scene

variable {σ : Type*}

def opened (endpoints : Endpoints) (start : σ) : Scene σ :=
  ⟨.opened endpoints, start, []⟩

/-- A step answers a get of the status with success only as the player has reported to it. -/
def Truthful (scene : Scene σ) (s : Step) : Prop :=
  ∀ get ∈ scene.history.journal.pending, ∀ rank document, get.slip.errand = .get .status rank →
    s = .answer get.slip.number (.ok document) → (get.slip.number, document) ∈ scene.reported

/-- What can happen. A post may take effect while it waits, whatever its answer will be, and the
player may report to a get of the status while that waits. -/
inductive Moves (player : Behaviour σ) : Scene σ → Scene σ → Prop
  | step (scene : Scene σ) (s : Step) (truthful : scene.Truthful s) :
      Moves player scene { scene with history := scene.history.step s }
  | effect (scene : Scene σ) (post : Entry) (path : String) (body : Json)
      (waits : post ∈ scene.history.journal.pending) (posts : post.message = .post path body) :
      Moves player scene { scene with state := player.apply body scene.state }
  | report (scene : Scene σ) (get : Entry) (rank : Nat)
      (waits : get ∈ scene.history.journal.pending)
      (gets : get.slip.errand = .get .status rank) :
      Moves player scene
        { scene with
          reported := scene.reported ++ [(get.slip.number, player.report scene.state)] }

/-- What can come of a session and a player that start in a given state. -/
def Reached (player : Behaviour σ) (endpoints : Endpoints) (start : σ) : Scene σ → Prop :=
  Relation.ReflTransGen (Moves player) (opened endpoints start)

/-- What keeps a session and its player together. The newest get of the status has seen the current
state, unless a post waits that may yet change it. -/
structure Sound (player : Behaviour σ) (endpoints : Endpoints) (scene : Scene σ) : Prop where
  run : ∃ steps, scene.history = (History.opened endpoints).run steps
  known : ∀ seen ∈ scene.reported, seen.1 ≤ scene.history.journal.entries.length
  answers : ∀ get ∈ scene.history.journal.entries, ∀ rank document,
    get.slip.errand = .get .status rank → get.answer = some (.ok document) →
      (get.slip.number, document) ∈ scene.reported
  current : ∀ slip ∈ scene.history.journal.slips,
    slip.errand = .get .status (scene.history.journal.count .status) →
      ∀ document, (slip.number, document) ∈ scene.reported →
        document = player.report scene.state ∨
          ∃ post ∈ scene.history.journal.pending, post.isPost = true

end Scene

namespace Journal

section

variable {endpoints : Endpoints} {x x' : Session} {j j' : Journal} {s : Step}

private theorem count_le_turn (turn : Turn endpoints x j s x' j') (kind : Kind) :
    j.count kind ≤ j'.count kind := by
  have sub := (slips_turn turn).filterMap fun slip => slip.errand.rank? kind
  simp only [slips, List.filterMap_map] at sub
  exact sub.length_le

private theorem Numbered.post_waits (numbered : j.Numbered) (turn : Turn endpoints x j s x' j')
    (posts : ∃ post ∈ j.pending, post.isPost = true) :
    (∃ post ∈ j'.pending, post.isPost = true) ∨ j.count .status < j'.count .status := by
  obtain ⟨post, waits, is_post⟩ := posts
  cases turn with
  | ask kind =>
    refine .inl ⟨post, ?_, is_post⟩
    rw [pending, List.filter_append]
    exact List.mem_append_left _ waits
  | post c intent carried =>
    refine .inl ⟨post, ?_, is_post⟩
    rw [pending, List.filter_append]
    exact List.mem_append_left _ waits
  | told e kind rank answer asked errand =>
    refine .inl ⟨post, ?_, is_post⟩
    have ne : post ≠ e := by
      rintro rfl
      simp [Entry.isPost, errand] at is_post
    exact List.mem_filter.mpr ⟨(numbered.mem_hear asked answer).mpr
      (.inl ⟨mem_of_mem_pending waits, ne⟩), isOpen_of_mem_pending waits⟩
  | confirm e intent answer asked errand =>
    right
    rw [count_append, count_hear]
    simp [nextGet, Errand.length_rank?_get]
  | stray | subscribe | drain | clearError => exact .inl ⟨post, waits, is_post⟩

end
end Journal

namespace Scene

variable {σ : Type*} {player : Behaviour σ} {endpoints : Endpoints} {scene scene' : Scene σ}

private theorem sound_opened (player : Behaviour σ) (endpoints : Endpoints) (start : σ) :
    (opened endpoints start).Sound player endpoints := by
  refine ⟨⟨[], rfl⟩, ?_, ?_, ?_⟩
  · intro seen mem
    cases mem
  · intro get mem
    cases mem
  · intro slip mem
    cases mem

/-- A step of the session takes nothing from what its newest get has seen: a get that is newer still
has seen nothing yet, and no post is answered without one. -/
private theorem Sound.step (sound : scene.Sound player endpoints) {s : Step}
    (truthful : scene.Truthful s) :
    Scene.Sound player endpoints { scene with history := scene.history.step s } := by
  obtain ⟨history, state, reported⟩ := scene
  obtain ⟨⟨steps, rfl⟩, known, answers, current⟩ := sound
  have numbered := History.numbered_run endpoints steps
  have turn := ((History.kept_run endpoints steps).step s).turn
  have numbered' := numbered.turn turn
  have slips := Journal.slips_turn turn
  refine ⟨⟨steps ++ [s], (History.run_append _ steps [s]).symm⟩, ?_, ?_, ?_⟩
  · intro seen mem
    have length := slips.length_le
    simp only [Journal.slips, List.length_map] at length
    exact (known seen mem).trans length
  · intro get mem rank document errand answered
    rcases numbered.answered_turn turn mem answered with old | ⟨told, waits⟩
    · exact answers get old rank document errand answered
    · exact truthful _ waits rank document errand told
  · -- The player has reported to the newest get, so that was there before, and no get of the status
    -- was sent in this step. Then no post was answered either.
    intro slip mem errand document seen
    obtain ⟨get, hget, rfl⟩ := Journal.exists_of_mem_slips mem
    have old := numbered.mem_slips_of_number numbered' slips hget (known _ seen)
    have same : ((History.opened endpoints).run steps).journal.count .status =
        (((History.opened endpoints).run steps).step s).journal.count .status :=
      Nat.le_antisymm (Journal.count_le_turn turn .status) (numbered.rank_le_count old errand)
    rcases current _ old (by rw [same]; exact errand) document seen with now | posts
    · exact .inl now
    · rcases numbered.post_waits turn posts with still | newer
      · exact .inr still
      · exact (Nat.ne_of_lt newer same).elim

private theorem Sound.moves (sound : scene.Sound player endpoints)
    (moves : Moves player scene scene') :
    scene'.Sound player endpoints := by
  cases moves with
  | step s truthful => exact sound.step truthful
  | effect post path body waits posts =>
    refine ⟨sound.run, sound.known, sound.answers, ?_⟩
    intro slip mem errand document seen
    obtain ⟨steps, run⟩ := sound.run
    have coursing := History.coursing_run endpoints steps
    rw [← run] at coursing
    exact .inr ⟨post, waits, coursing.isPost_of_message (Journal.mem_of_mem_pending waits) posts⟩
  | report get rank waits gets =>
    refine ⟨sound.run, ?_, ?_, ?_⟩
    · intro seen mem
      rcases List.mem_append.mp mem with mem | mem
      · exact sound.known seen mem
      · obtain rfl := List.mem_singleton.mp mem
        obtain ⟨steps, run⟩ := sound.run
        have numbered := History.numbered_run endpoints steps
        rw [← run] at numbered
        exact (numbered.exists_number_iff.mp ⟨get, Journal.mem_of_mem_pending waits, rfl⟩).2
    · intro other mem rank document errand answered
      exact List.mem_append_left _ (sound.answers other mem rank document errand answered)
    · intro slip mem errand document seen
      rcases List.mem_append.mp seen with seen | seen
      · exact sound.current slip mem errand document seen
      · have now := List.mem_singleton.mp seen
        exact .inl (congrArg Prod.snd now)

private theorem Reached.sound {start : σ} (reached : Reached player endpoints start scene) :
    scene.Sound player endpoints := by
  induction reached with
  | refl => exact sound_opened player endpoints start
  | tail _ moves ih => exact ih.moves moves

/-- A session shows its player as it is. -/
structure Mirrors (scene : Scene σ) (player : Behaviour σ) : Prop where
  status : scene.history.session.status = some (Status.ofJson (player.report scene.state))
  view : scene.history.session.view = .ofStatus (Status.ofJson (player.report scene.state))
  loopNext : scene.history.session.loopNext =
    (LoopFlag.ofBool (Status.ofJson (player.report scene.state)).looping).toggled
  player : scene.history.session.player =
    .ofStatus (Status.ofJson (player.report scene.state))

/-- When no call is unfinished and the newest get of the status was answered with success, the
session shows its player as it is, whatever went before. No get is counted that no call was made
for. -/
theorem quiescent_session_shows_player (player : Behaviour σ) (endpoints : Endpoints) (start : σ)
    {scene : Scene σ} (reached : Reached player endpoints start scene)
    (quiet : scene.history.journal.unfinished = [])
    (answered : ∃ document, scene.history.journal.Answered .status
      (scene.history.journal.count .status) document) :
    scene.Mirrors player ∧
      scene.history.session.refreshIssued + scene.history.session.directoryIssued ≤
        scene.history.journal.calls.length := by
  have sound := Reached.sound reached
  obtain ⟨document, answered⟩ := answered
  obtain ⟨history, state, reported⟩ := scene
  obtain ⟨⟨steps, rfl⟩, known, answers, current⟩ := sound
  have idle := (History.unfinished_eq_nil_iff endpoints steps).mp quiet
  have now : document = player.report state := by
    obtain ⟨get, mem, errand, told⟩ := answered
    have seen := answers get mem _ document errand told
    rcases current _ (Journal.mem_slips mem) errand document seen with now | ⟨post, waits, -⟩
    · exact now
    · rw [idle] at waits
      cases waits
  obtain ⟨status, view, loopNext⟩ :=
    History.shows_newest endpoints steps (Journal.usable_status_iff.mpr answered)
  subst now
  refine ⟨⟨status, view, loopNext, ?_⟩, History.issued_le_calls endpoints steps⟩
  rw [Session.player, status]
  rfl

/-- A player that loops or not, and reverses that with every post. -/
def reversing : Behaviour Bool where
  apply _ on := !on
  report on := .object [("loop", .string (if on then "1" else "0"))]

private theorem truthful_of_reported {s : Step}
    (reported : ∀ number document, s = .answer number (.ok document) →
      (number, document) ∈ scene.reported) : scene.Truthful s :=
  fun _ _ _ document _ told => reported _ document told

/-- A refresh is answered last with a report from before a toggle; the toggle took effect though its
post failed, and its own get fails too. The session shows what a second refresh has seen. -/
theorem reversed_player_is_shown :
    ∃ scene : Scene Bool, Reached reversing .standard false scene ∧ scene.state = true ∧
      scene.history.journal.unfinished = [] ∧
      (∃ document, scene.history.journal.Answered .status
        (scene.history.journal.count .status) document) ∧
      scene.Mirrors reversing := by
  have call : ∀ (scene : Scene Bool) (c : Call), scene.Truthful (.call c) :=
    fun _ _ => truthful_of_reported nofun
  have failed : ∀ (scene : Scene Bool) (number : Nat) (fault : Show.TransportFault),
      scene.Truthful (.answer number (.error fault)) :=
    fun _ _ _ => truthful_of_reported nofun
  have told : ∀ (scene : Scene Bool) (number : Nat) (document : Json),
      (number, document) ∈ scene.reported → scene.Truthful (.answer number (.ok document)) := by
    intro scene number document mem
    refine truthful_of_reported ?_
    rintro _ _ ⟨⟩
    exact mem
  have start : Reached reversing .standard false (opened .standard false) := .refl
  have asked := start.tail (.step _ (.call .refresh) (call _ _))
  have seen := asked.tail (.report _ ⟨⟨1, 1, .get .status 1⟩, _, none⟩ 1 (.head _) rfl)
  have toggled := seen.tail (.step _ (.call .toggleLoop) (call _ _))
  have reversed := toggled.tail
    (.effect _ ⟨⟨2, 2, .post "toggle_loop"⟩, _, none⟩ _ _ (.tail _ (.head _)) rfl)
  have lost := reversed.tail (.step _ (.answer 2 (.error (.timeout "player"))) (failed _ _ _))
  have again := lost.tail (.step _ (.call .refresh) (call _ _))
  have seen_again := again.tail
    (.report _ ⟨⟨4, 3, .get .status 3⟩, _, none⟩ 3 (.tail _ (.tail _ (.head _))) rfl)
  have shown := seen_again.tail
    (.step _ (.answer 4 (.ok (reversing.report true))) (told _ _ _ (.tail _ (.head _))))
  have unconfirmed := shown.tail (.step _ (.answer 3 (.error (.client "closed"))) (failed _ _ _))
  have late := unconfirmed.tail
    (.step _ (.answer 1 (.ok (reversing.report false))) (told _ _ _ (.head _)))
  have shows := quiescent_session_shows_player reversing .standard false late (by decide)
    ⟨reversing.report true, _, .tail _ (.tail _ (.tail _ (.head _))), rfl, rfl⟩
  exact ⟨_, late, rfl, by decide, ⟨_, _, .tail _ (.tail _ (.tail _ (.head _))), rfl, rfl⟩, shows.1⟩

end Scene
end ShowRemote
