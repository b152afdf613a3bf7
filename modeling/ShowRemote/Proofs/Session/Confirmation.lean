import ShowRemote.Proofs.Session.Course
import ShowRemote.Proofs.Session.Latest

/-!
What a command leaves to be read. When the call of a command has ended without failure, the status
shown answers a get that was sent after the answer to the post of that call, and it does from then
on. The answer of the call itself may have come too late; then a newer one is shown (`Heeded`), and
`History.Outruns` is what follows for every get that is older than the answer to the post.

Main statement: `commands_read_their_writes`.
-/

set_option autoImplicit false

namespace ShowRemote

open Journal (Entry)
open Show (Status StatusView)

namespace Session

private theorem settle_late (x : Session) {kind : Kind} {rank : Nat} (late : rank ≤ x.applied kind)
    (answer : Answer) :
    ∃ error, (x.settle kind rank answer).session = { x with lastError := error } := by
  rcases x.settle_cases kind rank answer with
    ⟨failure, -, hs⟩ | ⟨document, -, -, hs⟩ | ⟨document, -, newer, hs⟩
  · exact ⟨some ⟨kind.operation, failure⟩, by rw [hs]; rfl⟩
  · exact ⟨x.lastError, by rw [hs]⟩
  · omega

private theorem le_applied_settle (x : Session) {kind : Kind} {rank : Nat} {answer : Answer}
    (succeeds : (x.settle kind rank answer).outcome ≠ .failed) :
    rank ≤ (x.settle kind rank answer).session.applied kind := by
  rcases x.settle_cases kind rank answer with
    ⟨failure, -, hs⟩ | ⟨document, -, late, hs⟩ | ⟨document, -, newer, hs⟩
  · rw [hs] at succeeds
    exact (succeeds rfl).elim
  · rw [hs]
    exact late
  · rw [hs, applied_adopt, if_pos rfl]

end Session

namespace Journal

/-- Every call that ended without failure has a get that is not newer than what is shown. -/
def Heeded (j : Journal) (x : Session) : Prop :=
  ∀ end_ ∈ j.ended, end_.2 ≠ .failed → ∃ slip ∈ j.slips, slip.call = end_.1 ∧
    ∃ kind rank, slip.errand = .get kind rank ∧ rank ≤ x.applied kind

private theorem heeded_blank : blank.Heeded .fresh := by
  intro end_ mem
  cases mem

section

variable {endpoints : Endpoints} {x x' : Session} {j j' : Journal} {s : Step}

private theorem Heeded.turn (heeded : j.Heeded x) (turn : Turn endpoints x j s x' j') :
    j'.Heeded x' := by
  have still : ∀ end_ ∈ j.ended, end_.2 ≠ .failed → ∃ slip ∈ j'.slips, slip.call = end_.1 ∧
      ∃ kind rank, slip.errand = .get kind rank ∧ rank ≤ x'.applied kind := by
    intro end_ mem succeeds
    obtain ⟨slip, sent, call, kind, rank, errand, le⟩ := heeded end_ mem succeeds
    exact ⟨slip, (slips_turn turn).subset sent, call, kind, rank, errand,
      le.trans (applied_le_turn turn)⟩
  cases turn with
  | told e kind rank answer waits errand =>
    intro end_ mem succeeds
    rcases List.mem_append.mp mem with mem | mem
    · exact still end_ mem succeeds
    · obtain rfl := List.mem_singleton.mp mem
      refine ⟨e.slip, ?_, rfl, kind, rank, errand, x.le_applied_settle succeeds⟩
      rw [slips, slips_hear]
      exact mem_slips (mem_of_mem_pending waits)
  | ask kind => exact still
  | post c intent carried => exact still
  | confirm e intent answer waits errand => exact still
  | stray | subscribe | drain | clearError => exact still

private theorem Course.eq_of_open_post {c : Call} {entries : List Entry} {outcomes : List Outcome}
    (course : Course endpoints c entries outcomes) {post : Entry} (mem : post ∈ entries)
    (waits : post.isOpen) {intent : String} (errand : post.slip.errand = .post intent) :
    entries = [post] := by
  cases course with
  | asking gets _ =>
    obtain rfl := List.mem_singleton.mp mem
    rfl
  | posting posts _ =>
    obtain rfl := List.mem_singleton.mp mem
    rfl
  | confirming posts answered gets _ =>
    rcases List.mem_pair.mp mem with rfl | rfl
    · exact (answered waits).elim
    · exact (gets.errand_ne intent errand).elim

private theorem Course.confirms {c : Call} {entries : List Entry} {outcomes : List Outcome}
    (course : Course endpoints c entries outcomes) (command : c.isCommand) {get : Entry}
    (mem : get ∈ entries) {kind : Kind} {rank : Nat} (errand : get.slip.errand = .get kind rank) :
    kind = .status ∧ ∃ post ∈ entries, post.Posts endpoints c ∧
      ∃ answer, post.answer = some answer := by
  cases course with
  | @asking asked _ _ _ _ => cases asked <;> cases command
  | posting posts _ =>
    obtain rfl := List.mem_singleton.mp mem
    exact (posts.errand_ne kind rank errand).elim
  | @confirming _ post get _ posts answered gets _ =>
    rcases List.mem_pair.mp mem with rfl | rfl
    · exact (posts.errand_ne kind rank errand).elim
    · obtain rfl := gets.kind_eq errand
      refine ⟨rfl, post, List.mem_cons_self, posts, ?_⟩
      cases ha : post.answer with
      | none => simp [Entry.isOpen, ha] at answered
      | some answer => exact ⟨answer, rfl⟩

/-- A call that sends its get after its post sends it after every get that is older than the answer
to the post. -/
private theorem Coursing.count_lt_rank (coursing : j.Coursing endpoints) (numbered : j.Numbered)
    (numbered' : j'.Numbered) (slips : j.slips <+: j'.slips) {post get : Entry}
    (waits : post ∈ j.pending) {intent : String} (posts : post.slip.errand = .post intent)
    (mem : get ∈ j'.entries) (call : get.slip.call = post.slip.call) {kind : Kind} {rank : Nat}
    (errand : get.slip.errand = .get kind rank) : j.count kind < rank := by
  by_contra old
  -- A get of that rank was there before, but nothing is sent beside a post that waits.
  obtain ⟨e, he, same⟩ := exists_of_mem_slips
    (numbered.mem_slips_of_rank numbered' slips mem errand (by omega))
  obtain ⟨c, -, own, course⟩ := coursing.of_mem (mem_of_mem_pending waits)
  have alone := course.eq_of_open_post own (isOpen_of_mem_pending waits) posts
  have sent : e ∈ j.entriesOf post.slip.call := mem_entriesOf.mpr ⟨he, by rw [same, call]⟩
  rw [alone] at sent
  obtain rfl := List.mem_singleton.mp sent
  rw [same, errand] at posts
  cases posts

private theorem Numbered.turn_late (numbered : j.Numbered) {number : Nat} {answer : Answer}
    (turn : Turn endpoints x j (.answer number answer) x' j') {slip : Slip}
    (sent : slip ∈ j.slips) (named : slip.number = number) {kind : Kind} {rank : Nat}
    (errand : slip.errand = .get kind rank) (late : rank ≤ x.applied kind) :
    ∃ error, x' = { x with lastError := error } := by
  obtain ⟨get, mem, rfl⟩ := exists_of_mem_slips sent
  rcases numbered.turn_answer mem named turn with
    ⟨kind', rank', errand', hx, -⟩ | ⟨intent, errand', -⟩ | ⟨-, hx, -⟩
  · rw [errand] at errand'
    cases errand'
    rw [hx]
    exact x.settle_late late answer
  · rw [errand] at errand'
    cases errand'
  · exact ⟨x.lastError, hx⟩

end
end Journal

namespace History

private theorem heeded_run (endpoints : Endpoints) (steps : List Step) :
    ((opened endpoints).run steps).journal.Heeded ((opened endpoints).run steps).session :=
  run_induction (P := fun x j => j.Heeded x) Journal.heeded_blank
    (fun _ _ _ _ _ heeded turn => heeded.turn turn) steps

/-- What a history shows of the status was got after an earlier one, and no answer to a get of that
one can be shown again. -/
structure Outruns (after before : History) : Prop where
  newer : ∃ get ∈ after.journal.entries, ∃ document,
    get.slip.errand = .get .status after.session.refreshApplied ∧
    before.journal.entries.length < get.slip.number ∧
    get.answer = some (.ok document) ∧
    after.session.status = some (Status.ofJson document) ∧
    after.session.view = .ofStatus (Status.ofJson document)
  late : ∀ get ∈ before.journal.entries, ∀ rank, get.slip.errand = .get .status rank →
    rank < after.session.refreshApplied ∧
      ∀ answer, ∃ error, (after.step (.answer get.slip.number answer)).session =
        { after.session with lastError := error }

private theorem outruns_of_count_lt {endpoints : Endpoints} {front more : List Step}
    (newer : ((opened endpoints).run front).journal.count .status <
      ((opened endpoints).run (front ++ more)).session.refreshApplied) :
    ((opened endpoints).run (front ++ more)).Outruns ((opened endpoints).run front) := by
  have numbered := numbered_run endpoints front
  have numbered' := numbered_run endpoints (front ++ more)
  have slips := slips_run endpoints front more
  constructor
  case newer =>
    obtain ⟨last, latest, shows⟩ := shownBy_run endpoints (front ++ more) .status
    have positive : ((opened endpoints).run (front ++ more)).session.applied .status ≠ 0 :=
      Nat.ne_of_gt (Nat.zero_lt_of_lt newer)
    generalize happlied : ((opened endpoints).run (front ++ more)).session.applied .status =
      applied at latest positive
    cases latest with
    | unheard never => exact (positive rfl).elim
    | heard usable greatest =>
      obtain ⟨get, mem, errand, answered⟩ := Journal.usable_status_iff.mp usable
      have sent_after : ((opened endpoints).run front).journal.entries.length <
          get.slip.number := by
        by_contra old
        have le := numbered.rank_le_count
          (numbered.mem_slips_of_number numbered' slips mem (by omega)) errand
        change ((opened endpoints).run (front ++ more)).session.refreshApplied = _ at happlied
        omega
      refine ⟨get, mem, _, ?_, sent_after, answered, shows.1, shows.2.1⟩
      rw [errand, ← happlied]
      rfl
  case late =>
    intro get mem rank errand
    have old := Journal.mem_slips mem
    have lt : rank < ((opened endpoints).run (front ++ more)).session.refreshApplied :=
      (numbered.rank_le_count old errand).trans_lt newer
    refine ⟨lt, ?_⟩
    intro answer
    exact numbered'.turn_late ((kept_run endpoints (front ++ more)).step _).turn
      (slips.subset old) rfl errand (Nat.le_of_lt lt)

/-- Commands read their writes. When the call of a command has ended without failure, its post was
answered, well or badly, at some step before; and from the end of the call on, what is shown of the
status was got after that step. -/
theorem commands_read_their_writes (endpoints : Endpoints) (steps : List Step) {i : Nat} {c : Call}
    {outcome : Outcome} (made : ((opened endpoints).run steps).journal.calls[i]? = some c)
    (command : c.isCommand)
    (ended : (i + 1, outcome) ∈ ((opened endpoints).run steps).journal.ended)
    (succeeded : outcome ≠ .failed) :
    ∃ front post answer back, steps = front ++ .answer post.slip.number answer :: back ∧
      post ∈ ((opened endpoints).run front).journal.pending ∧
      post.slip.call = i + 1 ∧ post.Posts endpoints c ∧
      ∀ more, ((opened endpoints).run (steps ++ more)).Outruns ((opened endpoints).run front) := by
  obtain ⟨slip, sent, call, kind, rank, errand, heeded⟩ :=
    heeded_run endpoints steps _ ended succeeded
  obtain ⟨get, mem, rfl⟩ := Journal.exists_of_mem_slips sent
  obtain ⟨rfl, post, hpost, posts, answer, answered⟩ :=
    ((coursing_run endpoints steps).course i c made).confirms command
      (Journal.mem_entriesOf.mpr ⟨mem, call⟩) errand
  obtain ⟨hpost, own⟩ := Journal.mem_entriesOf.mp hpost
  obtain ⟨front, back, split, waits⟩ := answered_at endpoints steps hpost answered
  refine ⟨front, { post with answer := none }, answer, back, split, waits, own, posts, ?_⟩
  intro more
  -- The own get of the call need not be the one that is shown, but it bounds the rank of that.
  obtain ⟨next, intent, -, posted, -⟩ := posts
  have after_post : ((opened endpoints).run front).journal.count .status < rank := by
    have slips := slips_run endpoints front (.answer post.slip.number answer :: back)
    rw [← split] at slips
    exact (coursing_run endpoints front).count_lt_rank (numbered_run endpoints front)
      (numbered_run endpoints steps) slips waits posted mem (by rw [call, own]) errand
  have shown : rank ≤ ((opened endpoints).run (steps ++ more)).session.refreshApplied :=
    heeded.trans (applied_le_run endpoints steps more .status)
  have whole : steps ++ more = front ++ (.answer post.slip.number answer :: back ++ more) := by
    rw [split, List.append_assoc]
  rw [whole] at shown ⊢
  exact outruns_of_count_lt (after_post.trans_le shown)

/-- A command whose post failed and whose own answer came too late: the answer that is shown went
out after the failure, and the answer to the refresh made before it is not shown when it comes. -/
theorem overtaken_command_reads_its_write :
    let steps : List Step :=
      [.call .refresh, .call (.command (.playback .start)), .answer 2 (.error (.timeout "player")),
        .call .refresh, .answer 4 (.ok (.object [("loop", .string "1")])),
        .answer 3 (.ok (.object [("status", .string "idle")]))]
    let late : List Step := [.answer 1 (.ok .null)]
    let h := (opened .standard).run steps
    h.journal.calls[1]? = some (.command (.playback .start)) ∧ (2, .stale) ∈ h.journal.ended ∧
      h.session.refreshApplied = 3 ∧
      ∃ front post answer back, steps = front ++ .answer post.slip.number answer :: back ∧
        post ∈ ((opened .standard).run front).journal.pending ∧ post.slip.call = 2 ∧
        post.Posts .standard (.command (.playback .start)) ∧
        ((opened .standard).run (steps ++ late)).Outruns ((opened .standard).run front) := by
  intro steps late h
  have made : h.journal.calls[1]? = some (.command (.playback .start)) := rfl
  have ended : (2, .stale) ∈ h.journal.ended := by decide
  obtain ⟨front, post, answer, back, split, waits, own, posts, outruns⟩ :=
    commands_read_their_writes .standard steps made rfl ended (by decide)
  exact ⟨made, ended, rfl, front, post, answer, back, split, waits, own, posts, outruns late⟩

end History
end ShowRemote
