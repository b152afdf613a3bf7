import ShowRemote.Proofs.Session.Course

/-!
Calls and requests balance. In every run the unfinished calls and the unanswered requests correspond
one to one, no request is lost or sent twice, and to answer what waits, twice over, ends every call.

Main statement: `requests_and_calls_conserved`.
-/

set_option autoImplicit false

namespace ShowRemote

open Journal (Entry)

namespace Journal

def Entry.isPost (e : Entry) : Bool :=
  match e.slip.errand with
  | .get .. => false
  | .post _ => true

/-- The posts that wait for an answer; each stands for a get that is still to come. -/
def openPosts (j : Journal) : Nat :=
  j.entries.countP fun e => e.isOpen && e.isPost

/-- Each call sends one get in the end, and a command sends a post before. -/
structure Balanced (j : Journal) : Prop where
  sent : j.entries.length + j.openPosts = j.calls.length + j.calls.countP Call.isCommand
  asked : j.count .status + j.count .directory + j.openPosts = j.calls.length

private theorem balanced_blank : blank.Balanced :=
  ⟨rfl, rfl⟩

theorem count_append (calls : List Call) (entries : List Entry) (e : Entry)
    (ended : List (Nat × Outcome)) (kind : Kind) :
    (Journal.mk calls (entries ++ [e]) ended).count kind =
      (Journal.mk calls entries ended).count kind +
        (e.slip.errand.rank? kind).toList.length := by
  cases hr : e.slip.errand.rank? kind <;> simp [count, ranks, hr]

theorem count_hear (j : Journal) (number : Nat) (answer : Answer) (calls : List Call)
    (ended : List (Nat × Outcome)) (kind : Kind) :
    (Journal.mk calls (j.entries.map (Entry.hear number answer)) ended).count kind =
      j.count kind :=
  congrArg List.length (j.ranks_hear number answer kind)

private theorem count_nextGet (j : Journal) (endpoints : Endpoints) (call : Nat) (kind : Kind)
    (calls : List Call) (entries : List Entry) (ended : List (Nat × Outcome)) :
    (Journal.mk calls (entries ++ [j.nextGet endpoints call kind]) ended).count .status +
        (Journal.mk calls (entries ++ [j.nextGet endpoints call kind]) ended).count .directory =
      (Journal.mk calls entries ended).count .status +
        (Journal.mk calls entries ended).count .directory + 1 := by
  rw [count_append, count_append]
  simp only [nextGet, Errand.length_rank?_get]
  cases kind <;> simp <;> omega

section

variable {endpoints : Endpoints} {x x' : Session} {j j' : Journal} {s : Step}

private theorem Numbered.openPosts_hear (numbered : j.Numbered) {e : Entry} (waits : e ∈ j.pending)
    (answer : Answer) (calls : List Call) (ended : List (Nat × Outcome)) :
    (Journal.mk calls (j.entries.map (Entry.hear e.slip.number answer)) ended).openPosts +
      (if e.isPost then 1 else 0) = j.openPosts := by
  obtain ⟨front, back, split, heard⟩ := numbered.hear_split waits answer
  have isOpen := isOpen_of_mem_pending waits
  rw [openPosts, openPosts, heard, split]
  have closed : ({ e with answer := some answer } : Entry).isOpen = false := rfl
  cases hp : e.isPost <;>
    simp [List.countP_append, closed, isOpen, hp, Nat.add_assoc]

private theorem openPosts_append (calls : List Call) (entries : List Entry) (e : Entry)
    (ended : List (Nat × Outcome)) :
    (Journal.mk calls (entries ++ [e]) ended).openPosts =
      (Journal.mk calls entries ended).openPosts + if e.isOpen && e.isPost then 1 else 0 := by
  simp [openPosts, List.countP_append, List.countP_singleton]

private theorem Balanced.turn (numbered : j.Numbered) (balanced : j.Balanced)
    (turn : Turn endpoints x j s x' j') : j'.Balanced := by
  obtain ⟨sent, asked⟩ := balanced
  have same : ∀ (calls : List Call) (ended : List (Nat × Outcome)),
      (Journal.mk calls j.entries ended).openPosts = j.openPosts ∧
        ∀ kind, (Journal.mk calls j.entries ended).count kind = j.count kind :=
    fun _ _ => ⟨rfl, fun _ => rfl⟩
  cases turn with
  | ask kind =>
    have unposted : (j.nextGet endpoints (j.calls.length + 1) kind).isPost = false := rfl
    have uncommanded : kind.call.isCommand = false := by cases kind <;> rfl
    constructor
    · simp only [openPosts_append, same, unposted, List.length_append, List.countP_append,
        List.length_singleton, List.countP_singleton, uncommanded, Bool.and_false,
        Bool.false_eq_true, if_false]
      omega
    · simp only [openPosts_append, count_nextGet, same, unposted, List.length_append,
        List.length_singleton, Bool.and_false, Bool.false_eq_true, if_false]
      omega
  | post c intent carried =>
    have posted : (j.nextPost endpoints (j.calls.length + 1) intent).isPost = true := rfl
    have waits : (j.nextPost endpoints (j.calls.length + 1) intent).isOpen = true := rfl
    have unranked : ∀ kind, (j.nextPost endpoints (j.calls.length + 1) intent).slip.errand.rank?
        kind = none := fun _ => rfl
    have command : c.isCommand = true := by cases c <;> cases carried <;> rfl
    constructor
    · simp only [openPosts_append, same, posted, waits, List.length_append, List.countP_append,
        List.length_singleton, List.countP_singleton, command, Bool.and_self, if_true]
      omega
    · simp only [openPosts_append, count_append, same, posted, waits, unranked, List.length_append,
        List.length_singleton, Bool.and_self, if_true, Option.toList_none, List.length_nil]
      omega
  | told e kind rank answer waits errand =>
    have unposted : e.isPost = false := by simp [Entry.isPost, errand]
    have posts := numbered.openPosts_hear waits answer j.calls
      (j.ended ++ [(e.slip.call, (x.settle kind rank answer).outcome)])
    rw [unposted, if_neg Bool.false_ne_true, Nat.add_zero] at posts
    constructor
    · rw [posts, List.length_map]
      exact sent
    · rw [posts, count_hear, count_hear]
      exact asked
  | confirm e intent answer waits errand =>
    have posted : e.isPost = true := by simp [Entry.isPost, errand]
    have unposted : (j.nextGet endpoints e.slip.call .status).isPost = false := rfl
    have posts := numbered.openPosts_hear waits answer j.calls j.ended
    rw [posted, if_pos rfl] at posts
    constructor
    · simp only [openPosts_append, unposted, List.length_append, List.length_map,
        List.length_singleton, Bool.and_false, Bool.false_eq_true, if_false]
      omega
    · simp only [openPosts_append, count_nextGet, count_hear, unposted, Bool.and_false,
        Bool.false_eq_true, if_false]
      omega
  | stray number answer unknown => exact ⟨sent, asked⟩
  | subscribe => exact ⟨sent, asked⟩
  | drain receiver => exact ⟨sent, asked⟩
  | clearError => exact ⟨sent, asked⟩

theorem Coursing.isPost_of_message (coursing : j.Coursing endpoints) {e : Entry}
    (mem : e ∈ j.entries) {path : String} {body : Json} (message : e.message = .post path body) :
    e.isPost = true := by
  have of_posts : ∀ c, e.Posts endpoints c → e.isPost = true := by
    rintro c ⟨next, intent, -, posts, -⟩
    simp [Entry.isPost, posts]
  obtain ⟨c, -, sent, course⟩ := coursing.of_mem mem
  generalize j.entriesOf e.slip.call = entries at sent course
  generalize j.outcomesOf e.slip.call = outcomes at course
  cases course with
  | asking gets _ =>
    obtain rfl := List.mem_singleton.mp sent
    exact (gets.message_ne path body message).elim
  | posting posts _ =>
    obtain rfl := List.mem_singleton.mp sent
    exact of_posts _ posts
  | confirming posts _ gets _ =>
    rcases List.mem_pair.mp sent with rfl | rfl
    · exact of_posts _ posts
    · exact (gets.message_ne path body message).elim

private theorem Course.open_or_ended {c : Call} {entries : List Entry} {outcomes : List Outcome}
    (course : Course endpoints c entries outcomes) :
    entries.countP Entry.isOpen + outcomes.length = 1 := by
  have waits_or_ends : ∀ get : Entry,
      (if get.isOpen then 1 else 0) + get.answer.toList.length = 1 := by
    intro get
    cases ha : get.answer <;> simp [Entry.isOpen, ha]
  cases course with
  | asking gets ends =>
    rw [List.countP_singleton, ends]
    exact waits_or_ends _
  | posting posts isOpen => simp [isOpen]
  | confirming posts answered gets ends =>
    rw [List.countP_cons_of_neg answered, List.countP_singleton, ends]
    exact waits_or_ends _

private theorem count_pending (call : Nat) :
    (j.pending.map fun e => e.slip.call).count call = (j.entriesOf call).countP Entry.isOpen := by
  rw [List.count_eq_countP, List.countP_map, pending, entriesOf, List.countP_filter,
    List.countP_filter]
  refine List.countP_congr fun e _ => ?_
  simp [and_comm]

private theorem mem_unfinished {call : Nat} :
    call ∈ j.unfinished ↔ (1 ≤ call ∧ call ≤ j.calls.length) ∧ j.outcomesOf call = [] := by
  rw [unfinished, List.mem_filter, List.mem_range'_1, outcomesOf, List.map_eq_nil_iff,
    List.filter_eq_nil_iff]
  simp only [List.mem_map, decide_eq_true_eq, not_exists, not_and, Nat.lt_add_one_iff,
    Nat.add_comm 1 j.calls.length]

private theorem nodup_unfinished : j.unfinished.Nodup :=
  List.Nodup.filter _ List.nodup_range'

private theorem Coursing.pending_perm_unfinished (coursing : j.Coursing endpoints) :
    (j.pending.map fun e => e.slip.call).Perm j.unfinished := by
  rw [List.perm_iff_count]
  intro call
  rw [count_pending, nodup_unfinished.count]
  by_cases made : ∃ i < j.calls.length, call = i + 1
  · obtain ⟨i, hi, rfl⟩ := made
    have one := (coursing.course i _ (List.getElem?_eq_getElem hi)).open_or_ended
    have known : 1 ≤ i + 1 ∧ i + 1 ≤ j.calls.length := by omega
    by_cases ended : j.outcomesOf (i + 1) = []
    · rw [if_pos (mem_unfinished.mpr ⟨known, ended⟩)]
      simpa [ended] using one
    · have some_outcome := List.length_pos_iff.mpr ended
      rw [if_neg (fun mem => ended (mem_unfinished.mp mem).2)]
      omega
  · have unmade : call ∉ j.unfinished := by
      intro mem
      have known := (mem_unfinished.mp mem).1
      exact made ⟨call - 1, by omega, by omega⟩
    rw [if_neg unmade, List.countP_eq_zero]
    intro e mem
    obtain ⟨mem, hc⟩ := mem_entriesOf.mp mem
    obtain ⟨i, hi, hi'⟩ := coursing.sent_for e mem
    exact (made ⟨i, hi, hc.symm.trans hi'⟩).elim

private theorem Numbered.pending_answer {x x' : Session} {j' : Journal} {number : Nat}
    {answer : Answer} (numbered : j.Numbered)
    (turn : Turn endpoints x j (.answer number answer) x' j') {e' : Entry}
    (waits' : e' ∈ j'.pending) :
    (e' ∈ j.pending ∧ e'.slip.number ≠ number) ∨
      (e'.isPost = false ∧ ∃ post ∈ j.pending, post.isPost = true) := by
  have heard : ∀ e ∈ j.pending, ∀ answer, e' ∈ j.entries.map (Entry.hear e.slip.number answer) →
      e'.isOpen → e' ∈ j.pending ∧ e'.slip.number ≠ e.slip.number := by
    intro e waits answer mem isOpen
    rcases (numbered.mem_hear waits answer).mp mem with ⟨mem, ne⟩ | rfl
    · exact ⟨List.mem_filter.mpr ⟨mem, isOpen⟩,
        fun same => ne (numbered.eq_of_number mem (mem_of_mem_pending waits) same)⟩
    · cases isOpen
  have mem' := mem_of_mem_pending waits'
  have isOpen' := isOpen_of_mem_pending waits'
  cases turn with
  | told e kind rank answer waits errand => exact .inl (heard e waits answer mem' isOpen')
  | confirm e intent answer waits errand =>
    rcases List.mem_append.mp mem' with mem' | mem'
    · exact .inl (heard e waits answer mem' isOpen')
    · obtain rfl := List.mem_singleton.mp mem'
      exact .inr ⟨rfl, e, waits, by simp [Entry.isPost, errand]⟩
  | stray number answer unknown => exact .inl ⟨waits', unknown e' waits'⟩

end
end Journal

namespace History

def answers (replies : List (Nat × Answer)) : List Step :=
  replies.map fun reply => .answer reply.1 reply.2

/-- Every request that waits is among those answered. -/
def Covers (h : History) (replies : List (Nat × Answer)) : Prop :=
  ∀ e ∈ h.journal.pending, e.slip.number ∈ replies.map Prod.fst

instance (h : History) (replies : List (Nat × Answer)) : Decidable (h.Covers replies) :=
  inferInstanceAs (Decidable (∀ e ∈ h.journal.pending, e.slip.number ∈ replies.map Prod.fst))

private theorem pending_answers (endpoints : Endpoints) (steps : List Step)
    (replies : List (Nat × Answer)) :
    ∀ e ∈ ((opened endpoints).run (steps ++ answers replies)).journal.pending,
      (e ∈ ((opened endpoints).run steps).journal.pending ∧
          e.slip.number ∉ replies.map Prod.fst) ∨
        (e.isPost = false ∧
          ∃ post ∈ ((opened endpoints).run steps).journal.pending, post.isPost = true) := by
  induction replies using List.reverseRecOn with
  | nil =>
    intro e waits
    exact .inl ⟨by simpa [answers] using waits, by simp⟩
  | append_singleton replies reply ih =>
    intro e waits
    have split : steps ++ answers (replies ++ [reply]) =
        (steps ++ answers replies) ++ [.answer reply.1 reply.2] := by
      simp [answers]
    rw [split] at waits
    have turn := turn_run endpoints (steps ++ answers replies) (.answer reply.1 reply.2)
    rcases (numbered_run endpoints _).pending_answer turn waits with
      ⟨old, ne⟩ | ⟨get, post, hp, his⟩
    · rcases ih e old with ⟨older, absent⟩ | new
      · refine .inl ⟨older, ?_⟩
        rw [List.map_append, List.mem_append, not_or]
        exact ⟨absent, by simpa using ne⟩
      · exact .inr new
    · refine .inr ⟨get, ?_⟩
      rcases ih post hp with ⟨older, -⟩ | ⟨none_such, -⟩
      · exact ⟨post, older, his⟩
      · rw [his] at none_such
        cases none_such

/-- To answer all that waits leaves gets only, and to answer all again leaves nothing. -/
private theorem pending_answers_twice (endpoints : Endpoints) (steps : List Step)
    {first second : List (Nat × Answer)}
    (covers : ((opened endpoints).run steps).Covers first)
    (covers' : ((opened endpoints).run (steps ++ answers first)).Covers second) :
    ((opened endpoints).run (steps ++ answers first ++ answers second)).journal.pending = [] := by
  have gets : ∀ e ∈ ((opened endpoints).run (steps ++ answers first)).journal.pending,
      e.isPost = false := by
    intro e waits
    rcases pending_answers endpoints steps first e waits with ⟨old, absent⟩ | ⟨get, -⟩
    · exact (absent (covers e old)).elim
    · exact get
  rw [List.eq_nil_iff_forall_not_mem]
  intro e waits
  rcases pending_answers endpoints (steps ++ answers first) second e waits with
    ⟨old, absent⟩ | ⟨-, post, waits', his⟩
  · exact absent (covers' e old)
  · rw [gets post waits'] at his
    cases his

private theorem balanced_run (endpoints : Endpoints) (steps : List Step) :
    ((opened endpoints).run steps).journal.Balanced :=
  numbered_induction (P := fun _ j => j.Balanced) Journal.balanced_blank
    (fun _ _ _ _ _ numbered balanced turn => balanced.turn numbered turn) steps

theorem issued_le_calls (endpoints : Endpoints) (steps : List Step) :
    ((opened endpoints).run steps).session.refreshIssued +
        ((opened endpoints).run steps).session.directoryIssued ≤
      ((opened endpoints).run steps).journal.calls.length := by
  have kept := kept_run endpoints steps
  have refreshed : ((opened endpoints).run steps).session.refreshIssued = _ := kept.issued .status
  have loaded : ((opened endpoints).run steps).session.directoryIssued = _ := kept.issued .directory
  have asked := (balanced_run endpoints steps).asked
  omega

theorem unfinished_eq_nil_iff (endpoints : Endpoints) (steps : List Step) :
    ((opened endpoints).run steps).journal.unfinished = [] ↔
      ((opened endpoints).run steps).journal.pending = [] := by
  have perm := (coursing_run endpoints steps).pending_perm_unfinished
  constructor
  · intro none_left
    rw [none_left] at perm
    simpa using perm.eq_nil
  · intro none_waits
    rw [none_waits] at perm
    exact perm.symm.eq_nil

/-- What holds of calls and requests. -/
structure Conserves (endpoints : Endpoints) (h : History) : Prop where
  /-- The desk waits for the requests without an answer. -/
  waiting : h.desk.waiting.map Waiting.slip = h.journal.pending.map Entry.slip
  /-- They correspond to the unfinished calls one to one. -/
  correspondence : (h.journal.pending.map fun e => e.slip.call).Perm h.journal.unfinished ∧
    h.journal.unfinished.Nodup
  /-- Every call has sent and has ended with what its course says. -/
  course : ∀ (i : Nat) (c : Call), h.journal.calls[i]? = some c →
    Journal.Course endpoints c (h.journal.entriesOf (i + 1)) (h.journal.outcomesOf (i + 1))
  /-- To make a call sends one request, for that call. -/
  call_step : ∀ c, ∃ e, e.slip.call = h.journal.calls.length + 1 ∧ e.isOpen ∧
    (h.step (.call c)).journal =
      { h.journal with
        calls := h.journal.calls ++ [c]
        entries := h.journal.entries ++ [e] }
  /-- To answer a post sends one get of the status for its call, and ends no call. -/
  post_step : ∀ e ∈ h.journal.pending, ∀ intent, e.slip.errand = .post intent → ∀ answer,
    ∃ get, get.slip.call = e.slip.call ∧ get.Gets endpoints .status ∧ get.isOpen ∧
      (h.step (.answer e.slip.number answer)).journal =
        { h.journal with
          entries := h.journal.entries.map (Entry.hear e.slip.number answer) ++ [get] }
  /-- To answer a get ends its call, and sends nothing. -/
  get_step : ∀ e ∈ h.journal.pending, ∀ kind rank, e.slip.errand = .get kind rank → ∀ answer,
    ∃ outcome, (h.step (.answer e.slip.number answer)).journal =
      { h.journal with
        entries := h.journal.entries.map (Entry.hear e.slip.number answer)
        ended := h.journal.ended ++ [(e.slip.call, outcome)] }
  /-- All other steps send nothing and end no call. -/
  idle_step : ∀ s, (∀ c, s ≠ .call c) →
    (∀ number answer, s = .answer number answer →
      ∀ e ∈ h.journal.pending, e.slip.number ≠ number) →
    (h.step s).journal = h.journal
  total : h.journal.entries.length ≤
    h.journal.calls.countP (fun c => !c.isCommand) + 2 * h.journal.calls.countP Call.isCommand
  /-- To answer all that waits, twice over, ends every call. -/
  drained : ∀ first second, h.Covers first → (h.run (answers first)).Covers second →
    ((h.run (answers first)).run (answers second)).journal.unfinished = []

/-- Requests and calls are conserved in every run. -/
theorem requests_and_calls_conserved (endpoints : Endpoints) (steps : List Step) :
    ((opened endpoints).run steps).Conserves endpoints := by
  have kept := kept_run endpoints steps
  have numbered := numbered_run endpoints steps
  have coursing := coursing_run endpoints steps
  constructor
  case waiting => exact kept.waiting
  case correspondence => exact ⟨coursing.pending_perm_unfinished, Journal.nodup_unfinished⟩
  case course => exact coursing.course
  case call_step => exact fun c => Journal.turn_call (kept.step (.call c)).turn
  case post_step =>
    intro e waits intent errand answer
    exact ⟨((opened endpoints).run steps).journal.nextGet endpoints e.slip.call .status, rfl,
      Journal.gets_nextGet _ _ _ _, rfl, (numbered.turn_post waits rfl errand (kept.step _).turn).2⟩
  case get_step =>
    intro e waits kind rank errand answer
    exact ⟨_, (numbered.turn_get waits rfl errand (kept.step _).turn).2⟩
  case idle_step =>
    intro s uncalled unanswered
    exact Journal.turn_idle uncalled unanswered (kept.step s).turn
  case total =>
    have sent := (balanced_run endpoints steps).sent
    have calls := List.length_eq_countP_add_countP Call.isCommand
      (l := ((opened endpoints).run steps).journal.calls)
    simp only [Bool.not_eq_true, Bool.decide_eq_false] at calls
    omega
  case drained =>
    intro first second covers covers'
    rw [← run_append] at covers'
    rw [← run_append, ← run_append, ← List.append_assoc, unfinished_eq_nil_iff]
    exact pending_answers_twice endpoints steps covers covers'

/-- Two calls to get something and two commands overlap; two rounds of answers end them all. -/
theorem two_rounds_end_overlapping_calls :
    let h := (opened .standard).run [.call .toggleLoop, .call .refresh, .call .loadDirectory,
      .call (.command (.playback .stop)), .answer 4 (.error (.client "closed"))]
    let first : List (Nat × Answer) :=
      [(5, .ok .null), (3, .ok (.object [])), (1, .error (.timeout "player")), (2, .ok .null)]
    let second : List (Nat × Answer) := [(6, .ok .null)]
    h.journal.unfinished = [1, 2, 3, 4] ∧ h.Covers first ∧
      (h.run (answers first)).Covers second ∧
      ((h.run (answers first)).run (answers second)).journal.unfinished = [] := by
  intro h first second
  have covers : h.Covers first := by decide
  have covers' : (h.run (answers first)).Covers second := by decide
  exact ⟨by decide, covers, covers',
    (requests_and_calls_conserved .standard _).drained first second covers covers'⟩

end History
end ShowRemote
