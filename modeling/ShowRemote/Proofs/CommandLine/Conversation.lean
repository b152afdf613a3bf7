import ShowRemote.Proofs.CommandLine.Arguments
import ShowRemote.Proofs.CommandLine.Dialogue
import ShowRemote.Proofs.Outcome

/-!
What a player sees of an action, and what is printed of its answers. An action with an intent gets
the status, posts the intent and gets the status again, whatever becomes of any of the three. It
prints the last status that it got; what a toggle posts is read off the first one, and what the post
is answered with is not read at all.

Main statement: `actions_converse`.
-/

set_option autoImplicit false

namespace ShowRemote

open Show (Directory Intent LoopFlag Status StatusView)

namespace Session

theorem shows_settle {x : Session} {rank : Nat} (newer : x.applied .status < rank)
    {old : Option Json} (shows : x.Shows .status old) (answer : Answer) :
    (x.settle .status rank answer).session.Shows .status (answer.toOption.or old) := by
  rcases x.settle_cases .status rank answer with
    ⟨failure, bad, h⟩ | ⟨document, good, late, h⟩ | ⟨document, good, -, h⟩
  · rw [h]
    cases answer with
    | ok document => cases bad
    | error fault => exact (x.shows_fail .status _ old).mpr shows
  · omega
  · rw [h, Kind.verdict_status_eq_ok.mp good]
    exact x.shows_adopt .status rank document

def confirmed (first : Answer) : Session :=
  ((fresh.issue .status).settle .status 1 first).session

private theorem shows_confirmed (first : Answer) :
    (confirmed first).Shows .status first.toOption := by
  have blank : (fresh.issue .status).Shows .status none := ⟨rfl, rfl, rfl⟩
  have unapplied : (fresh.issue .status).applied .status < 1 := Nat.one_pos
  have shows := shows_settle unapplied blank first
  rwa [Option.or_none] at shows

/-- A session after an intent: its post has been answered, and then its get. -/
def carriedOut (x : Session) (intent : Intent) (posted last : Answer) : Session :=
  (((x.posted intent.name posted).issue .status).settle .status
    ((x.posted intent.name posted).issued .status + 1) last).session

private theorem applied_confirmed_le (first : Answer) :
    (confirmed first).applied .status ≤ (confirmed first).issued .status := by
  unfold confirmed
  rw [issued_settle]
  rcases (fresh.issue .status).settle_cases .status 1 first with
    ⟨failure, -, h⟩ | ⟨document, -, -, h⟩ | ⟨document, -, -, h⟩
  · rw [h]
    exact Nat.zero_le _
  · rw [h]
    exact Nat.zero_le _
  · rw [h, applied_adopt]
    exact Nat.le_refl 1

private theorem shows_carriedOut (first posted last : Answer) (intent : Intent) :
    ((confirmed first).carriedOut intent posted last).Shows .status
      (last.toOption.or first.toOption) := by
  refine shows_settle ?_ ?_ last
  · rw [applied_issue, applied_posted, issued_posted]
    exact Nat.lt_succ_of_le (applied_confirmed_le first)
  · rw [shows_issue, shows_posted]
    exact shows_confirmed first

end Session

theorem Show.Status.looping_iff (document : Json) :
    (ofJson document).looping = true ↔ document.member? "loop" = some (.string "1") := by
  show ((document.member? "loop").map Show.isLooping).getD false = true ↔ _
  cases document.member? "loop" with
  | none => exact iff_of_false nofun nofun
  | some value =>
    cases value with
    | string flag =>
      show decide (flag = LoopFlag.on.text) = true ↔ _
      rw [decide_eq_true_eq, Option.some.injEq, Json.string.injEq]
      rfl
    | null | bool | number | array | object => exact iff_of_false nofun nofun

private theorem Session.loopNext_eq_off_iff {x : Session} {last : Option Json}
    (shows : x.Shows .status last) :
    x.loopNext = .off ↔
      ∃ document, last = some document ∧ document.member? "loop" = some (.string "1") := by
  rw [shows.2.2]
  cases last with
  | none => exact iff_of_false nofun nofun
  | some document =>
    have toggled : ∀ looping, (LoopFlag.ofBool looping).toggled = .off ↔ looping = true := by
      decide
    simp only [Option.map_some, Option.getD_some, toggled, Status.looping_iff, Option.some.injEq,
      exists_eq_left']

namespace CommandLine

open Http (Exchange Outgoing)

def statusText (document : Json) : String :=
  (StatusView.ofStatus (Status.ofJson document)).display ++ "\n"

private theorem viewText_of_shows {s : Session} {last : Option Json}
    (shows : s.Shows .status last) :
    viewText s = last.elim "" statusText := by
  obtain ⟨status, view, -⟩ := shows
  rw [viewText, status, view]
  cases last <;> rfl

def Reaches (base : Url) (path : String) (url : Url) : Prop :=
  Http.resolve base path = .ok url ∧ Outgoing.isSendable url

theorem Reaches.prepare_get {base url : Url} {path : String} (reaches : Reaches base path url) :
    Outgoing.prepare base (.get path) = .ok ⟨url, .get path⟩ := by
  simp [Outgoing.prepare, reaches.1, reaches.2]

theorem Reaches.prepare_post {base url : Url} {path : String} (reaches : Reaches base path url)
    (body : Json) : Outgoing.prepare base (.post path body) = .ok ⟨url, .post path body⟩ := by
  simp [Outgoing.prepare, reaches.1, reaches.2]

theorem settle_post (url : Url) (path : String) (body : Json) (status : Nat) (content : List UInt8)
    (whole : Bool) :
    Outgoing.settle ⟨url, .post path body⟩ (.answered ⟨status, content, whole⟩) =
      if Outgoing.isSuccess status then .ok .null else .error (.status url.text status) := rfl

section Play

variable (p : Player) (settings : Settings) (otherwise : Exchange) (exchanges : List Exchange)

/-- The exchange that a request gets, by how many requests were before it. -/
def exchangeAt (k : Nat) : Exchange :=
  (exchanges.drop k).headD otherwise

theorem play_get_of_reaches (kind : Kind) {url : Url}
    (reaches : Reaches p.base (p.endpoints.path kind) url) (s : Session) :
    (p.get kind s).play otherwise exchanges =
      ⟨[(⟨url, .get (p.endpoints.path kind)⟩, exchangeAt otherwise exchanges 0)], "",
        ((s.issue kind).settle kind (s.issued kind + 1)
          (Outgoing.settle ⟨url, .get (p.endpoints.path kind)⟩
            (exchangeAt otherwise exchanges 0))).session⟩ := by
  rw [Player.get, Dialogue.play_bind, p.play_ask otherwise exchanges reaches.prepare_get,
    Dialogue.play_done, Session.issued_issue, if_pos rfl]
  rfl

variable {statusUrl commandUrl : Url}

private theorem play_command_of_reaches (reaches : Reaches p.base p.endpoints.status statusUrl)
    (reaches' : Reaches p.base p.endpoints.command commandUrl) (s : Session) (intent : Intent) :
    (p.command s intent).play otherwise exchanges =
      let get : Outgoing := ⟨statusUrl, .get p.endpoints.status⟩
      let post : Outgoing := ⟨commandUrl, .post p.endpoints.command intent.command.toJson⟩
      ⟨[(post, exchangeAt otherwise exchanges 0), (get, exchangeAt otherwise exchanges 1)], "",
        s.carriedOut intent (post.settle (exchangeAt otherwise exchanges 0))
          (get.settle (exchangeAt otherwise exchanges 1))⟩ := by
  have path : p.endpoints.path .status = p.endpoints.status := rfl
  rw [p.command_eq_bind, Dialogue.play_bind,
    p.play_ask otherwise exchanges (reaches'.prepare_post _),
    play_get_of_reaches p otherwise _ .status reaches]
  simp only [Transcript.andThen, exchangeAt, List.drop_drop, path]
  rfl

private theorem play_intent {action : Action} {intent : Session → Intent}
    (carried : action.intent? = some intent) (reaches : Reaches p.base p.endpoints.status statusUrl)
    (reaches' : Reaches p.base p.endpoints.command commandUrl) :
    let get : Outgoing := ⟨statusUrl, .get p.endpoints.status⟩
    let s := Session.confirmed (get.settle (exchangeAt otherwise exchanges 0))
    let post : Outgoing := ⟨commandUrl, .post p.endpoints.command (intent s).command.toJson⟩
    let s' := s.carriedOut (intent s) (post.settle (exchangeAt otherwise exchanges 1))
      (get.settle (exchangeAt otherwise exchanges 2))
    (perform p settings action).play otherwise exchanges =
      ⟨[(get, exchangeAt otherwise exchanges 0), (post, exchangeAt otherwise exchanges 1),
        (get, exchangeAt otherwise exchanges 2)], viewText s', conclude s'⟩ := by
  rw [perform_intent p settings carried, Dialogue.play_bind, Dialogue.play_bind,
    play_get_of_reaches p otherwise exchanges .status reaches,
    play_command_of_reaches p otherwise _ reaches reaches', play_showAndConclude]
  simp only [Transcript.andThen, exchangeAt, List.drop_drop]
  rfl

end Play

/-- Three requests are made for an intent, whatever becomes of them, and the last status that was
got is printed. -/
structure Confirms (endpoints : Endpoints) (statusUrl commandUrl : Url) (seen : Nat → Exchange)
    (intent : Intent) (t : Transcript Ending) : Prop where
  requests : t.requests =
    [(⟨statusUrl, .get endpoints.status⟩, seen 0),
      (⟨commandUrl, .post endpoints.command intent.command.toJson⟩, seen 1),
      (⟨statusUrl, .get endpoints.status⟩, seen 2)]
  printed : t.printed =
    ((Outgoing.settle ⟨statusUrl, .get endpoints.status⟩ (seen 2)).toOption.or
      (Outgoing.settle ⟨statusUrl, .get endpoints.status⟩ (seen 0)).toOption).elim "" statusText

def SaysLooping (answer : Answer) : Prop :=
  ∃ document, answer = .ok document ∧ document.member? "loop" = some (.string "1")

/-- What is printed of a listing: a line for every option, and nothing if it is none. -/
def listingText (answer : Answer) : String :=
  (answer.toOption.bind fun document => (Directory.ofJson document).toOption).elim "" fun d =>
    String.join (d.options.map fun o => o.label ++ "\n")

/-- What is seen of an action and printed, for every list of exchanges. -/
structure Converses (base : Url) (endpoints : Endpoints) (action : Action) (otherwise : Exchange)
    (play : List Exchange → Transcript Ending) : Prop where
  playback : ∀ verb, action = .playback verb → ∀ {statusUrl commandUrl : Url},
    Reaches base endpoints.status statusUrl → Reaches base endpoints.command commandUrl →
      ∀ exchanges, Confirms endpoints statusUrl commandUrl (exchangeAt otherwise exchanges)
        (.playback verb) (play exchanges)
  select : ∀ id, action = .select id → ∀ {statusUrl commandUrl : Url},
    Reaches base endpoints.status statusUrl → Reaches base endpoints.command commandUrl →
      ∀ exchanges, Confirms endpoints statusUrl commandUrl (exchangeAt otherwise exchanges)
        (.selectShow id) (play exchanges)
  /-- A toggle posts the opposite of the status that it got first. -/
  loop : action = .loop → ∀ {statusUrl commandUrl : Url},
    Reaches base endpoints.status statusUrl → Reaches base endpoints.command commandUrl →
      ∀ exchanges, ∃ next,
        Confirms endpoints statusUrl commandUrl (exchangeAt otherwise exchanges)
          (.toggleLoop next) (play exchanges) ∧
        let first := Outgoing.settle ⟨statusUrl, .get endpoints.status⟩
          (exchangeAt otherwise exchanges 0)
        (next.text = "0" ↔ SaysLooping first) ∧ (next.text = "1" ↔ ¬ SaysLooping first)
  /-- What the post is answered with is not read, nor whether it is whole. -/
  post_unread : action.intent?.isSome → ∀ {statusUrl commandUrl : Url},
    Reaches base endpoints.status statusUrl → Reaches base endpoints.command commandUrl →
      ∀ (first : Exchange) (status : Nat) (content content' : List UInt8) (whole whole' : Bool)
        (rest : List Exchange),
        let t := play (first :: .answered ⟨status, content, whole⟩ :: rest)
        let t' := play (first :: .answered ⟨status, content', whole'⟩ :: rest)
        t.printed = t'.printed ∧ t.result = t'.result ∧
          t.requests.map Prod.fst = t'.requests.map Prod.fst
  status : action = .status → ∀ {statusUrl : Url}, Reaches base endpoints.status statusUrl →
    ∀ exchanges,
      let get : Outgoing := ⟨statusUrl, .get endpoints.status⟩
      (play exchanges).requests = [(get, exchangeAt otherwise exchanges 0)] ∧
        (play exchanges).printed =
          (get.settle (exchangeAt otherwise exchanges 0)).toOption.elim "" statusText
  directory : action = .directory → ∀ {directoryUrl : Url},
    Reaches base endpoints.directory directoryUrl → ∀ exchanges,
      let get : Outgoing := ⟨directoryUrl, .get endpoints.directory⟩
      (play exchanges).requests = [(get, exchangeAt otherwise exchanges 0)] ∧
        (play exchanges).printed = listingText (get.settle (exchangeAt otherwise exchanges 0))

private theorem listText_settle (answer : Answer) :
    listText ((Session.fresh.issue .directory).settle .directory 1 answer).session =
      listingText answer := by
  rcases (Session.fresh.issue .directory).settle_cases .directory 1 answer with
    ⟨failure, bad, h⟩ | ⟨document, good, late, h⟩ | ⟨document, good, -, h⟩
  · rw [h]
    cases answer with
    | error fault => rfl
    | ok document =>
      cases decoded : Directory.ofJson document with
      | ok d => simp [Kind.verdict, decoded] at bad
      | error fault =>
        simp only [listingText, Except.toOption, Option.bind_some, decoded]
        rfl
  · exact (Nat.not_succ_le_zero 0 late).elim
  · obtain ⟨rfl, d, decoded⟩ := Kind.verdict_directory_eq_ok.mp good
    have adopted :
        ((Session.fresh.issue .directory).adopt 1 document .directory).directory = d := by
      show Directory.ofJsonOrEmpty document = d
      rw [Directory.ofJsonOrEmpty, decoded]
    rw [h]
    simp only [listText, Session.options, adopted, listingText, Except.toOption, Option.bind_some,
      decoded, Option.elim_some]

section Actions

variable (p : Player) (settings : Settings) (otherwise : Exchange) {statusUrl commandUrl : Url}
  (reaches : Reaches p.base p.endpoints.status statusUrl)
  (reaches' : Reaches p.base p.endpoints.command commandUrl)

include reaches reaches'

private theorem confirms_intent {action : Action} {intent : Session → Intent}
    (carried : action.intent? = some intent) (exchanges : List Exchange) :
    Confirms p.endpoints statusUrl commandUrl (exchangeAt otherwise exchanges)
      (intent (.confirmed (Outgoing.settle ⟨statusUrl, .get p.endpoints.status⟩
        (exchangeAt otherwise exchanges 0))))
      ((perform p settings action).play otherwise exchanges) := by
  rw [play_intent p settings otherwise exchanges carried reaches reaches']
  exact ⟨rfl, viewText_of_shows (Session.shows_carriedOut ..)⟩

private theorem play_post_unread {action : Action} {intent : Session → Intent}
    (carried : action.intent? = some intent) (first : Exchange) (status : Nat)
    (content content' : List UInt8) (whole whole' : Bool) (rest : List Exchange) :
    let t := (perform p settings action).play otherwise
      (first :: .answered ⟨status, content, whole⟩ :: rest)
    let t' := (perform p settings action).play otherwise
      (first :: .answered ⟨status, content', whole'⟩ :: rest)
    t.printed = t'.printed ∧ t.result = t'.result ∧
      t.requests.map Prod.fst = t'.requests.map Prod.fst := by
  simp only [play_intent p settings otherwise _ carried reaches reaches', exchangeAt,
    List.drop_zero, List.drop_succ_cons, List.headD_cons, settle_post, List.map_cons, List.map_nil,
    and_self]

end Actions

private theorem SaysLooping.text_iff {answer : Answer} :
    ((Session.confirmed answer).loopNext.text = "0" ↔ SaysLooping answer) ∧
      ((Session.confirmed answer).loopNext.text = "1" ↔ ¬ SaysLooping answer) := by
  have off := Session.loopNext_eq_off_iff (Session.shows_confirmed answer)
  have told : (Session.confirmed answer).loopNext = .off ↔ SaysLooping answer := by
    rw [off]
    cases answer with
    | ok document => simp [Except.toOption, SaysLooping]
    | error fault => simp [Except.toOption, SaysLooping]
  rw [← told]
  cases (Session.confirmed answer).loopNext <;> decide

end CommandLine
end ShowRemote
