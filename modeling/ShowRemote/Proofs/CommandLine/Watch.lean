import ShowRemote.Proofs.CommandLine.Conversation

/-!
What is seen of a watch. Every poll gets the status once; its view is printed right behind it,
unless it is the view that was got last before, and the last view is printed once more at the end. A
poll that fails prints nothing and changes nothing: the view before it is still the last one.

Main statement: `watch_prints_changes`.
-/

set_option autoImplicit false

namespace ShowRemote

open Show (Status StatusView)

/-- A session that shows the last status that it got, and that will show the next one. -/
structure Session.Current (s : Session) (last : Option Json) : Prop where
  shows : s.Shows .status last
  newest : s.applied .status ≤ s.issued .status

private theorem Session.current_fresh : fresh.Current none :=
  ⟨⟨rfl, rfl, rfl⟩, Nat.le_refl 0⟩

private theorem Session.Current.settle {s : Session} {last : Option Json} (current : s.Current last)
    (answer : Answer) :
    ((s.issue .status).settle .status (s.issued .status + 1) answer).session.Current
      (answer.toOption.or last) := by
  have newer : (s.issue .status).applied .status < s.issued .status + 1 := by
    rw [applied_issue]
    exact Nat.lt_succ_of_le current.newest
  constructor
  case shows =>
    exact shows_settle newer ((s.shows_issue .status .status last).mpr current.shows) answer
  case newest =>
    rw [issued_settle, issued_issue, if_pos rfl]
    rcases (s.issue .status).settle_cases .status (s.issued .status + 1) answer with
      ⟨failure, -, h⟩ | ⟨document, -, -, h⟩ | ⟨document, -, -, h⟩
    · rw [h]
      exact ((s.issue .status).applied_fail .status _).trans_le newer.le
    · rw [h]
      exact newer.le
    · rw [h, applied_adopt, if_pos rfl]

namespace CommandLine

open Http (Exchange Outgoing)

/-- Something that is seen of a dialogue. -/
inductive Sight where
  | sent (request : Outgoing) (exchange : Exchange)
  | printed (text : String)

namespace Sight

def request? : Sight → Option (Outgoing × Exchange)
  | .sent request exchange => some (request, exchange)
  | .printed _ => none

def text? : Sight → Option String
  | .sent _ _ => none
  | .printed text => some text

end Sight

namespace Dialogue

variable {α β : Type} (otherwise : Exchange)

/-- The requests and the texts of a dialogue in the order in which they are sent and printed. -/
def sights : Dialogue α → List Exchange → List Sight
  | .done _, _ => []
  | .send request _ next, exchanges =>
    let exchange := exchanges.headD otherwise
    .sent request exchange :: (next exchange).sights exchanges.tail
  | .print text next, exchanges => .printed text :: next.sights exchanges
  | .pause _ next, exchanges => (next ()).sights exchanges

private theorem requests_play (d : Dialogue α) (exchanges : List Exchange) :
    (d.play otherwise exchanges).requests =
      (d.sights otherwise exchanges).filterMap Sight.request? := by
  induction d generalizing exchanges with
  | done a => rw [play_done, sights, List.filterMap_nil]
  | send request timeout next ih =>
    rw [play, sights, List.filterMap_cons, ← ih]
    rfl
  | print text next ih =>
    rw [play_print, sights, List.filterMap_cons]
    exact ih _
  | pause ms next ih =>
    rw [play_pause, sights]
    exact ih () _

private theorem printed_play (d : Dialogue α) (exchanges : List Exchange) :
    (d.play otherwise exchanges).printed =
      String.join ((d.sights otherwise exchanges).filterMap Sight.text?) := by
  induction d generalizing exchanges with
  | done a => rw [play_done, sights]; rfl
  | send request timeout next ih =>
    rw [play, sights, List.filterMap_cons]
    exact ih _ _
  | print text next ih =>
    rw [play_print, sights, List.filterMap_cons, ih]
    exact String.join_cons.symm
  | pause ms next ih =>
    rw [play_pause, sights]
    exact ih () _

private theorem sights_bind (d : Dialogue α) (f : α → Dialogue β) (exchanges : List Exchange) :
    (d.bind f).sights otherwise exchanges =
      d.sights otherwise exchanges ++
        (f (d.play otherwise exchanges).result).sights otherwise
          (exchanges.drop (d.play otherwise exchanges).requests.length) := by
  induction d generalizing exchanges with
  | done a => simp [bind, sights]
  | send request timeout next ih =>
    rw [bind, sights, sights, play, ih]
    simp
  | print text next ih =>
    rw [bind, sights, sights, play_print, ih]
    rfl
  | pause ms next ih =>
    rw [bind, sights, sights, play_pause]
    exact ih () exchanges

end Dialogue

def viewOf (document : Json) : StatusView :=
  .ofStatus (.ofJson document)

/-- The view that an exchange brings, if it brings a document. -/
def viewOf? (get : Outgoing) (exchange : Exchange) : Option StatusView :=
  (get.settle exchange).toOption.map viewOf

def changed? (before : Option StatusView) (view : StatusView) : Option StatusView :=
  if before = some view then none else some view

/-- The views that are not equal to the one just before them. -/
def changes : Option StatusView → List StatusView → List StatusView
  | _, [] => []
  | before, view :: rest => (changed? before view).toList ++ changes (some view) rest

private theorem isChain_changes (before : Option StatusView) (views : List StatusView) :
    (before.toList ++ changes before views).IsChain (· ≠ ·) := by
  induction views generalizing before with
  | nil => cases before <;> simp [changes]
  | cons view rest ih =>
    have rest_apart := ih (some view)
    cases before with
    | none => exact rest_apart
    | some other =>
      by_cases same : other = view
      · subst same
        simpa [changes, changed?] using rest_apart
      · simpa [changes, changed?, same] using rest_apart

section Polls

variable (before : Option StatusView) (views : Nat → Option StatusView)

/-- The last view that was got before a poll, by the views of the polls. -/
def lastView (k : Nat) : Option StatusView :=
  ((List.range k).filterMap views).getLast?.or before

/-- The view of a poll, if it has one and that is a change. -/
def news (k : Nat) : Option StatusView :=
  (views k).bind (changed? (lastView before views k))

private theorem lastView_succ (k : Nat) :
    lastView before views (k + 1) =
      lastView ((views 0).or before) (fun j => views (j + 1)) k := by
  rw [lastView, lastView, List.range_succ_eq_map, List.filterMap_cons, List.filterMap_map]
  cases views 0 with
  | none => rfl
  | some view =>
    show (List.getLast? (view :: _)).or before = _
    rw [List.getLast?_cons, Function.comp_def]
    cases ((List.range k).filterMap fun j => views (j + 1)).getLast? <;> rfl

private theorem news_succ (k : Nat) :
    news before views (k + 1) = news ((views 0).or before) (fun j => views (j + 1)) k := by
  rw [news, news, lastView_succ]

private theorem filterMap_news (n : Nat) :
    (List.range n).filterMap (news before views) =
      changes before ((List.range n).filterMap views) := by
  induction n generalizing before views with
  | zero => rfl
  | succ n ih =>
    have further : (List.range n).filterMap (news before views ∘ Nat.succ) =
        changes ((views 0).or before) ((List.range n).filterMap (views ∘ Nat.succ)) := by
      rw [show news before views ∘ Nat.succ = _ from funext (news_succ before views)]
      exact ih _ _
    rw [List.range_succ_eq_map, List.filterMap_cons, List.filterMap_cons, List.filterMap_map,
      List.filterMap_map, further]
    have first : news before views 0 = (views 0).bind (changed? before) := rfl
    rw [first]
    cases views 0 with
    | none => rfl
    | some view =>
      simp only [Option.bind_some, Option.some_or, changes]
      cases changed? before view <;> rfl

end Polls

def changeText (view : StatusView) : String :=
  view.display ++ "\n\n"

/-- What is printed of a view, if it is a change. -/
def announced (change : Option StatusView) : List Sight :=
  change.toList.map fun view => .printed (changeText view)

section Polled

variable {s : Session} {last : Option Json} {answer : Answer}
  (current : s.Current (answer.toOption.or last))

include current

private theorem printedAfter_of_current :
    Player.printedAfter s (last.map viewOf) = (answer.toOption.or last).map viewOf := by
  obtain ⟨status, view, -⟩ := current.shows
  rw [Player.printedAfter, status, view]
  cases answer with
  | ok document =>
    show (if _ then some (viewOf document) else _) = some (viewOf document)
    split
    · rfl
    · next same =>
      by_contra other
      exact same ⟨rfl, other⟩
  | error fault =>
    cases last with
    | none => rfl
    | some document => exact if_neg fun fresh => fresh.2 rfl

private theorem announced_of_current :
    (if s.status.isSome ∧ last.map viewOf ≠ some s.view then [.printed (changeText s.view)]
      else []) = announced ((answer.toOption.map viewOf).bind (changed? (last.map viewOf))) := by
  obtain ⟨status, view, -⟩ := current.shows
  rw [status, view]
  cases answer with
  | ok document =>
    by_cases same : last.map viewOf = some (viewOf document)
    · have stays : changed? (last.map viewOf) (viewOf document) = none := if_pos same
      exact (if_neg fun fresh => fresh.2 same).trans (congrArg announced stays).symm
    · have changes : changed? (last.map viewOf) (viewOf document) = some (viewOf document) :=
        if_neg same
      exact (if_pos ⟨rfl, same⟩).trans (congrArg announced changes).symm
  | error fault =>
    cases last with
    | none => rfl
    | some document => exact if_neg fun fresh => fresh.2 rfl

end Polled

section Watch

variable (p : Player) (otherwise : Exchange)

/-- What is seen of a watch is what is seen of a get, the view that is got, if it is printed, and
what is seen of a watch with one poll less. -/
private theorem sights_watch (ms polls : Nat) {s : Session} {exchanges : List Exchange}
    {t : Transcript Session} (got : (p.get .status s).play otherwise exchanges = t)
    (printed : Option StatusView) :
    (p.watch ms (polls + 1) s printed).sights otherwise exchanges =
      (p.get .status s).sights otherwise exchanges ++
        ((if t.result.status.isSome ∧ printed ≠ some t.result.view then
            [.printed (changeText t.result.view)] else []) ++
          (p.watch ms polls t.result (Player.printedAfter t.result printed)).sights otherwise
            (exchanges.drop t.requests.length)) := by
  rw [Player.watch, p.refresh_eq_get]
  show ((p.get .status s).bind _).sights otherwise exchanges = _
  rw [Dialogue.sights_bind, got, Player.printedAfter]
  refine congrArg _ ?_
  by_cases fresh : t.result.status.isSome ∧ printed ≠ some t.result.view
  · simp only [if_pos fresh, Dialogue.sights, changeText]
    cases polls <;> rfl
  · simp only [if_neg fresh]
    cases polls <;> rfl

variable {url : Url} (reaches : Reaches p.base (p.endpoints.path .status) url)

include reaches

private theorem sights_get_of_reaches (s : Session) (exchanges : List Exchange) :
    (p.get .status s).sights otherwise exchanges =
      [.sent ⟨url, .get p.endpoints.status⟩ (exchangeAt otherwise exchanges 0)] := by
  rw [Player.get, Dialogue.sights_bind, Player.ask, reaches.prepare_get]
  rfl

/-- The sights of a watch, and the view that its session holds in the end. Before the first poll
stands the view that was got last. -/
private theorem watch_seen (ms polls : Nat) {s : Session} {last : Option Json}
    (current : s.Current last) (exchanges : List Exchange) :
    let get : Outgoing := ⟨url, .get p.endpoints.status⟩
    let seen := exchangeAt otherwise exchanges
    let views := fun k => viewOf? get (seen k)
    (∃ last', ((p.watch ms polls s (last.map viewOf)).play otherwise exchanges).result.Current
        last' ∧ last'.map viewOf = lastView (last.map viewOf) views polls) ∧
      (p.watch ms polls s (last.map viewOf)).sights otherwise exchanges =
        (List.range polls).flatMap fun k =>
          .sent get (seen k) :: announced (news (last.map viewOf) views k) := by
  intro get seen views
  induction polls generalizing s last exchanges with
  | zero => exact ⟨⟨last, by rwa [Player.watch, Dialogue.play_done], rfl⟩, rfl⟩
  | succ polls ih =>
    let answer := get.settle (seen 0)
    obtain ⟨s', got, current'⟩ : ∃ s', (p.get .status s).play otherwise exchanges =
        ⟨[(get, seen 0)], "", s'⟩ ∧ s'.Current (answer.toOption.or last) :=
      ⟨_, play_get_of_reaches p otherwise exchanges .status reaches s, current.settle answer⟩
    obtain ⟨⟨last', held, same⟩, others⟩ := ih current' (exchanges.drop 1)
    have after := printedAfter_of_current current'
    have shift : ∀ k, exchangeAt otherwise (exchanges.drop 1) k = seen (k + 1) := by
      intro k
      show ((exchanges.drop 1).drop k).headD otherwise = (exchanges.drop (k + 1)).headD otherwise
      rw [List.drop_drop, Nat.add_comm]
    have viewed : (answer.toOption.or last).map viewOf = (views 0).or (last.map viewOf) := by
      show _ = (answer.toOption.map viewOf).or _
      cases answer.toOption <;> rfl
    simp only [shift] at same others
    constructor
    · refine ⟨last', ?_, ?_⟩
      · rw [p.play_watch, Dialogue.play_bind, got, Dialogue.play_print]
        simp only [Transcript.andThen, after, List.length_singleton]
        exact held
      · rw [same, lastView_succ, viewed]
    · have first := announced_of_current current'
      rw [sights_watch p otherwise ms polls got, sights_get_of_reaches p otherwise reaches, after,
        first]
      rw [List.length_singleton, others, List.range_succ_eq_map, List.flatMap_cons,
        List.flatMap_map, viewed]
      simp only [news_succ]
      rfl

end Watch

/-- How the last view is printed. -/
def finalText (view : StatusView) : String :=
  view.display ++ "\n"

/-- So many polls, each with the change that it brings printed right behind its request, and the
last view again. -/
def pollSights (get : Outgoing) (polls : Nat) (seen : Nat → Exchange) : List Sight :=
  let views := fun k => viewOf? get (seen k)
  ((List.range polls).flatMap fun k => .sent get (seen k) :: announced (news none views k)) ++
    (lastView none views polls).toList.map fun view => .printed (finalText view)

/-- What is seen of a watch of so many polls, by the exchanges that they get. -/
structure PrintsChanges (get : Outgoing) (polls : Nat) (seen : Nat → Exchange)
    (t : Transcript Ending) (sights : List Sight) : Prop where
  /-- A poll is one request, and there are no others. -/
  requests : t.requests = (List.range polls).map fun k => (get, seen k)
  /-- Of the views of the polls that succeed, the changes are printed, and the last one again. -/
  printed :
    let views := (List.range polls).filterMap fun k => viewOf? get (seen k)
    t.printed = String.join ((changes none views).map changeText) ++
      views.getLast?.elim "" finalText
  /-- No view is printed twice in a row. -/
  apart :
    (changes none ((List.range polls).filterMap fun k => viewOf? get (seen k))).IsChain (· ≠ ·)
  order : sights = pollSights get polls seen
  /-- Before the first poll that succeeds there are only requests. -/
  silent : ∀ k < polls, (∀ j < k, viewOf? get (seen j) = none) →
    ((List.range (k + 1)).map fun j => Sight.sent get (seen j)) <+: sights

section Order

variable (get : Outgoing) (polls : Nat) (seen : Nat → Exchange)

private theorem requests_pollSights :
    (pollSights get polls seen).filterMap Sight.request? =
      (List.range polls).map fun k => (get, seen k) := by
  have unsent : ∀ (text : StatusView → String) (view : Option StatusView),
      (view.toList.map fun view => Sight.printed (text view)).filterMap Sight.request? = [] := by
    intro text view
    cases view <;> rfl
  rw [pollSights, List.filterMap_append, unsent, List.append_nil, List.filterMap_flatMap,
    List.map_eq_flatMap]
  refine congrArg (List.flatMap · _) (funext fun k => ?_)
  rw [List.filterMap_cons, announced, unsent]
  rfl

private theorem texts_pollSights :
    let views := (List.range polls).filterMap fun k => viewOf? get (seen k)
    (pollSights get polls seen).filterMap Sight.text? =
      (changes none views).map changeText ++ views.getLast?.toList.map finalText := by
  intro views
  have texts : ∀ (text : StatusView → String) (view : Option StatusView),
      (view.toList.map fun view => Sight.printed (text view)).filterMap Sight.text? =
        view.toList.map text := by
    intro text view
    cases view <;> rfl
  have last : lastView none (fun k => viewOf? get (seen k)) polls = views.getLast? := Option.or_none
  rw [pollSights, List.filterMap_append, texts, last, List.filterMap_flatMap, ← filterMap_news,
    List.filterMap_eq_flatMap_toList, List.map_flatMap]
  refine congrArg (fun f => List.flatMap f _ ++ _) (funext fun k => ?_)
  exact texts changeText _

variable {polls}

private theorem prefix_pollSights {k : Nat} (before : k < polls)
    (fails : ∀ j < k, viewOf? get (seen j) = none) :
    ((List.range (k + 1)).map fun j => Sight.sent get (seen j)) <+:
      pollSights get polls seen := by
  obtain ⟨more, rfl⟩ := Nat.exists_eq_add_of_lt before
  have quiet : ((List.range k).flatMap fun j =>
      .sent get (seen j) :: announced (news none (fun k => viewOf? get (seen k)) j)) =
        (List.range k).map fun j => Sight.sent get (seen j) := by
    rw [List.map_eq_flatMap]
    refine List.flatMap_congr fun j mem => ?_
    rw [news, fails j (List.mem_range.mp mem)]
    rfl
  rw [pollSights, List.range_succ, List.map_append, Nat.add_assoc, List.range_add,
    List.flatMap_append, quiet, List.append_assoc, List.prefix_append_right_inj,
    List.range_succ_eq_map, List.map_cons, List.map_cons, List.flatMap_cons]
  exact List.cons_prefix_cons.mpr ⟨rfl, List.nil_prefix⟩

end Order

private theorem sights_showAndConclude {s : Session} {last : Option Json} (current : s.Current last)
    (otherwise : Exchange) (exchanges : List Exchange) :
    (showAndConclude s).sights otherwise exchanges =
      (last.map viewOf).toList.map fun view => .printed (finalText view) := by
  obtain ⟨status, view, -⟩ := current.shows
  rw [showAndConclude, status, view]
  cases last <;> rfl

private theorem sights_watchAndConclude (p : Player) {url : Url}
    (reaches : Reaches p.base (p.endpoints.path .status) url) (ms polls : Nat)
    (otherwise : Exchange) (exchanges : List Exchange) :
    ((p.watch ms polls .fresh none).bind showAndConclude).sights otherwise exchanges =
      pollSights ⟨url, .get p.endpoints.status⟩ polls (exchangeAt otherwise exchanges) := by
  obtain ⟨⟨last, current, same⟩, polled⟩ :=
    watch_seen p otherwise reaches ms polls Session.current_fresh exchanges
  rw [Option.map_none] at current same polled
  rw [Dialogue.sights_bind, polled, sights_showAndConclude current, same]
  rfl

/-- A watch prints the changes, poll by poll, and the last view once more. -/
theorem watch_prints_changes {arguments : List String} {i : Invocation}
    (accepted : parse arguments = .run i) {intervalMs : Option Nat} {count : Nat}
    (watches : i.action = .watch intervalMs (some count)) (period : intervalMs ≠ some 0)
    {files : Settings.FileReader} {env : Settings.Environment} {settings : Settings}
    (loaded : settingsOf i files env = .ok settings) {base : Url}
    (based : Http.readBase settings.baseUrl = .ok base) {url : Url}
    (reaches : Reaches base settings.endpoints.status url) (otherwise : Exchange)
    (exchanges : List Exchange) :
    PrintsChanges ⟨url, .get settings.endpoints.status⟩ (max count 1)
      (exchangeAt otherwise exchanges) ((run arguments files env).play otherwise exchanges)
      ((run arguments files env).sights otherwise exchanges) := by
  let p : Player := ⟨base, settings.timeout, settings.endpoints⟩
  have performed :
      run arguments files env = perform p settings (.watch intervalMs (some count)) := by
    simp only [run, accepted, loaded, invoke, based, watches]
    rfl
  rw [performed, perform_watch p settings (period_ne_zero period settings)]
  have order := sights_watchAndConclude p reaches (intervalMs.getD settings.pollInterval)
    (pollCount (some count)) otherwise exchanges
  constructor
  case requests =>
    rw [Dialogue.requests_play, order]
    exact requests_pollSights ..
  case printed =>
    intro views
    rw [Dialogue.printed_play, order, texts_pollSights, String.join_append]
    refine congrArg _ ?_
    show String.join (views.getLast?.toList.map finalText) = _
    cases views.getLast? with
    | none => rfl
    | some view => exact String.empty_append
  case apart => exact isChain_changes none _
  case order => exact order
  case silent =>
    intro k before fails
    rw [order]
    exact prefix_pollSights _ _ before fails

/-- A player with the standard settings is silent, loops, refuses, says in other words that it
loops, and then does not loop: two views are printed, and the second one again. -/
theorem view_in_other_words_is_no_change :
    let files : Settings.FileReader := fun _ => .error .notFound
    let env : Settings.Environment := fun _ => none
    let under (folders : List (List Char)) (leaf : List Char) : Url :=
      ⟨"http".toList, some ⟨none, .ipv4 2130706433, none⟩, .rooted ⟨folders, leaf⟩, none, none⟩
    let base := under ["json".toList] []
    let url := under ["json".toList, "showfile".toList] "status".toList
    let told (document : String) : Exchange :=
      .answered ⟨200, Text.utf8Bytes document.toList, true⟩
    let exchanges := [told "\x7b\"loop\":\"1\"\x7d", .answered ⟨503, [], true⟩,
      told "\x7b\"loop\":\"1\",\"status\":\"undefined\"\x7d", told "\x7b\x7d"]
    let watch := run ["watch", "--count", "5", "--interval-ms=1"] files env
    Reaches base Endpoints.standard.status url ∧
    PrintsChanges ⟨url, .get Endpoints.standard.status⟩ 5
      (exchangeAt .closed (.silent :: exchanges)) (watch.play .closed (.silent :: exchanges))
      (watch.sights .closed (.silent :: exchanges)) ∧
    (watch.play .closed (.silent :: exchanges)).printed =
      "Show     None\nStatus   undefined\nLooping  Yes\n[No loop]\n\n" ++
        ("Show     None\nStatus   undefined\nLooping  No\n[Looping]\n\n" ++
          "Show     None\nStatus   undefined\nLooping  No\n[Looping]\n") := by
  intro files env under base url told exchanges watch
  have accepted : parse ["watch", "--count", "5", "--interval-ms=1"] =
      .run ⟨none, none, none, .watch (some 1) (some 5)⟩ := by decide +kernel
  have loaded : settingsOf ⟨none, none, none, .watch (some 1) (some 5)⟩ files env =
      .ok Settings.standard := rfl
  have based : Http.readBase Settings.standard.baseUrl = .ok base :=
    eq_ok_of_toOption (by decide +kernel)
  have reaches : Reaches base Endpoints.standard.status url :=
    ⟨eq_ok_of_toOption (by decide +kernel), by decide +kernel⟩
  exact ⟨reaches, watch_prints_changes accepted rfl (by decide) loaded based reaches .closed
    (.silent :: exchanges), by decide +kernel⟩

end CommandLine
end ShowRemote
