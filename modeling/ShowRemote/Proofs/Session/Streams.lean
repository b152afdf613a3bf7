import ShowRemote.Proofs.Session.Conservation
import ShowRemote.Proofs.Session.Effects

/-!
The two streams of a run, and each of them by itself. To the stream of the directory belong the
calls that load it and their gets, to that of the status all other calls, with their posts and gets.
When the calls of one stream and the answers to them are left out of a run, what is left is a run
again, with calls and requests of its own numbering. It keeps the journal that the whole run has of
the other stream (`Journal.stream`), and shows the same of it (`follows_run`).

Main statement: `streams_do_not_interfere`.
-/

set_option autoImplicit false

namespace ShowRemote

open Journal (Entry)
open Show (Intent)

section Rank

variable {α : Type*} {p : α → Bool} {l : List α} {i j : Nat} {a b : α}

private theorem countP_take_lt (le : i ≤ j) (found : l[j]? = some a) (counted : p a) :
    (l.take i).countP p < (l.take (j + 1)).countP p := by
  have last : (l.take (j + 1)).countP p = (l.take j).countP p + 1 := by
    rw [List.take_add_one, found, List.countP_append]
    simp [counted]
  have front : (l.take i).countP p ≤ (l.take j).countP p :=
    (List.take_prefix_take_left le).sublist.countP_le
  omega

private theorem eq_of_countP_take (foundA : l[i]? = some a) (countedA : p a)
    (foundB : l[j]? = some b) (countedB : p b)
    (same : (l.take (i + 1)).countP p = (l.take (j + 1)).countP p) : i = j := by
  rcases Nat.lt_trichotomy i j with lt | eq | gt
  · have := countP_take_lt (i := i + 1) lt foundB countedB
    omega
  · exact eq
  · have := countP_take_lt (i := j + 1) gt foundA countedA
    omega

end Rank

/-- The stream of a request. A post goes ahead of a get of the status. -/
def Errand.kind : Errand → Kind
  | .get kind _ => kind
  | .post _ => .status

def Slip.isOf (kind : Kind) (slip : Slip) : Bool :=
  slip.errand.kind = kind

def Call.isOf (kind : Kind) (c : Call) : Bool :=
  c.kind = kind

private theorem Call.kind_of_intent {c : Call} {next : Show.LoopFlag} {intent : Intent}
    (carried : c.intent next = some intent) : c.kind = .status := by
  cases c with
  | refresh | command | toggleLoop => rfl
  | loadDirectory => cases carried

namespace Session

variable {x y z : Session} {kind other : Kind}

private theorem Agrees.refl (x : Session) (kind : Kind) : x.Agrees x kind :=
  agrees_of_same rfl rfl rfl rfl rfl rfl kind

private theorem Agrees.symm (agrees : x.Agrees y kind) : y.Agrees x kind := by
  cases kind with
  | status =>
    obtain ⟨status, view, player, loopNext, applied⟩ := agrees
    exact ⟨status.symm, view.symm, player.symm, loopNext.symm, applied.symm⟩
  | directory =>
    obtain ⟨directory, options, applied⟩ := agrees
    exact ⟨directory.symm, options.symm, applied.symm⟩

private theorem Agrees.trans (agrees : x.Agrees y kind) (agrees' : y.Agrees z kind) :
    x.Agrees z kind := by
  cases kind with
  | status =>
    obtain ⟨status, view, player, loopNext, applied⟩ := agrees
    obtain ⟨status', view', player', loopNext', applied'⟩ := agrees'
    exact ⟨status'.trans status, view'.trans view, player'.trans player,
      loopNext'.trans loopNext, applied'.trans applied⟩
  | directory =>
    obtain ⟨directory, options, applied⟩ := agrees
    obtain ⟨directory', options', applied'⟩ := agrees'
    exact ⟨directory'.trans directory, options'.trans options, applied'.trans applied⟩

private theorem Agrees.applied_eq (agrees : x.Agrees y kind) : y.applied kind = x.applied kind := by
  cases kind with
  | status => exact agrees.2.2.2.2
  | directory => exact agrees.2.2

private theorem agrees_issue (x : Session) (asked kind : Kind) : x.Agrees (x.issue asked) kind := by
  cases asked <;> exact agrees_of_same rfl rfl rfl rfl rfl rfl kind

private theorem agrees_fail (x : Session) (record : ErrorRecord) (kind : Kind) :
    x.Agrees (x.fail record) kind :=
  agrees_of_same rfl rfl rfl rfl rfl rfl kind

private theorem agrees_posted (x : Session) (intent : String) (answer : Answer) (kind : Kind) :
    x.Agrees (x.posted intent answer) kind := by
  cases answer with
  | ok document => exact .refl x kind
  | error fault => exact x.agrees_fail _ kind

private theorem agrees_settle_of_ne (x : Session) (ne : kind ≠ other) (rank : Nat)
    (answer : Answer) :
    x.Agrees (x.settle other rank answer).session kind := by
  rcases x.settle_cases other rank answer with
    ⟨failure, -, hs⟩ | ⟨document, -, -, hs⟩ | ⟨document, -, -, hs⟩
  · rw [hs]
    exact x.agrees_fail _ kind
  · rw [hs]
    exact .refl x kind
  · rw [hs]
    exact x.agrees_adopt_of_ne ne rank document

private theorem Agrees.settle (agrees : x.Agrees y kind) (rank : Nat) (answer : Answer) :
    (x.settle kind rank answer).session.Agrees (y.settle kind rank answer).session kind ∧
      (y.settle kind rank answer).outcome = (x.settle kind rank answer).outcome := by
  have applied := agrees.applied_eq
  unfold Session.settle
  rw [applied]
  cases kind.verdict answer with
  | error failure =>
    exact ⟨((x.agrees_fail _ kind).symm.trans agrees).trans (y.agrees_fail _ kind), rfl⟩
  | ok document =>
    dsimp only
    by_cases late : rank ≤ x.applied kind
    · rw [if_pos late, if_pos late]
      exact ⟨agrees, rfl⟩
    · rw [if_neg late, if_neg late]
      refine ⟨?_, rfl⟩
      cases kind with
      | status => exact ⟨rfl, rfl, rfl, rfl, rfl⟩
      | directory => exact ⟨rfl, rfl, rfl⟩

end Session

namespace Journal

/-- The number of a request among those of its stream. -/
def requestIn (j : Journal) (kind : Kind) (number : Nat) : Nat :=
  (j.slips.take number).countP (Slip.isOf kind)

/-- The number of a call among those of its stream. -/
def callIn (j : Journal) (kind : Kind) (call : Nat) : Nat :=
  (j.calls.take call).countP (Call.isOf kind)

def renumber (j : Journal) (kind : Kind) (e : Entry) : Entry :=
  { e with slip := ⟨j.requestIn kind e.slip.number, j.callIn kind e.slip.call, e.slip.errand⟩ }

def endsIn (j : Journal) (kind : Kind) (end_ : Nat × Outcome) : Bool :=
  (j.calls[end_.1 - 1]?.map Call.kind) = some kind

/-- What a journal has of one stream, numbered as if there were no other. -/
def stream (j : Journal) (kind : Kind) : Journal :=
  { calls := j.calls.filter (Call.isOf kind)
    entries := (j.entries.filter fun e => e.slip.isOf kind).map (j.renumber kind)
    ended := (j.ended.filter (j.endsIn kind)).map fun end_ => (j.callIn kind end_.1, end_.2) }

section

variable {endpoints : Endpoints} {j : Journal} {e : Entry} {kind : Kind}

private theorem Numbered.number_pos (numbered : j.Numbered) (mem : e ∈ j.entries) :
    1 ≤ e.slip.number ∧ e.slip.number ≤ j.entries.length :=
  numbered.exists_number_iff.mp ⟨e, mem, rfl⟩

private theorem Numbered.slips_getElem? (numbered : j.Numbered) (mem : e ∈ j.entries) :
    j.slips[e.slip.number - 1]? = some e.slip := by
  obtain ⟨i, hi, rfl⟩ := List.getElem_of_mem mem
  have number : j.entries[i].slip.number = i + 1 := by
    have at_ := congrArg (fun l => l[i]?) numbered.numbers
    simp only [List.getElem?_map, List.getElem?_eq_getElem hi, Option.map_some] at at_
    rw [List.getElem?_range' hi] at at_
    have := Option.some.inj at_
    omega
  rw [number, Nat.add_sub_cancel, slips, List.getElem?_map, List.getElem?_eq_getElem hi]
  rfl

private theorem Numbered.eq_of_requestIn (numbered : j.Numbered) {e' : Entry} (mem : e ∈ j.entries)
    (of : e.slip.isOf kind) (mem' : e' ∈ j.entries) (of' : e'.slip.isOf kind)
    (same : j.requestIn kind e.slip.number = j.requestIn kind e'.slip.number) : e = e' := by
  have bound := numbered.number_pos mem
  have bound' := numbered.number_pos mem'
  apply numbered.eq_of_number mem mem'
  have index := eq_of_countP_take (numbered.slips_getElem? mem) of (numbered.slips_getElem? mem')
    of' (by
      rw [Nat.sub_add_cancel bound.1, Nat.sub_add_cancel bound'.1]
      exact same)
  omega

private theorem length_stream_entries (j : Journal) (kind : Kind) :
    (j.stream kind).entries.length = j.slips.countP (Slip.isOf kind) := by
  rw [stream, List.length_map, slips, List.countP_map, List.countP_eq_length_filter]
  rfl

private theorem length_stream_calls (j : Journal) (kind : Kind) :
    (j.stream kind).calls.length = j.calls.countP (Call.isOf kind) :=
  List.countP_eq_length_filter.symm

private theorem Coursing.stream_call (coursing : j.Coursing endpoints) (c : Call) (kind : Kind) :
    (Journal.mk (j.calls ++ [c]) j.entries j.ended).stream kind =
      { j.stream kind with
        calls := (j.stream kind).calls ++ if c.isOf kind then [c] else [] } := by
  have callIn_eq : ∀ i < j.calls.length,
      (Journal.mk (j.calls ++ [c]) j.entries j.ended).callIn kind (i + 1) =
        j.callIn kind (i + 1) := by
    intro i hi
    rw [callIn, callIn, List.take_append_of_le_length (by omega)]
  have calls : (j.calls ++ [c]).filter (Call.isOf kind) =
      j.calls.filter (Call.isOf kind) ++ if c.isOf kind then [c] else [] := by
    rw [List.filter_append]
    by_cases of : c.isOf kind <;> simp [of]
  have entries : ((j.entries.filter fun e => e.slip.isOf kind).map
      ((Journal.mk (j.calls ++ [c]) j.entries j.ended).renumber kind)) =
        (j.entries.filter fun e => e.slip.isOf kind).map (j.renumber kind) := by
    apply List.map_congr_left
    intro e mem
    obtain ⟨i, hi, own⟩ := coursing.sent_for e (List.mem_filter.mp mem).1
    rw [renumber, renumber, own, callIn_eq i hi]
    rfl
  have ends : j.ended.filter ((Journal.mk (j.calls ++ [c]) j.entries j.ended).endsIn kind) =
      j.ended.filter (j.endsIn kind) := by
    apply List.filter_congr
    intro end_ mem
    obtain ⟨i, hi, own⟩ := coursing.ended_of end_ mem
    rw [endsIn, endsIn, List.getElem?_append_left (by omega)]
  have ended : (j.ended.filter (j.endsIn kind)).map (fun end_ =>
      ((Journal.mk (j.calls ++ [c]) j.entries j.ended).callIn kind end_.1, end_.2)) =
        (j.ended.filter (j.endsIn kind)).map fun end_ => (j.callIn kind end_.1, end_.2) := by
    apply List.map_congr_left
    intro end_ mem
    obtain ⟨i, hi, own⟩ := coursing.ended_of end_ (List.mem_filter.mp mem).1
    rw [own, callIn_eq i hi]
  simp only [stream, calls, entries, ends, ended]

private theorem Numbered.stream_send (numbered : j.Numbered)
    (number : e.slip.number = j.entries.length + 1) (kind : Kind) :
    (Journal.mk j.calls (j.entries ++ [e]) j.ended).stream kind =
      { j.stream kind with
        entries := (j.stream kind).entries ++
          if e.slip.isOf kind then
            [{ e with slip := ⟨(j.stream kind).entries.length + 1, j.callIn kind e.slip.call,
              e.slip.errand⟩ }]
          else [] } := by
  have old : (j.entries.filter fun e => e.slip.isOf kind).map
      ((Journal.mk j.calls (j.entries ++ [e]) j.ended).renumber kind) =
        (j.entries.filter fun e => e.slip.isOf kind).map (j.renumber kind) := by
    apply List.map_congr_left
    intro other mem
    have bound := numbered.number_pos (List.mem_filter.mp mem).1
    have length : j.slips.length = j.entries.length := List.length_map ..
    rw [renumber, renumber, requestIn, requestIn, slips, List.map_append,
      List.take_append_of_le_length (by rw [List.length_map]; exact bound.2)]
    rfl
  have new : e.slip.isOf kind →
      (Journal.mk j.calls (j.entries ++ [e]) j.ended).renumber kind e =
        { e with slip := ⟨(j.stream kind).entries.length + 1, j.callIn kind e.slip.call,
          e.slip.errand⟩ } := by
    intro of
    have whole : (Journal.mk j.calls (j.entries ++ [e]) j.ended).slips.take
        (j.entries.length + 1) = j.slips ++ [e.slip] := by
      rw [slips, List.map_append]
      exact List.take_of_length_le (by simp)
    rw [renumber, requestIn, number, whole, List.countP_append, length_stream_entries]
    simp [of, callIn]
  have ended : (Journal.mk j.calls (j.entries ++ [e]) j.ended).endsIn kind = j.endsIn kind := rfl
  have callIn_eq : (Journal.mk j.calls (j.entries ++ [e]) j.ended).callIn kind =
      j.callIn kind := rfl
  simp only [stream, List.filter_append, List.map_append, old, ended, callIn_eq]
  by_cases of : e.slip.isOf kind
  · have added := new of
    simp [of, added, stream]
  · simp [of]

private theorem Numbered.stream_hear (numbered : j.Numbered) (mem : e ∈ j.entries) (answer : Answer)
    (kind : Kind) :
    (Journal.mk j.calls (j.entries.map (Entry.hear e.slip.number answer)) j.ended).stream kind =
      { j.stream kind with
        entries :=
          if e.slip.isOf kind then
            (j.stream kind).entries.map (Entry.hear (j.requestIn kind e.slip.number) answer)
          else (j.stream kind).entries } := by
  have slips_eq : (Journal.mk j.calls (j.entries.map (Entry.hear e.slip.number answer))
      j.ended).slips = j.slips := slips_hear j _ _
  have renumber_eq : (Journal.mk j.calls (j.entries.map (Entry.hear e.slip.number answer))
      j.ended).renumber kind = j.renumber kind := by
    funext other
    rw [renumber, renumber, requestIn, requestIn, slips_eq]
    rfl
  have filtered : (j.entries.map (Entry.hear e.slip.number answer)).filter
      (fun e => e.slip.isOf kind) =
        (j.entries.filter fun e => e.slip.isOf kind).map (Entry.hear e.slip.number answer) := by
    rw [List.filter_map]
    simp [Function.comp_def]
  have heard : ((j.entries.filter fun e => e.slip.isOf kind).map
      (Entry.hear e.slip.number answer)).map (j.renumber kind) =
        if e.slip.isOf kind then
          (j.stream kind).entries.map (Entry.hear (j.requestIn kind e.slip.number) answer)
        else (j.stream kind).entries := by
    rw [List.map_map]
    split
    case isTrue of =>
      rw [stream, List.map_map]
      apply List.map_congr_left
      intro other mem'
      obtain ⟨mem', of'⟩ := List.mem_filter.mp mem'
      rw [Function.comp_apply, Function.comp_apply]
      by_cases same : other = e
      · subst same
        by_cases isOpen : other.isOpen
        · rw [Entry.hear_of_open isOpen]
          exact (Entry.hear_of_open (e := j.renumber kind other) isOpen answer).symm
        · rw [Entry.hear_of_closed isOpen, Entry.hear_of_closed]
          exact isOpen
      · have number : other.slip.number ≠ e.slip.number :=
          fun number => same (numbered.eq_of_number mem' mem number)
        have number' : (j.renumber kind other).slip.number ≠ j.requestIn kind e.slip.number :=
          fun number => same (numbered.eq_of_requestIn mem' of' mem of number)
        rw [Entry.hear_of_ne number, Entry.hear_of_ne number']
    case isFalse other_stream =>
      apply List.map_congr_left
      intro other mem'
      obtain ⟨mem', of'⟩ := List.mem_filter.mp mem'
      rw [Function.comp_apply, Entry.hear_of_ne]
      intro number
      obtain rfl := numbered.eq_of_number mem' mem number
      exact other_stream of'
  have ended : (Journal.mk j.calls (j.entries.map (Entry.hear e.slip.number answer))
      j.ended).endsIn kind = j.endsIn kind := rfl
  have callIn_eq : (Journal.mk j.calls (j.entries.map (Entry.hear e.slip.number answer))
      j.ended).callIn kind = j.callIn kind := rfl
  simp only [stream, renumber_eq, filtered, ended, callIn_eq]
  rw [heard]
  rfl

private theorem stream_end (j : Journal) (end_ : Nat × Outcome) (kind : Kind) :
    (Journal.mk j.calls j.entries (j.ended ++ [end_])).stream kind =
      { j.stream kind with
        ended := (j.stream kind).ended ++
          if j.endsIn kind end_ then [(j.callIn kind end_.1, end_.2)] else [] } := by
  have ended : (Journal.mk j.calls j.entries (j.ended ++ [end_])).endsIn kind = j.endsIn kind := rfl
  have callIn_eq : (Journal.mk j.calls j.entries (j.ended ++ [end_])).callIn kind =
      j.callIn kind := rfl
  have renumber_eq : (Journal.mk j.calls j.entries (j.ended ++ [end_])).renumber kind =
      j.renumber kind := rfl
  simp only [stream, ended, callIn_eq, renumber_eq, List.filter_append, List.map_append]
  by_cases ends : j.endsIn kind end_ <;> simp [ends]

private theorem count_stream (j : Journal) (kind : Kind) :
    (j.stream kind).count kind = j.count kind := by
  have unranked : ∀ e : Entry, ¬ e.slip.isOf kind → e.slip.errand.rank? kind = none := by
    intro e other
    cases errand : e.slip.errand with
    | post intent => rfl
    | get asked rank =>
      have ne : asked ≠ kind := by simpa [Slip.isOf, errand, Errand.kind] using other
      simp [Errand.rank?, ne]
  rw [count, count, ranks, ranks, stream, List.filterMap_map, List.filterMap_filter]
  apply congrArg List.length
  apply List.filterMap_congr
  intro e mem
  by_cases of : e.slip.isOf kind
  · rw [if_pos of]
    rfl
  · rw [if_neg of, unranked e of]

private theorem stream_called (numbered : j.Numbered) (coursing : j.Coursing endpoints) {c : Call}
    (number : e.slip.number = j.entries.length + 1) (call : e.slip.call = j.calls.length + 1)
    (kind : Kind) (same : e.slip.isOf kind = c.isOf kind) :
    (Journal.mk (j.calls ++ [c]) (j.entries ++ [e]) j.ended).stream kind =
      if c.isOf kind then
        { j.stream kind with
          calls := (j.stream kind).calls ++ [c]
          entries := (j.stream kind).entries ++
            [{ e with slip := ⟨(j.stream kind).entries.length + 1,
              (j.stream kind).calls.length + 1, e.slip.errand⟩ }] }
      else j.stream kind := by
  have numbered' : (Journal.mk (j.calls ++ [c]) j.entries j.ended).Numbered := numbered.of_slips rfl
  have sent := numbered'.stream_send number kind
  rw [coursing.stream_call] at sent
  rw [sent, same]
  by_cases of : c.isOf kind
  · have own : (Journal.mk (j.calls ++ [c]) j.entries j.ended).callIn kind e.slip.call =
        (j.stream kind).calls.length + 1 := by
      rw [callIn, call, length_stream_calls, List.take_of_length_le (by simp)]
      simp [of]
    simp only [of, if_true, own]
  · simp [of]

private theorem stream_told (numbered : j.Numbered) (coursing : j.Coursing endpoints)
    (mem : e ∈ j.entries) {got : Kind} {rank : Nat} (errand : e.slip.errand = .get got rank)
    (answer : Answer) (outcome : Outcome) (kind : Kind) :
    (Journal.mk j.calls (j.entries.map (Entry.hear e.slip.number answer))
        (j.ended ++ [(e.slip.call, outcome)])).stream kind =
      if got = kind then
        { j.stream kind with
          entries := (j.stream kind).entries.map
            (Entry.hear (j.requestIn kind e.slip.number) answer)
          ended := (j.stream kind).ended ++ [(j.callIn kind e.slip.call, outcome)] }
      else j.stream kind := by
  have heard := numbered.stream_hear mem answer kind
  have ended := stream_end (Journal.mk j.calls (j.entries.map (Entry.hear e.slip.number answer))
    j.ended) (e.slip.call, outcome) kind
  have of : e.slip.isOf kind = decide (got = kind) := by simp [Slip.isOf, errand, Errand.kind]
  have ends : (Journal.mk j.calls (j.entries.map (Entry.hear e.slip.number answer))
      j.ended).endsIn kind (e.slip.call, outcome) = decide (got = kind) := by
    obtain ⟨c, made, rfl⟩ := coursing.kind_of_get mem errand
    simp [endsIn, made]
  have callIn_eq : (Journal.mk j.calls (j.entries.map (Entry.hear e.slip.number answer))
      j.ended).callIn kind = j.callIn kind := rfl
  rw [heard] at ended
  refine ended.trans ?_
  rw [ends, of, callIn_eq]
  by_cases same : got = kind <;> simp [same]

private theorem stream_confirm (numbered : j.Numbered) (mem : e ∈ j.entries) {intent : String}
    (errand : e.slip.errand = .post intent) (answer : Answer) (endpoints : Endpoints)
    (kind : Kind) :
    (Journal.mk j.calls
        (j.entries.map (Entry.hear e.slip.number answer) ++
          [j.nextGet endpoints e.slip.call .status]) j.ended).stream kind =
      if kind = .status then
        { j.stream kind with
          entries := (j.stream kind).entries.map
              (Entry.hear (j.requestIn kind e.slip.number) answer) ++
            [(j.stream kind).nextGet endpoints (j.callIn kind e.slip.call) .status] }
      else j.stream kind := by
  have heard := numbered.stream_hear mem answer kind
  have numbered' : (Journal.mk j.calls (j.entries.map (Entry.hear e.slip.number answer))
      j.ended).Numbered := numbered.of_slips (by simp)
  have sent := numbered'.stream_send (e := j.nextGet endpoints e.slip.call .status)
    (by simp [nextGet]) kind
  rw [heard] at sent
  refine sent.trans ?_
  by_cases same : kind = .status
  · subst same
    have of : e.slip.isOf .status := by simp [Slip.isOf, errand, Errand.kind]
    have of' : (j.nextGet endpoints e.slip.call .status).slip.isOf .status := rfl
    rw [if_pos of, if_pos of', if_pos rfl, List.length_map]
    simp only [nextGet, count_stream]
    rfl
  · have other : ¬ e.slip.isOf kind := by
      simpa [Slip.isOf, errand, Errand.kind] using Ne.symm same
    have other' : ¬ (j.nextGet endpoints e.slip.call .status).slip.isOf kind := by
      simp [Slip.isOf, nextGet, Errand.kind, Ne.symm same]
    rw [if_neg other, if_neg other', if_neg same, List.append_nil]

private theorem renumber_mem (mem : e ∈ j.entries) (of : e.slip.isOf kind) :
    j.renumber kind e ∈ (j.stream kind).entries :=
  List.mem_map_of_mem (List.mem_filter.mpr ⟨mem, of⟩)

private theorem renumber_pending_iff (mem : e ∈ j.entries) (of : e.slip.isOf kind) :
    j.renumber kind e ∈ (j.stream kind).pending ↔ e ∈ j.pending := by
  rw [pending, pending, List.mem_filter, List.mem_filter]
  exact ⟨fun waits => ⟨mem, waits.2⟩, fun waits => ⟨renumber_mem mem of, waits.2⟩⟩

def bodies (j : Journal) : List Json :=
  j.entries.filterMap fun e =>
    match e.message with
    | .post _ body => some body
    | .get _ => none

private theorem Coursing.bodies_stream (coursing : j.Coursing endpoints) :
    (j.stream .status).bodies = j.bodies := by
  have of_post : ∀ e ∈ j.entries, ∀ path body, e.message = .post path body →
      e.slip.isOf .status := by
    intro e mem path body message
    have posts := coursing.isPost_of_message mem message
    cases errand : e.slip.errand with
    | get got rank => simp [Entry.isPost, errand] at posts
    | post intent => simp [Slip.isOf, errand, Errand.kind]
  rw [bodies, bodies, stream, List.filterMap_map, List.filterMap_filter]
  apply List.filterMap_congr
  intro e mem
  by_cases of : e.slip.isOf .status
  · rw [if_pos of]
    rfl
  · rw [if_neg of]
    cases message : e.message with
    | get path => rfl
    | post path body => exact (of (of_post e mem path body message)).elim

private theorem stream_calls_getElem? {i : Nat} {c : Call} (made : j.calls[i]? = some c)
    (of : c.kind = kind) :
    (j.stream kind).calls[j.callIn kind (i + 1) - 1]? = some c := by
  obtain ⟨hi, rfl⟩ := List.getElem?_eq_some_iff.mp made
  have split : j.calls = j.calls.take i ++ j.calls[i] :: j.calls.drop (i + 1) := by
    rw [List.getElem_cons_drop, List.take_append_drop]
  have counted : (j.calls[i]).isOf kind := by simpa [Call.isOf] using of
  have place : j.callIn kind (i + 1) = ((j.calls.take i).filter (Call.isOf kind)).length + 1 := by
    rw [callIn, List.take_add_one, made, List.countP_append, ← List.countP_eq_length_filter]
    simp [counted]
  have calls : (j.stream kind).calls = (j.calls.take i).filter (Call.isOf kind) ++
      j.calls[i] :: (j.calls.drop (i + 1)).filter (Call.isOf kind) := by
    calc (j.stream kind).calls
        = (j.calls.take i ++ j.calls[i] :: j.calls.drop (i + 1)).filter (Call.isOf kind) := by
          rw [← split]
          rfl
      _ = _ := by rw [List.filter_append, List.filter_cons_of_pos counted]
  rw [calls, place, Nat.add_sub_cancel]
  simp

private theorem Coursing.outcomesOf_stream (coursing : j.Coursing endpoints) {i : Nat} {c : Call}
    (made : j.calls[i]? = some c) (of : c.kind = kind) :
    (j.stream kind).outcomesOf (j.callIn kind (i + 1)) = j.outcomesOf (i + 1) := by
  have own : ∀ end_ ∈ j.ended,
      (decide (j.callIn kind end_.1 = j.callIn kind (i + 1)) && j.endsIn kind end_) =
        decide (end_.1 = i + 1) := by
    intro end_ mem
    obtain ⟨k, hk, call⟩ := coursing.ended_of end_ mem
    have made' := List.getElem?_eq_getElem hk
    by_cases same : end_.1 = i + 1
    · have ends : j.endsIn kind end_ := by simp [endsIn, same, made, of]
      simp [same, ends]
    · have apart : ¬ (j.callIn kind end_.1 = j.callIn kind (i + 1) ∧ j.endsIn kind end_) := by
        rintro ⟨number, ends⟩
        have of' : j.calls[k].isOf kind := by
          simpa [endsIn, call, made', Call.isOf] using ends
        have counted : c.isOf kind := by simpa [Call.isOf] using of
        rw [call] at number
        have index := eq_of_countP_take made' of' made counted number
        omega
      simp only [same, decide_false]
      simpa using apart
  rw [outcomesOf, outcomesOf, stream, List.filter_map, List.map_map, List.filter_filter]
  apply congrArg
  apply List.filter_congr
  exact own

/-- A step as a stream by itself has it. Calls of the other stream and the answers to their requests
are left out, and the requests that are answered have the numbers of the stream. -/
def streamStep? (j : Journal) (kind : Kind) : Step → Option Step
  | .call c => if c.isOf kind then some (.call c) else none
  | .answer number answer =>
    match j.slips.find? fun slip => slip.number = number with
    | none => some (.answer number answer)
    | some slip =>
      if slip.isOf kind then some (.answer (j.requestIn kind number) answer) else none
  | s => some s

private theorem Numbered.streamStep?_answer (numbered : j.Numbered) (mem : e ∈ j.entries)
    (answer : Answer) (kind : Kind) :
    j.streamStep? kind (.answer e.slip.number answer) =
      if e.slip.isOf kind then some (.answer (j.requestIn kind e.slip.number) answer)
      else none := by
  cases found : j.slips.find? fun slip => slip.number = e.slip.number with
  | none =>
    have absent := List.find?_eq_none.mp found e.slip (mem_slips mem)
    simp at absent
  | some slip =>
    obtain ⟨other, mem', rfl⟩ := exists_of_mem_slips (List.mem_of_find?_eq_some found)
    obtain rfl := numbered.eq_of_number mem' mem (by simpa using List.find?_some found)
    simp only [streamStep?, found]

end
end Journal

namespace History

def streamSteps (h : History) (kind : Kind) : List Step → List Step
  | [] => []
  | s :: steps => (h.journal.streamStep? kind s).toList ++ (h.step s).streamSteps kind steps

private theorem streamSteps_append (h : History) (kind : Kind) (front back : List Step) :
    h.streamSteps kind (front ++ back) =
      h.streamSteps kind front ++ (h.run front).streamSteps kind back := by
  induction front generalizing h with
  | nil => rfl
  | cons s front ih =>
    simp only [List.cons_append, streamSteps, ih, List.append_assoc]
    rfl

/-- A history that has of itself what another one has of a stream, and shows the same of it. -/
structure Follows (kind : Kind) (h h' : History) : Prop where
  journal : h'.journal = h.journal.stream kind
  agrees : h.session.Agrees h'.session kind

namespace Follows

variable {endpoints : Endpoints} {h h' : History} {kind : Kind}

private theorem call (follows : Follows kind h h') (kept : h.Kept endpoints)
    (kept' : h'.Kept endpoints) (numbered : h.journal.Numbered)
    (coursing : h.journal.Coursing endpoints) (c : Call) :
    Follows kind (h.step (.call c)) (h'.run (h.journal.streamStep? kind (.call c)).toList) := by
  have turn := (kept.step (.call c)).turn
  have turn' := (kept'.step (.call c)).turn
  rw [follows.journal] at turn'
  rcases c.asks_or_posts h.session.loopNext with ⟨asked, rfl⟩ | ⟨intent, carried⟩
  · obtain ⟨session, journal⟩ := Journal.turn_ask turn
    obtain ⟨session', journal'⟩ := Journal.turn_ask turn'
    have of : asked.call.isOf kind = decide (asked = kind) := by simp [Call.isOf]
    have stream := Journal.stream_called numbered coursing
      (e := h.journal.nextGet endpoints (h.journal.calls.length + 1) asked) (c := asked.call)
      rfl rfl kind (by rw [of]; rfl)
    by_cases same : asked = kind
    · subst same
      have own : asked.call.isOf asked := by simp [of]
      simp only [Journal.streamStep?, own, if_true, Option.toList_some]
      constructor
      · show (h'.step _).journal = _
        rw [journal', journal, stream, if_pos own]
        simp only [Journal.nextGet, Journal.count_stream]
      · show Session.Agrees _ (h'.step _).session _
        rw [session, session']
        exact ((h.session.agrees_issue asked asked).symm.trans follows.agrees).trans
          (h'.session.agrees_issue asked asked)
    · have other : ¬ asked.call.isOf kind := by simp [of, same]
      simp only [Journal.streamStep?, other]
      constructor
      · rw [journal, stream, if_neg other]
        exact follows.journal
      · rw [session]
        exact (h.session.agrees_issue asked kind).symm.trans follows.agrees
  · obtain ⟨session, journal⟩ := Journal.turn_post carried turn
    have of : c.isOf kind = decide (.status = kind) := by
      rw [Call.isOf, Call.kind_of_intent carried]
    have stream := Journal.stream_called numbered coursing
      (e := h.journal.nextPost endpoints (h.journal.calls.length + 1) intent) (c := c)
      rfl rfl kind (by rw [of]; rfl)
    by_cases same : .status = kind
    · subst same
      -- A toggle sends the flag that is shown, and that is the same.
      rw [← follows.agrees.2.2.2.1] at carried
      obtain ⟨session', journal'⟩ := Journal.turn_post carried turn'
      have own : c.isOf .status := by simp [of]
      simp only [Journal.streamStep?, own, if_true, Option.toList_some]
      constructor
      · show (h'.step _).journal = _
        rw [journal', journal, stream, if_pos own]
        rfl
      · show Session.Agrees _ (h'.step _).session _
        rw [session, session']
        exact follows.agrees
    · have other : ¬ c.isOf kind := by simp [of, same]
      simp only [Journal.streamStep?, other]
      constructor
      · rw [journal, stream, if_neg other]
        exact follows.journal
      · rw [session]
        exact follows.agrees

private theorem answer (follows : Follows kind h h') (kept : h.Kept endpoints)
    (kept' : h'.Kept endpoints) (numbered : h.journal.Numbered) (numbered' : h'.journal.Numbered)
    (coursing : h.journal.Coursing endpoints) {e : Entry} (waits : e ∈ h.journal.pending)
    (answer : Answer) :
    Follows kind (h.step (.answer e.slip.number answer))
      (h'.run (h.journal.streamStep? kind (.answer e.slip.number answer)).toList) := by
  have mem := Journal.mem_of_mem_pending waits
  have turn := (kept.step (.answer e.slip.number answer)).turn
  have turn' := (kept'.step (.answer (h.journal.requestIn kind e.slip.number) answer)).turn
  rw [follows.journal] at turn' numbered'
  rw [numbered.streamStep?_answer mem]
  cases errand : e.slip.errand with
  | get got rank =>
    have of : e.slip.isOf kind = decide (got = kind) := by simp [Slip.isOf, errand, Errand.kind]
    obtain ⟨session, journal⟩ := numbered.turn_get waits rfl errand turn
    have stream := Journal.stream_told numbered coursing mem errand answer
      (h.session.settle got rank answer).outcome kind
    by_cases same : got = kind
    · subst same
      have own : e.slip.isOf got := by simp [of]
      obtain ⟨session', journal'⟩ := numbered'.turn_get
        ((Journal.renumber_pending_iff mem own).mpr waits) rfl errand turn'
      obtain ⟨agrees, outcome⟩ := follows.agrees.settle rank answer
      rw [if_pos own, Option.toList_some]
      constructor
      · show (h'.step _).journal = _
        rw [journal', journal, stream, if_pos rfl, outcome]
        rfl
      · show Session.Agrees _ (h'.step _).session _
        rw [session, session']
        exact agrees
    · have other : ¬ e.slip.isOf kind := by simp [of, same]
      rw [if_neg other]
      constructor
      · rw [journal, stream, if_neg same]
        exact follows.journal
      · rw [session]
        exact (h.session.agrees_settle_of_ne (Ne.symm same) rank answer).symm.trans follows.agrees
  | post intent =>
    have of : e.slip.isOf kind = decide (kind = .status) := by
      simp [Slip.isOf, errand, Errand.kind, eq_comm]
    obtain ⟨session, journal⟩ := numbered.turn_post waits rfl errand turn
    have stream := Journal.stream_confirm numbered mem errand answer endpoints kind
    have agrees : h.session.Agrees (h.step (.answer e.slip.number answer)).session kind := by
      rw [session]
      exact (h.session.agrees_posted intent answer kind).trans (Session.agrees_issue _ .status kind)
    by_cases same : kind = .status
    · have own : e.slip.isOf kind := by
        rw [of]
        exact decide_eq_true same
      obtain ⟨session', journal'⟩ := numbered'.turn_post
        ((Journal.renumber_pending_iff mem own).mpr waits) rfl errand turn'
      rw [if_pos own, Option.toList_some]
      constructor
      · show (h'.step _).journal = _
        rw [journal', journal, stream, if_pos same]
        rfl
      · show Session.Agrees _ (h'.step _).session _
        refine (agrees.symm.trans follows.agrees).trans ?_
        rw [session']
        exact (h'.session.agrees_posted intent answer kind).trans
          (Session.agrees_issue _ .status kind)
    · have other : ¬ e.slip.isOf kind := by simp [of, same]
      rw [if_neg other]
      constructor
      · rw [journal, stream, if_neg same]
        exact follows.journal
      · exact agrees.symm.trans follows.agrees

private theorem stray (follows : Follows kind h h') (kept : h.Kept endpoints)
    (kept' : h'.Kept endpoints) (numbered : h.journal.Numbered) (numbered' : h'.journal.Numbered)
    {number : Nat} (unknown : ∀ e ∈ h.journal.pending, e.slip.number ≠ number) (answer : Answer) :
    Follows kind (h.step (.answer number answer))
      (h'.run (h.journal.streamStep? kind (.answer number answer)).toList) := by
  obtain ⟨session, journal⟩ :=
    Journal.turn_stray unknown (kept.step (.answer number answer)).turn
  have still : ∀ number', (∀ e ∈ h'.journal.pending, e.slip.number ≠ number') →
      Follows kind (h.step (.answer number answer)) (h'.step (.answer number' answer)) := by
    intro number' unknown'
    obtain ⟨session', journal'⟩ :=
      Journal.turn_stray unknown' (kept'.step (.answer number' answer)).turn
    constructor
    · rw [journal, journal', follows.journal]
    · rw [session, session']
      exact follows.agrees
  have length : h'.journal.entries.length ≤ h.journal.entries.length := by
    rw [follows.journal, Journal.stream, List.length_map]
    exact List.length_filter_le ..
  by_cases known : ∃ e ∈ h.journal.entries, e.slip.number = number
  · obtain ⟨e, mem, rfl⟩ := known
    have closed : e ∉ h.journal.pending := fun waits => unknown e waits rfl
    rw [numbered.streamStep?_answer mem]
    by_cases own : e.slip.isOf kind
    · rw [if_pos own, Option.toList_some]
      apply still
      intro e' waits' number
      rw [follows.journal] at waits' numbered'
      have twin := numbered'.eq_of_number (Journal.mem_of_mem_pending waits')
        (Journal.renumber_mem mem own) number
      rw [twin, Journal.renumber_pending_iff mem own] at waits'
      exact closed waits'
    · rw [if_neg own]
      constructor
      · rw [journal]
        exact follows.journal
      · rw [session]
        exact follows.agrees
  · have absent : h.journal.slips.find? (fun slip => slip.number = number) = none := by
      apply List.find?_eq_none.mpr
      intro slip sent same
      obtain ⟨e, mem, rfl⟩ := Journal.exists_of_mem_slips sent
      exact known ⟨e, mem, by simpa using same⟩
    simp only [Journal.streamStep?, absent, Option.toList_some]
    apply still
    intro e' waits' same
    have bound := numbered'.number_pos (Journal.mem_of_mem_pending waits')
    rw [same] at bound
    exact known (numbered.exists_number_iff.mpr ⟨bound.1, bound.2.trans length⟩)

private theorem step (follows : Follows kind h h') (kept : h.Kept endpoints)
    (kept' : h'.Kept endpoints) (numbered : h.journal.Numbered) (numbered' : h'.journal.Numbered)
    (coursing : h.journal.Coursing endpoints) (s : Step) :
    Follows kind (h.step s) (h'.run (h.journal.streamStep? kind s).toList) := by
  have aside : ∀ s : Step,
      (∀ x j, ∀ x' j', Turn endpoints x j s x' j' → x.Agrees x' kind ∧ j' = j) →
      Follows kind (h.step s) (h'.step s) := by
    intro s idle
    obtain ⟨agrees, journal⟩ := idle _ _ _ _ (kept.step s).turn
    obtain ⟨agrees', journal'⟩ := idle _ _ _ _ (kept'.step s).turn
    constructor
    · rw [journal, journal', follows.journal]
    · exact (agrees.symm.trans follows.agrees).trans agrees'
  cases s with
  | call c => exact follows.call kept kept' numbered coursing c
  | answer number answer =>
    by_cases waits : ∃ e ∈ h.journal.pending, e.slip.number = number
    · obtain ⟨e, waits, rfl⟩ := waits
      exact follows.answer kept kept' numbered numbered' coursing waits answer
    · apply follows.stray kept kept' numbered numbered'
      intro e mem same
      exact waits ⟨e, mem, same⟩
  | subscribe =>
    apply aside
    intro x j x' j' turn
    cases turn
    exact ⟨.refl x kind, rfl⟩
  | drain receiver =>
    apply aside
    intro x j x' j' turn
    cases turn
    exact ⟨.refl x kind, rfl⟩
  | clearError =>
    apply aside
    intro x j x' j' turn
    cases turn
    exact ⟨Session.agrees_of_same rfl rfl rfl rfl rfl rfl kind, rfl⟩

end Follows

private theorem follows_opened (endpoints : Endpoints) (kind : Kind) :
    Follows kind (opened endpoints) (opened endpoints) :=
  ⟨rfl, .refl _ kind⟩

theorem follows_run (endpoints : Endpoints) (kind : Kind) (steps : List Step) :
    Follows kind ((opened endpoints).run steps)
      ((opened endpoints).run ((opened endpoints).streamSteps kind steps)) := by
  induction steps using List.reverseRecOn with
  | nil => exact follows_opened endpoints kind
  | append_singleton steps s ih =>
    have step := ih.step (kept_run endpoints steps) (kept_run endpoints _)
      (numbered_run endpoints steps) (numbered_run endpoints _) (coursing_run endpoints steps) s
    rw [streamSteps_append, run_append, run_append]
    simp only [streamSteps, List.append_nil]
    exact step

/-- What a history has of one stream is what another one has in all: the same calls with the same
outcomes, the same posts in the same order, and the same to show. -/
structure Undisturbed (kind : Kind) (h h' : History) : Prop where
  journal : h'.journal = h.journal.stream kind
  outcomes : ∀ i c, h.journal.calls[i]? = some c → c.kind = kind →
    h'.journal.calls[h.journal.callIn kind (i + 1) - 1]? = some c ∧
      h'.journal.outcomesOf (h.journal.callIn kind (i + 1)) = h.journal.outcomesOf (i + 1)
  bodies : kind = .status → h'.journal.bodies = h.journal.bodies
  agrees : h.session.Agrees h'.session kind

/-- Streams do not interfere. When the calls of the other stream and the answers to them are left
out of a run, every part of it becomes a part of what is left, and leads to the same there. -/
theorem streams_do_not_interfere (endpoints : Endpoints) (kind : Kind) (front back : List Step) :
    (opened endpoints).streamSteps kind (front ++ back) =
        (opened endpoints).streamSteps kind front ++
          ((opened endpoints).run front).streamSteps kind back ∧
      Undisturbed kind ((opened endpoints).run front)
        ((opened endpoints).run ((opened endpoints).streamSteps kind front)) := by
  have follows := follows_run endpoints kind front
  have coursing := coursing_run endpoints front
  refine ⟨streamSteps_append _ kind front back, follows.journal, ?_, ?_, follows.agrees⟩
  · intro i c made of
    rw [follows.journal]
    exact ⟨Journal.stream_calls_getElem? made of, coursing.outcomesOf_stream made of⟩
  · rintro rfl
    rw [follows.journal]
    exact coursing.bodies_stream

/-- A toggle whose post fails while a listing is loaded: the stream of the directory is a run of its
own, and knows nothing of the failure. -/
theorem overlapping_streams_come_apart :
    let listing : Json := .object [("shows", .object [("a", .string "7")])]
    let steps : List Step :=
      [.call .toggleLoop, .call .loadDirectory, .call .refresh,
        .answer 1 (.error (.timeout "player")), .answer 2 (.ok listing),
        .answer 4 (.ok (.object [("loop", .string "1")])), .answer 3 (.ok .null)]
    let h := (opened .standard).run steps
    let alone := (opened .standard).streamSteps .directory steps
    alone = [.call .loadDirectory, .answer 1 (.ok listing)] ∧
      (opened .standard).streamSteps .status steps =
        [.call .toggleLoop, .call .refresh, .answer 1 (.error (.timeout "player")),
          .answer 3 (.ok (.object [("loop", .string "1")])), .answer 2 (.ok .null)] ∧
      h.session.lastError.isSome = true ∧
      ((opened .standard).run alone).session.lastError = none ∧
      Undisturbed .directory h ((opened .standard).run alone) := by
  intro listing steps h alone
  exact ⟨rfl, rfl, rfl, rfl, (streams_do_not_interfere .standard .directory steps []).2⟩

end History
end ShowRemote
