import ShowRemote.Proofs.CommandLine.Account
import ShowRemote.Proofs.Settings.Layers

/-!
How long a watch waits between its polls. The interval of the settings has a floor, from whichever
layer it comes. The interval of a flag goes around that floor: it is waited as it is given, and an
interval of zero breaks the run before its first request.

Main statement: `watch_keeps_its_period`.
-/

set_option autoImplicit false

namespace ShowRemote.CommandLine

open Http (Exchange)
open Settings (firstOf leastPollInterval number? textOf)

namespace Dialogue

variable {α β : Type} (otherwise : Exchange)

def pauses : Dialogue α → List Exchange → List Nat
  | .done _, _ => []
  | .send _ _ next, exchanges =>
    (next (exchanges.headD otherwise)).pauses exchanges.tail
  | .print _ next, exchanges => next.pauses exchanges
  | .pause ms next, exchanges => ms :: (next ()).pauses exchanges

private theorem pauses_bind (d : Dialogue α) (f : α → Dialogue β) (exchanges : List Exchange) :
    (d.bind f).pauses otherwise exchanges =
      d.pauses otherwise exchanges ++
        (f (d.play otherwise exchanges).result).pauses otherwise
          (exchanges.drop (d.play otherwise exchanges).requests.length) := by
  induction d generalizing exchanges with
  | done a => simp [bind, pauses]
  | send request timeout next ih =>
    rw [bind, pauses, pauses, play, ih]
    simp
  | print text next ih =>
    rw [bind, pauses, pauses, play_print, ih]
  | pause ms next ih =>
    rw [bind, pauses, pauses, play_pause, ih]
    rfl

end Dialogue

section Watch

variable (p : Player) (otherwise : Exchange)

private theorem pauses_get (kind : Kind) (s : Session) (exchanges : List Exchange) :
    (p.get kind s).pauses otherwise exchanges = [] := by
  rw [Player.get, Dialogue.pauses_bind, Player.ask]
  cases Http.Outgoing.prepare p.base (.get (p.endpoints.path kind)) <;> rfl

private theorem pauses_showAndConclude (s : Session) (exchanges : List Exchange) :
    (showAndConclude s).pauses otherwise exchanges = [] := by
  rw [showAndConclude]
  split <;> rfl

private theorem pauses_watch_succ (ms polls : Nat) (s : Session) (printed : Option Show.StatusView)
    (exchanges : List Exchange) :
    let t := (p.get .status s).play otherwise exchanges
    (p.watch ms (polls + 1) s printed).pauses otherwise exchanges =
      (if polls = 0 then [] else [ms]) ++
        (p.watch ms polls t.result (Player.printedAfter t.result printed)).pauses otherwise
          (exchanges.drop t.requests.length) := by
  intro t
  rw [Player.watch, p.refresh_eq_get]
  show ((p.get .status s).bind _).pauses otherwise exchanges = _
  rw [Dialogue.pauses_bind, pauses_get, List.nil_append, Player.printedAfter]
  by_cases fresh : t.result.status.isSome ∧ printed ≠ some t.result.view
  · simp only [t, if_pos fresh, Dialogue.pauses]
    cases polls <;> rfl
  · simp only [t, if_neg fresh]
    cases polls <;> rfl

private theorem pauses_watch (ms polls : Nat) (s : Session) (printed : Option Show.StatusView)
    (exchanges : List Exchange) :
    (p.watch ms polls s printed).pauses otherwise exchanges = List.replicate (polls - 1) ms := by
  induction polls generalizing s printed exchanges with
  | zero => rfl
  | succ polls ih =>
    rw [pauses_watch_succ, ih, Nat.add_sub_cancel]
    cases polls with
    | zero => rfl
    | succ polls =>
      have later : polls + 1 ≠ 0 := Nat.succ_ne_zero polls
      rw [if_neg later, Nat.add_sub_cancel, List.replicate_succ]
      rfl

end Watch

def period (settings : Settings) (intervalMs : Option Nat) : Nat :=
  intervalMs.getD settings.pollInterval

/-- Only a flag can give a period below the floor. -/
private theorem leastPollInterval_le_period_iff (settings : Settings) (intervalMs : Option Nat) :
    leastPollInterval ≤ period settings intervalMs ↔ ∀ ms ∈ intervalMs, leastPollInterval ≤ ms := by
  cases intervalMs with
  | none => exact iff_of_true settings.leastPollInterval_le_pollInterval nofun
  | some ms =>
    constructor
    · rintro least _ ⟨⟩
      exact least
    · exact fun least => least ms rfl

private theorem exit_conclude_ne_crash (s : Session) : (conclude s).exit ≠ Ending.crash := by
  unfold conclude
  split <;> exact nofun

/-- How a watch with a count is paced, once there are settings and a base. -/
structure Paced (settings : Settings) (intervalMs : Option Nat) (count : Nat)
    (t : Transcript Ending) (pauses : List Nat) : Prop where
  /-- Every pause is the period, which keeps the floor but for a flag below it. -/
  steady : intervalMs ≠ some 0 →
    pauses = List.replicate (max count 1 - 1) (period settings intervalMs)
  floor_iff : leastPollInterval ≤ period settings intervalMs ↔
    ∀ ms ∈ intervalMs, leastPollInterval ≤ ms
  /-- A flag is not raised to the floor. -/
  flagged : ∀ ms, intervalMs = some ms → period settings intervalMs = ms
  polls : intervalMs ≠ some 0 → t.result.exit ≠ Ending.crash
  broken : intervalMs = some 0 →
    t.requests = [] ∧ t.printed = "" ∧ pauses = [] ∧ t.result = ⟨Ending.crash, []⟩

private theorem paced_perform (p : Player) (settings : Settings) (intervalMs : Option Nat)
    (count : Nat) (otherwise : Exchange) (exchanges : List Exchange) :
    let d := perform p settings (.watch intervalMs (some count))
    Paced settings intervalMs count (d.play otherwise exchanges)
      (d.pauses otherwise exchanges) := by
  intro d
  constructor
  case steady =>
    intro given
    show (perform p settings (.watch intervalMs (some count))).pauses otherwise exchanges = _
    rw [perform_watch p settings (period_ne_zero given settings), Dialogue.pauses_bind,
      pauses_watch, pauses_showAndConclude, List.append_nil]
    rfl
  case floor_iff => exact leastPollInterval_le_period_iff settings intervalMs
  case flagged =>
    rintro ms rfl
    rfl
  case polls =>
    intro given
    have ends : (Action.watch intervalMs (some count)).Ends := ⟨rfl, given⟩
    obtain ⟨h, requests, text, seen, -⟩ := perform_recounts p settings ends otherwise exchanges
    rw [show d.play otherwise exchanges = _ from seen]
    exact exit_conclude_ne_crash h.session
  case broken =>
    rintro rfl
    exact ⟨rfl, rfl, rfl, rfl⟩

section Run

variable {arguments : List String} {i : Invocation} (accepted : parse arguments = .run i)
  {files : Settings.FileReader} {env : Settings.Environment}

include accepted

private theorem exit_of_not_started
    (unstarted : ¬ ∃ settings base, settingsOf i files env = .ok settings ∧
      Http.readBase settings.baseUrl = .ok base) (otherwise : Exchange)
    (exchanges : List Exchange) :
    ((run arguments files env).play otherwise exchanges).result.exit = Ending.failure := by
  cases loaded : settingsOf i files env with
  | error fault =>
    simp only [run, accepted, loaded]
    rfl
  | ok settings =>
    cases based : Http.readBase settings.baseUrl with
    | error fault =>
      simp only [run, accepted, loaded, invoke, based]
      rfl
    | ok base => exact (unstarted ⟨settings, base, loaded, based⟩).elim

private theorem run_eq_perform {settings : Settings} {base : Url}
    (loaded : settingsOf i files env = .ok settings)
    (based : Http.readBase settings.baseUrl = .ok base) :
    run arguments files env =
      perform ⟨base, settings.timeout, settings.endpoints⟩ settings i.action := by
  simp only [run, accepted, loaded, invoke, based]

end Run

private theorem pollInterval_of_settingsOf {i : Invocation} {files : Settings.FileReader}
    {env : Settings.Environment} {settings : Settings}
    (loaded : settingsOf i files env = .ok settings) :
    ∃ table, Settings.Provides i.config files table ∧
      settings.pollInterval =
        max (firstOf [(env "APP__POLL_INTERVAL_MS").bind number?,
          (textOf table "poll_interval_ms").bind number?] 1000) 50 := by
  rcases Settings.provides_or_refused i.config files with
    ⟨table, provides, timeout, poll⟩ | ⟨fault, refused⟩
  · rw [Settings.settingsOf_of_numbers env provides timeout poll] at loaded
    cases loaded
    exact ⟨table, provides, rfl⟩
  · rw [Settings.settingsOf_of_refused env refused] at loaded
    cases loaded

/-- How a watch with a count is paced, from its command line on. -/
structure KeepsPeriod (i : Invocation) (files : Settings.FileReader) (env : Settings.Environment)
    (intervalMs : Option Nat) (count : Nat) (t : Transcript Ending) (pauses : List Nat) : Prop where
  paced : ∀ settings base, settingsOf i files env = .ok settings →
    Http.readBase settings.baseUrl = .ok base → Paced settings intervalMs count t pauses
  layers : ∀ settings, settingsOf i files env = .ok settings →
    ∃ table, Settings.Provides i.config files table ∧
      settings.pollInterval =
        max (firstOf [(env "APP__POLL_INTERVAL_MS").bind number?,
          (textOf table "poll_interval_ms").bind number?] 1000) 50
  /-- The run breaks only for an interval of zero. -/
  crash_iff : t.result.exit = Ending.crash ↔
    intervalMs = some 0 ∧ ∃ settings base, settingsOf i files env = .ok settings ∧
      Http.readBase settings.baseUrl = .ok base

/-- The period of a watch keeps the floor of the settings, unless a flag gives another one. -/
theorem watch_keeps_its_period {arguments : List String} {i : Invocation}
    (accepted : parse arguments = .run i) {intervalMs : Option Nat} {count : Nat}
    (watches : i.action = .watch intervalMs (some count)) (files : Settings.FileReader)
    (env : Settings.Environment) (otherwise : Exchange) (exchanges : List Exchange) :
    KeepsPeriod i files env intervalMs count ((run arguments files env).play otherwise exchanges)
      ((run arguments files env).pauses otherwise exchanges) := by
  have paced : ∀ settings base, settingsOf i files env = .ok settings →
      Http.readBase settings.baseUrl = .ok base →
        Paced settings intervalMs count ((run arguments files env).play otherwise exchanges)
          ((run arguments files env).pauses otherwise exchanges) := by
    intro settings base loaded based
    rw [run_eq_perform accepted loaded based, watches]
    exact paced_perform ⟨base, settings.timeout, settings.endpoints⟩ settings intervalMs count
      otherwise exchanges
  constructor
  case paced => exact paced
  case layers => exact fun settings loaded => pollInterval_of_settingsOf loaded
  case crash_iff =>
    constructor
    · intro crashed
      have started : ∃ settings base, settingsOf i files env = .ok settings ∧
          Http.readBase settings.baseUrl = .ok base := by
        by_contra unstarted
        rw [exit_of_not_started accepted unstarted] at crashed
        cases crashed
      refine ⟨?_, started⟩
      obtain ⟨settings, base, loaded, based⟩ := started
      by_contra given
      exact (paced settings base loaded based).polls given crashed
    · rintro ⟨zero, settings, base, loaded, based⟩
      obtain ⟨-, -, -, result⟩ := (paced settings base loaded based).broken zero
      exact congrArg Ending.exit result

/-- A file that asks for no interval is raised to the floor. A flag of ten milliseconds is not, and
with a flag of zero the run breaks. -/
theorem flagged_interval_goes_below_the_floor :
    let files : Settings.FileReader := fun _ => .ok (Text.utf8Bytes "poll_interval_ms = 0".toList)
    let env : Settings.Environment := fun _ => none
    let settled := run ["watch", "--count", "3"] files env
    let short := run ["watch", "--count", "3", "--interval-ms", "10"] files env
    let zero := run ["watch", "--count", "3", "--interval-ms", "0"] files env
    (KeepsPeriod ⟨none, none, none, .watch none (some 3)⟩ files env none 3
      (settled.play .closed []) (settled.pauses .closed []) ∧
        settled.pauses .closed [] = [50, 50]) ∧
    (KeepsPeriod ⟨none, none, none, .watch (some 10) (some 3)⟩ files env (some 10) 3
      (short.play .closed []) (short.pauses .closed []) ∧
        short.pauses .closed [] = [10, 10]) ∧
    (KeepsPeriod ⟨none, none, none, .watch (some 0) (some 3)⟩ files env (some 0) 3
      (zero.play .closed []) (zero.pauses .closed []) ∧
        (zero.play .closed []).result.exit = 101) := by
  intro files env settled short zero
  have settled' : parse ["watch", "--count", "3"] =
      .run ⟨none, none, none, .watch none (some 3)⟩ := by decide +kernel
  have short' : parse ["watch", "--count", "3", "--interval-ms", "10"] =
      .run ⟨none, none, none, .watch (some 10) (some 3)⟩ := by decide +kernel
  have zero' : parse ["watch", "--count", "3", "--interval-ms", "0"] =
      .run ⟨none, none, none, .watch (some 0) (some 3)⟩ := by decide +kernel
  refine ⟨⟨?_, by decide +kernel⟩, ⟨?_, by decide +kernel⟩, ?_, by decide +kernel⟩
  · exact watch_keeps_its_period settled' rfl files env .closed []
  · exact watch_keeps_its_period short' rfl files env .closed []
  · exact watch_keeps_its_period zero' rfl files env .closed []

end ShowRemote.CommandLine
