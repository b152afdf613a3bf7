import ShowRemote.CommandLine.Arguments
import ShowRemote.Proofs.Text.Pieces

/-!
What a command line that is accepted says. Before the word of its action stand options with their
values, and behind it such options and, for a selection, the name of what is selected.

Main statement: `says_of_parse`.
-/

set_option autoImplicit false

namespace ShowRemote.CommandLine

/-- An argument that is read as it stands, where an option might be. -/
def IsPlain (argument : String) : Prop :=
  ∀ c rest, argument.toList ≠ '-' :: c :: rest

/-- Arguments that hold options with their values, and an operand or none. Behind two hyphens no
argument is an option. -/
inductive Holds : List String → Option String → Prop
  | nil : Holds [] none
  | joined {option : String} {text : List Char} {rest : List String} {operand : Option String}
      (long : option.toList = '-' :: '-' :: text) (valued : '=' ∈ text)
      (others : Holds rest operand) : Holds (option :: rest) operand
  | apart {option value : String} {name : List Char} {rest : List String} {operand : Option String}
      (long : option.toList = '-' :: '-' :: name) (named : name ≠ []) (unvalued : '=' ∉ name)
      (plain : IsPlain value) (others : Holds rest operand) :
      Holds (option :: value :: rest) operand
  | operand {word : String} {rest : List String} (plain : IsPlain word)
      (others : Holds rest none) : Holds (word :: rest) (some word)
  | closed (operand : Option String) : Holds ("--" :: operand.toList) operand

namespace Action

def word : Action → String
  | .status => "status"
  | .directory => "directory"
  | .playback .start => "start"
  | .playback .stop => "stop"
  | .playback .resume => "resume"
  | .select _ => "select"
  | .loop => "loop"
  | .watch .. => "watch"

def operand? : Action → Option String
  | .select id => some id.text
  | _ => none

end Action

/-- A command line that says what is to be done. -/
def Says (arguments : List String) (action : Action) : Prop :=
  ∃ front back, arguments = front ++ action.word :: back ∧ Holds front none ∧
    Holds back action.operand?

private theorem isPlain_of_not_isOptionLike {argument : String}
    (plain : ¬ isOptionLike argument = true) :
    IsPlain argument := by
  intro c rest same
  rw [isOptionLike, same] at plain
  exact plain rfl

private theorem exists_of_longOption? {argument name : String} {value : Option String}
    (long : longOption? argument = some (name, value)) :
    ∃ text, argument.toList = '-' :: '-' :: text ∧ (value.isSome ↔ '=' ∈ text) := by
  unfold longOption? at long
  split at long
  · next text same =>
    refine ⟨text, same, ?_⟩
    split at long
    · next found =>
      cases long
      have mem : '=' ∈ text := by
        by_contra absent
        rw [Text.splitFirst?_of_not_mem absent] at found
        cases found
      exact iff_of_true rfl mem
    · next missing =>
      cases long
      exact iff_of_false Bool.false_ne_true (Text.not_mem_of_splitFirst?_eq_none missing)
  · cases long

section Option

variable {option name : String} {rest : List String} {operand : Option String}

private theorem holds_of_joined {value : String}
    (long : longOption? option = some (name, some value)) (others : Holds rest operand) :
    Holds (option :: rest) operand := by
  obtain ⟨text, same, valued⟩ := exists_of_longOption? long
  exact .joined same (valued.mp rfl) others

private theorem holds_of_apart {value : String} (dashes : option ≠ "--")
    (long : longOption? option = some (name, none)) (plain : ¬ isOptionLike value = true)
    (others : Holds rest operand) : Holds (option :: value :: rest) operand := by
  obtain ⟨text, same, valued⟩ := exists_of_longOption? long
  have named : text ≠ [] := by
    rintro rfl
    exact dashes (String.toList_injective same)
  have unvalued : '=' ∉ text := fun mem => Bool.false_ne_true (valued.mpr mem)
  exact .apart same named unvalued (isPlain_of_not_isOptionLike plain) others

end Option

private theorem operand_of_setOption {g g' : Given} {sub : Option Subcommand} {name value : String}
    (set : g.setOption sub name value = some g') : g'.operand = g.operand := by
  unfold Given.setOption at set
  split at set <;> try split at set
  all_goals first
    | cases set
    | obtain ⟨held, -, rfl⟩ := Option.map_eq_some_iff.mp set
      rfl

private theorem of_setOperand {g g' : Given} {sub : Option Subcommand} {value : String}
    (set : g.setOperand sub value = some g') :
    sub = some .select ∧ g.operand = none ∧ g'.operand = some value := by
  unfold Given.setOperand at set
  split at set
  · next select =>
    obtain ⟨held, place, rfl⟩ := Option.map_eq_some_iff.mp set
    cases free : g.operand with
    | none =>
      rw [free] at place
      exact ⟨select, rfl, (Option.some.inj place).symm⟩
    | some other =>
      rw [free] at place
      cases place
  · cases set

/-- What has been given after an operand was taken in, or none. -/
structure Took (sub : Option Subcommand) (g g' : Given) (operand : Option String) : Prop where
  held : g'.operand = g.operand.or operand
  free : operand.isSome → g.operand = none ∧ sub = some .select

section Reading

variable {sub : Option Subcommand} {g g' : Given} {arguments : List String}

private theorem took_none (sub : Option Subcommand) (g : Given) : Took sub g g none :=
  ⟨(Option.or_none).symm, nofun⟩

private theorem Took.of_setOption {g₁ : Given} {operand : Option String}
    (took : Took sub g₁ g' operand) {name value : String}
    (set : g.setOption sub name value = some g₁) :
    Took sub g g' operand := by
  have same := operand_of_setOption set
  exact ⟨same ▸ took.held, fun given => same ▸ took.free given⟩

private theorem Took.of_setOperand {g₁ : Given} {operand : Option String}
    (took : Took sub g₁ g' operand) {word : String} (set : g.setOperand sub word = some g₁) :
    operand = none ∧ Took sub g g' (some word) := by
  obtain ⟨select, free, held⟩ := CommandLine.of_setOperand set
  have none : operand = none := by
    by_contra given
    have other := (took.free (Option.isSome_iff_ne_none.mpr given)).1
    rw [held] at other
    cases other
  refine ⟨none, ?_, fun _ => ⟨free, select⟩⟩
  rw [took.held, held, free]
  rfl

private theorem took_of_readOperands (read : readOperands sub g arguments = .finished g') :
    ∃ operand : Option String, arguments = operand.toList ∧ Took sub g g' operand := by
  induction arguments generalizing g with
  | nil =>
    obtain rfl := Reading.finished.inj read
    exact ⟨none, rfl, took_none sub g⟩
  | cons word rest ih =>
    rw [readOperands] at read
    split at read
    · next g₁ set =>
      obtain ⟨operand, rfl, took⟩ := ih read
      obtain ⟨rfl, takes⟩ := took.of_setOperand set
      exact ⟨some word, rfl, takes⟩
    · cases read

private theorem took_of_readArguments (read : readArguments sub g arguments = .finished g') :
    ∃ operand, Holds arguments operand ∧ Took sub g g' operand := by
  fun_induction readArguments sub g arguments
  case case1 g =>
    obtain rfl := Reading.finished.inj read
    exact ⟨none, .nil, took_none sub g⟩
  case case2 g rest =>
    obtain ⟨operand, rfl, took⟩ := took_of_readOperands read
    exact ⟨operand, .closed operand, took⟩
  case case4 long g₁ set ih =>
    obtain ⟨operand, holds, took⟩ := ih read
    exact ⟨operand, holds_of_joined long holds, took.of_setOption set⟩
  case case8 g a dashes name help long value rest plain g₁ set ih =>
    obtain ⟨operand, holds, took⟩ := ih read
    exact ⟨operand, holds_of_apart dashes long plain holds, took.of_setOption set⟩
  case case12 g a rest dashes long short plain s select g₁ set ih =>
    simp only [← select, set] at read
    obtain ⟨operand, holds, took⟩ := ih read
    obtain ⟨rfl, takes⟩ := took.of_setOperand set
    exact ⟨some a, .operand (isPlain_of_not_isOptionLike plain) holds, takes⟩
  all_goals simp_all

private theorem holds_of_readArguments {s : Subcommand} {rest : List String}
    (read : readArguments none g arguments = .subcommand g' s rest) :
    ∃ front, arguments = front ++ s.name :: rest ∧ Holds front none := by
  fun_induction readArguments none g arguments
  case case2 g others =>
    cases others <;> simp [readOperands, Given.setOperand] at read
  case case4 a others dashes name value long g₁ set ih =>
    obtain ⟨front, rfl, holds⟩ := ih read
    exact ⟨a :: front, rfl, holds_of_joined long holds⟩
  case case8 g a dashes name help long value others plain g₁ set ih =>
    obtain ⟨front, rfl, holds⟩ := ih read
    exact ⟨a :: value :: front, rfl, holds_of_apart dashes long plain holds⟩
  case case14 g a others dashes long short plain none s' named =>
    obtain ⟨-, rfl, rfl⟩ := Reading.subcommand.inj read
    have word := List.find?_some named
    exact ⟨[], by rw [List.nil_append, of_decide_eq_true word], .nil⟩
  all_goals simp_all

end Reading

private theorem action?_eq_some {sub : Subcommand} {g : Given} {action : Action}
    (found : action? sub g = some action) :
    sub.name = action.word ∧ (sub = .select → g.operand = action.operand?) ∧
      (sub ≠ .select → action.operand? = none) := by
  cases sub with
  | select =>
    obtain ⟨id, held, rfl⟩ := Option.map_eq_some_iff.mp found
    exact ⟨rfl, fun _ => held, fun other => (other rfl).elim⟩
  | playback verb =>
    obtain rfl := Option.some.inj found
    exact ⟨by cases verb <;> rfl, nofun, fun _ => rfl⟩
  | status | directory | loop | watch =>
    obtain rfl := Option.some.inj found
    exact ⟨rfl, nofun, fun _ => rfl⟩

/-- A command line that is accepted says what is done. -/
theorem says_of_parse {arguments : List String} {i : Invocation}
    (accepted : parse arguments = .run i) : Says arguments i.action := by
  unfold parse at accepted
  split at accepted <;> try cases accepted
  · next rest _ =>
    unfold helpTopic at accepted
    repeat' split at accepted
    all_goals cases accepted
  · next before sub rest read =>
    obtain ⟨front, rfl, holds⟩ := holds_of_readArguments read
    split at accepted <;> try cases accepted
    next after readBehind =>
    obtain ⟨operand, behind, took⟩ := took_of_readArguments readBehind
    unfold combine at accepted
    split at accepted
    · cases accepted
    · next action found =>
      obtain rfl := Parsed.run.inj accepted
      obtain ⟨word, selected, others⟩ := action?_eq_some found
      have same : operand = action.operand? := by
        by_cases select : sub = .select
        · rw [← selected select, took.held]
          rfl
        · rw [others select]
          by_contra given
          have free := (took.free (Option.isSome_iff_ne_none.mpr given)).2
          exact select (Option.some.inj free)
      exact ⟨front, rest, by rw [word], holds, same ▸ behind⟩

end ShowRemote.CommandLine
