import ShowRemote.CommandLine.Run

/-!
What a run writes for the operator, as one text: the warning of the last failure, and behind it the
report of an error with its cause below it.
-/

set_option autoImplicit false

namespace ShowRemote.CommandLine

def linesText (lines : List String) : String :=
  String.join (lines.map fun line => line ++ "\n")

theorem linesText_append (front back : List String) :
    linesText (front ++ back) = linesText front ++ linesText back := by
  rw [linesText, List.map_append, String.join_append, linesText, linesText]

/-- A text with all its lines but the first one set in. -/
def setIn (indent text : String) : String :=
  String.ofList (text.toList.flatMap fun c => if c = '\n' then '\n' :: indent.toList else [c])

private theorem setIn_empty (text : String) : setIn "" text = text := by
  have same : (fun c : Char => if c = '\n' then '\n' :: "".toList else [c]) = fun c => [c] := by
    funext c
    split
    · next newline => rw [newline, String.toList_empty]
    · rfl
  rw [setIn, same, List.flatMap_singleton', String.ofList_toList]

/-- The pieces between the line ends of a text, each with a line end behind it and all but the first
one set in. -/
private theorem flatMap_pieces_newline (indent s first : List Char) (others : List (List Char))
    (cut : Text.pieces (fun c => c = '\n') s = first :: others) :
    first ++ '\n' :: others.flatMap (fun line => indent ++ (line ++ ['\n'])) =
      s.flatMap (fun c => if c = '\n' then '\n' :: indent else [c]) ++ ['\n'] := by
  induction s generalizing first others with
  | nil =>
    obtain ⟨rfl, rfl⟩ := List.cons.inj cut
    rfl
  | cons c rest ih =>
    obtain ⟨next, more, behind⟩ := List.exists_cons_of_ne_nil
      (Text.pieces_ne_nil (fun c => c = '\n') rest)
    have ih := ih next more behind
    by_cases newline : c = '\n'
    · simp only [Text.pieces, newline, decide_true, if_true, behind] at cut
      obtain ⟨rfl, rfl⟩ := List.cons.inj cut
      simp only [newline, List.flatMap_cons, if_true, List.append_assoc, List.cons_append,
        List.nil_append, ← ih]
    · simp only [Text.pieces, newline, decide_false, Bool.false_eq_true, if_false, behind] at cut
      obtain ⟨rfl, rfl⟩ := List.cons.inj cut
      simp only [newline, List.flatMap_cons, if_false, List.cons_append, List.nil_append, ← ih]

private theorem linesText_hang (mark indent text : String) :
    linesText (hang mark indent text) = mark ++ setIn indent text ++ "\n" := by
  obtain ⟨first, others, cut⟩ := List.exists_cons_of_ne_nil
    (Text.pieces_ne_nil (fun c => c = '\n') text.toList)
  have lines := flatMap_pieces_newline indent.toList text.toList first others cut
  refine String.toList_injective ?_
  simp only [linesText, hang, cut, List.map_cons, List.map_map, String.toList_join,
    List.flatMap_cons, List.flatMap_map, Function.comp_apply, String.toList_append,
    String.toList_ofList, setIn, List.append_assoc]
  exact congrArg (mark.toList ++ ·) lines

def warningText (time : String) (record : ErrorRecord) : String :=
  "warning: " ++ record.operation.title ++ " failed at " ++ time ++ ": " ++ record.failure.message
    ++ "\n"

/-- The report of an error that has one cause. -/
def errorText (error cause : String) : String :=
  "Error: " ++ error ++ "\n\nCaused by:\n    " ++ setIn "    " cause ++ "\n"

theorem linesText_warning (time : String) (record : ErrorRecord) :
    linesText ((Notice.warning record).lines time) = warningText time record := by
  rw [Notice.lines, linesText_hang, setIn_empty, String.empty_append, warningText]

theorem linesText_error_cons (time error : String) (causes : List String) :
    linesText ((Notice.error (error :: causes)).lines time) =
      "Error: " ++ error ++ "\n" ++ linesText (causeLines causes) := by
  rw [Notice.lines, linesText_append, linesText_hang, setIn_empty]

theorem linesText_error (time error cause : String) :
    linesText ((Notice.error [error, cause]).lines time) = errorText error cause := by
  rw [linesText_error_cons, causeLines, linesText_append, linesText_hang, errorText]
  simp only [String.append_assoc]
  rfl

/-- What is written of a run for the operator, when its last failure was met at a time. -/
def Transcript.written (t : Transcript Ending) (time : String) : String :=
  linesText (t.result.notices.flatMap (Notice.lines time))

/-- What is written at an exit code, after a last failure or none. -/
inductive Writes (time : String) : Option ErrorRecord → Nat → String → Prop
  | silent : Writes time none 0 ""
  | warned (record : ErrorRecord) : Writes time (some record) 0 (warningText time record)
  | reported (record : ErrorRecord) : Writes time (some record) 1
      (warningText time record ++ errorText "show player did not answer" record.failure.describe)

end ShowRemote.CommandLine
