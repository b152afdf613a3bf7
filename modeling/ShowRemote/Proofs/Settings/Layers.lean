import ShowRemote.CommandLine.Run
import ShowRemote.Proofs.Text.Numeral
import ShowRemote.Proofs.Text.Utf8

/-!
The settings of a run against the layers they come from. Each setting has sources of its own, of
which the first that is set decides, whatever the others hold; a source of a number is set when its
text is one. The layers meet nowhere else: what the environment and the flags hold can neither cause
nor mend a fault, and of the file only the named entries count, by their texts.

Main statement: `settings_merge_layers`.
-/

set_option autoImplicit false

namespace ShowRemote.Settings

open CommandLine (Invocation settingsOf)

namespace Table

def Distinct (t : Table) : Prop :=
  (t.map Prod.fst).Nodup

private theorem distinct_nil : Distinct [] :=
  List.nodup_nil

private theorem lines_distinct {fuel : Nat} {held t : Table} {s : List Char}
    (distinct : held.Distinct) (read : lines fuel held s = some t) : t.Distinct := by
  induction fuel generalizing held s with
  | zero => cases read
  | succ fuel ih =>
    rw [lines] at read
    split at read
    · cases read
      exact distinct
    · split at read
      · exact ih distinct read
      · split at read
        · cases read
        · next key entry rest line =>
          split at read
          · cases read
          · next fresh =>
            split at read
            · have absent : key ∉ held.map Prod.fst := by
                intro mem
                obtain ⟨⟨name, found⟩, member, same⟩ := List.mem_map.mp mem
                exact fresh (List.lookup_isSome_iff.mpr ⟨_, member, beq_iff_eq.mpr same.symm⟩)
              refine ih ?_ read
              rw [Distinct, List.map_append]
              exact List.Nodup.append distinct (List.nodup_singleton _)
                (List.disjoint_singleton.mpr absent)
            · cases read

private theorem parse?_distinct {text : String} {t : Table} (read : parse? text = some t) :
    t.Distinct :=
  lines_distinct distinct_nil read

private theorem lookup_eq_of_perm {t u : Table} (perm : t.Perm u) (distinct : t.Distinct)
    (key : String) :
    t.lookup key = u.lookup key := by
  induction perm with
  | nil => rfl
  | cons e perm ih =>
    obtain ⟨name, entry⟩ := e
    rw [List.lookup_cons, List.lookup_cons, ih (List.nodup_cons.mp distinct).2]
  | swap e e' rest =>
    obtain ⟨name, entry⟩ := e
    obtain ⟨name', entry'⟩ := e'
    have apart : name' ≠ name := fun same =>
      (List.nodup_cons.mp distinct).1 (same ▸ List.mem_cons_self)
    simp only [List.lookup_cons]
    by_cases first : key = name
    · have other : (key == name') = false := beq_false_of_ne (first ▸ apart.symm)
      rw [other]
    · rw [beq_false_of_ne first]
  | trans one two ihOne ihTwo =>
    exact (ihOne distinct).trans (ihTwo ((one.map Prod.fst).nodup_iff.mp distinct))

end Table

/-- The keys that settings are taken from. -/
def keys : List String :=
  ["base_url", "timeout_secs", "poll_interval_ms", "status_path", "directory_path", "command_path"]

/-- Tables that differ in what settings do not depend on. -/
inductive Table.Alike : Table → Table → Prop
  /-- An integer and the text of it. -/
  | spelled (before : Table) (key : String) (n : Int) (after : Table) :
      Alike (before ++ (key, .integer n) :: after)
        (before ++ (key, .text (String.ofList (Json.writeInt n))) :: after)
  /-- A key that no setting is taken from. -/
  | unknown (before : Table) {key : String} (unknown : key ∉ keys) (entry : Entry)
      (after : Table) : Alike (before ++ (key, entry) :: after) (before ++ after)
  /-- The order of the keys. -/
  | order {t u : Table} (distinct : t.Distinct) (perm : t.Perm u) : Alike t u
  | symm {t u : Table} (alike : Alike t u) : Alike u t
  | trans {t u v : Table} (first : Alike t u) (second : Alike u v) : Alike t v

private theorem Table.Alike.textOf_eq {t u : Table} (alike : t.Alike u) {key : String}
    (known : key ∈ keys) : textOf t key = textOf u key := by
  induction alike with
  | spelled before name n after =>
    simp only [textOf, List.lookup_append, List.lookup_cons, Option.map_or]
    cases key == name <;> rfl
  | @unknown before name fresh entry after =>
    have apart : (key == name) = false := by
      refine beq_false_of_ne ?_
      rintro rfl
      exact fresh known
    simp only [textOf, List.lookup_append, List.lookup_cons, apart]
  | order distinct perm => rw [textOf, textOf, lookup_eq_of_perm perm distinct]
  | symm _ ih => exact ih.symm
  | trans _ _ ihFirst ihSecond => exact ihFirst.trans ihSecond

private theorem numberOf_congr {t u : Table} {key : String} (same : textOf t key = textOf u key)
    (path : String) (otherwise : Nat) :
    numberOf path t key otherwise = numberOf path u key otherwise := by
  rw [numberOf, numberOf, same]

private theorem withTable_congr {t u : Table} (same : ∀ key ∈ keys, textOf t key = textOf u key)
    (s : Settings) (path : String) : s.withTable path t = s.withTable path u := by
  simp only [keys, List.forall_mem_cons] at same
  obtain ⟨base, timeout, poll, status, directory, command, -⟩ := same
  rw [withTable, withTable, numberOf_congr timeout, numberOf_congr poll, base, status, directory,
    command]

def number? (text : String) : Option Nat :=
  (Text.readNatural64 text.toList).toOption

private theorem number?_eq_some_iff {text : String} {n : Nat} :
    number? text = some n ↔ Text.DenotesNatural text.toList n ∧ n < 2 ^ 64 := by
  rw [← Text.readNatural64_eq_ok_iff, number?]
  cases Text.readNatural64 text.toList with
  | error fault => exact iff_of_false nofun nofun
  | ok m => simp only [Except.toOption, Option.some.injEq, Except.ok.injEq]

/-- What a table tells under a key, if anything, is a number. -/
def NumberAt (table : Table) (key : String) : Prop :=
  ∀ text, textOf table key = some text →
    ∃ n, Text.DenotesNatural text.toList n ∧ n < 2 ^ 64

private theorem numberOf_of_numberAt {table : Table} {key : String} (number : NumberAt table key)
    (path : String) (otherwise : Nat) :
    numberOf path table key otherwise =
      .ok (((textOf table key).bind number?).getD otherwise) := by
  rw [numberOf]
  cases told : textOf table key with
  | none => rfl
  | some text =>
    obtain ⟨n, denotes⟩ := number text told
    have numeral := (Text.readNatural64_eq_ok_iff _ _).mpr denotes
    rw [Option.bind_some, number?_eq_some_iff.mpr denotes]
    simp only [numeral]
    rfl

private theorem numberAt_or (table : Table) (key : String) :
    NumberAt table key ∨ ∃ text fault,
      textOf table key = some text ∧ Text.readNatural64 text.toList = .error fault := by
  cases told : textOf table key with
  | none => exact .inl fun text same => by rw [told] at same; cases same
  | some text =>
    cases numeral : Text.readNatural64 text.toList with
    | error fault => exact .inr ⟨text, fault, rfl, numeral⟩
    | ok n =>
      refine .inl fun text' same => ⟨n, ?_⟩
      rw [told] at same
      cases same
      exact (Text.readNatural64_eq_ok_iff _ _).mp numeral

private theorem numberOf_of_fault {table : Table} {key text : String} {fault : Text.NumeralFault}
    (told : textOf table key = some text)
    (numeral : Text.readNatural64 text.toList = .error fault) (path : String) (otherwise : Nat) :
    numberOf path table key otherwise = .error (.notANumber path key text fault) := by
  rw [numberOf, told]
  simp only [numeral]

def fileOf (named : Option String) : String :=
  named.getD standardFile

/-- The table that stands in the file. An absent file stands for an empty one if it is not named. -/
inductive Provides (named : Option String) (files : FileReader) : Table → Prop
  | file {text : String} {table : Table}
      (content : files (fileOf named) = .ok (Text.utf8Bytes text.toList))
      (read : Table.parse? text = some table) : Provides named files table
  | absent (unnamed : named = none) (absent : files standardFile = .error .notFound) :
      Provides named files []

/-- What in the file stands against settings. -/
inductive Refused (named : Option String) (files : FileReader) : SettingsFault → Prop
  | absent {path : String} (explicit : named = some path)
      (absent : files path = .error .notFound) :
      Refused named files (.unreadable path .notFound)
  | unreadable {fault : FileFault} (present : fault ≠ .notFound)
      (unread : files (fileOf named) = .error fault) :
      Refused named files (.unreadable (fileOf named) fault)
  | notText {content : List UInt8} (read : files (fileOf named) = .ok content)
      (stray : ∀ text : String, content ≠ Text.utf8Bytes text.toList) :
      Refused named files (.unreadable (fileOf named) .notText)
  | noTable {text : String} (content : files (fileOf named) = .ok (Text.utf8Bytes text.toList))
      (unread : Table.parse? text = none) : Refused named files (.malformed (fileOf named))
  | timeout {table : Table} (provides : Provides named files table) {text : String}
      {fault : Text.NumeralFault} (told : textOf table "timeout_secs" = some text)
      (numeral : Text.readNatural64 text.toList = .error fault) :
      Refused named files (.notANumber (fileOf named) "timeout_secs" text fault)
  | pollInterval {table : Table} (provides : Provides named files table)
      (timeout : NumberAt table "timeout_secs") {text : String} {fault : Text.NumeralFault}
      (told : textOf table "poll_interval_ms" = some text)
      (numeral : Text.readNatural64 text.toList = .error fault) :
      Refused named files (.notANumber (fileOf named) "poll_interval_ms" text fault)

section File

variable {named : Option String} {files : FileReader} {table : Table} (s : Settings)

private theorem Provides.distinct (provides : Provides named files table) : table.Distinct := by
  cases provides with
  | file content read => exact Table.parse?_distinct read
  | absent unnamed absent => exact Table.distinct_nil

private theorem withTable_nil (path : String) : s.withTable path [] = .ok s :=
  rfl

private theorem Provides.withFile_eq (provides : Provides named files table) :
    s.withFile named files = s.withTable (fileOf named) table := by
  cases provides with
  | file content read =>
    rw [fileOf] at content
    simp only [withFile, content, Text.decodeText?_eq_some_iff.mpr rfl, read, fileOf]
  | absent unnamed absent =>
    subst unnamed
    simp only [withFile, Option.getD_none, absent, Option.isNone_none, if_true, withTable_nil]

private theorem withTable_of_numbers (timeout : NumberAt table "timeout_secs")
    (poll : NumberAt table "poll_interval_ms") (path : String) :
    s.withTable path table =
      .ok
        { baseUrl := (textOf table "base_url").getD s.baseUrl
          timeoutSecs := ((textOf table "timeout_secs").bind number?).getD s.timeoutSecs
          pollIntervalMs := ((textOf table "poll_interval_ms").bind number?).getD s.pollIntervalMs
          endpoints :=
            { status := (textOf table "status_path").getD s.endpoints.status
              directory := (textOf table "directory_path").getD s.endpoints.directory
              command := (textOf table "command_path").getD s.endpoints.command } } := by
  rw [withTable, numberOf_of_numberAt timeout, numberOf_of_numberAt poll]
  rfl

private theorem Refused.withFile_eq {fault : SettingsFault} (refused : Refused named files fault) :
    s.withFile named files = .error fault := by
  cases refused with
  | absent explicit absent =>
    subst explicit
    simp only [withFile, Option.getD_some, absent]
    rfl
  | @unreadable fault present unread =>
    rw [fileOf] at unread
    simp only [withFile, unread]
    cases fault with
    | notFound => exact (present rfl).elim
    | _ => rfl
  | @notText content read stray =>
    have unread : Text.decodeText? content = none := by
      cases decoded : Text.decodeText? content with
      | none => rfl
      | some text => exact (stray text (Text.decodeText?_eq_some_iff.mp decoded)).elim
    rw [fileOf] at read
    simp only [withFile, read, unread]
    rfl
  | noTable content unread =>
    rw [fileOf] at content
    simp only [withFile, content, Text.decodeText?_eq_some_iff.mpr rfl, unread]
    rfl
  | timeout provides told numeral =>
    rw [provides.withFile_eq, withTable, numberOf_of_fault told numeral]
    rfl
  | pollInterval provides timeout told numeral =>
    rw [provides.withFile_eq, withTable, numberOf_of_numberAt timeout,
      numberOf_of_fault told numeral]
    rfl

/-- Whatever a file is like, it provides a table with its numbers or is refused. -/
theorem provides_or_refused (named : Option String) (files : FileReader) :
    (∃ table, Provides named files table ∧ NumberAt table "timeout_secs" ∧
      NumberAt table "poll_interval_ms") ∨ ∃ fault, Refused named files fault := by
  have numbers : ∀ {table}, Provides named files table →
      (∃ table, Provides named files table ∧ NumberAt table "timeout_secs" ∧
        NumberAt table "poll_interval_ms") ∨ ∃ fault, Refused named files fault := by
    intro table provides
    rcases numberAt_or table "timeout_secs" with timeout | ⟨text, fault, told, numeral⟩
    · rcases numberAt_or table "poll_interval_ms" with poll | ⟨text, fault, told, numeral⟩
      · exact .inl ⟨table, provides, timeout, poll⟩
      · exact .inr ⟨_, .pollInterval provides timeout told numeral⟩
    · exact .inr ⟨_, .timeout provides told numeral⟩
  cases read : files (fileOf named) with
  | error fault =>
    by_cases present : fault = .notFound
    · subst present
      cases named with
      | none => exact numbers (.absent rfl read)
      | some path => exact .inr ⟨_, .absent rfl read⟩
    · exact .inr ⟨_, .unreadable present read⟩
  | ok content =>
    cases decoded : Text.decodeText? content with
    | none =>
      refine .inr ⟨_, .notText read fun text same => ?_⟩
      rw [Text.decodeText?_eq_some_iff.mpr same] at decoded
      cases decoded
    | some text =>
      rw [Text.decodeText?_eq_some_iff.mp decoded] at read
      cases table : Table.parse? text with
      | none => exact .inr ⟨_, .noTable read table⟩
      | some table' => exact numbers (.file read table)

end File

def firstOf {α : Type} (sources : List (Option α)) (default : α) : α :=
  (sources.findSome? id).getD default

private theorem firstOf_nil {α : Type} (default : α) : firstOf [] default = default :=
  rfl

private theorem firstOf_cons {α : Type} (source : Option α) (sources : List (Option α))
    (default : α) :
    firstOf (source :: sources) default = source.getD (firstOf sources default) := by
  cases source <;> rfl

def merged (i : Invocation) (env : Environment) (table : Table) : Settings :=
  { baseUrl :=
      firstOf [i.baseUrl, env "APP__BASE_URL", env "SHOWCTL_BASE_URL", textOf table "base_url"]
        "http://127.0.0.1/json"
    timeoutSecs :=
      firstOf [i.timeoutSecs, (env "APP__TIMEOUT_SECS").bind number?,
        (textOf table "timeout_secs").bind number?] 5
    pollIntervalMs :=
      firstOf [(env "APP__POLL_INTERVAL_MS").bind number?,
        (textOf table "poll_interval_ms").bind number?] 1000
    endpoints :=
      { status := firstOf [textOf table "status_path"] "showfile/status"
        directory := firstOf [textOf table "directory_path"] "showfile/directory"
        command := firstOf [env "APP__COMMAND_PATH", textOf table "command_path"] "showfile" } }

/-- How the settings of a run come from its sources. -/
structure MergesLayers (i : Invocation) (files : FileReader) (env : Environment) : Prop where
  loaded_iff : ∀ s, settingsOf i files env = .ok s ↔
    ∃ table, Provides i.config files table ∧ NumberAt table "timeout_secs" ∧
      NumberAt table "poll_interval_ms" ∧ s = merged i env table
  refused_iff : ∀ fault, settingsOf i files env = .error fault ↔ Refused i.config files fault
  /-- The keys of a file can stand in any order. -/
  distinct : ∀ table, Provides i.config files table → table.Distinct
  alike : ∀ files' table table', Provides i.config files table → Provides i.config files' table' →
    table.Alike table' → settingsOf i files env = settingsOf i files' env

section Merge

variable {i : Invocation} {files : FileReader} {table : Table} (env : Environment)

theorem settingsOf_of_numbers (provides : Provides i.config files table)
    (timeout : NumberAt table "timeout_secs") (poll : NumberAt table "poll_interval_ms") :
    settingsOf i files env = .ok (merged i env table) := by
  rw [settingsOf, load, provides.withFile_eq, withTable_of_numbers _ timeout poll]
  simp only [Except.map, withEnvironment, merged, firstOf_cons, firstOf_nil, numberIn, number?,
    Option.getD_or]
  rfl

theorem settingsOf_of_refused {fault : SettingsFault} (refused : Refused i.config files fault) :
    settingsOf i files env = .error fault := by
  rw [settingsOf, load, refused.withFile_eq]
  rfl

end Merge

/-- An empty text counts where a text is wanted, and does not hide a number. -/
example :
    merged ⟨none, none, none, .status⟩
      (fun name => if name = "SHOWCTL_BASE_URL" ∨ name = "APP__TIMEOUT_SECS" then some "" else none)
      [("timeout_secs", .integer 7), ("base_url", .text "http://player")] =
        { Settings.standard with baseUrl := "", timeoutSecs := 7 } := by
  cbv

end ShowRemote.Settings
