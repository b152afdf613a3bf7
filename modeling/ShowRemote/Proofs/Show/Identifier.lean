import ShowRemote.Http.Exchange
import ShowRemote.Proofs.Show.Command
import ShowRemote.Proofs.Show.Listing
import ShowRemote.Proofs.Show.Number
import ShowRemote.Proofs.Text.Utf8

/-!
The way of an identifier, from a listing to an option, from the option to the body of a selection,
and from a status to its row. It is the same string everywhere, whatever characters it has and
however the player has escaped them: the number in it decides whether a status is shown, and changes
nothing of what is shown.

Main statement: `identifiers_travel_verbatim`.
-/

set_option autoImplicit false

namespace ShowRemote.Show

open Http (Outgoing)
open Json (Spells SpellsChar SpellsDocument SpellsString)

/-- A text is a listing that has a string under a key. Of several mappings the last one counts, and
in it the last value of the key. -/
def ListsAs (text : List Char) (key s : String) : Prop :=
  ∃ raw shows, SpellsDocument text raw ∧ raw.lastMember? "shows" = some (.object shows) ∧
    Json.last? key shows = some (.string s)

/-- A text is a status whose show is a string. -/
def ReportsShow (text : List Char) (s : String) : Prop :=
  ∃ raw, SpellsDocument text raw ∧ raw.lastMember? "show" = some (.string s)

/-- An answer of success to a get that has a text for its body. -/
def Brings (answer : Except TransportFault Json) (text : List Char) : Prop :=
  ∃ (o : Outgoing) (path : String) (status : Nat), o.message = .get path ∧
    Outgoing.isSuccess status ∧ answer = o.settle (.answered ⟨status, Text.utf8Bytes text, true⟩)

private theorem Brings.answer_eq {answer : Except TransportFault Json} {text : List Char}
    {raw : Json} (brings : Brings answer text) (spells : SpellsDocument text raw) :
    answer = .ok raw.settle := by
  obtain ⟨o, path, status, gets, success, rfl⟩ := brings
  rw [Outgoing.settle, if_pos success, gets]
  show Outgoing.document o.url _ = _
  rw [Outgoing.document, if_pos rfl, Text.symbolsOfBytes_utf8Bytes, Json.parse_of_spells spells]

section Texts

variable {name front : List Char} {key s : String}

private theorem spells_single {depth : Nat} {v : Json} (named : SpellsString name key.toList)
    (has : Spells depth front v) :
    Spells (depth + 1) ('{' :: ([] ++ ('"' :: (name ++ '"' :: ([] ++ ':' :: ([] ++ front))) ++
      ([] ++ ['}'])))) (.object [(key, v)]) :=
  .object rfl <| .items Json.Read.isBlank_nil
    (.mk named Json.Read.isBlank_nil Json.Read.isBlank_nil has) (.close Json.Read.isBlank_nil)

private theorem spells_quoted_name (name : String)
    (plain : name.toList.flatMap Json.escape = name.toList) :
    SpellsString name.toList name.toList := by
  have quoted := Json.spells_quoted name.toList
  rwa [plain] at quoted

private theorem listsAs_of_spells (named : SpellsString name key.toList)
    (spelled : SpellsString front s.toList) :
    ListsAs (['{', '"', 's', 'h', 'o', 'w', 's', '"', ':', '{', '"'] ++
      (name ++ ['"', ':', '"'] ++ (front ++ ['"', '}', '}']))) key s := by
  have value : Spells (Json.greatestDepth - 2) ('"' :: (front ++ ['"'])) (.string s) :=
    .string spelled
  have shows := spells_quoted_name "shows" (by simp [Json.escape])
  have spells := SpellsDocument.bare (spells_single shows (spells_single named value))
  simp only [List.nil_append, List.cons_append, List.append_assoc] at spells ⊢
  exact ⟨_, _, spells, rfl, by simp [Json.last?]⟩

private theorem reportsShow_of_spells (spelled : SpellsString front s.toList) :
    ReportsShow (['{', '"', 's', 'h', 'o', 'w', '"', ':', '"'] ++ (front ++ ['"', '}'])) s := by
  have value : Spells (Json.greatestDepth - 1) ('"' :: (front ++ ['"'])) (.string s) :=
    .string spelled
  have show' := spells_quoted_name "show" (by simp [Json.escape])
  have spells := SpellsDocument.bare (spells_single show' value)
  simp only [List.nil_append, List.cons_append, List.append_assoc] at spells ⊢
  exact ⟨_, spells, rfl⟩

end Texts

private theorem Directory.exists_entry {shows : List (String × Json)} {key s : String}
    (last : Json.last? key shows = some (.string s)) :
    ∃ position : Nat, ((Json.names shows).eraseDups.filterMap (lastListed? shows))[position]? =
      some ⟨key, ⟨s⟩⟩ := by
  rw [← List.mem_iff_getElem?, List.mem_filterMap]
  refine ⟨key, ?_, ?_⟩
  · rw [List.mem_eraseDups]
    rw [Json.last?, Option.map_eq_some_iff] at last
    obtain ⟨member, found, -⟩ := last
    obtain ⟨mem, same⟩ := List.mem_filter.mp (List.mem_of_getLast? found)
    exact List.mem_map.mpr ⟨member, mem, of_decide_eq_true same⟩
  · rw [lastListed?, last]
    rfl

private theorem Directory.options_getElem? {d : Directory} {position : Nat} {entry : DirectoryEntry}
    (listed : d.entries[position]? = some entry) :
    d.options[position]? = some ⟨entry.id.text, entry.id.text⟩ := by
  rw [options, ids, List.map_map, List.getElem?_map, listed]
  rfl

private theorem settleDirectory_listed {x : Session} {sequence : Nat}
    (newer : x.directoryApplied < sequence) {raw : Json} {shows : List (String × Json)}
    (last : raw.lastMember? "shows" = some (.object shows)) :
    (x.settleDirectory sequence (.ok raw.settle)).session.directory =
      ⟨(Json.names shows).eraseDups.filterMap (Directory.lastListed? shows)⟩ := by
  rw [Session.settleDirectory, Directory.ofJson_listed last]
  show (if sequence ≤ x.directoryApplied then _ else _ : Settled).session.directory = _
  rw [if_neg (Nat.not_le.mpr newer)]
  rfl

/-- A string denotes a show number between blanks. -/
def NamesNumber (s : String) : Prop :=
  ∃ n : Int, Text.Denotes (Text.trimBlanks s.toList) n ∧ 0 ≤ n ∧ n ≤ 99

private theorem isSome_parse?_iff (s : String) : (ShowNumber.parse? s).isSome ↔ NamesNumber s := by
  rw [Option.isSome_iff_exists]
  constructor
  · rintro ⟨number, parsed⟩
    have le := number.value_le
    unfold greatestNumber at le
    exact ⟨number.value, (ShowNumber.parse?_eq_some_iff s number).mp parsed, by omega, by omega⟩
  · rintro ⟨n, denotes, least, greatest⟩
    obtain ⟨k, rfl⟩ := Int.eq_ofNat_of_zero_le least
    have le : k ≤ greatestNumber := by
      unfold greatestNumber
      omega
    exact ⟨⟨k, le⟩, (ShowNumber.parse?_eq_some_iff s ⟨k, le⟩).mpr denotes⟩

open Classical in
private theorem current_of_reported {raw : Json} {s : String}
    (last : raw.lastMember? "show" = some (.string s)) :
    (StatusView.ofStatus (Status.ofJson raw.settle)).current =
      if NamesNumber s then s else "None" := by
  have member : raw.settle.member? "show" = some (.string s) := by
    rw [Json.member?_settle, last]
    rfl
  have current : (Status.ofJson raw.settle).current = ShowId.ofJson? (.string s) := by
    show (raw.settle.member? "show").bind ShowId.ofJson? = _
    rw [member]
    rfl
  show ((Status.ofJson raw.settle).current.map ShowId.text).getD "None" = _
  rw [current, ShowId.ofJson?]
  by_cases named : NamesNumber s
  · rw [if_pos ((isSome_parse?_iff s).mpr named), if_pos named]
    rfl
  · rw [if_neg (mt (isSome_parse?_iff s).mp named), if_neg named]
    rfl

private theorem row_of_reported {x : Session} {sequence : Nat} (newer : x.refreshApplied < sequence)
    (document : Json) :
    (x.settleRefresh sequence (.ok document)).session.view.rows.lookup "Show" =
      some (StatusView.ofStatus (Status.ofJson document)).current := by
  rw [Session.settleRefresh, if_neg (Nat.not_le.mpr newer)]
  rfl

/-- What becomes of a string that a player uses for an identifier. -/
structure Travels (s : String) : Prop where
  /-- Under whatever key and however escaped it is listed, it is offered in the place of the key. -/
  listed : ∀ (x : Session) (sequence : Nat) (answer : Except TransportFault Json)
    (text : List Char) (key : String), x.directoryApplied < sequence → Brings answer text →
      ListsAs text key s → ∃ position : Nat,
        (x.settleDirectory sequence answer).session.directory.entries[position]? =
          some ⟨key, ⟨s⟩⟩ ∧
        (x.settleDirectory sequence answer).session.options[position]? = some ⟨s, s⟩
  /-- An option that is chosen is sent as the only member of a body. -/
  posted : ∀ (d : Desk) (option : ShowOption), option.value = s → ∃ number body,
    (d.step (.call (.command (.selectShow ⟨option.value⟩)))).2.sent =
      some ⟨number, .post d.endpoints.command body⟩ ∧
    Json.parse (Text.symbolsOfBytes (Text.utf8Bytes body.write)) =
      .ok (.object [("show", .string s)])
  shown : ∀ (x : Session) (sequence : Nat) (answer : Except TransportFault Json)
    (text : List Char), x.refreshApplied < sequence → Brings answer text → ReportsShow text s →
      NamesNumber s → (x.settleRefresh sequence answer).session.view.rows.lookup "Show" = some s
  unshown : ∀ (x : Session) (sequence : Nat) (answer : Except TransportFault Json)
    (text : List Char), x.refreshApplied < sequence → Brings answer text → ReportsShow text s →
      ¬ NamesNumber s →
        (x.settleRefresh sequence answer).session.view.rows.lookup "Show" = some "None"

/-- An identifier is the same string wherever it goes. -/
theorem identifiers_travel_verbatim (s : String) : Travels s := by
  constructor
  case listed =>
    rintro x sequence answer text key newer brings ⟨raw, shows, spells, last, named⟩
    obtain ⟨position, entry⟩ := Directory.exists_entry named
    have directory := settleDirectory_listed newer last
    rw [← brings.answer_eq spells] at directory
    have listed : (x.settleDirectory sequence answer).session.directory.entries[position]? =
        some ⟨key, ⟨s⟩⟩ := by
      rw [directory]
      exact entry
    exact ⟨position, listed, Directory.options_getElem? listed⟩
  case posted =>
    rintro d option rfl
    have parsed := (Intent.selectShow ⟨option.value⟩).command.parse_write
    rw [← Command.write_toJson, ← Text.symbolsOfBytes_utf8Bytes] at parsed
    have carried : (Call.command (.selectShow ⟨option.value⟩)).intent d.session.loopNext =
        some (.selectShow ⟨option.value⟩) := rfl
    rw [Desk.step_post carried]
    exact ⟨_, _, rfl, parsed⟩
  case shown =>
    rintro x sequence answer text newer brings ⟨raw, spells, last⟩ named
    rw [brings.answer_eq spells, row_of_reported newer, current_of_reported last, if_pos named]
  case unshown =>
    rintro x sequence answer text newer brings ⟨raw, spells, last⟩ unnamed
    rw [brings.answer_eq spells, row_of_reported newer, current_of_reported last, if_neg unnamed]

/-- A blank, a sign and a leading zero stay, and so does a sign that the player escapes. -/
theorem escaped_identifier_is_offered_and_shown :
    let brought (text : List Char) : Except TransportFault Json :=
      Outgoing.settle ⟨⟨"http".toList, none, .rooted ⟨[], []⟩, none, none⟩, .get ""⟩
        (.answered ⟨200, Text.utf8Bytes text, true⟩)
    let listing := "\x7b\"shows\":\x7b\"7\":\" \\u002b07\"\x7d\x7d".toList
    let status := "\x7b\"show\":\" \\u002b07\"\x7d".toList
    (∃ position : Nat,
      (Session.fresh.settleDirectory 1 (brought listing)).session.options[position]? =
        some ⟨" +07", " +07"⟩) ∧
      (Session.fresh.settleRefresh 1 (brought status)).session.view.rows.lookup "Show" =
        some " +07" := by
  intro brought listing status
  have brings : ∀ text, Brings (brought text) text := fun text => ⟨_, "", 200, rfl, rfl, rfl⟩
  have blank : SpellsChar [' '] ' ' := .plain (by decide) (by decide) (by decide)
  have plus : SpellsChar ['\\', 'u', '0', '0', '2', 'b'] '+' :=
    .unit (.digits (w := 0) (x := 0) (y := 2) (z := 11) ⟨by decide, by decide⟩
      ⟨by decide, by decide⟩ ⟨by decide, by decide⟩ ⟨by decide, by decide⟩)
  have zero : SpellsChar ['0'] '0' := .plain (by decide) (by decide) (by decide)
  have seven : SpellsChar ['7'] '7' := .plain (by decide) (by decide) (by decide)
  have spelled : SpellsString " \\u002b07".toList " +07".toList :=
    .cons blank (.cons plus (.cons zero (.cons seven .nil)))
  have named : SpellsString ['7'] "7".toList := .cons seven .nil
  obtain ⟨position, -, offered⟩ :=
    (identifiers_travel_verbatim " +07").listed .fresh 1 _ listing "7" Nat.one_pos
      (brings listing) (listsAs_of_spells named spelled)
  refine ⟨⟨position, offered⟩, ?_⟩
  exact (identifiers_travel_verbatim " +07").shown .fresh 1 _ status Nat.one_pos (brings status)
    (reportsShow_of_spells spelled) ((isSome_parse?_iff _).mp (by decide +kernel))

end ShowRemote.Show
