import ShowRemote.CommandLine.Run
import ShowRemote.Http.Normal
import ShowRemote.Proofs.Http.Base
import ShowRemote.Proofs.Url.Settled

/-!
The base that a text is normalized to. The path of a URL of the web is settled when it is read, so
reading it once more with a slash behind it changes nothing else (`normalize_eq_asBase`), and the
text of a base whose host can be written in ASCII is read as that base.

Main statement: `normalizing_is_settled`.
-/

set_option autoImplicit false

namespace ShowRemote

namespace Url

private theorem Trail.write_asFolder {t : Trail} (leaf : t.leaf ≠ []) :
    t.asFolder.write = t.write ++ ['/'] := by
  rw [asFolder, if_neg leaf]
  simp [write]

namespace IsSettled

variable {url : Url} {a : Authority} {t : Trail} (settled : IsSettled url a t)

include settled

private theorem pathText_eq : url.pathText = t.write := by
  rw [pathText, settled.path]
  rfl

private theorem closed_iff : url.pathText.getLast? = some '/' ↔ t.leaf = [] := by
  rw [settled.pathText_eq]
  exact settled.isTrail.getLast?_write

/-- The text of a settled path with a slash behind it is read as the same path, closed. -/
private theorem withPath_closed (leaf : t.leaf ≠ []) :
    url.withPath (url.pathText ++ ['/']) = { url with path := .rooted t.asFolder } := by
  have isTrail := settled.isTrail.asFolder
  have visible : ∀ c ∈ t.asFolder.write, isVisible c :=
    isVisible_of_escaped rfl isTrail.escaped_write
  rw [withPath, settled.pathText_eq, ← Trail.write_asFolder leaf,
    withoutBreaks_of_isVisible visible, settled.web, isTrail.readPath_write]

private theorem closePath_eq : Http.closePath url = { url with path := .rooted t.asFolder } := by
  by_cases leaf : t.leaf = []
  · have same : t.asFolder = t := by rw [Trail.asFolder, if_pos leaf]
    rw [Http.closePath, if_pos (settled.closed_iff.mpr leaf), same, ← settled.path]
  · rw [Http.closePath, if_neg (mt settled.closed_iff.mp leaf), settled.withPath_closed leaf]

private theorem asBase_eq : Http.asBase url =
    { url with path := .rooted t.asFolder, query := none, fragment := none } := by
  rw [Http.asBase, settled.path, settled.web]
  rfl

theorem normalize_eq_asBase : Http.normalize url = Http.asBase url := by
  rw [Http.normalize, settled.closePath_eq, settled.asBase_eq]

private theorem asBase : IsSettled (Http.asBase url) a t.asFolder := by
  have base := settled.asBase_eq
  constructor
  case web => exact settled.web
  case authority => exact settled.authority
  case isAuthority => exact settled.isAuthority
  case path => rw [base]
  case isTrail => exact settled.isTrail.asFolder

end IsSettled
end Url

namespace Http

open CommandLine (Invocation settingsOf)
open Show (TransportFault)

/-- A URL of the web as a base: the same server, and the same path with a slash at its end. -/
structure Normalizes (given base : Url) : Prop where
  steps : base = normalize given
  scheme : base.scheme = given.scheme
  server : ∃ a, given.authority = some a ∧ base.authority = some a
  path : base.pathText =
    if given.pathText.getLast? = some '/' then given.pathText else given.pathText ++ ['/']
  folder : base.pathText.getLast? = some '/'
  bare : base.query = none ∧ base.fragment = none
  /-- Only a host outside ASCII may be written as a code that is too long to be read. -/
  again : ∀ a, given.authority = some a → a.host.IsAscii → readBase base.text = .ok base

private theorem readBase_text {base : Url} {a : Url.Authority} {t : Url.Trail}
    (settled : Url.IsSettled base a t) (isAscii : a.host.IsAscii) (based : asBase base = base) :
    readBase base.text = .ok base := by
  have query : base.query = none := by rw [← based]; rfl
  have fragment : base.fragment = none := by rw [← based]; rfl
  have visible := settled.visible_write query fragment
  have hierarchy : base.isText = false := by rw [Url.isText, settled.path]
  rw [readBase, Url.text, String.toList_ofList, Url.trimBlanks_of_isVisible visible,
    settled.parse_write (Url.Host.isShort_of_isAscii isAscii) query fragment]
  simp only [hierarchy, based]
  rfl

private theorem normalizes_asBase {given : Url} {a : Url.Authority} {t : Url.Trail}
    (settled : Url.IsSettled given a t) : Normalizes given (asBase given) := by
  have base := settled.asBase
  have path : (asBase given).pathText = t.asFolder.write := base.pathText_eq
  constructor
  case steps => exact settled.normalize_eq_asBase.symm
  case scheme => rfl
  case server => exact ⟨a, settled.authority, base.authority⟩
  case path =>
    rw [path]
    by_cases leaf : t.leaf = []
    · rw [if_pos (settled.closed_iff.mpr leaf), settled.pathText_eq, Url.Trail.asFolder,
        if_pos leaf]
    · rw [if_neg (mt settled.closed_iff.mp leaf), settled.pathText_eq,
        Url.Trail.write_asFolder leaf]
  case folder => exact base.closed_iff.mpr t.leaf_asFolder
  case bare => exact ⟨rfl, rfl⟩
  case again =>
    intro a' authority isAscii
    cases settled.authority.symm.trans authority
    exact readBase_text base isAscii (asBase_asBase given)

/-- What becomes of a text that is no base. -/
structure Rejects (raw : String) : Prop where
  unparsable : ∀ fault, Url.parse (Text.trimBlanks raw.toList) = .error fault →
    readBase raw = .error (.invalidBaseUrl raw fault.message)
  unbased : ∀ given, Url.parse (Text.trimBlanks raw.toList) = .ok given → given.isText = true →
    readBase raw = .error (.invalidBaseUrl raw "url cannot be used as a base")
  others : ∀ given, Url.parse (Text.trimBlanks raw.toList) = .ok given → given.isText = false →
    readBase raw = .ok (asBase given)
  given : ∀ fault, readBase raw = .error fault → ∃ reason, fault = .invalidBaseUrl raw reason
  /-- A run with such a text fails before anything is sent. -/
  unsent : ∀ fault, readBase raw = .error fault →
    ∀ (arguments : List String) (i : Invocation) (files : Settings.FileReader)
      (env : Settings.Environment) (settings : Settings),
      CommandLine.parse arguments = .run i → settingsOf i files env = .ok settings →
        settings.baseUrl = raw → ∀ (otherwise : Exchange) (exchanges : List Exchange),
          let t := (CommandLine.run arguments files env).play otherwise exchanges
          t.requests = [] ∧ t.result.exit = 1

private theorem rejects (raw : String) : Rejects raw := by
  constructor
  case unparsable =>
    intro fault failed
    rw [readBase, failed]
  case unbased =>
    intro given parsed text
    rw [readBase, parsed]
    exact if_pos text
  case others =>
    intro given parsed hierarchy
    rw [readBase, parsed]
    simp only [hierarchy]
    rfl
  case given =>
    intro fault failed
    unfold readBase at failed
    split at failed
    · cases failed
      exact ⟨_, rfl⟩
    · split at failed
      · cases failed
        exact ⟨_, rfl⟩
      · cases failed
  case unsent =>
    intro fault failed arguments i files env settings accepted loaded same otherwise exchanges
    subst same
    have ended : CommandLine.run arguments files env = CommandLine.invoke i settings := by
      rw [CommandLine.run, accepted]
      simp only [loaded]
    rw [ended, CommandLine.invoke, failed]
    exact ⟨rfl, rfl⟩

/-- A base of the web is the URL that was given, with its path closed and nothing behind it, and it
is what its own text is read as if its host can be written in ASCII. A text that is no base is
reported as it was given, and nothing is sent. -/
theorem normalizing_is_settled (raw : String) :
    (∀ base, readBase raw = .ok base → Url.kindOf base.scheme = .web →
      ∃ given, Url.parse (Text.trimBlanks raw.toList) = .ok given ∧ Normalizes given base) ∧
      Rejects raw := by
  refine ⟨?_, rejects raw⟩
  intro base accepted web
  obtain ⟨given, parsed, rfl⟩ := exists_of_readBase accepted
  obtain ⟨a, t, settled⟩ := Url.isSettled_of_parse parsed web
  exact ⟨given, parsed, normalizes_asBase settled⟩

/-- A text with blanks at its ends, credentials, a port, dot segments, an escape, a query and a
fragment is a base; an address without a hierarchy is none, and is reported with its blanks. -/
theorem address_with_everything_is_settled :
    let raw := " http://op:p%40ss@[2001:DB8::1]:08080/a/./b/..//Stage One?x=1#f\t"
    let base : Url := ⟨"http".toList,
      some ⟨some ⟨"op".toList, some "p%40ss".toList⟩, .ipv6 [0x2001, 0xDB8, 0, 0, 0, 0, 0, 1],
        some 8080⟩,
      .rooted ⟨["a".toList, [], "Stage%20One".toList], []⟩, none, none⟩
    let mail := " mailto:player@example.com"
    (readBase raw = .ok base ∧ Url.kindOf base.scheme = .web ∧
      base.text = "http://op:p%40ss@[2001:db8::1]:8080/a//Stage%20One/") ∧
      (∃ given, Url.parse (Text.trimBlanks raw.toList) = .ok given ∧ Normalizes given base) ∧
      readBase base.text = .ok base ∧
      (∃ given, Url.parse (Text.trimBlanks mail.toList) = .ok given ∧ given.isText = true) ∧
      readBase mail = .error (.invalidBaseUrl mail "url cannot be used as a base") := by
  intro raw base mail
  have accepted : readBase raw = .ok base := by decide +kernel
  have web : Url.kindOf base.scheme = .web := rfl
  have text : base.text = "http://op:p%40ss@[2001:db8::1]:8080/a//Stage%20One/" := by
    decide +kernel
  have parsed : Url.parse (Text.trimBlanks mail.toList) =
      .ok ⟨"mailto".toList, none, .text "player@example.com".toList, none, none⟩ := by
    decide +kernel
  have rejected := (normalizing_is_settled mail).2.unbased _ parsed rfl
  obtain ⟨given, settled, normalizes⟩ := (normalizing_is_settled raw).1 base accepted web
  obtain ⟨a, server, same⟩ := normalizes.server
  obtain rfl := Option.some.inj same
  have isAscii : Url.Host.IsAscii (.ipv6 [0x2001, 0xDB8, 0, 0, 0, 0, 0, 1]) :=
    ⟨"[2001:DB8::1]".toList, by decide +kernel, by decide +kernel⟩
  exact ⟨⟨accepted, web, text⟩, ⟨given, settled, normalizes⟩, normalizes.again _ server isAscii,
    ⟨_, parsed, rfl⟩, rejected⟩

end Http
end ShowRemote
