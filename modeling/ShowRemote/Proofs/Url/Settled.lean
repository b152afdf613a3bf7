import ShowRemote.Proofs.Url.Authority
import ShowRemote.Proofs.Url.Trail

/-!
URLs of the web that are read again. All parts of a URL that has been read are settled: its scheme
is in lower case, its authority and its path are what their own texts are read as. So a URL that has
no query and no fragment is read from its text (`parse_write`), whatever text it was read from first
(`isSettled_of_parse`), unless the text of its host is too long to be read.
-/

set_option autoImplicit false

namespace ShowRemote.Url

/-- A scheme that is read as it is written. -/
structure IsScheme (scheme : List Char) : Prop where
  letter : scheme.head?.any Char.isAlpha
  chars : scheme.all isSchemeChar
  lower : Text.lowerAscii scheme = scheme
  visible : scheme.all isVisible
  colon : ':' ∉ scheme

private theorem isScheme_of_web {scheme : List Char} (web : kindOf scheme = .web) :
    IsScheme scheme := by
  have mem : scheme ∈
      ["http".toList, "https".toList, "ws".toList, "wss".toList, "ftp".toList] := by
    unfold kindOf at web
    split at web
    · cases web
    · split at web
      · next member => exact List.contains_iff_mem.mp member
      · cases web
  simp only [List.mem_cons, List.not_mem_nil, or_false] at mem
  rcases mem with rfl | rfl | rfl | rfl | rfl <;> constructor <;> decide

private theorem IsScheme.splitScheme?_append {scheme : List Char} (isScheme : IsScheme scheme)
    (rest : List Char) : splitScheme? (scheme ++ ':' :: rest) = some (scheme, rest) := by
  have unbroken := withoutBreaks_of_isVisible (List.all_eq_true.mp isScheme.visible)
  rw [splitScheme?, Text.splitFirst?_append_cons isScheme.colon]
  simp only [unbroken, isScheme.letter, isScheme.chars, isScheme.lower]
  rfl

/-- A URL of the web all of whose parts are settled. -/
structure IsSettled (url : Url) (a : Authority) (t : Trail) : Prop where
  web : kindOf url.scheme = .web
  authority : url.authority = some a
  isAuthority : IsAuthority url.scheme a
  path : url.path = .rooted t
  isTrail : IsTrail t

/-- What is read as a URL of the web is settled. -/
theorem isSettled_of_parse {raw : List Char} {url : Url} (parsed : parse raw = .ok url)
    (web : kindOf url.scheme = .web) : ∃ a t, IsSettled url a t := by
  obtain ⟨s, read⟩ := exists_fromAuthority_of_parse parsed web
  obtain ⟨a, rest, server, same⟩ := exists_of_fromAuthority read
  have path : url.path = readPath (kindOf url.scheme) (rest.takeWhile fun c => !endsPath c) :=
    congrArg Url.path same
  refine ⟨a, follow .web [] (withoutSlash true (rest.takeWhile fun c => !endsPath c)), ?_⟩
  constructor
  case web => exact web
  case authority => exact congrArg Url.authority same
  case isAuthority => exact isAuthority_of_read web server
  case path =>
    rw [path, web, readPath, if_neg (by simp)]
    rfl
  case isTrail => exact isTrail_follow _

section Path

variable {t : Trail} (isTrail : IsTrail t)

include isTrail

private theorem IsTrail.not_endsPath : ∀ c ∈ t.write, (!endsPath c) = true := by
  intro c mem
  have spared := (isTrail.escaped_write c mem).2
  have query : c ≠ '?' := ne_of_spared spared rfl
  have fragment : c ≠ '#' := ne_of_spared spared rfl
  simp [endsPath, query, fragment]

theorem IsTrail.readPath_write : readPath .web t.write = .rooted t := by
  rw [readPath, if_neg (by simp)]
  exact congrArg Path.rooted isTrail.follow_write

private theorem IsTrail.withRest_write {scheme : List Char} (web : kindOf scheme = .web)
    (authority : Option Authority) :
    withRest scheme authority (readPath (kindOf scheme)) t.write =
      ⟨scheme, authority, .rooted t, none, none⟩ := by
  have inside := isTrail.not_endsPath
  rw [withRest, List.takeWhile_eq_self_iff.mpr inside, List.dropWhile_eq_nil_iff.mpr inside, web,
    isTrail.readPath_write]
  rfl

end Path

namespace IsSettled

variable {url : Url} {a : Authority} {t : Trail} (settled : IsSettled url a t)

include settled

private theorem write_eq (query : url.query = none) (fragment : url.fragment = none) :
    url.write = url.scheme ++ ':' :: '/' :: '/' :: (a.write ++ t.write) := by
  have path : url.path.write url.authority.isSome = t.write := by
    rw [settled.path, settled.authority]
    rfl
  rw [write, path, settled.authority, query, fragment]
  simp

theorem visible_write (query : url.query = none) (fragment : url.fragment = none) :
    ∀ c ∈ url.write, isVisible c := by
  intro c mem
  rw [settled.write_eq query fragment] at mem
  simp only [List.mem_append, List.mem_cons] at mem
  rcases mem with scheme | rfl | rfl | rfl | authority | path
  · exact List.all_eq_true.mp (isScheme_of_web settled.web).visible c scheme
  · rfl
  · rfl
  · rfl
  · exact isVisible_of_inAuthority (settled.isAuthority.inAuthority_write c authority)
  · exact isVisible_of_escaped rfl settled.isTrail.escaped_write c path

private theorem dropWhile_isSlash :
    ('/' :: '/' :: (a.write ++ t.write)).dropWhile isSlash = a.write ++ t.write := by
  have nonempty : a.write ≠ [] := by
    have host := settled.isAuthority.host.write_ne_nil
    rw [Authority.write, List.append_assoc]
    exact List.append_ne_nil_of_right_ne_nil _ (List.append_ne_nil_of_left_ne_nil host _)
  obtain ⟨c, rest, written⟩ := List.exists_cons_of_ne_nil nonempty
  have inside : inAuthority c :=
    settled.isAuthority.inAuthority_write c (written ▸ List.mem_cons_self)
  have goesOn := not_endsAuthority_of_inAuthority inside
  have slash : isSlash c = false := by
    simp only [endsAuthority, separates, Bool.or_eq_false_iff] at goesOn
    simpa [isSlash] using goesOn.1.1
  have head : ∀ d ∈ (a.write ++ t.write).head?, isSlash d = false := by
    rw [written]
    rintro d ⟨⟩
    exact slash
  have slashes : ∀ d ∈ ['/', '/'], isSlash d := by simp [isSlash]
  exact Text.dropWhile_append_of_all slashes head

theorem parse_write (short : a.host.isShort) (query : url.query = none)
    (fragment : url.fragment = none) : parse url.write = .ok url := by
  have visible := settled.visible_write query fragment
  have written := settled.write_eq query fragment
  have behind : ∀ c ∈ '/' :: '/' :: (a.write ++ t.write), isVisible c := by
    intro c mem
    rw [written] at visible
    exact visible c (List.mem_append_right _ (List.mem_cons_of_mem _ mem))
  have cut : splitScheme? url.write = some (url.scheme, '/' :: '/' :: (a.write ++ t.write)) := by
    rw [written]
    exact (isScheme_of_web settled.web).splitScheme?_append _
  obtain ⟨rest, path⟩ : ∃ rest, t.write = '/' :: rest := ⟨_, rfl⟩
  have server : readAuthority url.scheme (a.write ++ t.write) = .ok (a, t.write) := by
    rw [path]
    exact settled.isAuthority.readAuthority_write settled.web short rest
  rw [parse, read, trimEnds_of_isVisible visible, cut]
  simp only [fromScheme, withoutBreaks_of_isVisible behind, settled.web, Option.filter_none,
    settled.dropWhile_isSlash, fromAuthority, server]
  show Except.ok (withRest _ _ _ _) = _
  rw [← settled.web, settled.isTrail.withRest_write settled.web]
  obtain ⟨scheme, authority, path', query', fragment'⟩ := url
  cases settled.authority
  cases settled.path
  cases query
  cases fragment
  rfl

end IsSettled

end ShowRemote.Url
