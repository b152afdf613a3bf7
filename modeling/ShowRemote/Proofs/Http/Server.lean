import ShowRemote.Proofs.Http.Base

/-!
The server that a path is requested from. Two slashes in front of a reference name a server, so the
slashes at the start of a path are dropped before it is read. But a reference is read without the
controls and spaces in front of it, and without the tabs and line ends in it, and these can hide two
slashes from being dropped (`HidesSlashes`). Such a path is read as that of another server; every
other one stays on the server of its base.

Main statement: `path_stays_on_server`.
-/

set_option autoImplicit false

namespace ShowRemote

namespace Url

/-- What counts of a reference. -/
def counted (s : List Char) : List Char :=
  withoutBreaks (Text.trimEnds (fun c => c.toNat ≤ 0x20) s)

private theorem mem_of_mem_counted {s : List Char} {c : Char} (mem : c ∈ counted s) : c ∈ s :=
  Text.mem_of_mem_trimEnds (List.mem_of_mem_filter mem)

section Relative

variable {base : Url}

private theorem join_eq_relative (web : kindOf base.scheme = .web) (hierarchy : base.isText = false)
    {s : List Char} (colon : ':' ∉ s) : base.join s = base.relative (counted s) := by
  have colon' : ':' ∉ Text.trimEnds (fun c => c.toNat ≤ 0x20) s :=
    fun mem => colon (Text.mem_of_mem_trimEnds mem)
  rw [join, read, splitScheme?_of_not_mem colon']
  simp only [hierarchy, web]
  show (if (counted s).head? = some '#' then Except.ok (base.withFragment (counted s))
    else base.relative (counted s)) = _
  split
  · next fragment =>
    cases text : counted s with
    | nil =>
      rw [text] at fragment
      cases fragment
    | cons c rest =>
      rw [text] at fragment
      cases fragment
      rfl
  · rfl

private theorem relative_of_not_doubled (base : Url) {s : List Char} (backslash : '\\' ∉ s)
    (single : ¬ ['/', '/'] <+: s) :
    ∃ url, base.relative s = .ok url ∧ url.scheme = base.scheme ∧
      url.authority = base.authority := by
  have slash : ∀ c ∈ s, isSlash c → c = '/' := by
    intro c mem isSlash
    rcases Bool.or_eq_true_iff.mp isSlash with slash | other
    · exact of_decide_eq_true slash
    · rw [of_decide_eq_true other] at mem
      exact (backslash mem).elim
  unfold relative
  split
  · exact ⟨_, rfl, rfl, rfl⟩
  · exact ⟨_, rfl, rfl, rfl⟩
  · exact ⟨_, rfl, rfl, rfl⟩
  · next a rest _ _ =>
    split
    · next first =>
      cases rest with
      | nil => exact ⟨_, rfl, rfl, rfl⟩
      | cons b behind =>
        have other : ¬ isSlash b := by
          intro second
          obtain rfl := slash a List.mem_cons_self first
          obtain rfl := slash b (List.mem_cons_of_mem _ List.mem_cons_self) second
          exact single ⟨behind, rfl⟩
        simp only [if_neg other]
        exact ⟨_, rfl, rfl, rfl⟩
    · exact ⟨_, rfl, rfl, rfl⟩

private theorem relative_doubled (rest : List Char) :
    base.relative ('/' :: '/' :: rest) = fromAuthority base.scheme rest :=
  rfl

private theorem scheme_relative {s : List Char} (backslash : '\\' ∉ s) {url : Url}
    (read : base.relative s = .ok url) : url.scheme = base.scheme := by
  by_cases doubled : ['/', '/'] <+: s
  · obtain ⟨rest, rfl⟩ := doubled
    exact scheme_fromAuthority read
  · obtain ⟨url', read', scheme, -⟩ := relative_of_not_doubled base backslash doubled
    rw [read] at read'
    cases read'
    exact scheme

end Relative

/-- What is read of a text behind two slashes. -/
def serverText (rest : List Char) : List Char :=
  withoutBreaks (rest.rdropWhile fun c => c.toNat ≤ 0x20)

private theorem withoutBreaks_of_all {s : List Char} (all : ∀ c ∈ s, isBreak c) :
    withoutBreaks s = [] := by
  refine List.filter_eq_nil_iff.mpr fun c mem => ?_
  rw [all c mem]
  exact Bool.false_ne_true

private theorem rdropWhile_append_cons {p : Char → Bool} {c : Char} (kept : p c = false)
    (before rest : List Char) :
    (before ++ c :: rest).rdropWhile p = before ++ c :: rest.rdropWhile p := by
  induction rest using List.reverseRecOn with
  | nil =>
    have stops : ¬ p c := by
      rw [kept]
      exact Bool.false_ne_true
    rw [List.rdropWhile_concat_neg _ _ _ stops, List.rdropWhile_nil]
  | append_singleton rest d ih =>
    have last : before ++ c :: (rest ++ [d]) = (before ++ c :: rest) ++ [d] := by simp
    rw [last, List.rdropWhile_concat, List.rdropWhile_concat, ih]
    split
    · rfl
    · simp

private theorem trimEnds_cons {p : Char → Bool} {c : Char} (kept : p c = false) (rest : List Char) :
    Text.trimEnds p (c :: rest) = c :: rest.rdropWhile p := by
  have stops : ¬ p c := by
    rw [kept]
    exact Bool.false_ne_true
  rw [Text.trimEnds, List.dropWhile_cons_of_neg stops]
  exact rdropWhile_append_cons kept [] rest

/-- Two slashes with nothing in front but what does not count, and with nothing else between them,
stand in front of what counts. -/
private theorem counted_of_hidden {controls breaks : List Char}
    (all : ∀ c ∈ controls, c.toNat ≤ 0x20) (all' : ∀ c ∈ breaks, isBreak c) (rest : List Char) :
    counted (controls ++ '/' :: (breaks ++ '/' :: rest)) = '/' :: '/' :: serverText rest := by
  have kept : decide ('/'.toNat ≤ 0x20) = false := by decide
  have front : (controls ++ '/' :: (breaks ++ '/' :: rest)).dropWhile (fun c => c.toNat ≤ 0x20) =
      '/' :: (breaks ++ '/' :: rest) := by
    refine Text.dropWhile_append_of_all (fun c mem => decide_eq_true (all c mem)) ?_
    rintro _ ⟨⟩
    exact kept
  have back := rdropWhile_append_cons (p := fun c => c.toNat ≤ 0x20) kept ('/' :: breaks) rest
  have trimmed : Text.trimEnds (fun c => c.toNat ≤ 0x20)
      (controls ++ '/' :: (breaks ++ '/' :: rest)) =
        ('/' :: breaks) ++ '/' :: rest.rdropWhile fun c => c.toNat ≤ 0x20 := by
    rw [Text.trimEnds, front]
    exact back
  rw [counted, trimmed, withoutBreaks, List.filter_append]
  show '/' :: withoutBreaks breaks ++ '/' :: serverText rest = _
  rw [withoutBreaks_of_all all']
  rfl

private theorem exists_hidden_of_counted {s : List Char} (doubled : ['/', '/'] <+: counted s) :
    ∃ controls breaks rest, s = controls ++ '/' :: (breaks ++ '/' :: rest) ∧
      (∀ c ∈ controls, c.toNat ≤ 0x20) ∧ ∀ c ∈ breaks, isBreak c := by
  obtain ⟨behind, counts⟩ := doubled
  obtain ⟨⟨controls, tail, split, all, -⟩, head, -⟩ :=
    Text.trims_trimEnds (fun c => c.toNat ≤ 0x20) s
  obtain ⟨before, after, trimmed, breaks, -, others⟩ := List.filter_eq_cons_iff.mp counts.symm
  obtain ⟨between, rest, rfl, breaks', -, -⟩ := List.filter_eq_cons_iff.mp others
  -- The first character that is left by trimming is no break.
  have first : before = [] := by
    cases before with
    | nil => rfl
    | cons c before =>
      have kept := head c (by rw [trimmed]; rfl)
      have low := le_of_isBreak (c := c) (by simpa using breaks c List.mem_cons_self)
      simp [low] at kept
  subst first
  refine ⟨controls, between, rest ++ tail, ?_, fun c mem => of_decide_eq_true (all c mem),
    fun c mem => by simpa using breaks' c mem⟩
  rw [split, trimmed]
  simp

end Url

namespace Http

/-- A path with two slashes in front that are not at its start: behind the slashes there stand
controls or spaces, and between the two there are no other characters than tabs and line ends. -/
def HidesSlashes (path rest : List Char) : Prop :=
  ∃ slashes controls breaks, path = slashes ++ (controls ++ '/' :: (breaks ++ '/' :: rest)) ∧
    (∀ c ∈ slashes, c = '/') ∧ controls ≠ [] ∧ (∀ c ∈ controls, c.toNat ≤ 0x20) ∧
    ∀ c ∈ breaks, Url.isBreak c

section Hides

variable {path : String}

private theorem counted_unslashed_of_hides {rest : List Char}
    (hides : HidesSlashes path.toList rest) :
    Url.counted (unslashed path) = '/' :: '/' :: Url.serverText rest := by
  obtain ⟨slashes, controls, breaks, split, slash, nonempty, all, all'⟩ := hides
  have left : unslashed path = controls ++ '/' :: (breaks ++ '/' :: rest) := by
    rw [unslashed, split]
    refine Text.dropWhile_append_of_all (fun c mem => decide_eq_true (slash c mem)) ?_
    intro c mem
    cases controls with
    | nil => exact (nonempty rfl).elim
    | cons d controls =>
      cases mem
      have low := all c List.mem_cons_self
      refine decide_eq_false ?_
      rintro rfl
      exact absurd low (by decide)
  rw [left, Url.counted_of_hidden all all']

private theorem exists_hides_of_doubled (doubled : ['/', '/'] <+: Url.counted (unslashed path)) :
    ∃ rest, HidesSlashes path.toList rest := by
  obtain ⟨controls, breaks, rest, left, all, all'⟩ := Url.exists_hidden_of_counted doubled
  have split := List.takeWhile_append_dropWhile (p := fun c => c = '/') (l := path.toList)
  refine ⟨rest, path.toList.takeWhile fun c => c = '/', controls, breaks, ?_, ?_, ?_, all, all'⟩
  · rw [← left]
    exact split.symm
  · intro c mem
    have slash := List.mem_takeWhile_imp mem
    exact of_decide_eq_true slash
  · rintro rfl
    exact head?_unslashed path (by rw [left]; rfl)

private theorem not_hides_of_visible (visible : ∀ c ∈ (unslashed path).head?, 0x20 < c.toNat) :
    ¬ ∃ rest, HidesSlashes path.toList rest := by
  rintro ⟨rest, hides⟩
  have counts := counted_unslashed_of_hides hides
  cases left : unslashed path with
  | nil =>
    rw [left] at counts
    cases counts
  | cons c others =>
    have high := visible c (by rw [left]; rfl)
    have kept : decide (c.toNat ≤ 0x20) = false := decide_eq_false (by omega)
    have notBreak : ¬ Url.isBreak c := fun isBreak => by
      have low := Url.le_of_isBreak isBreak
      omega
    rw [left, Url.counted, Url.trimEnds_cons kept, Url.withoutBreaks,
      List.filter_cons_of_pos (by simpa using notBreak)] at counts
    obtain ⟨rfl, -⟩ := List.cons.inj counts
    exact head?_unslashed path (by rw [left]; rfl)

end Hides

/-- The server that a path under a base is requested from. -/
structure StaysOnServer (base : Url) (path : String) : Prop where
  stays : (¬ ∃ rest, HidesSlashes path.toList rest) →
    ∃ url, resolve base path = .ok url ∧ url.scheme = base.scheme ∧ url.authority = base.authority
  /-- Behind hidden slashes a server is read that owes nothing to the base but its scheme. -/
  leaves : ∀ rest, HidesSlashes path.toList rest → ∀ url, resolve base path = .ok url ↔
    Url.fromAuthority base.scheme (Url.serverText rest) = .ok url
  scheme : ∀ url, resolve base path = .ok url → url.scheme = base.scheme
  visible : (∀ c ∈ (unslashed path).head?, 0x20 < c.toNat) →
    ¬ ∃ rest, HidesSlashes path.toList rest
  /-- What is requested is what the path resolves to. -/
  requested : ∀ message o, Outgoing.prepare base message = .ok o →
    message = .get path ∨ (∃ body, message = .post path body) → resolve base path = .ok o.url

private theorem resolve_of_prepare {base : Url} {path : String} {message : Message} {o : Outgoing}
    (prepared : Outgoing.prepare base message = .ok o)
    (asks : message = .get path ∨ ∃ body, message = .post path body) :
    resolve base path = .ok o.url := by
  cases resolved : resolve base path with
  | error fault =>
    rcases asks with rfl | ⟨body, rfl⟩ <;> simp [Outgoing.prepare, resolved] at prepared
  | ok url =>
    have sent : sendTo url message = .ok o := by
      rcases asks with rfl | ⟨body, rfl⟩
      · rwa [prepare_get_of_resolve resolved] at prepared
      · rwa [prepare_post_of_resolve resolved] at prepared
    unfold sendTo at sent
    split at sent
    · cases sent
      rfl
    · cases sent

/-- A path without a colon and without a backslash is requested from the server of its base, unless
it hides two slashes. -/
theorem path_stays_on_server {raw : String} {base : Url} (accepted : readBase raw = .ok base)
    (web : base.scheme = "http".toList ∨ base.scheme = "https".toList) {path : String}
    (colon : ':' ∉ path.toList) (backslash : '\\' ∉ path.toList) : StaysOnServer base path := by
  obtain ⟨given, read, rfl⟩ := exists_of_readBase accepted
  have isWeb : Url.kindOf given.scheme = .web := by
    rcases web with http | https
    · exact (congrArg Url.kindOf http).trans rfl
    · exact (congrArg Url.kindOf https).trans rfl
  obtain ⟨trail, -, isFolder⟩ := isFolder_asBase read isWeb
  have hierarchy : (asBase given).isText = false := by rw [Url.isText, isFolder.path]
  have inPath : ∀ c ∈ unslashed path, c ∈ path.toList :=
    fun c mem => (List.dropWhile_sublist _).mem mem
  have joined : (asBase given).join (unslashed path) =
      (asBase given).relative (Url.counted (unslashed path)) :=
    Url.join_eq_relative isFolder.web hierarchy fun mem => colon (inPath _ mem)
  have backslash' : '\\' ∉ Url.counted (unslashed path) :=
    fun mem => backslash (inPath _ (Url.mem_of_mem_counted mem))
  constructor
  case stays =>
    intro plain
    obtain ⟨url, read, scheme, authority⟩ :=
      Url.relative_of_not_doubled (asBase given) backslash'
        (mt exists_hides_of_doubled plain)
    exact ⟨url, resolve_eq_ok_iff.mpr (joined.trans read), scheme, authority⟩
  case leaves =>
    intro rest hides url
    rw [resolve_eq_ok_iff, joined, counted_unslashed_of_hides hides, Url.relative_doubled]
  case scheme =>
    intro url resolved
    rw [resolve_eq_ok_iff, joined] at resolved
    exact Url.scheme_relative backslash' resolved
  case visible => exact not_hides_of_visible
  case requested => exact fun message o prepared asks => resolve_of_prepare prepared asks

/-- A slash and a space in front of a name are passed over, and the name is looked for on the
player. Two slashes behind a tab name another server, whose name may lie outside ASCII, and the
request goes there. -/
theorem hidden_slashes_name_another_server :
    let raw := "http://player:8080/json"
    let server (host : String) (port : Option Nat) : Option Url.Authority :=
      some ⟨none, .domain host.toList, port⟩
    let base : Url :=
      ⟨"http".toList, server "player" (some 8080), .rooted ⟨["json".toList], []⟩, none, none⟩
    let away (host : String) : Url :=
      ⟨"http".toList, server host none, .rooted ⟨[], "status".toList⟩, none, none⟩
    (readBase raw = .ok base ∧ base.scheme = "http".toList) ∧
      ((':' ∉ "/ status".toList ∧ '\\' ∉ "/ status".toList) ∧ StaysOnServer base "/ status") ∧
      ((':' ∉ "\t//other/status".toList ∧ '\\' ∉ "\t//other/status".toList) ∧
        StaysOnServer base "\t//other/status") ∧
      HidesSlashes "\t//other/status".toList "other/status".toList ∧
      resolve base "\t//other/status" = .ok (away "other") ∧
      resolve base "\t//bücher.example/status" = .ok (away "xn--bcher-kva.example") ∧
      (away "other").authority ≠ base.authority ∧
      (away "xn--bcher-kva.example").authority ≠ base.authority := by
  intro raw server base away
  have accepted : readBase raw = .ok base := by decide +kernel
  have chars : ':' ∉ "/ status".toList ∧ '\\' ∉ "/ status".toList := by decide
  have chars' : ':' ∉ "\t//other/status".toList ∧ '\\' ∉ "\t//other/status".toList := by decide
  refine ⟨⟨accepted, rfl⟩, ⟨chars, ?_⟩, ⟨chars', ?_⟩, ?_, by decide +kernel, by decide +kernel,
    by decide, by decide⟩
  · exact path_stays_on_server accepted (.inl rfl) chars.1 chars.2
  · exact path_stays_on_server accepted (.inl rfl) chars'.1 chars'.2
  · exact ⟨[], ['\t'], [], rfl, by simp, by simp, by simp, by simp⟩

end Http
end ShowRemote
