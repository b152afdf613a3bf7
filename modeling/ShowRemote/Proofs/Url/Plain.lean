import Mathlib
import ShowRemote.Proofs.Outcome
import ShowRemote.Proofs.Text.Pieces
import ShowRemote.Proofs.Url.Escape
import ShowRemote.Url.Parse

/-!
References of plain characters. Nothing in them is escaped, passed over or taken for a scheme, a
query or a fragment, and no segment of them goes up a folder; so such a reference goes down from the
folders of its base, segment by segment, and the text of the path grows by the reference
(`join_plain`, `write_belowFolders`).
-/

set_option autoImplicit false

namespace ShowRemote

namespace Text

private theorem eq_of_toLower_eq {c d : Char} (same : c.toLower = d) (other : ¬ d.isLower) :
    c = d := by
  unfold Char.toLower at same
  split at same
  · next upper =>
    subst same
    refine (other ?_).elim
    simp only [UInt32.le_iff_toNat_le, ge_iff_le, Char.reduceVal, UInt32.reduceToNat] at upper
    simp only [Char.isLower, Bool.and_eq_true, decide_eq_true_eq, UInt32.le_iff_toNat_le,
      ge_iff_le, Char.reduceVal, UInt32.reduceToNat, UInt32.toNat_add, UInt32.reduceSub]
    omega
  · exact same

end Text

namespace Url

/-- Letters, digits, and the marks that stand for themselves everywhere in a path. -/
def isPlain (c : Char) : Bool :=
  c.isAlphanum || among ['-', '_', '~', '.', '/'] c

/-- Plain characters, no segment of which is a dot or two. -/
structure PlainPath (s : List Char) : Prop where
  chars : ∀ c ∈ s, isPlain c
  steps : ∀ segment ∈ Text.pieces (fun c => c = '/') s, segment ≠ ['.'] ∧ segment ≠ ['.', '.']

private theorem ne_of_isPlain {c d : Char} (plain : isPlain c) (other : ¬ isPlain d) : c ≠ d := by
  rintro rfl
  exact other plain

private theorem toNat_bounds_of_isPlain {c : Char} (plain : isPlain c) :
    0x2D ≤ c.toNat ∧ c.toNat ≤ 0x7E := by
  rcases Bool.or_eq_true_iff.mp plain with alphanum | mark
  · simp only [Char.isAlphanum, Char.isAlpha, Char.isUpper, Char.isLower, Char.isDigit,
      Bool.or_eq_true, Bool.and_eq_true, decide_eq_true_eq, UInt32.le_iff_toNat_le, ge_iff_le,
      Char.reduceVal, UInt32.reduceToNat] at alphanum
    have value : c.toNat = c.val.toNat := rfl
    omega
  · simp only [among, List.contains_eq_mem, List.mem_cons, List.not_mem_nil, or_false,
      decide_eq_true_eq] at mark
    rcases mark with rfl | rfl | rfl | rfl | rfl <;> decide

private theorem pathSet_of_isPlain {c : Char} (plain : isPlain c) : pathSet c = false := by
  by_contra escaped
  simp only [pathSet, among, List.contains_eq_mem, List.mem_cons, List.not_mem_nil, or_false,
    decide_eq_true_eq, Bool.not_eq_false] at escaped
  rcases escaped with rfl | rfl | rfl | rfl | rfl | rfl | rfl | rfl | rfl <;> cases plain

private theorem isVisible_of_isPlain {c : Char} (plain : isPlain c) : isVisible c := by
  have bounds := toNat_bounds_of_isPlain plain
  rw [isVisible, Bool.and_eq_true, decide_eq_true_eq, decide_eq_true_eq]
  omega

theorem splitScheme?_of_not_mem {s : List Char} (colon : ':' ∉ s) : splitScheme? s = none := by
  rw [splitScheme?, Text.splitFirst?_of_not_mem colon]

section Plain

variable {s : List Char} (chars : ∀ c ∈ s, isPlain c)

include chars

private theorem escaped_of_isPlain : Escaped pathSet s := by
  intro c mem
  have visible := isVisible_of_isPlain (chars c mem)
  exact ⟨not_isControl_of_isVisible visible, pathSet_of_isPlain (chars c mem)⟩

private theorem endsPath_of_isPlain : ∀ c ∈ s, (!endsPath c) = true := by
  intro c mem
  have query := ne_of_isPlain (d := '?') (chars c mem) (by decide)
  have fragment := ne_of_isPlain (d := '#') (chars c mem) (by decide)
  simp [endsPath, query, fragment]

private theorem pieces_separates_of_isPlain (special : Bool) :
    Text.pieces (separates special) s = Text.pieces (fun c => c = '/') s := by
  refine Text.pieces_congr fun c mem => ?_
  have backslash := ne_of_isPlain (d := '\\') (chars c mem) (by decide)
  simp [separates, backslash]

end Plain

private theorem eq_of_lowerAscii_points {segment points : List Char}
    (isPoints : ∀ c ∈ points, c = '.') (same : Text.lowerAscii segment = points) :
    segment = points := by
  have fixed : ∀ c ∈ segment, c.toLower = id c := by
    intro c mem
    have lower : c.toLower = '.' := isPoints _ (same ▸ List.mem_map_of_mem mem)
    rw [lower, Text.eq_of_toLower_eq lower (by decide)]
    rfl
  rw [← same, Text.lowerAscii, List.map_congr_left fixed, List.map_id]

private theorem percent_not_mem_lowerAscii {segment : List Char}
    (chars : ∀ c ∈ segment, isPlain c) :
    '%' ∉ Text.lowerAscii segment := by
  intro mem
  obtain ⟨c, mem, same⟩ := List.mem_map.mp mem
  have escaped := Text.eq_of_toLower_eq same (by decide)
  exact ne_of_isPlain (chars c mem) (by decide) escaped

private theorem ofSegment_of_isPlain {segment : List Char} (chars : ∀ c ∈ segment, isPlain c)
    (single : segment ≠ ['.']) (double : segment ≠ ['.', '.']) :
    Trail.Step.ofSegment segment = .down [] segment := by
  have escaped := percent_not_mem_lowerAscii chars
  have notDouble : ¬ Trail.isDoubleDot segment := by
    rw [Trail.isDoubleDot, List.contains_iff_mem]
    intro mem
    simp only [List.mem_cons, List.not_mem_nil, or_false] at mem
    rcases mem with same | same | same | same
    · exact double (eq_of_lowerAscii_points (by simp) same)
    · exact escaped (same ▸ by decide)
    · exact escaped (same ▸ by decide)
    · exact escaped (same ▸ by decide)
  have notSingle : ¬ Trail.isSingleDot segment := by
    rw [Trail.isSingleDot, List.contains_iff_mem]
    intro mem
    simp only [List.mem_cons, List.not_mem_nil, or_false] at mem
    rcases mem with same | same
    · exact single (eq_of_lowerAscii_points (by simp) same)
    · exact escaped (same ▸ by decide)
  rw [Trail.Step.ofSegment, if_neg notDouble, if_neg notSingle]

namespace Trail

/-- Segments one below the other, the last of which is the leaf. -/
def below (folders segments : List (List Char)) : Trail :=
  ⟨folders ++ segments.dropLast, segments.getLast?.getD []⟩

theorem climb_eq_below {step : List (List Char) → List Char → Step}
    {segments : List (List Char)} (down : ∀ folders, ∀ s ∈ segments, step folders s = .down [] s)
    (folders : List (List Char)) : climb step folders segments = below folders segments := by
  induction segments generalizing folders with
  | nil => simp [climb, below]
  | cons s rest ih =>
    obtain ⟨here, others⟩ : (∀ folders, step folders s = .down [] s) ∧
        ∀ folders, ∀ s ∈ rest, step folders s = .down [] s :=
      ⟨fun folders => down folders s List.mem_cons_self, fun folders t mem =>
        down folders t (List.mem_cons_of_mem s mem)⟩
    cases rest with
    | nil => simp [climb, here, finish, below]
    | cons t rest =>
      rw [climb, here, ih others]
      · simp [enter, below]
      · exact List.cons_ne_nil t rest

theorem write_below (folders : List (List Char)) {segments : List (List Char)}
    (some : segments ≠ []) :
    (below folders segments).write = (Trail.mk folders []).write ++ ['/'].intercalate segments := by
  induction segments generalizing folders with
  | nil => exact (some rfl).elim
  | cons s rest ih =>
    cases rest with
    | nil => simp [below, write]
    | cons t rest =>
      have further : below folders (s :: t :: rest) = below (folders ++ [s]) (t :: rest) := by
        simp [below]
      rw [further, ih _ (List.cons_ne_nil t rest), List.intercalate_cons_cons]
      simp [write]

end Trail

/-- The path that plain characters lead to from some folders. -/
def belowFolders (folders : List (List Char)) (s : List Char) : Trail :=
  Trail.below folders (Text.pieces (fun c => c = '/') s)

private theorem follow_of_plain {s : List Char} (plain : PlainPath s) (kind : SchemeKind)
    (folders : List (List Char)) : follow kind folders s = belowFolders folders s := by
  rw [follow, (escaped_of_isPlain plain.chars).escape_eq, pieces_separates_of_isPlain plain.chars]
  refine Trail.climb_eq_below (fun _ segment mem => ?_) folders
  obtain ⟨single, double⟩ := plain.steps segment mem
  refine ofSegment_of_isPlain (fun c inside => ?_) single double
  exact plain.chars c (Text.mem_of_mem_pieces mem c inside)

theorem write_belowFolders (folders : List (List Char)) (s : List Char) :
    (belowFolders folders s).write = (Trail.mk folders []).write ++ s := by
  rw [belowFolders, Trail.write_below folders (Text.pieces_ne_nil _ s), Text.intercalate_pieces]

theorem join_plain {base : Url} (web : kindOf base.scheme = .web) {folders : List (List Char)}
    (path : base.path = .rooted ⟨folders, []⟩) (query : base.query = none)
    (fragment : base.fragment = none) {s : List Char} (plain : PlainPath s)
    (below : s.head? ≠ some '/') :
    base.join s = .ok { base with path := .rooted (belowFolders folders s) } := by
  have chars := plain.chars
  have hierarchy : base.isText = false := by rw [isText, path]
  have noFragment : s.head? ≠ some '#' := by
    intro head
    exact absurd (chars '#' (List.mem_of_mem_head? head)) (by decide)
  have visible : ∀ c ∈ s, isVisible c := fun c mem => isVisible_of_isPlain (chars c mem)
  have colon : ':' ∉ s := fun mem => ne_of_isPlain (chars ':' mem) (by decide) rfl
  rw [join, read, trimEnds_of_isVisible visible, splitScheme?_of_not_mem colon]
  simp only [withoutBreaks_of_isVisible visible, if_neg noFragment, hierarchy, web]
  show base.relative s = _
  cases s with
  | nil =>
    -- The empty reference is the base itself, which is a folder.
    obtain ⟨scheme, authority, path', query', fragment'⟩ := base
    cases path
    cases fragment
    simp [relative, belowFolders, Text.pieces, Trail.below]
  | cons c s =>
    have slash : isSlash c = false := by
      have backslash := ne_of_isPlain (d := '\\') (chars c List.mem_cons_self) (by decide)
      have slash : c ≠ '/' := fun same => below (congrArg some same)
      simp [isSlash, slash, backslash]
    have tail := endsPath_of_isPlain chars
    have goesDown : base.relative (c :: s) = .ok (base.fromFolder base.baseFolders (c :: s)) := by
      have queryMark := ne_of_isPlain (d := '?') (chars c List.mem_cons_self) (by decide)
      have fragmentMark := ne_of_isPlain (d := '#') (chars c List.mem_cons_self) (by decide)
      unfold relative
      split
      · next same => cases same
      · next same => exact (queryMark (List.cons.inj same).1).elim
      · next same => exact (fragmentMark (List.cons.inj same).1).elim
      · next same =>
        cases same
        rw [slash]
        rfl
    have folders' : base.baseFolders = folders := by rw [baseFolders, path]
    rw [goesDown, fromFolder, withRest, folders', List.takeWhile_eq_self_iff.mpr tail,
      List.dropWhile_eq_nil_iff.mpr tail, follow_of_plain plain, query, fragment]
    rfl

private theorem scheme_fileFromHost {s : List Char} {url : Url} (read : fileFromHost s = .ok url) :
    url.scheme = fileScheme := by
  unfold fileFromHost at read
  simp only at read
  split at read
  · cases read
    rfl
  · split at read
    · split at read <;>
        (cases read
         rfl)
    · obtain ⟨host, -, read⟩ := exists_of_bind_ok read
      split at read <;>
        (cases read
         rfl)

private theorem scheme_readFile {s : List Char} {url : Url} (read : readFile none s = .ok url) :
    url.scheme = fileScheme := by
  unfold readFile at read
  simp only at read
  split at read
  · cases read
    rfl
  · cases read
    rfl
  · exact scheme_fileFromHost read

theorem exists_of_fromAuthority {scheme s : List Char} {url : Url}
    (read : fromAuthority scheme s = .ok url) :
    ∃ authority rest, readAuthority scheme s = .ok (authority, rest) ∧
      url = withRest scheme (some authority) (readPath (kindOf scheme)) rest := by
  obtain ⟨⟨authority, rest⟩, server, read⟩ := exists_of_bind_ok read
  cases read
  exact ⟨authority, rest, server, rfl⟩

theorem scheme_fromAuthority {scheme s : List Char} {url : Url}
    (read : fromAuthority scheme s = .ok url) : url.scheme = scheme := by
  obtain ⟨authority, rest, -, rfl⟩ := exists_of_fromAuthority read
  rfl

private theorem exists_readPath_web (s : List Char) : ∃ trail, readPath .web s = .rooted trail :=
  ⟨_, if_neg (by simp)⟩

theorem exists_fromAuthority_of_parse {raw : List Char} {url : Url} (parsed : parse raw = .ok url)
    (web : kindOf url.scheme = .web) : ∃ s, fromAuthority url.scheme s = .ok url := by
  rw [parse, read] at parsed
  cases cut : splitScheme? (Text.trimEnds (fun c => c.toNat ≤ 0x20) raw) with
  | none =>
    rw [cut] at parsed
    cases parsed
  | some parts =>
    obtain ⟨scheme, rest⟩ := parts
    rw [cut] at parsed
    simp only [fromScheme] at parsed
    cases kind : kindOf scheme with
    | file =>
      rw [kind] at parsed
      rw [scheme_readFile parsed] at web
      cases web
    | web =>
      rw [kind] at parsed
      have same : url.scheme = scheme := scheme_fromAuthority parsed
      rw [same]
      exact ⟨_, parsed⟩
    | other =>
      rw [kind] at parsed
      have other : url.scheme = scheme := by
        simp only at parsed
        split at parsed
        · exact scheme_fromAuthority parsed
        · cases parsed
          rfl
        · cases parsed
          rfl
      rw [other, kind] at web
      cases web

theorem parse_web {raw : List Char} {url : Url} (parsed : parse raw = .ok url)
    (web : kindOf url.scheme = .web) :
    (∃ authority, url.authority = some authority) ∧ ∃ trail, url.path = .rooted trail := by
  obtain ⟨s, read⟩ := exists_fromAuthority_of_parse parsed web
  obtain ⟨authority, rest, -, same⟩ := exists_of_fromAuthority read
  have server : url.authority = some authority := congrArg Url.authority same
  have path : url.path = readPath (kindOf url.scheme) (rest.takeWhile fun c => !endsPath c) :=
    congrArg Url.path same
  rw [path, web]
  exact ⟨⟨authority, server⟩, exists_readPath_web _⟩

end Url
end ShowRemote
