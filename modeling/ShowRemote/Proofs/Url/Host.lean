import ShowRemote.Proofs.Text.Utf8
import ShowRemote.Proofs.Url.Bytes
import ShowRemote.Proofs.Url.Escape
import ShowRemote.Proofs.Url.Pieces

/-!
Hosts that are read again. A name that has been read is in lower case and holds no character that is
forbidden, so that no escape is undone in it and no letter is changed when it is read once more; an
address is written in the one notation that it has. Only a code may be too long to be read again,
and the codes of a host that can be written in ASCII are not (`isShort_of_isAscii`).

Main statements: `isHost_of_parse`, `parse_write`.
-/

set_option autoImplicit false

namespace ShowRemote

namespace Url

private theorem unescape_of_not_mem {s : List Char} (percent : '%' ∉ s) :
    unescape s = Text.utf8Bytes s := by
  induction s with
  | nil => rfl
  | cons c s ih =>
    have here : '%' ≠ c := List.ne_of_not_mem_cons percent
    have others : '%' ∉ s := List.not_mem_of_not_mem_cons percent
    rw [unescape, ih others]
    · rfl
    · intro a b rest same
      exact (here same.symm).elim

namespace Host

/-- A host that its own text is read as, unless it holds a code that is too long. -/
inductive IsHost : Host → Prop
  | domain {name : List Char} (nonempty : name ≠ []) (lower : Text.lowerAscii name = name)
      (allowed : ∀ c ∈ name, forbiddenInName c = false)
      (agree : Label.agree (Text.pieces (fun c => c = '.') name))
      (named : endsInNumber name = false) : IsHost (.domain name)
  | ipv4 {address : Nat} (small : address < 2 ^ 32) : IsHost (.ipv4 address)
  | ipv6 {ns : List Nat} (isPieces : IsPieces ns) : IsHost (.ipv6 ns)

private theorem isHost_of_bracketed {s : List Char} {host : Host} (read : bracketed s = .ok host) :
    IsHost host := by
  unfold bracketed at read
  split at read
  · split at read
    · next pieces address =>
      cases read
      exact .ipv6 (isPieces_of_ipv6? address)
    · cases read
  · cases read

private theorem isName_iff {s : List Char} :
    isName s ↔ Text.lowerAscii s = s ∧ (∀ c ∈ s, forbiddenInName c = false) ∧
      Label.agree (Text.pieces (fun c => c = '.') s) := by
  simp only [isName, Bool.and_eq_true, decide_eq_true_eq, Bool.not_eq_true', List.any_eq_false,
    Bool.not_eq_true, and_assoc]

/-- What a host of a special scheme is read as is a host. -/
theorem isHost_of_parse {s : List Char} {host : Host} (read : parse s = .ok host) :
    IsHost host := by
  unfold parse at read
  split at read
  · exact isHost_of_bracketed read
  · split at read
    · cases read
    · next name found =>
      obtain ⟨lower, allowed, agree⟩ := isName_iff.mp (Option.filter_eq_some_iff.mp found).2
      split at read
      · cases read
      · next nonempty =>
        split at read
        · split at read
          · next address number =>
            cases read
            exact .ipv4 (ipv4?_lt number)
          · cases read
        · next named =>
          cases read
          exact .domain nonempty lower allowed agree (Bool.eq_false_iff.mpr named)

/-- No code of a host is too long to be read. -/
def isShort : Host → Bool
  | .domain name => (Text.pieces (fun c => c = '.') name).all Label.isShort
  | _ => true

/-- A host that can be written in ASCII, escapes undone. -/
def IsAscii (host : Host) : Prop :=
  ∃ s, (∀ b ∈ unescape s, b.toNat < 0x80) ∧ parse s = .ok host

private theorem toNat_lt_of_allowed {c : Char} (allowed : forbiddenInName c = false) :
    c.toNat < 0x80 := by
  simp only [forbiddenInName, isControl, Bool.or_eq_false_iff, decide_eq_false_iff_not] at allowed
  omega

private theorem toNat_toLower_lt {c : Char} (low : c.toNat < 0x80) : c.toLower.toNat < 0x80 := by
  unfold Char.toLower
  split
  · next upper =>
    simp only [UInt32.le_iff_toNat_le, ge_iff_le, Char.reduceVal, UInt32.reduceToNat] at upper
    show (c.val + _).toNat < 0x80
    simp only [Char.reduceVal, UInt32.toNat_add, UInt32.reduceSub, UInt32.reduceToNat]
    omega
  · exact low

private theorem mapM_written?_of_ascii {labels : List (List Char)}
    (ascii : ∀ label ∈ labels, ∀ c ∈ label, c.toNat < 0x80) :
    labels.mapM Label.written? = if labels.all Label.isShort then some labels else none := by
  induction labels with
  | nil => rfl
  | cons label labels ih =>
    obtain ⟨here, others⟩ := List.forall_mem_cons.mp ascii
    have low : label.all (fun c => c.toNat < 0x80) :=
      List.all_eq_true.mpr fun c mem => decide_eq_true (here c mem)
    rw [List.mapM_cons, ih others, Label.written?, if_pos low, List.all_cons]
    cases Label.isShort label <;> cases labels.all Label.isShort <;> rfl

private theorem asciiName?_of_ascii {s : List Char} (ascii : ∀ c ∈ s, c.toNat < 0x80) :
    asciiName? s =
      if (Text.pieces (fun c => c = '.') (Text.lowerAscii s)).all Label.isShort then
        some (Text.lowerAscii s)
      else none := by
  have low : s.all (fun c => c.toNat < 0x80) :=
    List.all_eq_true.mpr fun c mem => decide_eq_true (ascii c mem)
  have lower : ∀ c ∈ Text.lowerAscii s, c.toNat < 0x80 := by
    intro c mem
    obtain ⟨d, inside, rfl⟩ := List.mem_map.mp mem
    exact toNat_toLower_lt (ascii d inside)
  rw [asciiName?, if_pos low]
  simp only [mapM_written?_of_ascii fun label mem c inside =>
    lower c (Text.mem_of_mem_pieces mem c inside)]
  split
  · exact congrArg some (Text.intercalate_pieces '.' _)
  · rfl

/-- The codes of a host that can be written in ASCII have been read. -/
theorem isShort_of_isAscii {host : Host} (isAscii : IsAscii host) : host.isShort := by
  obtain ⟨s, low, read⟩ := isAscii
  unfold parse at read
  split at read
  · unfold bracketed at read
    split at read
    · split at read <;> cases read
      rfl
    · cases read
  · split at read
    · cases read
    · next name found =>
      obtain ⟨t, decoded, named⟩ :=
        Option.bind_eq_some_iff.mp (Option.filter_eq_some_iff.mp found).1
      have bytes := Text.decodeText?_eq_some_iff.mp decoded
      have ascii : ∀ c ∈ t.toList, c.toNat < 0x80 := fun c mem =>
        Text.toNat_lt_of_utf8EncodeChar_lt fun b inside =>
          low b (bytes ▸ List.mem_flatMap.mpr ⟨c, mem, inside⟩)
      rw [asciiName?_of_ascii ascii] at named
      split at named
      · next short =>
        cases named
        split at read
        · cases read
        · split at read
          · split at read <;> cases read
            rfl
          · cases read
            exact short
      · cases named

private theorem parse_of_allowed {name : List Char} (lower : Text.lowerAscii name = name)
    (allowed : ∀ c ∈ name, forbiddenInName c = false)
    (agree : Label.agree (Text.pieces (fun c => c = '.') name))
    (short : (Text.pieces (fun c => c = '.') name).all Label.isShort) (nonempty : name ≠ []) :
    parse name =
      if endsInNumber name then
        match ipv4? name with
        | some address => .ok (.ipv4 address)
        | none => .error .invalidIpv4
      else .ok (.domain name) := by
  have bracket : name.head? ≠ some '[' := by
    intro head
    have other := allowed '[' (List.mem_of_mem_head? head)
    cases other
  have percent : '%' ∉ name := by
    intro mem
    have other := allowed '%' mem
    cases other
  have decoded : Text.decodeText? (unescape name) = some (String.ofList name) := by
    rw [unescape_of_not_mem percent, Text.decodeText?_eq_some_iff, String.toList_ofList]
  have written : asciiName? name = some name := by
    rw [asciiName?_of_ascii fun c mem => toNat_lt_of_allowed (allowed c mem), lower, if_pos short]
  have isName : isName name := isName_iff.mpr ⟨lower, allowed, agree⟩
  rw [parse, if_neg bracket, decoded, Option.bind_some, String.toList_ofList, written,
    Option.filter_some_pos isName]
  exact if_neg nonempty

def isNumeric : Char → Bool :=
  among ['0', '1', '2', '3', '4', '5', '6', '7', '8', '9', '.']

private theorem isNumeric_of_isDigit {c : Char} (digit : c.isDigit) : isNumeric c := by
  simp only [Char.isDigit, Bool.and_eq_true, decide_eq_true_eq, UInt32.le_iff_toNat_le] at digit
  obtain ⟨low, high⟩ : 48 ≤ c.toNat ∧ c.toNat ≤ 57 := digit
  have value := Char.ofNat_toNat c
  generalize c.toNat = n at low high value
  subst value
  interval_cases n <;> rfl

private theorem forall_among {members : List Char} {p : Char → Bool} (all : members.all p)
    {c : Char} (member : among members c) : p c :=
  List.all_eq_true.mp all c (List.contains_iff_mem.mp member)

theorem not_forbiddenInName_of_isNumeric {c : Char} (numeric : isNumeric c) :
    forbiddenInName c = false := by
  have other := forall_among (p := fun c => !forbiddenInName c) rfl numeric
  exact (Bool.not_eq_true' _).mp other

private theorem toLower_of_isNumeric {c : Char} (numeric : isNumeric c) : c.toLower = c := by
  have same := forall_among (p := fun c => c.toLower == c) (by decide +kernel) numeric
  exact eq_of_beq same

private theorem direction_of_isNumeric {c : Char} (numeric : isNumeric c) :
    Unicode.direction c ≠ .right ∧ Unicode.direction c ≠ .arabicNumber := by
  have other := forall_among
    (p := fun c => Unicode.direction c != .right && Unicode.direction c != .arabicNumber)
    (by decide +kernel) numeric
  simpa using other

section Numeric

variable {s : List Char} (numeric : ∀ c ∈ s, isNumeric c)

include numeric

private theorem lowerAscii_of_isNumeric : Text.lowerAscii s = s := by
  have same : ∀ c ∈ s, c.toLower = id c := fun c mem => toLower_of_isNumeric (numeric c mem)
  rw [Text.lowerAscii, List.map_congr_left same, List.map_id]

private theorem ne_cons_of_isNumeric (rest : List Char) : s ≠ 'x' :: rest := by
  rintro rfl
  have letter := numeric 'x' List.mem_cons_self
  cases letter

private theorem shown?_of_isNumeric : Label.shown? s = some s := by
  unfold Label.shown?
  split
  · next code => exact (ne_cons_of_isNumeric numeric _ rfl).elim
  · rfl

private theorem isBidirectional_of_isNumeric : Unicode.isBidirectional s = false := by
  rw [Unicode.isBidirectional, List.any_eq_false]
  intro c mem
  have direction := direction_of_isNumeric (numeric c mem)
  simp [direction]

private theorem isShort_of_isNumeric : Label.isShort s := by
  unfold Label.isShort
  split
  · next code => exact (ne_cons_of_isNumeric numeric _ rfl).elim
  · rfl

private theorem isNumeric_of_mem_pieces :
    ∀ label ∈ Text.pieces (fun c => c = '.') s, ∀ c ∈ label, isNumeric c :=
  fun _ mem c inside => numeric c (Text.mem_of_mem_pieces mem c inside)

private theorem agree_of_isNumeric : Label.agree (Text.pieces (fun c => c = '.') s) := by
  have labels := isNumeric_of_mem_pieces numeric
  generalize Text.pieces (fun c => c = '.') s = all at labels
  have shown : all.mapM Label.shown? = some all := by
    induction all with
    | nil => rfl
    | cons label all ih =>
      obtain ⟨here, others⟩ := List.forall_mem_cons.mp labels
      rw [List.mapM_cons, shown?_of_isNumeric here, ih others]
      rfl
  have directions : all.any Unicode.isBidirectional = false :=
    List.any_eq_false.mpr fun label mem =>
      Bool.eq_false_iff.mp (isBidirectional_of_isNumeric (labels label mem))
  rw [Label.agree, shown]
  simp [directions]

end Numeric

theorem isNumeric_writeIpv4 (address : Nat) : ∀ c ∈ writeIpv4 address, isNumeric c := by
  intro c mem
  rw [← Text.intercalate_pieces '.' (writeIpv4 address), pieces_writeIpv4] at mem
  rcases Text.mem_intercalate mem with rfl | ⟨s, inside, mem⟩
  · rfl
  · obtain ⟨n, -, rfl⟩ := List.mem_map.mp inside
    exact isNumeric_of_isDigit (isDigit_of_mem_toDigits mem)

private theorem writeIpv4_ne_nil (address : Nat) : writeIpv4 address ≠ [] := by
  rw [writeIpv4]
  exact List.append_ne_nil_of_right_ne_nil _ (List.cons_ne_nil _ _)

theorem parse_write {host : Host} (isHost : IsHost host) (short : host.isShort) :
    parse host.write = .ok host := by
  cases isHost with
  | @domain name nonempty lower allowed agree named =>
    show parse name = _
    rw [parse_of_allowed lower allowed agree short nonempty, named]
    rfl
  | @ipv4 address small =>
    have numeric := isNumeric_writeIpv4 address
    show parse (writeIpv4 address) = _
    have allowed : ∀ c ∈ writeIpv4 address, forbiddenInName c = false :=
      fun c mem => not_forbiddenInName_of_isNumeric (numeric c mem)
    have shortPieces : (Text.pieces (fun c => c = '.') (writeIpv4 address)).all Label.isShort :=
      List.all_eq_true.mpr fun label mem =>
        isShort_of_isNumeric (isNumeric_of_mem_pieces numeric label mem)
    rw [parse_of_allowed (lowerAscii_of_isNumeric numeric) allowed (agree_of_isNumeric numeric)
      shortPieces (writeIpv4_ne_nil address), endsInNumber_writeIpv4, ipv4?_writeIpv4 small]
    rfl
  | @ipv6 ns isPieces =>
    show parse ('[' :: (writeIpv6 ns ++ [']'])) = _
    have read : bracketed ('[' :: (writeIpv6 ns ++ [']'])) = .ok (.ipv6 ns) := by
      have last : ('[' :: (writeIpv6 ns ++ [']'])).getLast? = some ']' :=
        List.getLast?_concat (l := '[' :: writeIpv6 ns)
      have inside : ('[' :: (writeIpv6 ns ++ [']'])).tail.dropLast = writeIpv6 ns :=
        List.dropLast_concat
      rw [bracketed, last, inside, ipv6?_writeIpv6 isPieces]
      rfl
    have head : ('[' :: (writeIpv6 ns ++ [']'])).head? = some '[' := rfl
    rw [parse, if_pos head, read]

theorem IsHost.ne_empty {host : Host} (isHost : IsHost host) : host ≠ .domain [] := by
  rintro rfl
  cases isHost with
  | domain nonempty => exact nonempty rfl

theorem IsHost.write_ne_nil {host : Host} (isHost : IsHost host) : host.write ≠ [] := by
  cases isHost with
  | domain nonempty => exact nonempty
  | @ipv4 address => exact writeIpv4_ne_nil address
  | ipv6 => exact List.cons_ne_nil _ _

theorem not_forbiddenInName_of_mem_toDigits {base n : Nat} (two : 1 < base) (sixteen : base ≤ 16)
    {c : Char} (mem : c ∈ Nat.toDigits base n) : forbiddenInName c = false := by
  have digits : ∀ d < 16, forbiddenInName (Nat.digitChar d) = false := by decide
  obtain ⟨d, small, rfl⟩ := exists_of_mem_toDigits two mem
  exact digits d (by omega)

private theorem mem_writePieces {ns : List Nat} {c : Char} (mem : c ∈ writePieces ns) :
    c = ':' ∨ forbiddenInName c = false := by
  rcases Text.mem_intercalate mem with colon | ⟨s, inside, mem⟩
  · exact .inl colon
  · obtain ⟨n, -, rfl⟩ := List.mem_map.mp inside
    exact .inr (not_forbiddenInName_of_mem_toDigits (by decide) (by decide) mem)

theorem mem_writeIpv6 {ns : List Nat} {c : Char} (mem : c ∈ writeIpv6 ns) :
    c = ':' ∨ forbiddenInName c = false := by
  unfold writeIpv6 at mem
  split at mem
  · simp only [List.mem_append, List.mem_cons] at mem
    rcases mem with front | colon | colon | back
    · exact mem_writePieces front
    · exact .inl colon
    · exact .inl colon
    · exact mem_writePieces back
  · exact mem_writePieces mem

end Host
end Url
end ShowRemote
