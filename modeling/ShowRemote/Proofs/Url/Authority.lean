import ShowRemote.Proofs.Outcome
import ShowRemote.Proofs.Url.Host
import ShowRemote.Url.Reference

/-!
Authorities that are read again. A mark that stands between the parts of an authority is escaped in
a name and a password, and no host holds one but an address in brackets; a port is written without
leading zeros, and not at all if it is the one of the scheme. So an authority that has been read is
cut at the same places when its text is read.

Main statements: `isAuthority_of_read`, `readAuthority_write`.
-/

set_option autoImplicit false

namespace ShowRemote

namespace Url

def inAuthority (c : Char) : Bool :=
  isVisible c && !endsAuthority true c

theorem isVisible_of_inAuthority {c : Char} (inside : inAuthority c) : isVisible c :=
  (Bool.and_eq_true_iff.mp inside).1

theorem not_endsAuthority_of_inAuthority {c : Char} (inside : inAuthority c) :
    endsAuthority true c = false :=
  (Bool.not_eq_true' _).mp (Bool.and_eq_true_iff.mp inside).2

private theorem inAuthority_of_spared {set : Char → Bool}
    (marks : [' ', '/', '\\', '?', '#'].all set) {c : Char} (control : isControl c = false)
    (spared : set c = false) : inAuthority c := by
  have other : ∀ d ∈ [' ', '/', '\\', '?', '#'], c ≠ d :=
    fun d mem => ne_of_spared spared (List.all_eq_true.mp marks d mem)
  have visible := isVisible_of_not_isControl control (other ' ' (by decide))
  have slash := other '/' (by decide)
  have backslash := other '\\' (by decide)
  have query := other '?' (by decide)
  have fragment := other '#' (by decide)
  simp [inAuthority, endsAuthority, separates, visible, slash, backslash, query, fragment]

/-- A name, a password or both, in which nothing is left to escape. -/
structure IsUserInfo (u : UserInfo) : Prop where
  name : Escaped userInfoSet u.name
  password : ∀ p ∈ u.password, Escaped userInfoSet p ∧ p ≠ []
  present : ¬ (u.name = [] ∧ u.password = none)

def UserInfo.info (u : UserInfo) : List Char :=
  u.name ++ u.password.elim [] fun p => ':' :: p

private theorem isUserInfo_of_read {s : List Char} {u : UserInfo} (read : readUserInfo s = some u) :
    IsUserInfo u := by
  have escaped : ∀ t, Escaped userInfoSet (escape userInfoSet t) :=
    escaped_escape spares_userInfoSet
  have kept : ∀ v : UserInfo, (if v.name = [] ∧ v.password = none then none else some v) = some u →
      v = u ∧ ¬ (u.name = [] ∧ u.password = none) := by
    intro v kept
    obtain ⟨present, same⟩ := Option.ite_none_left_eq_some.mp kept
    cases same
    exact ⟨rfl, present⟩
  unfold readUserInfo at read
  split at read
  · obtain ⟨rfl, present⟩ := kept _ read
    exact ⟨escaped s, nofun, present⟩
  · next name _ =>
    obtain ⟨rfl, present⟩ := kept _ read
    exact ⟨escaped name, nofun, present⟩
  · next name password nonempty _ =>
    obtain ⟨rfl, present⟩ := kept _ read
    refine ⟨escaped name, ?_, present⟩
    rintro p ⟨⟩
    exact ⟨escaped password, escape_ne_nil nonempty⟩

namespace IsUserInfo

variable {u : UserInfo} (isUserInfo : IsUserInfo u)

include isUserInfo

private theorem readUserInfo_info : readUserInfo u.info = some u := by
  obtain ⟨name, password⟩ := u
  have escaped : escape userInfoSet name = name := isUserInfo.name.escape_eq
  have colon : ':' ∉ name := by
    intro mem
    have spared := (isUserInfo.name ':' mem).2
    cases spared
  cases password with
  | none =>
    have present : name ≠ [] := fun none => isUserInfo.present ⟨none, rfl⟩
    have cut : Text.splitFirst? ':' (UserInfo.mk name none).info = none := by
      rw [UserInfo.info, Option.elim_none, List.append_nil, Text.splitFirst?_of_not_mem colon]
    rw [readUserInfo, cut]
    simp [UserInfo.info, escaped, present]
  | some p =>
    obtain ⟨escaped', nonempty⟩ := isUserInfo.password p rfl
    have cut : Text.splitFirst? ':' (UserInfo.mk name (some p)).info = some (name, p) :=
      Text.splitFirst?_append_cons colon p
    obtain ⟨c, p, rfl⟩ := List.exists_cons_of_ne_nil nonempty
    rw [readUserInfo, cut]
    simp [escaped, escaped'.escape_eq]

private theorem info_ne_nil : u.info ≠ [] := by
  obtain ⟨name, password⟩ := u
  cases password with
  | none => exact List.append_ne_nil_of_left_ne_nil (fun none => isUserInfo.present ⟨none, rfl⟩) _
  | some p => exact List.append_ne_nil_of_right_ne_nil _ (List.cons_ne_nil ':' p)

private theorem inAuthority_info : ∀ c ∈ u.info, inAuthority c := by
  have inside : ∀ s, Escaped userInfoSet s → ∀ c ∈ s, inAuthority c := by
    intro s escaped c mem
    obtain ⟨control, spared⟩ := escaped c mem
    exact inAuthority_of_spared rfl control spared
  obtain ⟨name, password⟩ := u
  intro c mem
  rcases List.mem_append.mp mem with mem | mem
  · exact inside name isUserInfo.name c mem
  · cases password with
    | none => cases mem
    | some p =>
      rcases List.mem_cons.mp mem with rfl | mem
      · rfl
      · exact inside p (isUserInfo.password p rfl).1 c mem

end IsUserInfo

namespace Host

private theorem inAuthority_of_allowed {c : Char} (allowed : forbiddenInName c = false) :
    inAuthority c ∧ c ≠ '@' := by
  have control : isControl c = false := by
    simp only [forbiddenInName, Bool.or_eq_false_iff] at allowed
    exact allowed.1.2
  exact ⟨inAuthority_of_spared rfl control allowed, ne_of_spared allowed rfl⟩

theorem IsHost.inAuthority_write {host : Host} (isHost : IsHost host) :
    ∀ c ∈ host.write, inAuthority c ∧ c ≠ '@' := by
  intro c mem
  cases isHost with
  | domain _ _ allowed => exact inAuthority_of_allowed (allowed c mem)
  | @ipv4 address =>
    have numeric := isNumeric_writeIpv4 address c mem
    exact inAuthority_of_allowed (not_forbiddenInName_of_isNumeric numeric)
  | ipv6 =>
    simp only [write, List.mem_cons, List.mem_append, List.not_mem_nil, or_false] at mem
    rcases mem with rfl | mem | rfl
    · decide
    · rcases mem_writeIpv6 mem with rfl | allowed
      · decide
      · exact inAuthority_of_allowed allowed
    · decide

private theorem takeHost_of_allowed {name : List Char}
    (allowed : ∀ c ∈ name, forbiddenInName c = false) {rest : List Char}
    (stop : ∀ c ∈ rest.head?, c = ':' ∨ endsAuthority true c) :
    takeHost true false (name ++ rest) = (name, rest) := by
  induction name with
  | nil =>
    cases rest with
    | nil => rfl
    | cons c rest =>
      have ends : (c = ':' && !false || endsAuthority true c) = true := by
        simpa using stop c rfl
      rw [List.nil_append, takeHost, if_pos ends]
  | cons c name ih =>
    obtain ⟨here, others⟩ := List.forall_mem_cons.mp allowed
    have inside : endsAuthority true c = false :=
      not_endsAuthority_of_inAuthority (inAuthority_of_allowed here).1
    have colon : c ≠ ':' := ne_of_spared here rfl
    have opening : c ≠ '[' := ne_of_spared here rfl
    have closing : c ≠ ']' := ne_of_spared here rfl
    rw [List.cons_append, takeHost]
    simp [inside, colon, opening, closing, ih others]

/-- Colons inside brackets do not end a host. -/
private theorem takeHost_inside {s : List Char}
    (inside : ∀ c ∈ s, endsAuthority true c = false ∧ c ≠ '[' ∧ c ≠ ']') (rest : List Char) :
    takeHost true true (s ++ ']' :: rest) =
      (s ++ ']' :: (takeHost true false rest).1, (takeHost true false rest).2) := by
  induction s with
  | nil => rfl
  | cons c s ih =>
    obtain ⟨⟨here, opening, closing⟩, others⟩ := List.forall_mem_cons.mp inside
    rw [List.cons_append, takeHost]
    simp [here, opening, closing, ih others]

private theorem IsHost.takeHost_write {host : Host} (isHost : IsHost host) {rest : List Char}
    (stop : ∀ c ∈ rest.head?, c = ':' ∨ endsAuthority true c) :
    takeHost true false (host.write ++ rest) = (host.write, rest) := by
  cases isHost with
  | domain _ _ allowed => exact takeHost_of_allowed allowed stop
  | @ipv4 address =>
    refine takeHost_of_allowed (fun c mem => ?_) stop
    exact not_forbiddenInName_of_isNumeric (isNumeric_writeIpv4 address c mem)
  | @ipv6 ns =>
    have inside : ∀ c ∈ writeIpv6 ns, endsAuthority true c = false ∧ c ≠ '[' ∧ c ≠ ']' := by
      intro c mem
      rcases mem_writeIpv6 mem with rfl | allowed
      · decide
      · have goesOn := not_endsAuthority_of_inAuthority (inAuthority_of_allowed allowed).1
        exact ⟨goesOn, ne_of_spared allowed rfl, ne_of_spared allowed rfl⟩
    have outside : takeHost true false rest = ([], rest) :=
      takeHost_of_allowed (List.forall_mem_nil _) stop
    have closed := takeHost_inside inside rest
    rw [outside] at closed
    have opened : takeHost true false ('[' :: (writeIpv6 ns ++ ']' :: rest)) =
        ('[' :: (takeHost true true (writeIpv6 ns ++ ']' :: rest)).1,
          (takeHost true true (writeIpv6 ns ++ ']' :: rest)).2) := rfl
    rw [closed] at opened
    simpa [write] using opened

end Host

def portText (port : Option Nat) : List Char :=
  port.elim [] fun p => ':' :: Nat.toDigits 10 p

def IsPort (scheme : List Char) (port : Option Nat) : Prop :=
  ∀ p ∈ port, p ≤ 65535 ∧ defaultPort? scheme ≠ some p

private theorem isPort_none (scheme : List Char) : IsPort scheme none :=
  nofun

private theorem isPort_of_read {scheme s rest : List Char} {port : Option Nat}
    (read : readPort scheme s = .ok (port, rest)) : IsPort scheme port := by
  unfold readPort at read
  extract_lets digits behind number ended at read
  split at read
  · cases read
  · next small =>
    split at read
    · obtain ⟨rfl, -⟩ := Prod.mk.inj (Except.ok.inj read)
      exact isPort_none scheme
    · next other =>
      obtain ⟨rfl, -⟩ := Prod.mk.inj (Except.ok.inj read)
      rintro p ⟨⟩
      rw [not_or] at small other
      exact ⟨Nat.not_lt.mp small.1, other.2⟩

private theorem readPort_toDigits {scheme : List Char} {p : Nat} (isPort : IsPort scheme (some p))
    (rest : List Char) :
    readPort scheme (Nat.toDigits 10 p ++ '/' :: rest) = .ok (some p, '/' :: rest) := by
  obtain ⟨small, other⟩ := isPort p rfl
  have digits : ∀ c ∈ Nat.toDigits 10 p, c.isDigit :=
    fun c mem => Nat.isDigit_of_mem_toDigits (by decide) (by decide) mem
  have slash : ∀ c ∈ ('/' :: rest).head?, c.isDigit = false := by
    rintro _ ⟨⟩
    rfl
  have front : (Nat.toDigits 10 p ++ '/' :: rest).takeWhile Char.isDigit = Nat.toDigits 10 p :=
    Text.takeWhile_append_of_all digits slash
  have back : (Nat.toDigits 10 p ++ '/' :: rest).dropWhile Char.isDigit = '/' :: rest :=
    Text.dropWhile_append_of_all digits slash
  have value : (Nat.toDigits 10 p).foldl (fun n c => n * 10 + (c.toNat - 48)) 0 = p := by
    have value := Nat.ofDigitChars_ten_toDigits (n := p)
    simp only [Nat.ofDigitChars, Nat.mul_comm 10] at value
    exact value
  have nonempty : Nat.toDigits 10 p ≠ [] := Nat.toDigits_ne_nil
  rw [readPort, front, back, value]
  simp [small, other, nonempty, endsAuthority, separates]

def splitUser (s : List Char) : Except UrlFault (Option UserInfo × List Char) :=
  match Text.splitLast? '@' (s.takeWhile fun c => !endsAuthority true c) with
  | none => .ok (none, s)
  | some (info, _) =>
    let rest := s.drop (info.length + 1)
    if info = [] ∧ (rest.head?.map (endsAuthority true)) = some true then .error .emptyHost
    else .ok (readUserInfo info, rest)

def splitPort (scheme : List Char) : List Char → Except UrlFault (Option Nat × List Char)
  | ':' :: behind => readPort scheme behind
  | rest => .ok (none, rest)

def readServer (scheme : List Char) (user : Option UserInfo) (s : List Char) :
    Except UrlFault (Authority × List Char) :=
  readHost true (takeHost true false s).1 >>= fun host =>
    if host = .domain [] ∧ (takeHost true false s).2.head? = some ':' then .error .emptyHost
    else
      splitPort scheme (takeHost true false s).2 >>= fun parts =>
        if host = .domain [] ∧ user.isSome then .error .emptyHost
        else .ok (⟨user, host, parts.1⟩, parts.2)

private theorem readServer_eq (scheme : List Char) (user : Option UserInfo) (s : List Char) :
    readServer scheme user s =
      (readHost true (takeHost true false s).1 >>= fun host =>
        if host = .domain [] ∧ (takeHost true false s).2.head? = some ':' then .error .emptyHost
        else
          match (takeHost true false s).2 with
          | ':' :: behind => readPort scheme behind >>= fun parts =>
            if host = .domain [] ∧ user.isSome then .error .emptyHost
            else .ok (⟨user, host, parts.1⟩, parts.2)
          | _ => Except.ok (none, (takeHost true false s).2) >>= fun parts =>
            if host = .domain [] ∧ user.isSome then .error .emptyHost
            else .ok (⟨user, host, parts.1⟩, parts.2)) := by
  unfold readServer splitPort
  congr 1
  funext host
  congr 1
  generalize (takeHost true false s).2 = rest
  split <;> rfl

private theorem readAuthority_eq {scheme : List Char} (web : kindOf scheme = .web) (s : List Char) :
    readAuthority scheme s = splitUser s >>= fun parts => readServer scheme parts.1 parts.2 := by
  have special : (kindOf scheme).isSpecial = true := by
    rw [web]
    rfl
  unfold readAuthority splitUser
  simp only [special, readServer_eq]
  generalize Text.splitLast? '@' (s.takeWhile fun c => !endsAuthority true c) = cut
  cases cut with
  | none => rfl
  | some parts =>
    simp only
    split <;> rfl

private theorem isUserInfo_of_splitUser {s rest : List Char} {user : Option UserInfo}
    (read : splitUser s = .ok (user, rest)) : ∀ u ∈ user, IsUserInfo u := by
  unfold splitUser at read
  split at read
  · cases read
    exact nofun
  · simp only at read
    split at read
    · cases read
    · cases read
      exact fun u mem => isUserInfo_of_read mem

private theorem isHost_of_readHost {s : List Char} {host : Host}
    (read : readHost true s = .ok host) :
    Host.IsHost host := by
  rw [readHost, if_pos rfl] at read
  split at read
  · cases read
  · exact Host.isHost_of_parse read

private theorem isPort_of_splitPort {scheme s rest : List Char} {port : Option Nat}
    (read : splitPort scheme s = .ok (port, rest)) : IsPort scheme port := by
  unfold splitPort at read
  split at read
  · exact isPort_of_read read
  · cases read
    exact isPort_none scheme

/-- An authority that its own text is read as, unless its host holds a code that is too long. -/
structure IsAuthority (scheme : List Char) (a : Authority) : Prop where
  user : ∀ u ∈ a.user, IsUserInfo u
  host : Host.IsHost a.host
  port : IsPort scheme a.port

theorem isAuthority_of_read {scheme s rest : List Char} (web : kindOf scheme = .web)
    {a : Authority} (read : readAuthority scheme s = .ok (a, rest)) : IsAuthority scheme a := by
  rw [readAuthority_eq web] at read
  obtain ⟨⟨user, server⟩, userRead, read⟩ := exists_of_bind_ok read
  obtain ⟨host, hostRead, read⟩ := exists_of_bind_ok read
  split at read
  · cases read
  · obtain ⟨⟨port, behind⟩, portRead, read⟩ := exists_of_bind_ok read
    split at read
    · cases read
    · cases read
      constructor
      case user => exact isUserInfo_of_splitUser userRead
      case host => exact isHost_of_readHost hostRead
      case port => exact isPort_of_splitPort portRead

private theorem splitPort_write {scheme : List Char} {port : Option Nat}
    (isPort : IsPort scheme port) (rest : List Char) :
    splitPort scheme (portText port ++ '/' :: rest) = .ok (port, '/' :: rest) := by
  cases port with
  | none => rfl
  | some p => exact readPort_toDigits isPort rest

private theorem head?_portText_append (port : Option Nat) (rest : List Char) :
    ∀ c ∈ (portText port ++ '/' :: rest).head?, c = ':' ∨ endsAuthority true c := by
  intro c mem
  cases port with
  | none =>
    cases mem
    exact .inr rfl
  | some p =>
    cases mem
    exact .inl rfl

private theorem inAuthority_portText (port : Option Nat) :
    ∀ c ∈ portText port, inAuthority c ∧ c ≠ '@' := by
  intro c mem
  cases port with
  | none => cases mem
  | some p =>
    rcases List.mem_cons.mp mem with rfl | mem
    · decide
    · exact Host.inAuthority_of_allowed
        (Host.not_forbiddenInName_of_mem_toDigits (by decide) (by decide) mem)

private theorem splitUser_write {user : Option UserInfo} (isUserInfo : ∀ u ∈ user, IsUserInfo u)
    {server : List Char} (chars : ∀ c ∈ server, inAuthority c ∧ c ≠ '@') (rest : List Char) :
    splitUser (user.elim [] UserInfo.write ++ (server ++ '/' :: rest)) =
      .ok (user, server ++ '/' :: rest) := by
  have slash : ∀ c ∈ ('/' :: rest).head?, (!endsAuthority true c) = false := by
    rintro _ ⟨⟩
    rfl
  have upTo : ∀ s, (∀ c ∈ s, inAuthority c) →
      (s ++ '/' :: rest).takeWhile (fun c => !endsAuthority true c) = s := by
    intro s inside
    refine Text.takeWhile_append_of_all (fun c mem => ?_) slash
    rw [not_endsAuthority_of_inAuthority (inside c mem)]
    rfl
  have inServer : ∀ c ∈ server, inAuthority c := fun c mem => (chars c mem).1
  have noUser : '@' ∉ server := fun mem => (chars '@' mem).2 rfl
  cases user with
  | none =>
    have front : (server ++ '/' :: rest).takeWhile (fun c => !endsAuthority true c) = server :=
      upTo server inServer
    rw [Option.elim_none, List.nil_append, splitUser, front, Text.splitLast?_of_not_mem noUser]
  | some u =>
    have isInfo := isUserInfo u rfl
    have front : (u.info ++ '@' :: server ++ '/' :: rest).takeWhile
        (fun c => !endsAuthority true c) = u.info ++ '@' :: server := by
      refine upTo _ fun c mem => ?_
      rcases List.mem_append.mp mem with mem | mem
      · exact isInfo.inAuthority_info c mem
      · rcases List.mem_cons.mp mem with rfl | mem
        · decide
        · exact inServer c mem
    have written : (some u).elim [] UserInfo.write ++ (server ++ '/' :: rest) =
        u.info ++ '@' :: server ++ '/' :: rest := by
      simp [UserInfo.write, UserInfo.info]
    have behind : (u.info ++ '@' :: server ++ '/' :: rest).drop (u.info.length + 1) =
        server ++ '/' :: rest := by
      simp
    rw [written, splitUser, front, Text.splitLast?_append_cons noUser]
    simp only [behind]
    rw [if_neg fun empty => isInfo.info_ne_nil empty.1, isInfo.readUserInfo_info]

namespace IsAuthority

variable {scheme : List Char} {a : Authority} (isAuthority : IsAuthority scheme a)

include isAuthority

private theorem inAuthority_server :
    ∀ c ∈ a.host.write ++ portText a.port, inAuthority c ∧ c ≠ '@' := by
  intro c mem
  rcases List.mem_append.mp mem with mem | mem
  · exact isAuthority.host.inAuthority_write c mem
  · exact inAuthority_portText a.port c mem

theorem inAuthority_write : ∀ c ∈ a.write, inAuthority c := by
  intro c mem
  rw [Authority.write, List.append_assoc] at mem
  rcases List.mem_append.mp mem with mem | mem
  · cases user : a.user with
    | none =>
      rw [user] at mem
      cases mem
    | some u =>
      rw [user] at mem
      rcases List.mem_append.mp mem with mem | mem
      · exact (isAuthority.user u user).inAuthority_info c mem
      · rw [List.mem_singleton.mp mem]
        rfl
  · exact (isAuthority.inAuthority_server c mem).1

private theorem readServer_write (short : a.host.isShort) (rest : List Char) :
    readServer scheme a.user (a.host.write ++ portText a.port ++ '/' :: rest) =
      .ok (a, '/' :: rest) := by
  have taken : takeHost true false (a.host.write ++ (portText a.port ++ '/' :: rest)) =
      (a.host.write, portText a.port ++ '/' :: rest) :=
    isAuthority.host.takeHost_write (head?_portText_append a.port rest)
  have host : readHost true a.host.write = .ok a.host := by
    rw [readHost, if_pos rfl, if_neg isAuthority.host.write_ne_nil,
      Host.parse_write isAuthority.host short]
  have port := splitPort_write isAuthority.port rest
  have nonempty := isAuthority.host.ne_empty
  rw [readServer, List.append_assoc, taken, host]
  show (if a.host = .domain [] ∧ _ then _ else splitPort scheme _ >>= _) = _
  rw [if_neg fun empty => nonempty empty.1, port]
  show (if a.host = .domain [] ∧ _ then _ else _) = _
  rw [if_neg fun empty => nonempty empty.1]

theorem readAuthority_write (web : kindOf scheme = .web) (short : a.host.isShort)
    (rest : List Char) :
    readAuthority scheme (a.write ++ '/' :: rest) = .ok (a, '/' :: rest) := by
  have split := splitUser_write isAuthority.user isAuthority.inAuthority_server rest
  have written : a.write ++ '/' :: rest =
      a.user.elim [] UserInfo.write ++ (a.host.write ++ portText a.port ++ '/' :: rest) := by
    rw [Authority.write, List.append_assoc, List.append_assoc, List.append_assoc]
    rfl
  rw [readAuthority_eq web, written, split]
  exact isAuthority.readServer_write short rest

end IsAuthority

end Url
end ShowRemote
