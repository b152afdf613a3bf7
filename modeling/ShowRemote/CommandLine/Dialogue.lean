import ShowRemote.Http.Exchange

/-!
Programs that send requests, print and wait. A dialogue says what is to be done next and how to go
on from its result; how a request is carried out is left to whoever holds the dialogue.
-/

set_option autoImplicit false

namespace ShowRemote.CommandLine

open Http (Exchange Outgoing)

inductive Dialogue (α : Type) where
  | done (result : α)
  /-- Send a request, with a time limit in milliseconds. -/
  | send (request : Outgoing) (timeout : Nat) (next : Exchange → Dialogue α)
  | print (text : String) (next : Dialogue α)
  | pause (milliseconds : Nat) (next : Unit → Dialogue α)

namespace Dialogue

variable {α β : Type}

def bind (d : Dialogue α) (f : α → Dialogue β) : Dialogue β :=
  match d with
  | .done a => f a
  | .send request timeout next => .send request timeout fun e => (next e).bind f
  | .print text next => .print text (next.bind f)
  | .pause ms next => .pause ms fun _ => (next ()).bind f

instance : Monad Dialogue where
  pure := .done
  bind := bind

end Dialogue

structure Transcript (α : Type) where
  /-- The requests in order, with what became of them. -/
  requests : List (Outgoing × Exchange)
  printed : String
  result : α

namespace Dialogue

variable {α : Type}

/-- Let a list of exchanges answer the requests in order, and another one all further requests. -/
def play (otherwise : Exchange) : Dialogue α → List Exchange → Transcript α
  | .done a, _ => ⟨[], "", a⟩
  | .send request _ next, exchanges =>
    let exchange := exchanges.headD otherwise
    let t := (next exchange).play otherwise exchanges.tail
    { t with requests := (request, exchange) :: t.requests }
  | .print text next, exchanges =>
    let t := next.play otherwise exchanges
    { t with printed := text ++ t.printed }
  | .pause _ next, exchanges => (next ()).play otherwise exchanges

end Dialogue
end ShowRemote.CommandLine
