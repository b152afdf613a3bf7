import ShowRemote.Show.View

/-!
What a session tells about itself: the operations that can fail or come too late, how an operation
ends, and the events of a session.
-/

set_option autoImplicit false

namespace ShowRemote

open Show (Failure ShowOption StatusView)

/-- What a session does with its player. A command is known by the name of its intent. -/
inductive Operation where
  | refresh
  | loadDirectory
  | command (intent : String)
  deriving DecidableEq, Repr

namespace Operation

def name : Operation → String
  | .refresh => "refresh"
  | .loadDirectory => "load_directory"
  | .command intent => "command:" ++ intent

/-- The operation as a warning names it. -/
def title : Operation → String
  | .refresh => "Refresh"
  | .loadDirectory => "LoadDirectory"
  | .command intent => "Command \x7b intent: \"" ++ intent ++ "\" \x7d"

end Operation

/-- How an operation ends. An answer is stale when a later request has been answered before it. -/
inductive Outcome where
  | applied
  | stale
  | failed
  deriving DecidableEq, Repr

def Outcome.name : Outcome → String
  | .applied => "applied"
  | .stale => "stale"
  | .failed => "failed"

structure ErrorRecord where
  operation : Operation
  failure : Failure
  deriving DecidableEq, Repr

inductive Event where
  | statusUpdated (view : StatusView)
  | directoryUpdated (options : List ShowOption)
  | staleDiscarded (operation : Operation) (sequence : Nat)
  | failed (record : ErrorRecord)
  deriving DecidableEq, Repr

end ShowRemote
