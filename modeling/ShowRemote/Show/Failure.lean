/-!
What can go wrong between a client and its player: the exact fault, and the failure that is kept of
it, which is a class and a message.
-/

set_option autoImplicit false

namespace ShowRemote.Show

inductive FailureCode where
  | transport
  | httpStatus
  | malformedBody
  | internal
  deriving DecidableEq, Repr

namespace FailureCode

def text : FailureCode → String
  | .transport => "transport"
  | .httpStatus => "http_status"
  | .malformedBody => "malformed_body"
  | .internal => "internal"

/-- Every class under its text. -/
def names : List (String × FailureCode) :=
  [.transport, .httpStatus, .malformedBody, .internal].map fun code => (code.text, code)

end FailureCode

structure Failure where
  code : FailureCode
  message : String
  deriving DecidableEq, Repr

def Failure.describe (f : Failure) : String :=
  f.code.text ++ ": " ++ f.message

inductive TransportFault where
  | invalidBaseUrl (url reason : String)
  | client (reason : String)
  | request (url reason : String)
  | timeout (url : String)
  | status (url : String) (answer : Nat)
  | body (url reason : String)
  deriving DecidableEq, Repr

namespace TransportFault

def code : TransportFault → FailureCode
  | .invalidBaseUrl .. => .internal
  | .client _ => .internal
  | .request .. => .transport
  | .timeout _ => .transport
  | .status .. => .httpStatus
  | .body .. => .malformedBody

def message : TransportFault → String
  | .invalidBaseUrl url reason => "invalid base url '" ++ url ++ "': " ++ reason
  | .client reason => "failed to build http client: " ++ reason
  | .request url reason => "request to " ++ url ++ " failed: " ++ reason
  | .timeout url => "request to " ++ url ++ " timed out"
  | .status url answer =>
    url ++ " answered with http status " ++ String.ofList (Nat.toDigits 10 answer)
  | .body url reason => "malformed response body from " ++ url ++ ": " ++ reason

def failure (fault : TransportFault) : Failure :=
  ⟨fault.code, fault.message⟩

end TransportFault
end ShowRemote.Show
