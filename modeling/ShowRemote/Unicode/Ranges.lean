/-!
Sets of code points, given by closed ranges.
-/

set_option autoImplicit false

namespace ShowRemote.Unicode

def isIn (ranges : List (Nat × Nat)) (c : Char) : Bool :=
  ranges.any fun r => r.1 ≤ c.toNat && c.toNat ≤ r.2

end ShowRemote.Unicode
