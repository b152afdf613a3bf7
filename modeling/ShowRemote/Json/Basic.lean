import ShowRemote.Decimal.Shortest

/-!
JSON documents. A document keeps the members of an object as they stand in the text, repeated names
included; `settle` gives each name one place, that of its first occurrence, with the value of its
last one.
-/

set_option autoImplicit false

namespace ShowRemote

/-- An integer of 64 bits, signed or not, or a finite double. -/
inductive Json.Number where
  | integer (value : Int)
  | double (negative : Bool) (magnitude : Decimal.Binary64)
  deriving DecidableEq, Repr

inductive Json where
  | null
  | bool (value : Bool)
  | number (value : Json.Number)
  | string (text : String)
  | array (items : List Json)
  | object (members : List (String × Json))
  deriving Repr, Inhabited

namespace Json

/-- Give a name a value: in place where the name stands already, else at the end. -/
def put (key : String) (value : Json) : List (String × Json) → List (String × Json)
  | [] => [(key, value)]
  | (k, v) :: rest => if k = key then (k, value) :: rest else (k, v) :: put key value rest

theorem lookup_put (key : String) (value : Json) (members : List (String × Json)) (name : String) :
    (put key value members).lookup name =
      if name = key then some value else members.lookup name := by
  induction members with
  | nil => by_cases h : name = key <;> grind [put]
  | cons member rest ih =>
    obtain ⟨k, v⟩ := member
    by_cases hk : k = key <;> by_cases hn : name = k <;> grind [put]

/-- One member a name: first places, last values. -/
def settleMembers (members : List (String × Json)) : List (String × Json) :=
  members.foldl (fun held m => put m.1 m.2 held) []

mutual

/-- Settle the members of every object in a document. -/
def settle : Json → Json
  | .null => .null
  | .bool b => .bool b
  | .number n => .number n
  | .string s => .string s
  | .array items => .array (settleAll items)
  | .object members => .object (settleMembers (settleValues members))

def settleAll : List Json → List Json
  | [] => []
  | x :: rest => settle x :: settleAll rest

def settleValues : List (String × Json) → List (String × Json)
  | [] => []
  | (k, v) :: rest => (k, settle v) :: settleValues rest

end

/-- The value of a name in an object; nothing for a name that is absent and for other documents. -/
def member? (key : String) : Json → Option Json
  | .object members => members.lookup key
  | _ => none

def isNull : Json → Bool
  | .null => true
  | _ => false

end Json
end ShowRemote
