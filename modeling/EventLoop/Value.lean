import EventLoop.Bytes

/-!
# Values

Scripts compute with values of one dynamic type: what a future holds, what an operation answers and
what a task returns. An object keeps its members in the order in which they were written.
-/
namespace EventLoop

/-- A dynamic value. -/
inductive Value
  /-- No value. -/
  | null
  /-- A truth value. -/
  | bool (value : Bool)
  /-- A whole number. -/
  | int (value : Int)
  /-- A text. -/
  | str (value : String)
  /-- A list of values. -/
  | list (items : List Value)
  /-- Named members. -/
  | object (members : List (String × Value))
  deriving Inhabited

namespace Value

mutual

/-- Whether two values are equal; the members of an object are compared by name, in any order. -/
def same : Value → Value → Bool
  | null, null => true
  | bool left, bool right => left == right
  | int left, int right => left == right
  | str left, str right => left == right
  | list left, list right => sameItems left right
  | object left, object right => left.length == right.length && sameMembers left right
  | _, _ => false

/-- Whether two lists hold equal values in the same order. -/
def sameItems : List Value → List Value → Bool
  | [], [] => true
  | left :: lefts, right :: rights => same left right && sameItems lefts rights
  | _, _ => false

/-- Whether every member has an equal member of the same name on the other side. -/
def sameMembers : List (String × Value) → List (String × Value) → Bool
  | [], _ => true
  | (name, value) :: rest, other =>
    (match other.lookup name with
      | some found => same value found
      | none => false) && sameMembers rest other

end

instance : BEq Value := ⟨same⟩

/-- A natural number as a value. -/
def nat (value : Nat) : Value := int value

/-- A text, or no value. -/
def text? : Option String → Value
  | some text => str text
  | none => null

/-- The value that shows data: hexadecimal text, or a digest of long data. -/
def ofBytes (bytes : Bytes) : Value :=
  if bytes.length ≤ Bytes.shownInFull then str (Bytes.toHex bytes)
  else object [
    ("fnv", nat (Bytes.fnv1a bytes).toNat),
    ("head", str (Bytes.toHex (bytes.take Bytes.digestHead))),
    ("len", nat bytes.length)]

/-- The word for a truth value. -/
def boolText (value : Bool) : String := if value then "true" else "false"

/-- The value that shows a success. -/
def ok (value : Value) : Value := object [("ok", value)]

end Value

end EventLoop
