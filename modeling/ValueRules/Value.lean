import ValueRules.Number.Reading

/-!
The values that rules filter and check: JSON values whose numbers are integers of up to 64 bits or
finite doubles.
-/

namespace ValueRules

namespace Number

/-- The integers that a number can hold: those of 64 bits, with a sign or without one, from
`-2 ^ 63` up to `2 ^ 64`. -/
def IsInteger (n : Int) : Prop := -0x8000000000000000 ≤ n ∧ n < 0x10000000000000000

instance (n : Int) : Decidable (IsInteger n) := inferInstanceAs (Decidable (_ ∧ _))

end Number

/-- An integer and a double are different numbers, however great they are. -/
inductive Number where
  | int (n : Int) (isInteger : Number.IsInteger n)
  | float (x : Binary64)
deriving DecidableEq

namespace Number

/-- The finite double nearest to the number. -/
def toBinary64? : Number → Option Binary64
  | int n _ => (Extended.ofInt n).finite?
  | float x => some x

/-- Doubles are compared by what they are worth, so both zeros are equal. -/
protected def beq : Number → Number → Bool
  | int m _, int n _ => m = n
  | float x, float y => x.le y && y.le x
  | _, _ => false

end Number

/-- A JSON value. An object lists its members by ascending name. -/
inductive Value where
  | null
  | bool (b : Bool)
  | num (n : Number)
  | str (text : String)
  | arr (items : List Value)
  | obj (members : List (String × Value))

namespace Value

instance : Inhabited Value := ⟨null⟩

def int (n : Int) (isInteger : Number.IsInteger n) : Value := num (.int n isInteger)

def float (x : Binary64) : Value := num (.float x)

def kindName : Value → String
  | null => "null"
  | bool _ => "boolean"
  | num _ => "number"
  | str _ => "string"
  | arr _ => "array"
  | obj _ => "object"

/-- Nothing was supplied: null, or a text, list or object with nothing in it. -/
def isBlank : Value → Bool
  | null => true
  | str text => text = ""
  | arr items => items.isEmpty
  | obj members => members.isEmpty
  | bool _ | num _ => false

/-- The value of the first member of this name. -/
def lookup? (name : String) (members : List (String × Value)) : Option Value :=
  (members.find? fun (member, _) => member = name).map (·.2)

mutual

protected def beq : Value → Value → Bool
  | null, null => true
  | bool a, bool b => a == b
  | num a, num b => a.beq b
  | str a, str b => a == b
  | arr as, arr bs => beqItems as bs
  | obj as, obj bs => beqMembers as bs
  | _, _ => false

def beqItems : List Value → List Value → Bool
  | [], [] => true
  | a :: as, b :: bs => a.beq b && beqItems as bs
  | _, _ => false

def beqMembers : List (String × Value) → List (String × Value) → Bool
  | [], [] => true
  | (m, a) :: as, (n, b) :: bs => m == n && a.beq b && beqMembers as bs
  | _, _ => false

end

instance : BEq Value := ⟨Value.beq⟩

end Value

end ValueRules
