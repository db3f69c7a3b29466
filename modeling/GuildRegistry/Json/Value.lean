import GuildRegistry.Number.Binary64
import GuildRegistry.Json.PropertyOrder

/-! JSON values with ordered members.

An object keeps its members in property order (see `PropertyOrder`): with repeated keys
the last value wins and the first position stays. `Members.set` is the only way members
are added, which keeps that order.
-/

set_option autoImplicit false

namespace GuildRegistry

/-- A JSON value. Numbers are binary64; objects are member lists in property order. -/
inductive Json where
  | null
  | bool (b : Bool)
  | num (x : Binary64)
  | str (s : String)
  | arr (items : List Json)
  | obj (members : List (String × Json))
  deriving Inhabited, Repr

namespace Json

/-- Sets a member in property order. -/
def Members.set (ms : List (String × Json)) (k : String) (v : Json) : List (String × Json) :=
  PropertyOrder.set ms k v

/-- Builds members by setting each pair in turn. -/
def Members.ofList (pairs : List (String × Json)) : List (String × Json) :=
  PropertyOrder.ofList pairs

/-- An object built by setting each pair in turn. -/
def object (pairs : List (String × Json)) : Json := .obj (Members.ofList pairs)

/-- The value of a member of an object. -/
def get? (j : Json) (k : String) : Option Json :=
  match j with
  | .obj ms => (ms.find? (fun m => m.1 == k)).map (·.2)
  | _ => none

/-- A member's value, `null` when absent or not an object. -/
def getD (j : Json) (k : String) : Json := (j.get? k).getD .null

def ofNat (n : Nat) : Json := .num (Binary64.ofNat n)
def ofInt (i : Int) : Json := .num (Binary64.ofInt i)

/-- A text or `null`. -/
def ofOption (s : Option String) : Json :=
  match s with
  | some t => .str t
  | none => .null

def asString? : Json → Option String
  | .str s => some s
  | _ => none

def asNumber? : Json → Option Binary64
  | .num x => some x
  | _ => none

def asBool? : Json → Option Bool
  | .bool b => some b
  | _ => none

def asArray? : Json → Option (List Json)
  | .arr xs => some xs
  | _ => none

def asObject? : Json → Option (List (String × Json))
  | .obj ms => some ms
  | _ => none

def isNull : Json → Bool
  | .null => true
  | _ => false

end Json

end GuildRegistry
