/-! Text-keyed members in property order.

Members keep the order of object properties: keys that are canonical array indices (`0` …
`4294967294`, decimal, no sign, no leading zero) come first, ascending by value, then every other
key in the order it was first set. Setting a key that is present replaces its value in place.
-/

set_option autoImplicit false

namespace GuildRegistry.PropertyOrder

/-- The largest array index, `2^32 - 2`. -/
def maxIndex : Nat := 4294967294

/-- The value of a key that is a canonical array index. -/
def indexOfKey? (k : String) : Option Nat :=
  match k.toList with
  | ['0'] => some 0
  | c :: rest =>
    if '1' ≤ c ∧ c ≤ '9' ∧ rest.all Char.isDigit then
      let n := (c :: rest).foldl (fun acc d => acc * 10 + (d.toNat - '0'.toNat)) 0
      if n ≤ maxIndex then some n else none
    else none
  | [] => none

variable {α : Type}

/-- Inserts an index key after the index keys below it. -/
def insertIndexed (n : Nat) (k : String) (v : α) : List (String × α) → List (String × α)
  | [] => [(k, v)]
  | (k', v') :: rest =>
    match indexOfKey? k' with
    | some m => if m < n then (k', v') :: insertIndexed n k v rest else (k, v) :: (k', v') :: rest
    | none => (k, v) :: (k', v') :: rest

/-- Sets a member: an existing key keeps its place and takes the new value; a new index
key goes to its place among the index keys, any other new key to the end. -/
def set (ms : List (String × α)) (k : String) (v : α) : List (String × α) :=
  if ms.any (fun m => m.1 == k) then ms.map (fun m => if m.1 == k then (m.1, v) else m)
  else match indexOfKey? k with
    | some n => insertIndexed n k v ms
    | none => ms ++ [(k, v)]

/-- Members built by setting each pair in turn. -/
def ofList (pairs : List (String × α)) : List (String × α) :=
  pairs.foldl (fun ms p => set ms p.1 p.2) []

/-- The value of a key. -/
def get? (ms : List (String × α)) (k : String) : Option α :=
  (ms.find? (fun m => m.1 == k)).map (·.2)

end GuildRegistry.PropertyOrder
