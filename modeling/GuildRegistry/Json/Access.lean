import GuildRegistry.Json.Value
import GuildRegistry.Number.Shortest
import GuildRegistry.Number.Numeral
import GuildRegistry.Text.Units

/-! Reading JSON documents loosely.

Documents handed in from outside are read by rules that ask little of their shape. A value read from
a document may be missing, written `none`.
-/

set_option autoImplicit false

namespace GuildRegistry.Json

/-- The text of a value as string conversion gives it: arrays join their items with commas,
`null` items giving nothing, and objects are `[object Object]`. -/
def textOf : Json → String
  | .null => "null"
  | .bool true => "true"
  | .bool false => "false"
  | .num x => x.format
  | .str s => s
  | .arr items => itemsText items
  | .obj _ => "[object Object]"
where
  itemsText : List Json → String
    | [] => ""
    | [v] => itemText v
    | v :: rest => itemText v ++ "," ++ itemsText rest
  itemText : Json → String
    | .null => ""
    | v => textOf v

/-- Whether a value converts to a number or a text: not an object with a member named
`toString`, nor an array with an item that does not convert. -/
def converts : Json → Bool
  | .arr items => allConvert items
  | .obj ms => !ms.any (·.1 == "toString")
  | _ => true
where
  allConvert : List Json → Bool
    | [] => true
    | v :: rest => converts v && allConvert rest

/-- The message of a conversion that fails. -/
def unconvertible : String := "Cannot convert object to primitive value"

/-- Converts a possibly missing value, failing on one that does not convert. -/
def convert (v : Option Json) : Except String Unit :=
  if v.all converts then .ok () else .error unconvertible

/-- The text a value is written as when it stands for a key; a missing value is
`undefined`. -/
def keyText : Option Json → String
  | none => "undefined"
  | some v => textOf v

/-- The message of a read from a missing value or from `null`. -/
def unreadable (owner key : String) : String :=
  "Cannot read properties of " ++ owner ++ " (reading " ++ String.singleton (Char.ofNat 39) ++
    key ++ String.singleton (Char.ofNat 39) ++ ")"

/-- The member of a value under a key; fails on a missing value and on `null`. -/
def member (v : Option Json) (key : String) : Except String (Option Json) :=
  match v with
  | none => .error (unreadable "undefined" key)
  | some .null => .error (unreadable "null" key)
  | some (.obj ms) => .ok ((ms.find? (·.1 == key)).map (·.2))
  | some (.arr items) =>
    if key == "length" then .ok (some (Json.ofNat items.length))
    else .ok ((PropertyOrder.indexOfKey? key).bind fun i => items[i]?)
  | some (.str s) =>
    if key == "length" then .ok (some (Json.ofNat (Text.units16 s)))
    else .ok ((PropertyOrder.indexOfKey? key).bind fun i => (s.toList[i]?).map fun c => .str (String.singleton c))
  | some _ => .ok none

theorem member_obj (ms : List (String × Json)) (key : String) :
    member (some (.obj ms)) key = .ok ((ms.find? (·.1 == key)).map (·.2)) := rfl

theorem member_none (key : String) : member none key = .error (unreadable "undefined" key) := rfl

/-- The number a value is read as when it is compared with a number. -/
def toNumber : Option Json → Binary64
  | none => .nan
  | some .null => 0
  | some (.bool b) => if b then 1 else 0
  | some (.num x) => x
  | some (.str s) => Binary64.ofNumeral s
  | some (.arr items) => Binary64.ofNumeral (textOf (.arr items))
  | some (.obj _) => .nan

/-- Whether a value counts as true. -/
def truthy : Option Json → Bool
  | none | some .null => false
  | some (.bool b) => b
  | some (.num x) => !(x.isNaN || Binary64.eq x 0)
  | some (.str s) => !s.isEmpty
  | some (.arr _) | some (.obj _) => true

theorem truthy_eq_false_iff (v : Option Json) :
    truthy v = false ↔ v = none ∨ v = some .null ∨ v = some (.bool false) ∨
      (∃ x, v = some (.num x) ∧ (x.isNaN || Binary64.eq x 0) = true) ∨ v = some (.str "") := by
  match v with
  | none => simp [truthy]
  | some .null => simp [truthy]
  | some (.bool b) => cases b <;> simp [truthy]
  | some (.num x) =>
    simp only [truthy, Bool.not_eq_false', Option.some.injEq, reduceCtorEq, false_or, or_false,
      Json.num.injEq, exists_eq_left']
  | some (.str s) => simp [truthy, String.isEmpty_iff]
  | some (.arr _) => simp [truthy]
  | some (.obj _) => simp [truthy]

/-- A value with one added: joined with `1` as text, or added to as a number. -/
def plusOne (v : Option Json) : Json :=
  match v with
  | some (.str _) | some (.arr _) | some (.obj _) => .str (keyText v ++ "1")
  | _ => .num (toNumber v + 1)

/-- The code points of a text as texts: a surrogate pair is one, any other unit one. -/
def codePointTexts : List Char → List String
  | [] => []
  | [c] => [String.singleton c]
  | c :: d :: rest =>
    if Text.isHighSurrogate c && Text.isLowSurrogate d then String.ofList [c, d] :: codePointTexts rest
    else String.singleton c :: codePointTexts (d :: rest)

/-- The items of a value, for a value that has them; `name` names it in the failure. -/
def items (v : Option Json) (name : String) : Except String (List Json) :=
  match v with
  | some (.arr xs) => .ok xs
  | some (.str s) => .ok ((codePointTexts s.toList).map .str)
  | _ => .error (name ++ " is not iterable")

/-- The members a value gives when it is spread into an object. -/
def spread : Option Json → List (String × Json)
  | some (.obj ms) => ms
  | some (.arr xs) => (List.range xs.length).zip xs |>.map fun (i, x) => (toString i, x)
  | some (.str s) => (List.range s.length).zip s.toList |>.map fun (i, c) => (toString i, .str (String.singleton c))
  | _ => []

/-- An object of the given members, the missing ones left out, in property order. -/
def objectOf (pairs : List (String × Option Json)) : Json :=
  .obj (Members.ofList (pairs.filterMap fun (k, v) => v.map (k, ·)))

/-- Whether two values are strictly equal. -/
def strictEq : Option Json → Option Json → Bool
  | none, none => true
  | some .null, some .null => true
  | some (.bool a), some (.bool b) => a == b
  | some (.num x), some (.num y) => Binary64.eq x y
  | some (.str s), some (.str t) => s == t
  | _, _ => false

end GuildRegistry.Json
