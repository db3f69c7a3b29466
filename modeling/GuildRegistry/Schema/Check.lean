import GuildRegistry.Schema.Issue
import GuildRegistry.Json.Access
import GuildRegistry.Number.Numeral
import GuildRegistry.Text.Units

/-! Checking JSON values against a shape.

A check looks at a value (absent when a member is missing) at a path and gives the issues it found
together with the decoded value when there were none. Checks of the members of an object or the
items of an array all run, so every issue of a value is reported, in the order of the shape's
fields, or of the items and entries of the value.
-/

set_option autoImplicit false

namespace GuildRegistry.Schema

/-- The issues found and, when there were none, the decoded value. A check that meets a value
it cannot convert to a number raises a type error, which ends the whole check; `raised`
records that, and a check that raised gives no value. -/
structure Checked (α : Type) where
  issues : List Issue
  value? : Option α
  raised : Bool

namespace Checked

variable {α β γ : Type}

def ok (a : α) : Checked α := ⟨[], some a, false⟩
def fail (i : Issue) : Checked α := ⟨[i], none, false⟩

/-- A check that raised a type error. -/
def raise : Checked α := ⟨[], none, true⟩

def map (f : α → β) (c : Checked α) : Checked β := ⟨c.issues, c.value?.map f, c.raised⟩

/-- Both checks run; the pair is there when both values are. -/
def both (a : Checked α) (b : Checked β) : Checked (α × β) :=
  ⟨a.issues ++ b.issues, match a.value?, b.value? with
    | some x, some y => some (x, y)
    | _, _ => none, a.raised || b.raised⟩

/-- Runs a further check on the value, when there is one. -/
def andThen (c : Checked α) (f : α → Checked β) : Checked β :=
  match c.value? with
  | some a => let d := f a; ⟨c.issues ++ d.issues, d.value?, c.raised || d.raised⟩
  | none => ⟨c.issues, none, c.raised⟩

/-- Checks every element; the list is there when every element is. -/
def all (cs : List (Checked α)) : Checked (List α) :=
  cs.foldr (fun c acc => (both c acc).map fun (x, xs) => x :: xs) (ok [])

/-- The value, when no issue was found. -/
def toExcept (c : Checked α) : Except (List Issue) α :=
  match c.issues, c.value? with
  | [], some a => .ok a
  | issues, _ => .error issues

end Checked

/-- A check of a possibly absent value at a path. -/
abbrev Check (α : Type) := List PathItem → Option Json → Checked α

/-- The type a value is reported as. -/
def typeName : Option Json → String
  | none => "undefined"
  | some .null => "null"
  | some (.bool _) => "boolean"
  | some (.num x) => if x.isNaN then "nan" else "number"
  | some (.str _) => "string"
  | some (.arr _) => "array"
  | some (.obj _) => "object"

variable {α : Type}

/-- A text. -/
def text : Check String := fun path v =>
  match v with
  | some (.str s) => .ok s
  | _ => .fail ⟨.wrongType "string" (typeName v), path⟩

/-- A boolean. -/
def boolean : Check Bool := fun path v =>
  match v with
  | some (.bool b) => .ok b
  | _ => .fail ⟨.wrongType "boolean" (typeName v), path⟩

/-- Absent or `null` give `none`, anything else is checked. -/
def nullish (c : Check α) : Check (Option α) := fun path v =>
  match v with
  | none | some .null => .ok none
  | _ => (c path v).map some

/-- An absent value is replaced by a default before checking. -/
def withDefault (d : Json) (c : Check α) : Check α := fun path v =>
  c path (some (v.getD d))

/-- An absent value gives `none`, anything else is checked. -/
def optional (c : Check α) : Check (Option α) := fun path v =>
  match v with
  | none => .ok none
  | some _ => (c path v).map some

/-- A text of at most `n` UTF-16 units. -/
def textAtMost (n : Nat) : Check String := fun path v =>
  (text path v).andThen fun s => if Text.units16 s ≤ n then .ok s else .fail ⟨.tooLong n, path⟩

/-- A text that matches a pattern. -/
def textMatching (p : String → Bool) : Check String := fun path v =>
  (text path v).andThen fun s => if p s then .ok s else .fail ⟨.patternMismatch, path⟩

/-- One of the given words. -/
def oneOf (options : List String) : Check String := fun path v =>
  match v with
  | some (.str s) => if options.contains s then .ok s else .fail ⟨.notInEnum options s, path⟩
  | _ => .fail ⟨.wrongType (quotedOptions options) (typeName v), path⟩

/-- A number after conversion; NaN is refused, and a value that does not convert raises. -/
def coercedNumber : Check Binary64 := fun path v =>
  if !v.all Json.converts then .raise
  else
    let x := Json.toNumber v
    if x.isNaN then .fail ⟨.wrongType "number" "nan", path⟩ else .ok x

/-- Number bounds checked in order; every failing bound is reported. -/
inductive Bound where
  | integer
  | atLeast (m : Binary64)
  | above (m : Binary64)
  | atMost (m : Binary64)

def Bound.problem? (x : Binary64) : Bound → Option Problem
  | .integer => if x.isInteger then none else some .notInteger
  | .atLeast m => if Binary64.le m x then none else some (.tooSmall m true)
  | .above m => if Binary64.lt m x then none else some (.tooSmall m false)
  | .atMost m => if Binary64.le x m then none else some (.tooBig m true)

/-- A converted number within bounds. -/
def boundedNumber (bounds : List Bound) : Check Binary64 := fun path v =>
  (coercedNumber path v).andThen fun x =>
    let problems := bounds.filterMap (Bound.problem? x)
    if problems.isEmpty then .ok x else ⟨problems.map (⟨·, path⟩), none, false⟩

/-- A converted integer. -/
def integer : Check Binary64 := boundedNumber [.integer]

/-- The safe integer bounds, `±(2^53 - 1)`. -/
def safeBounds : List Bound :=
  [.integer, .atLeast (Binary64.ofInt (-(Binary64.maxSafeInteger : Int))),
    .atMost (Binary64.ofNat Binary64.maxSafeInteger)]

/-- An array whose items pass a check. -/
def array (item : Check α) : Check (List α) := fun path v =>
  match v with
  | some (.arr items) =>
    Checked.all (items.zipIdx.map fun (x, i) => item (path ++ [.index i]) (some x))
  | _ => .fail ⟨.wrongType "array" (typeName v), path⟩

/-- An object whose keys and values pass checks, key before value for each entry, in the
object's own order. -/
def record (key : Check String) (value : Check α) : Check (List (String × α)) := fun path v =>
  match v with
  | some (.obj members) =>
    Checked.all (members.map fun (k, x) =>
      let p := path ++ [.key k]
      Checked.both (key p (some (.str k))) (value p (some x)))
  | _ => .fail ⟨.wrongType "object" (typeName v), path⟩

/-- The member of an object, absent when missing. -/
def member (members : List (String × Json)) (k : String) : Option Json :=
  (members.find? (fun m => m.1 == k)).map (·.2)

/-- An object, checked by a function of its members; other types are refused. -/
def object (fields : List PathItem → List (String × Json) → Checked α) : Check α := fun path v =>
  match v with
  | some (.obj members) => fields path members
  | _ => .fail ⟨.wrongType "object" (typeName v), path⟩

/-- Checks one field of an object's members. -/
def field (c : Check α) (path : List PathItem) (members : List (String × Json)) (k : String) :
    Checked α :=
  c (path ++ [.key k]) (member members k)

end GuildRegistry.Schema
