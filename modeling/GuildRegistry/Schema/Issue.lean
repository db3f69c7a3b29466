import GuildRegistry.Json.Value
import GuildRegistry.Number.Shortest

/-! Validation issues.

An issue says what was wrong and where: the path is the chain of object keys and array
positions from the checked value down to the offending one. Each kind of issue has a code
and a message in fixed words; numbers in messages are written as `Binary64.format` does.
-/

set_option autoImplicit false

namespace GuildRegistry.Schema

/-- A step from a value to a part of it. -/
inductive PathItem where
  | key (k : String)
  | index (i : Nat)
  deriving DecidableEq, Repr

def PathItem.toJson : PathItem → Json
  | .key k => .str k
  | .index i => Json.ofNat i

/-- What was wrong with a value. -/
inductive Problem where
  /-- Another type than the expected one; `received` is `undefined` for a missing value. -/
  | wrongType (expected received : String)
  /-- A number with a fractional part, or infinite, where an integer was expected. -/
  | notInteger
  /-- A text that does not match the required pattern. -/
  | patternMismatch
  /-- A text that is none of the allowed words. -/
  | notInEnum (options : List String) (received : String)
  /-- A number below the minimum (or at it, when the bound is exclusive). -/
  | tooSmall (minimum : Binary64) (inclusive : Bool)
  /-- A number above the maximum (or at it, when the bound is exclusive). -/
  | tooBig (maximum : Binary64) (inclusive : Bool)
  /-- A text longer than the maximum number of characters. -/
  | tooLong (maximum : Nat)
  /-- A problem stated by the schema itself. -/
  | custom (message : String)
  deriving Repr

/-- A problem at a path. -/
structure Issue where
  problem : Problem
  path : List PathItem
  deriving Repr

/-- The allowed words, quoted and separated by bars. -/
def quotedOptions (options : List String) : String :=
  " | ".intercalate (options.map fun o => "'" ++ o ++ "'")

namespace Problem

def code : Problem → String
  | .wrongType _ _ | .notInteger => "invalid_type"
  | .patternMismatch => "invalid_string"
  | .notInEnum _ _ => "invalid_enum_value"
  | .tooSmall _ _ => "too_small"
  | .tooBig _ _ | .tooLong _ => "too_big"
  | .custom _ => "custom"

def message : Problem → String
  | .wrongType expected received =>
    if received = "undefined" then "Required" else "Expected " ++ expected ++ ", received " ++ received
  | .notInteger => "Expected integer, received float"
  | .patternMismatch => "Invalid"
  | .notInEnum options received =>
    "Invalid enum value. Expected " ++ quotedOptions options ++ ", received '" ++ received ++ "'"
  | .tooSmall m inclusive =>
    "Number must be " ++ (if inclusive then "greater than or equal to " else "greater than ") ++ m.format
  | .tooBig m inclusive =>
    "Number must be " ++ (if inclusive then "less than or equal to " else "less than ") ++ m.format
  | .tooLong m => "String must contain at most " ++ toString m ++ " character(s)"
  | .custom message => message

/-- The fields that describe the problem beyond its code and message. -/
def details : Problem → List (String × Json)
  | .wrongType expected received => [("expected", .str expected), ("received", .str received)]
  | .notInteger => [("expected", .str "integer"), ("received", .str "float")]
  | .patternMismatch => [("validation", .str "regex")]
  | .notInEnum options received =>
    [("received", .str received), ("options", .arr (options.map Json.str))]
  | .tooSmall m inclusive =>
    [("minimum", .num m), ("type", .str "number"), ("inclusive", .bool inclusive), ("exact", .bool false)]
  | .tooBig m inclusive =>
    [("maximum", .num m), ("type", .str "number"), ("inclusive", .bool inclusive), ("exact", .bool false)]
  | .tooLong m =>
    [("maximum", Json.ofNat m), ("type", .str "string"), ("inclusive", .bool true), ("exact", .bool false)]
  | .custom _ => []

end Problem

namespace Issue

def code (i : Issue) : String := i.problem.code
def message (i : Issue) : String := i.problem.message
def pathJson (i : Issue) : Json := .arr (i.path.map PathItem.toJson)

/-- The code, path and message. -/
def toBriefJson (i : Issue) : Json :=
  .obj [("code", .str i.code), ("path", i.pathJson), ("message", .str i.message)]

/-- Every field of the issue. -/
def toJson (i : Issue) : Json :=
  .obj ([("code", .str i.code)] ++ i.problem.details ++
    [("path", i.pathJson), ("message", .str i.message)])

/-- The path written with dots, as in `OWNER_ID` or `a.0.b`. -/
def dottedPath (i : Issue) : String :=
  ".".intercalate (i.path.map fun
    | .key k => k
    | .index n => toString n)

end Issue

end GuildRegistry.Schema
