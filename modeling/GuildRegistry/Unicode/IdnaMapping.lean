import GuildRegistry.Unicode.RangeTable
import GuildRegistry.Unicode.IdnaMappingData

/-! The mapping step of internationalized domain names.

Every code point has a status: it is kept, removed, replaced by other code points, or not allowed at
all. Mapping a text replaces each code point by what its status gives, and fails when one of them is
not allowed.
-/

set_option autoImplicit false

namespace GuildRegistry.Unicode

/-- What the mapping does with a code point. -/
inductive IdnaStatus where
  /-- The code point is kept. -/
  | valid
  /-- The code point is removed. -/
  | ignored
  /-- The code point is replaced by these. -/
  | mapped (targets : List Nat)
  /-- The code point may not stand in a domain name. -/
  | disallowed
  deriving DecidableEq, Repr, Inhabited

/-- The status an entry of the mapping table gives. -/
def readIdnaStatus (tag : Char) (rest : List Char) : Option IdnaStatus :=
  match tag with
  | 'v' => some .valid
  | 'i' => some .ignored
  | 'x' => some .disallowed
  | 'm' => (hexList? rest).map .mapped
  | _ => none

/-- The mapping table. -/
def idnaTable : RangeTable IdnaStatus :=
  RangeTable.ofText .disallowed readIdnaStatus idnaMappingText

/-- The status of a code point; numbers past the last code point are not allowed. -/
def IdnaStatus.of (cp : Nat) : IdnaStatus :=
  if cp < 0x110000 then idnaTable.find cp else .disallowed

/-- What one code point becomes, or none when it is not allowed. -/
def IdnaStatus.image? (cp : Nat) : IdnaStatus → Option (List Nat)
  | .valid => some [cp]
  | .ignored => some []
  | .mapped targets => some targets
  | .disallowed => none

/-- A text mapped code point by code point; none when a code point is not allowed. -/
def idnaMap (cps : List Nat) : Option (List Nat) :=
  (cps.mapM fun cp => (IdnaStatus.of cp).image? cp).map List.flatten

end GuildRegistry.Unicode
