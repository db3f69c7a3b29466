import GuildRegistry.Unicode.IdnaMapping
import GuildRegistry.Unicode.Normalization
import GuildRegistry.Domain.Punycode
import GuildRegistry.Domain.Label

/-! Checking a domain on its way to ASCII.

A domain that is all ASCII is only lowered; of its labels, those that start with `xn--` must be
well-formed punycode. Any other domain is mapped (a code point that is not allowed fails it, and so
does a domain that maps to nothing), brought to Normalization Form C and split at dots.
-/

set_option autoImplicit false

namespace GuildRegistry.Domain

open Unicode

/-- Whether a list of code points is all ASCII. -/
def allAscii (cps : List Nat) : Bool := cps.all (· < 0x80)

/-- A code point in lower case, for ASCII letters. -/
def lowerAscii (cp : Nat) : Nat := if 0x41 ≤ cp && cp ≤ 0x5A then cp + 32 else cp

/-- The code points of `xn--`. -/
def punycodePrefix : List Nat := [0x78, 0x6E, 0x2D, 0x2D]

/-- Whether a label in punycode spells a label that could have been written that way. -/
def punycodeValid (label : List Nat) : Bool :=
  match Punycode.decode? ((label.drop 4).map Char.ofNat) with
  | none => false
  | some decoded =>
    !decoded.isEmpty && idnaMap decoded == some decoded && nfc decoded == decoded &&
      labelValid decoded

/-- Whether one label of a mapped domain passes. -/
def mappedLabelValid (label : List Nat) : Bool :=
  if label.isEmpty then true
  else if punycodePrefix.isPrefixOf label then allAscii label && punycodeValid label
  else allAscii label || labelValid label

/-- The labels of a domain as code points, or none when the domain cannot be written in
ASCII. -/
def asciiLabels? (domain : List Nat) : Option (List (List Nat)) :=
  if allAscii domain then
    let labels := (domain.map lowerAscii).splitOn 0x2E
    if labels.all fun l => !punycodePrefix.isPrefixOf l || punycodeValid l then some labels
    else none
  else
    match idnaMap domain with
    | none => none
    | some mapped =>
      let normal := nfc mapped
      if normal.isEmpty then none
      else
        let labels := normal.splitOn 0x2E
        if labels.all mappedLabelValid then some labels else none

end GuildRegistry.Domain
