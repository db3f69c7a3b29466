/-! Punycode decoding.

A punycode label spells a text in two parts: the ASCII code points, copied as they are before the
last hyphen, and then the other code points, each as a variable-length integer in base 36 (`a` to
`z` are 0 to 25, `0` to `9` are 26 to 35, least significant digit first) that says how far to move
in the joint space of code point values and insertion positions.
-/

set_option autoImplicit false

namespace GuildRegistry.Domain.Punycode

/-- The largest value the decoder works with, 2^31 - 1. -/
def limit : Nat := 0x7fffffff

/-- The value of a lower-case punycode digit. -/
def digitValue? (c : Char) : Option Nat :=
  if 'a' ≤ c ∧ c ≤ 'z' then some (c.toNat - 'a'.toNat)
  else if '0' ≤ c ∧ c ≤ '9' then some (c.toNat - '0'.toNat + 26)
  else none

/-- The threshold of the digit at `k`, between 1 and 26. -/
def threshold (k bias : Nat) : Nat :=
  if k ≤ bias then 1 else if bias + 26 ≤ k then 26 else k - bias

/-- Divides a delta by 35 until it is at most 455, counting 36 for each division. -/
def scaleDown (delta k : Nat) : Nat × Nat :=
  if 455 < delta then scaleDown (delta / 35) (k + 36) else (delta, k)
termination_by delta
decreasing_by omega

/-- The bias after a delta, with the number of code points so far and whether it was the
first delta. -/
def adapt (delta count : Nat) (first : Bool) : Nat :=
  let d := if first then delta / 700 else delta / 2
  let (d, k) := scaleDown (d + d / count) 0
  k + 36 * d / (d + 38)

/-- Reads one variable-length integer and adds it to `i`, with the digit at `k` weighing
`w`; gives the sum and the input after the integer. -/
def readDelta (bias : Nat) : List Char → Nat → Nat → Nat → Option (Nat × List Char)
  | [], _, _, _ => none
  | c :: rest, k, w, i =>
    match digitValue? c with
    | none => none
    | some d =>
      if (limit - i) / w < d then none
      else
        let t := threshold k bias
        if d < t then some (i + d * w, rest)
        else if limit / (36 - t) < w then none
        else readDelta bias rest (k + 36) (w * (36 - t)) (i + d * w)

theorem readDelta_shorter (bias : Nat) :
    ∀ (cs : List Char) (k w i : Nat) (r : Nat × List Char),
      readDelta bias cs k w i = some r → r.2.length < cs.length
  | [], _, _, _, _, h => by simp [readDelta] at h
  | c :: rest, k, w, i, r, h => by
    simp only [readDelta] at h
    split at h
    · simp at h
    · split at h
      · simp at h
      · split at h
        · rw [← Option.some.inj h]; simp
        · split at h
          · simp at h
          · have := readDelta_shorter bias rest (k + 36) _ _ r h
            simp; omega

/-- Inserts the code points the rest of the input spells into `out`: `n` is the last code
point value, `i` the position, `bias` the current bias. -/
def insertAll (n i bias : Nat) (out : List Nat) (cs : List Char) : Option (List Nat) :=
  match cs with
  | [] => some out
  | c :: rest =>
    match h : readDelta bias (c :: rest) 36 1 i with
    | none => none
    | some (j, more) =>
      let count := out.length + 1
      if limit - n < j / count then none
      else
        let n := n + j / count
        if n < 0x80 then none
        else
          have : more.length < rest.length + 1 := by
            have := readDelta_shorter bias (c :: rest) 36 1 i (j, more) h
            simpa using this
          insertAll n (j % count + 1) (adapt (j - i) count (i == 0))
            (out.insertIdx (j % count) n) more
termination_by cs.length

/-- The code points a punycode label (without its `xn--`) spells, or none when it is not
punycode. -/
def decode? (cs : List Char) : Option (List Nat) :=
  match cs.reverse.findIdx? (· == '-') with
  | none => insertAll 0x80 0 72 [] cs
  | some back =>
    let basic := cs.take (cs.length - back - 1)
    if basic.any (·.toNat ≥ 0x80) then none
    else insertAll 0x80 0 72 (basic.map Char.toNat) (cs.drop (cs.length - back))

end GuildRegistry.Domain.Punycode
