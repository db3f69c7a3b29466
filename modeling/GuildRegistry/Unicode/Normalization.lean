import GuildRegistry.Unicode.RangeTable
import GuildRegistry.Unicode.NormalizationData

/-! Normalization Form C.

A text is brought to form C in three steps: every code point is replaced by its full canonical
decomposition (Hangul syllables by rule), each run of combining marks is put in the order of their
combining classes (a stable sort, so marks of one class keep their order), and then each mark is
-/

set_option autoImplicit false

namespace GuildRegistry.Unicode

/-- The combining classes. -/
def combiningClassTable : RangeTable Nat :=
  RangeTable.ofText 0 (fun tag rest => if tag == 'k' then hexNumber? rest else none)
    combiningClassText

/-- The canonical combining class of a code point; 0 for a starter. -/
def combiningClass (cp : Nat) : Nat := combiningClassTable.find cp

/-- The canonical decompositions, by code point. -/
def decompositions : Array (Nat × List Nat) :=
  ((entries decompositionText).filterMap fun (cp, _, rest) => (hexList? rest).map (cp, ·)).toArray

/-- The code points that have a canonical decomposition, in increasing order. -/
def decomposed : Array Nat := decompositions.map (·.1)

/-- What each of them decomposes to, in the same order. -/
def decomposedParts : Array (List Nat) := decompositions.map (·.2)

/-- The primary composites, by the key of the pair they compose from. -/
def compositions : Array (Nat × Nat) :=
  ((entries compositionText).filterMap fun (first, _, rest) =>
    match hexList? rest with
    | some [second, composite] => some (first * 0x110000 + second, composite)
    | _ => none).toArray

/-- The keys of the composing pairs, in increasing order. -/
def compositionKeys : Array Nat := compositions.map (·.1)

/-- The composite of each pair, in the same order. -/
def compositionValues : Array Nat := compositions.map (·.2)

/-- The entry of a sorted array whose key is exactly `key`. -/
def findExact {α : Type} (keys : Array Nat) (values : Array α) (key : Nat) : Option α :=
  if keys.size == 0 then none
  else
    let i := lastStartAtOrBelow keys key 0 keys.size
    if keys.getD i 0 == key then values[i]? else none

/-- The first Hangul syllable. -/
def hangulSyllableBase : Nat := 0xAC00

/-- The first leading consonant jamo. -/
def hangulLeadBase : Nat := 0x1100

/-- The first vowel jamo. -/
def hangulVowelBase : Nat := 0x1161

/-- The code point before the first trailing consonant jamo; it stands for no trailing
consonant. -/
def hangulTrailBase : Nat := 0x11A7

/-- How many leading consonants there are. -/
def hangulLeadCount : Nat := 19

/-- How many vowels there are. -/
def hangulVowelCount : Nat := 21

/-- How many trailing consonants there are, counting none. -/
def hangulTrailCount : Nat := 28

/-- How many Hangul syllables there are. -/
def hangulSyllableCount : Nat := 11172

/-- The jamo of a Hangul syllable. -/
def hangulJamo? (cp : Nat) : Option (List Nat) :=
  if hangulSyllableBase ≤ cp ∧ cp < hangulSyllableBase + hangulSyllableCount then
    let s := cp - hangulSyllableBase
    let perLead := hangulVowelCount * hangulTrailCount
    let lead := hangulLeadBase + s / perLead
    let vowel := hangulVowelBase + (s % perLead) / hangulTrailCount
    let trail := hangulTrailBase + s % hangulTrailCount
    some (if trail == hangulTrailBase then [lead, vowel] else [lead, vowel, trail])
  else none

/-- The code points a code point decomposes to in one step, if it decomposes. -/
def decomposition? (cp : Nat) : Option (List Nat) :=
  match hangulJamo? cp with
  | some jamo => some jamo
  | none => findExact decomposed decomposedParts cp

/-- The full canonical decomposition of a code point; `fuel` bounds the depth, which is at
most four in Unicode. -/
def decomposeFully : Nat → Nat → List Nat
  | 0, cp => [cp]
  | fuel + 1, cp =>
    match decomposition? cp with
    | some parts => parts.flatMap (decomposeFully fuel)
    | none => [cp]

/-- A text with every run of combining marks sorted by combining class, stably. -/
def canonicalOrder (cps : List Nat) : List Nat :=
  let sorted (run : List Nat) : List Nat :=
    run.mergeSort fun a b => combiningClass a ≤ combiningClass b
  let (done, run) := cps.foldl (fun (acc : List Nat × List Nat) cp =>
    if combiningClass cp == 0 then (acc.1 ++ sorted acc.2 ++ [cp], []) else (acc.1, acc.2 ++ [cp]))
    ([], [])
  done ++ sorted run

/-- The primary composite of a pair, if it has one. -/
def composite? (first second : Nat) : Option Nat :=
  if hangulLeadBase ≤ first ∧ first < hangulLeadBase + hangulLeadCount ∧
      hangulVowelBase ≤ second ∧ second < hangulVowelBase + hangulVowelCount then
    some (hangulSyllableBase +
      ((first - hangulLeadBase) * hangulVowelCount + (second - hangulVowelBase)) * hangulTrailCount)
  else if hangulSyllableBase ≤ first ∧ first < hangulSyllableBase + hangulSyllableCount ∧
      (first - hangulSyllableBase) % hangulTrailCount == 0 ∧
      hangulTrailBase < second ∧ second < hangulTrailBase + hangulTrailCount then
    some (first + (second - hangulTrailBase))
  else findExact compositionKeys compositionValues (first * 0x110000 + second)

/-- Where composition stands: the finished output before the current starter (reversed),
the starter, what followed it without composing (reversed), and the combining class of the
last of those (0 right after the starter, 256 while the text has not had a starter). -/
structure Composing where
  done : List Nat
  starter : Nat
  after : List Nat
  lastClass : Nat

/-- Composes the next code point with the starter, or appends it. -/
def Composing.push (st : Composing) (cp : Nat) : Composing :=
  let cc := combiningClass cp
  let joined := if st.lastClass < cc || st.lastClass == 0 then composite? st.starter cp else none
  match joined with
  | some k => { st with starter := k }
  | none =>
    if cc == 0 then ⟨st.after ++ st.starter :: st.done, cp, [], 0⟩
    else { st with after := cp :: st.after, lastClass := cc }

/-- Composes a decomposed text in canonical order. -/
def compose (cps : List Nat) : List Nat :=
  match cps with
  | [] => []
  | first :: rest =>
    let st := rest.foldl Composing.push
      ⟨[], first, [], if combiningClass first == 0 then 0 else 256⟩
    (st.after ++ st.starter :: st.done).reverse

/-- A text in Normalization Form C. -/
def nfc (cps : List Nat) : List Nat :=
  compose (canonicalOrder (cps.flatMap (decomposeFully 8)))

end GuildRegistry.Unicode
