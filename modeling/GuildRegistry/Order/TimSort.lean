/-! The run-merging sort that scripted arrays are sorted with.

The array is cut into natural runs: a longest non-descending stretch, or a longest strictly
descending one, which is reversed. A run shorter than the minimum run length is extended by binary
insertion. Runs wait on a stack, and adjacent runs are merged while the stack's lengths do not
shrink fast enough from bottom to top; at the end everything left is merged.
-/

set_option autoImplicit false

namespace GuildRegistry.TimSort

/-- The streak length at which a merge starts galloping, and the threshold a sort
starts with. -/
def minGallopWins : Nat := 7

/-- The least length of a run when sorting `n` elements: `n` itself below 64, else `n`
halved until below 64, plus one if any halving dropped a set bit. -/
def minRunLength (n : Nat) : Nat := go n 0
where
  go (n r : Nat) : Nat :=
    if n < 64 then n + r else go (n / 2) (r ||| n % 2)
  termination_by n
  decreasing_by omega

/-- The elements `[pos, pos + len)` of an array, in order. -/
def slice {α : Type} (a : Array α) (pos len : Nat) : Array α := a.extract pos (pos + len)

/-- An array with the elements of `src` written over it from position `pos` on. -/
def writeAt {α : Type} (dst : Array α) (pos : Nat) (src : Array α) : Array α :=
  src.toList.zipIdx.foldl (fun acc (x, k) => acc.setIfInBounds (pos + k) x) dst

/-- Copies `len` elements of `src` from `srcPos` to `dstPos` of `dst`. The elements are
read before any is written, so the two ranges may overlap when `src` is `dst`. -/
def copy {α : Type} (src : Array α) (srcPos : Nat) (dst : Array α) (dstPos len : Nat) : Array α :=
  writeAt dst dstPos (slice src srcPos len)

/-- The array with its range `[lo, hi)` reversed. -/
def reverseRange {α : Type} (a : Array α) (lo hi : Nat) : Array α :=
  writeAt a lo (slice a lo (hi - lo)).reverse

/-- The least `k` in `[lo, hi)` at which `goRight` fails, given that it holds below some
point and fails from there on; `hi` when it holds everywhere. Each step halves the
range. -/
def boundary (goRight : Nat → Bool) : Nat → Nat → Nat → Nat
  | 0, _, hi => hi
  | fuel + 1, lo, hi =>
    if lo < hi then
      let m := lo + (hi - lo) / 2
      if goRight m then boundary goRight fuel (m + 1) hi else boundary goRight fuel lo m
    else hi

/-- The offsets `1, 3, 7, 15, …` tried while `cont` holds and they stay below `maxOfs`:
the last offset at which it held (0 at first) and the first at which it failed, capped
at `maxOfs`. -/
def gallopOut (cont : Nat → Bool) (maxOfs : Nat) : Nat → Nat → Nat → Nat × Nat
  | 0, lastOfs, offset => (lastOfs, min offset maxOfs)
  | fuel + 1, lastOfs, offset =>
    if offset < maxOfs && cont offset then gallopOut cont maxOfs fuel offset (2 * offset + 1)
    else (lastOfs, min offset maxOfs)

/-- A merge under way. `work` holds the array being merged into, `temp` the copy of the
shorter run; `cursorTemp` and `cursorWork` point at the next elements of the two runs,
`dest` at the next place to fill. -/
structure Merge (α : Type) where
  work : Array α
  temp : Array α
  dest : Int
  cursorTemp : Int
  cursorWork : Int
  lengthA : Nat
  lengthB : Nat
  minGallop : Nat

/-- How a merge goes on: trading single elements, with the current winning streaks of
both runs, or galloping, with the lengths of the last gallops and whether this is the
first round. -/
inductive Merge.Phase where
  | single (winsA winsB : Nat)
  | gallop (winsA winsB : Nat) (first : Bool)

/-- How a merge ends: with both runs placed but what is left of the copied run, or with
one element of the copied run still to follow (low merge) or precede (high merge) the
rest of the other run. -/
inductive Merge.Finish where
  | rest
  | lastOne

/-- A sort under way: the array, the stack of pending runs as `(base, length)` with the
top last, and the galloping threshold. -/
structure Sorting (α : Type) where
  work : Array α
  runs : Array (Nat × Nat)
  minGallop : Nat

section Comparison

variable {α : Type} [Inhabited α] (before : α → α → Bool)

/-- Where `key` goes in the sorted range `[base, base + length)`, searched from `hint`:
before the first element that `key` does not come after. -/
def gallopLeft (a : Array α) (key : α) (base length hint : Nat) : Nat :=
  let elem := fun (i : Nat) => a[base + i]!
  if before (elem hint) key then
    let (lastOfs, offset) :=
      gallopOut (fun i => before (elem (hint + i)) key) (length - hint) (length - hint) 0 1
    boundary (fun m => before (elem m) key) (length + 1) (lastOfs + hint + 1) (offset + hint)
  else
    let (lastOfs, offset) :=
      gallopOut (fun i => !before (elem (hint - i)) key) (hint + 1) (hint + 1) 0 1
    boundary (fun m => before (elem m) key) (length + 1) (hint + 1 - offset) (hint - lastOfs)

/-- Where `key` goes in the sorted range `[base, base + length)`, searched from `hint`:
after the last element that does not come after `key`. -/
def gallopRight (a : Array α) (key : α) (base length hint : Nat) : Nat :=
  let elem := fun (i : Nat) => a[base + i]!
  if before key (elem hint) then
    let (lastOfs, offset) :=
      gallopOut (fun i => before key (elem (hint - i))) (hint + 1) (hint + 1) 0 1
    boundary (fun m => !before key (elem m)) (length + 1) (hint + 1 - offset) (hint - lastOfs)
  else
    let (lastOfs, offset) :=
      gallopOut (fun i => !before key (elem (hint + i))) (length - hint) (length - hint) 0 1
    boundary (fun m => !before key (elem m)) (length + 1) (lastOfs + hint + 1) (offset + hint)

/-- Inserts the elements at `[start, high)` one by one into the sorted range that starts at
`low`, each after the elements it does not come before. -/
def insertFrom (low high : Nat) : Nat → Nat → Array α → Array α
  | 0, _, a => a
  | fuel + 1, start, a =>
    if start < high then
      let pivot := a[start]!
      let left := boundary (fun m => !before pivot a[m]!) (start - low + 1) low start
      let a := (copy a left a (left + 1) (start - left)).setIfInBounds left pivot
      insertFrom low high fuel (start + 1) a
    else a

/-- Sorts `[low, high)` by binary insertion, given that `[low, start)` is sorted. -/
def binaryInsertionSort (a : Array α) (low start high : Nat) : Array α :=
  insertFrom before low high high (if low = start then start + 1 else start) a

/-- How far the run that starts at `idx - 1` goes on, one comparison of neighbours at a
time; it is descending when `descending`. -/
def runEnd (a : Array α) (descending : Bool) (high : Nat) : Nat → Nat → Nat
  | 0, idx => idx
  | fuel + 1, idx =>
    if idx < high then
      let goesBack := before a[idx]! a[idx - 1]!
      if descending = goesBack then runEnd a descending high fuel (idx + 1) else idx
    else idx

/-- The run that starts at `low` within `[low, high)`, made non-descending: its length, and
the array with a descending run reversed. -/
def countAndMakeRun (a : Array α) (low high : Nat) : Nat × Array α :=
  if low + 1 = high then (1, a)
  else
    let descending := before a[low + 1]! a[low]!
    let stop := runEnd before a descending high high (low + 2)
    let length := stop - low
    (length, if descending then reverseRange a low stop else a)

namespace Merge

/-- The element of an array at an index that is known to be in range. -/
def get (a : Array α) (i : Int) : α := a[i.toNat]!

/-- Writes the next place from the low end. -/
def putLow (m : Merge α) (x : α) : Merge α :=
  { m with work := m.work.setIfInBounds m.dest.toNat x, dest := m.dest + 1 }

/-- Writes the next place from the high end. -/
def putHigh (m : Merge α) (x : α) : Merge α :=
  { m with work := m.work.setIfInBounds m.dest.toNat x, dest := m.dest - 1 }

/-- The end of a low merge. -/
def finishLow (m : Merge α) : Finish → Array α
  | .rest =>
    if m.lengthA > 0 then copy m.temp m.cursorTemp.toNat m.work m.dest.toNat m.lengthA else m.work
  | .lastOne =>
    let w := copy m.work m.cursorWork.toNat m.work m.dest.toNat m.lengthB
    w.setIfInBounds (m.dest.toNat + m.lengthB) (get m.temp m.cursorTemp)

/-- The steps of a low merge: run A is in `temp` and is the shorter, run B is in `work`
right after the place A had. -/
def lowSteps (m : Merge α) : Nat → Phase → Merge α × Finish
  | 0, _ => (m, .rest)
  | fuel + 1, .single winsA winsB =>
    if before (get m.work m.cursorWork) (get m.temp m.cursorTemp) then
      let m : Merge α := { m.putLow (get m.work m.cursorWork) with
        cursorWork := m.cursorWork + 1, lengthB := m.lengthB - 1 }
      if m.lengthB = 0 then (m, .rest)
      else if winsB + 1 ≥ m.minGallop then lowSteps { m with minGallop := m.minGallop + 1 } fuel (.gallop 0 (winsB + 1) true)
      else lowSteps m fuel (.single 0 (winsB + 1))
    else
      let m : Merge α := { m.putLow (get m.temp m.cursorTemp) with
        cursorTemp := m.cursorTemp + 1, lengthA := m.lengthA - 1 }
      if m.lengthA = 1 then (m, .lastOne)
      else if winsA + 1 ≥ m.minGallop then lowSteps { m with minGallop := m.minGallop + 1 } fuel (.gallop (winsA + 1) 0 true)
      else lowSteps m fuel (.single (winsA + 1) 0)
  | fuel + 1, .gallop winsA winsB first =>
    if winsA ≥ minGallopWins || winsB ≥ minGallopWins || first then
      let m : Merge α := { m with minGallop := max 1 (m.minGallop - 1) }
      let winsA := gallopRight before m.temp (get m.work m.cursorWork) m.cursorTemp.toNat m.lengthA 0
      let m : Merge α := if winsA > 0 then
        { m with work := copy m.temp m.cursorTemp.toNat m.work m.dest.toNat winsA
                 dest := m.dest + winsA, cursorTemp := m.cursorTemp + winsA
                 lengthA := m.lengthA - winsA }
        else m
      if winsA > 0 ∧ m.lengthA = 1 then (m, .lastOne)
      else if winsA > 0 ∧ m.lengthA = 0 then (m, .rest)
      else
      let m : Merge α := { m.putLow (get m.work m.cursorWork) with
        cursorWork := m.cursorWork + 1, lengthB := m.lengthB - 1 }
      if m.lengthB = 0 then (m, .rest)
      else
      let winsB := gallopLeft before m.work (get m.temp m.cursorTemp) m.cursorWork.toNat m.lengthB 0
      let m : Merge α := if winsB > 0 then
        { m with work := copy m.work m.cursorWork.toNat m.work m.dest.toNat winsB
                 dest := m.dest + winsB, cursorWork := m.cursorWork + winsB
                 lengthB := m.lengthB - winsB }
        else m
      if winsB > 0 ∧ m.lengthB = 0 then (m, .rest)
      else
      let m : Merge α := { m.putLow (get m.temp m.cursorTemp) with
        cursorTemp := m.cursorTemp + 1, lengthA := m.lengthA - 1 }
      if m.lengthA = 1 then (m, .lastOne)
      else lowSteps m fuel (.gallop winsA winsB false)
    else lowSteps { m with minGallop := m.minGallop + 1 } fuel (.single 0 0)

/-- The end of a high merge. -/
def finishHigh (m : Merge α) : Finish → Array α
  | .rest =>
    if m.lengthB > 0 then copy m.temp 0 m.work (m.dest - (m.lengthB - 1 : Nat)).toNat m.lengthB
    else m.work
  | .lastOne =>
    let dest := m.dest - (m.lengthA : Int)
    let cursorWork := m.cursorWork - (m.lengthA : Int)
    let w := copy m.work (cursorWork + 1).toNat m.work (dest + 1).toNat m.lengthA
    w.setIfInBounds dest.toNat (get m.temp m.cursorTemp)

/-- The steps of a high merge, from the top down: run A is in `work` and starts at
`baseA`, run B is in `temp` and is the shorter. -/
def highSteps (baseA : Nat) (m : Merge α) : Nat → Phase → Merge α × Finish
  | 0, _ => (m, .rest)
  | fuel + 1, .single winsA winsB =>
    if before (get m.temp m.cursorTemp) (get m.work m.cursorWork) then
      let m : Merge α := { m.putHigh (get m.work m.cursorWork) with
        cursorWork := m.cursorWork - 1, lengthA := m.lengthA - 1 }
      if m.lengthA = 0 then (m, .rest)
      else if winsA + 1 ≥ m.minGallop then highSteps baseA { m with minGallop := m.minGallop + 1 } fuel (.gallop (winsA + 1) 0 true)
      else highSteps baseA m fuel (.single (winsA + 1) 0)
    else
      let m : Merge α := { m.putHigh (get m.temp m.cursorTemp) with
        cursorTemp := m.cursorTemp - 1, lengthB := m.lengthB - 1 }
      if m.lengthB = 1 then (m, .lastOne)
      else if winsB + 1 ≥ m.minGallop then highSteps baseA { m with minGallop := m.minGallop + 1 } fuel (.gallop 0 (winsB + 1) true)
      else highSteps baseA m fuel (.single 0 (winsB + 1))
  | fuel + 1, .gallop winsA winsB first =>
    if winsA ≥ minGallopWins || winsB ≥ minGallopWins || first then
      let m : Merge α := { m with minGallop := max 1 (m.minGallop - 1) }
      let k := gallopRight before m.work (get m.temp m.cursorTemp) baseA m.lengthA (m.lengthA - 1)
      let winsA := m.lengthA - k
      let m : Merge α := if winsA > 0 then
        let dest := m.dest - (winsA : Int)
        let cursorWork := m.cursorWork - (winsA : Int)
        { m with work := copy m.work (cursorWork + 1).toNat m.work (dest + 1).toNat winsA
                 dest, cursorWork, lengthA := m.lengthA - winsA }
        else m
      if winsA > 0 ∧ m.lengthA = 0 then (m, .rest)
      else
      let m : Merge α := { m.putHigh (get m.temp m.cursorTemp) with
        cursorTemp := m.cursorTemp - 1, lengthB := m.lengthB - 1 }
      if m.lengthB = 1 then (m, .lastOne)
      else
      let k := gallopLeft before m.temp (get m.work m.cursorWork) 0 m.lengthB (m.lengthB - 1)
      let winsB := m.lengthB - k
      let m : Merge α := if winsB > 0 then
        let dest := m.dest - (winsB : Int)
        let cursorTemp := m.cursorTemp - (winsB : Int)
        { m with work := copy m.temp (cursorTemp + 1).toNat m.work (dest + 1).toNat winsB
                 dest, cursorTemp, lengthB := m.lengthB - winsB }
        else m
      if winsB > 0 ∧ m.lengthB = 1 then (m, .lastOne)
      else if winsB > 0 ∧ m.lengthB = 0 then (m, .rest)
      else
      let m : Merge α := { m.putHigh (get m.work m.cursorWork) with
        cursorWork := m.cursorWork - 1, lengthA := m.lengthA - 1 }
      if m.lengthA = 0 then (m, .rest)
      else highSteps baseA m fuel (.gallop winsA winsB false)
    else highSteps baseA { m with minGallop := m.minGallop + 1 } fuel (.single 0 0)

end Merge

/-- Merges the run `[baseA, baseA + lengthA)` with the run right after it, of length
`lengthB`, copying the shorter one aside; answers the array and the new threshold. Both
runs are non-empty, the first element of B goes before the first of A, and the last of
A goes after the last of B. -/
def mergeRuns (work : Array α) (minGallop baseA lengthA baseB lengthB : Nat) : Array α × Nat :=
  let fuel := 2 * (lengthA + lengthB) + 2
  if lengthA ≤ lengthB then
    let m : Merge α := ⟨work, slice work baseA lengthA, baseA, 0, baseB, lengthA, lengthB, minGallop⟩
    let m := { m.putLow (Merge.get m.work m.cursorWork) with
      cursorWork := m.cursorWork + 1, lengthB := m.lengthB - 1 }
    if m.lengthB = 0 then (Merge.finishLow m .rest, m.minGallop)
    else if m.lengthA = 1 then (Merge.finishLow m .lastOne, m.minGallop)
    else
      let (m, fin) := Merge.lowSteps before m fuel (.single 0 0)
      (Merge.finishLow m fin, m.minGallop)
  else
    let m : Merge α := ⟨work, slice work baseB lengthB, (baseB + lengthB - 1 : Nat),
      (lengthB - 1 : Nat), (baseA + lengthA - 1 : Nat), lengthA, lengthB, minGallop⟩
    let m := { m.putHigh (Merge.get m.work m.cursorWork) with
      cursorWork := m.cursorWork - 1, lengthA := m.lengthA - 1 }
    if m.lengthA = 0 then (Merge.finishHigh m .rest, m.minGallop)
    else if m.lengthB = 1 then (Merge.finishHigh m .lastOne, m.minGallop)
    else
      let (m, fin) := Merge.highSteps before baseA m fuel (.single 0 0)
      (Merge.finishHigh m fin, m.minGallop)

/-- The length of pending run `i`. -/
def Sorting.runLength (s : Sorting α) (i : Nat) : Nat := (s.runs.getD i (0, 0)).2

/-- Merges pending runs `i` and `i + 1`, after skipping the elements of A that already go
before all of B and the elements of B that already go after all of A. -/
def mergeAt (s : Sorting α) (i : Nat) : Sorting α :=
  let (baseA, lengthA) := s.runs.getD i (0, 0)
  let (baseB, lengthB) := s.runs.getD (i + 1) (0, 0)
  let runs := s.runs.setIfInBounds i (baseA, lengthA + lengthB)
  let runs := if i + 3 = s.runs.size then runs.setIfInBounds (i + 1) (s.runs.getD (i + 2) (0, 0)) else runs
  let s := { s with runs := runs.pop }
  let k := gallopRight before s.work s.work[baseB]! baseA lengthA 0
  let baseA := baseA + k
  let lengthA := lengthA - k
  if lengthA = 0 then s
  else
    let lengthB := gallopLeft before s.work s.work[baseA + lengthA - 1]! baseB lengthB (lengthB - 1)
    if lengthB = 0 then s
    else
      let (work, minGallop) := mergeRuns before s.work s.minGallop baseA lengthA baseB lengthB
      { s with work, minGallop }

/-- Whether the three runs ending at pending run `n` shrink fast enough: the one below
the top two is longer than those two together. -/
def Sorting.balancedAt (s : Sorting α) (n : Nat) : Bool :=
  n < 2 || s.runLength (n - 2) > s.runLength (n - 1) + s.runLength n

/-- Merges runs near the top of the stack until every run is longer than the next one up
and than the next two together. -/
def mergeCollapse : Nat → Sorting α → Sorting α
  | 0, s => s
  | fuel + 1, s =>
    if s.runs.size > 1 then
      let n := s.runs.size - 2
      if !s.balancedAt (n + 1) || !s.balancedAt n then
        let n := if s.runLength (n - 1) < s.runLength (n + 1) then n - 1 else n
        mergeCollapse fuel (mergeAt before s n)
      else if s.runLength n ≤ s.runLength (n + 1) then mergeCollapse fuel (mergeAt before s n)
      else s
    else s

/-- Merges every pending run into one. -/
def mergeForceCollapse : Nat → Sorting α → Sorting α
  | 0, s => s
  | fuel + 1, s =>
    if s.runs.size > 1 then
      let n := s.runs.size - 2
      let n := if n > 0 ∧ s.runLength (n - 1) < s.runLength (n + 1) then n - 1 else n
      mergeForceCollapse fuel (mergeAt before s n)
    else s

/-- Finds the runs from `low` on, extending short ones and merging as it goes. -/
def sortRuns (minRun : Nat) : Nat → Nat → Nat → Sorting α → Sorting α
  | 0, _, _, s => s
  | fuel + 1, low, remaining, s =>
    if remaining = 0 then s
    else
      let (length, work) := countAndMakeRun before s.work low (low + remaining)
      let (length, work) :=
        if length < minRun then
          let forced := min minRun remaining
          (forced, binaryInsertionSort before work low (low + length) (low + forced))
        else (length, work)
      let s := mergeCollapse before (s.runs.size + 1) { s with work, runs := s.runs.push (low, length) }
      sortRuns minRun fuel (low + length) (remaining - length) s

end Comparison

/-- Sorts a list with a comparison that says whether its first argument goes strictly
before its second. -/
def sort {α : Type} [Inhabited α] (before : α → α → Bool) (xs : List α) : List α :=
  let n := xs.length
  if n < 2 then xs
  else
    let s := sortRuns before (minRunLength n) n 0 n ⟨xs.toArray, #[], minGallopWins⟩
    (mergeForceCollapse before s.runs.size s).work.toList

end GuildRegistry.TimSort
