import GuildRegistry.Proofs.Store.Restore

/-! Loading classifies every snapshot.

With no failure planted before the read, a load answers no document, the document, or one of the
refusals of a bad snapshot (`SnapshotFile.load_classifies`), except where a number is read from an
object with its own `toString` member: that raises a type error.
-/

set_option autoImplicit false

namespace GuildRegistry

namespace Json

/-- `x` is `j` itself or stands inside it, as an item of an array or as a member's value. -/
inductive Inside (x : Json) : Json → Prop
  | self : Inside x x
  | item {items : List Json} {v : Json} : v ∈ items → Inside x v → Inside x (.arr items)
  | member {members : List (String × Json)} {k : String} {v : Json} :
      (k, v) ∈ members → Inside x v → Inside x (.obj members)

/-- Some object in the value has a member of its own named `toString`. -/
def ShadowsToString (j : Json) : Prop :=
  ∃ members, Inside (.obj members) j ∧ members.any (·.1 == "toString") = true

theorem ShadowsToString.item {items : List Json} {v : Json} (mem : v ∈ items) (h : v.ShadowsToString) :
    (Json.arr items).ShadowsToString := by
  obtain ⟨members, inside, named⟩ := h
  exact ⟨members, .item mem inside, named⟩

theorem ShadowsToString.member {members : List (String × Json)} {k : String} {v : Json}
    (mem : (k, v) ∈ members) (h : v.ShadowsToString) : (Json.obj members).ShadowsToString := by
  obtain ⟨ms, inside, named⟩ := h
  exact ⟨ms, .member mem inside, named⟩

theorem not_shadowsToString_str (s : String) : ¬ (Json.str s).ShadowsToString := by
  rintro ⟨members, inside, -⟩
  cases inside

theorem not_shadowsToString_arr_nil : ¬ (Json.arr []).ShadowsToString := by
  rintro ⟨members, inside, -⟩
  cases inside with
  | item mem _ => cases mem

theorem not_shadowsToString_obj_nil : ¬ (Json.obj []).ShadowsToString := by
  rintro ⟨members, inside, named⟩
  cases inside with
  | self => simp at named
  | member mem _ => cases mem

mutual

theorem shadowsToString_of_converts : ∀ v : Json, converts v = false → v.ShadowsToString
  | .null, unconverted => by simp [converts] at unconverted
  | .bool _, unconverted => by simp [converts] at unconverted
  | .num _, unconverted => by simp [converts] at unconverted
  | .str _, unconverted => by simp [converts] at unconverted
  | .arr items, unconverted => by
    obtain ⟨v, mem, shadows⟩ := shadowsToString_of_allConvert items (by simpa [converts] using unconverted)
    exact shadows.item mem
  | .obj members, unconverted => ⟨members, .self, by simpa [converts] using unconverted⟩

theorem shadowsToString_of_allConvert :
    ∀ items : List Json, converts.allConvert items = false → ∃ v ∈ items, v.ShadowsToString
  | [], unconverted => by simp [converts.allConvert] at unconverted
  | v :: rest, unconverted => by
    simp only [converts.allConvert, Bool.and_eq_false_iff] at unconverted
    rcases unconverted with first | later
    · exact ⟨v, List.mem_cons_self, shadowsToString_of_converts v first⟩
    · obtain ⟨u, mem, shadows⟩ := shadowsToString_of_allConvert rest later
      exact ⟨u, List.mem_cons_of_mem v mem, shadows⟩

end

end Json

namespace Schema

namespace Checked

variable {α β : Type}

/-- A check that raised a type error did so only when `P` holds. -/
def RaisesOnly (c : Checked α) (P : Prop) : Prop := c.raised = true → P

theorem raisesOnly_ok (a : α) (P : Prop) : (ok a).RaisesOnly P := by
  intro raised
  cases raised

theorem raisesOnly_fail (i : Issue) (P : Prop) : (fail i : Checked α).RaisesOnly P := by
  intro raised
  cases raised

theorem RaisesOnly.imp {c : Checked α} {P Q : Prop} (h : c.RaisesOnly P) (weaker : P → Q) : c.RaisesOnly Q :=
  fun raised => weaker (h raised)

theorem RaisesOnly.map {c : Checked α} {P : Prop} (h : c.RaisesOnly P) (f : α → β) : (c.map f).RaisesOnly P := h

theorem RaisesOnly.both {a : Checked α} {b : Checked β} {P : Prop} (ha : a.RaisesOnly P) (hb : b.RaisesOnly P) :
    (Checked.both a b).RaisesOnly P := by
  intro raised
  simp only [Checked.both, Bool.or_eq_true] at raised
  rcases raised with first | second
  · exact ha first
  · exact hb second

theorem RaisesOnly.andThen {c : Checked α} {f : α → Checked β} {P : Prop} (hc : c.RaisesOnly P)
    (hf : ∀ a, (f a).RaisesOnly P) : (c.andThen f).RaisesOnly P := by
  intro raised
  unfold Checked.andThen at raised
  split at raised
  · simp only [Bool.or_eq_true] at raised
    rcases raised with first | later
    · exact hc first
    · exact hf _ later
  · exact hc raised

theorem raisesOnly_all {cs : List (Checked α)} {P : Prop} (h : ∀ c ∈ cs, c.RaisesOnly P) : (all cs).RaisesOnly P := by
  induction cs with
  | nil => exact raisesOnly_ok [] P
  | cons c rest ih =>
    unfold all
    rw [List.foldr_cons]
    exact ((h c List.mem_cons_self).both (ih fun c' mem => h c' (List.mem_cons_of_mem c mem))).map _

end Checked

open Checked

variable {α : Type}

/-- A check raises only on a value holding an object that shadows `toString`. -/
def Check.RaisesAtShadow (c : Check α) : Prop :=
  ∀ path v, (c path v).RaisesOnly (∃ x, v = some x ∧ x.ShadowsToString)

theorem text_raisesAtShadow : Check.RaisesAtShadow text := by
  intro path v raised
  unfold text at raised
  split at raised <;> cases raised

theorem textMatching_raisesAtShadow (p : String → Bool) : Check.RaisesAtShadow (textMatching p) := by
  intro path v
  refine (text_raisesAtShadow path v).andThen fun s => ?_
  split
  · exact raisesOnly_ok _ _
  · exact raisesOnly_fail _ _

theorem oneOf_raisesAtShadow (options : List String) : Check.RaisesAtShadow (oneOf options) := by
  intro path v raised
  unfold oneOf at raised
  split at raised
  · split at raised <;> cases raised
  · cases raised

theorem coercedNumber_raisesAtShadow : Check.RaisesAtShadow coercedNumber := by
  intro path v raised
  unfold coercedNumber at raised
  split at raised
  · rename_i unconverted
    cases v with
    | none => simp at unconverted
    | some x => exact ⟨x, rfl, Json.shadowsToString_of_converts x (by simpa using unconverted)⟩
  · dsimp only at raised
    split at raised <;> cases raised

theorem boundedNumber_raisesAtShadow (bounds : List Bound) : Check.RaisesAtShadow (boundedNumber bounds) := by
  intro path v
  refine (coercedNumber_raisesAtShadow path v).andThen fun x => ?_
  dsimp only
  split
  · exact raisesOnly_ok _ _
  · intro raised
    cases raised

theorem integer_raisesAtShadow : Check.RaisesAtShadow integer := boundedNumber_raisesAtShadow _

theorem nullish_raisesAtShadow {c : Check α} (h : Check.RaisesAtShadow c) : Check.RaisesAtShadow (nullish c) := by
  intro path v
  unfold nullish
  split
  · exact raisesOnly_ok _ _
  · exact raisesOnly_ok _ _
  · exact (h path v).map some

theorem withDefault_raisesAtShadow {c : Check α} {d : Json} (quiet : ¬ d.ShadowsToString)
    (h : Check.RaisesAtShadow c) : Check.RaisesAtShadow (withDefault d c) := by
  intro path v raised
  obtain ⟨x, given, shadows⟩ := h path _ raised
  cases v with
  | none =>
    cases given
    exact absurd shadows quiet
  | some y =>
    cases given
    exact ⟨y, rfl, shadows⟩

theorem array_raisesAtShadow {item : Check α} (h : Check.RaisesAtShadow item) :
    Check.RaisesAtShadow (array item) := by
  intro path v
  unfold array
  split
  · refine raisesOnly_all fun c mem => ?_
    obtain ⟨⟨x, i⟩, indexed, rfl⟩ := List.mem_map.mp mem
    refine (h _ _).imp ?_
    rintro ⟨y, same, shadows⟩
    cases same
    exact ⟨_, rfl, shadows.item (List.fst_mem_of_mem_zipIdx indexed)⟩
  · exact raisesOnly_fail _ _

theorem record_raisesAtShadow {key : Check String} {value : Check α} (hk : Check.RaisesAtShadow key)
    (hv : Check.RaisesAtShadow value) : Check.RaisesAtShadow (record key value) := by
  intro path v
  unfold record
  split
  · refine raisesOnly_all fun c mem => ?_
    obtain ⟨⟨k, x⟩, listed, rfl⟩ := List.mem_map.mp mem
    refine RaisesOnly.both ((hk _ _).imp ?_) ((hv _ _).imp ?_)
    · rintro ⟨y, same, shadows⟩
      cases same
      exact absurd shadows (Json.not_shadowsToString_str k)
    · rintro ⟨y, same, shadows⟩
      cases same
      exact ⟨_, rfl, shadows.member listed⟩
  · exact raisesOnly_fail _ _

theorem object_raisesAtShadow {fields : List PathItem → List (String × Json) → Checked α}
    (h : ∀ path members, (fields path members).RaisesOnly (Json.obj members).ShadowsToString) :
    Check.RaisesAtShadow (object fields) := by
  intro path v
  unfold object
  split
  · exact (h _ _).imp fun shadows => ⟨_, rfl, shadows⟩
  · exact raisesOnly_fail _ _

theorem field_raisesOnly {c : Check α} (h : Check.RaisesAtShadow c) (path : List PathItem)
    (members : List (String × Json)) (k : String) :
    (field c path members k).RaisesOnly (Json.obj members).ShadowsToString := by
  refine (h _ _).imp ?_
  rintro ⟨x, found, shadows⟩
  obtain ⟨m, located, rfl⟩ := Option.map_eq_some_iff.mp found
  exact shadows.member (k := m.1) (List.mem_of_find?_eq_some located)

end Schema

namespace DocumentShape

open Schema Checked

theorem integerKey_raisesAtShadow : Check.RaisesAtShadow integerKey := textMatching_raisesAtShadow _

theorem optionalText_raisesAtShadow : Check.RaisesAtShadow optionalText :=
  fun path v => (nullish_raisesAtShadow text_raisesAtShadow path v).map _

theorem timestamp_raisesAtShadow : Check.RaisesAtShadow timestamp :=
  fun path v => (text_raisesAtShadow path v).map _

theorem status_raisesAtShadow : Check.RaisesAtShadow status :=
  fun path v => (oneOf_raisesAtShadow _ path v).map _

theorem profile_raisesAtShadow : Check.RaisesAtShadow profile :=
  object_raisesAtShadow fun path ms =>
    ((field_raisesOnly optionalText_raisesAtShadow path ms _).both
      (field_raisesOnly optionalText_raisesAtShadow path ms _)).map _

theorem response_raisesAtShadow : Check.RaisesAtShadow response :=
  object_raisesAtShadow fun path ms =>
    ((field_raisesOnly text_raisesAtShadow path ms _).both
      ((field_raisesOnly text_raisesAtShadow path ms _).both
      (field_raisesOnly text_raisesAtShadow path ms _))).map _

theorem application_raisesAtShadow : Check.RaisesAtShadow application :=
  object_raisesAtShadow fun path ms =>
    ((field_raisesOnly integer_raisesAtShadow path ms _).both
      ((field_raisesOnly text_raisesAtShadow path ms _).both
      ((field_raisesOnly optionalText_raisesAtShadow path ms _).both
      ((field_raisesOnly (withDefault_raisesAtShadow (Json.not_shadowsToString_str "") text_raisesAtShadow)
        path ms _).both
      ((field_raisesOnly (withDefault_raisesAtShadow Json.not_shadowsToString_arr_nil
        (array_raisesAtShadow response_raisesAtShadow)) path ms _).both
      ((field_raisesOnly timestamp_raisesAtShadow path ms _).both
      (field_raisesOnly optionalText_raisesAtShadow path ms _))))))).map _

theorem historyEntry_raisesAtShadow : Check.RaisesAtShadow historyEntry :=
  object_raisesAtShadow fun path ms =>
    ((field_raisesOnly status_raisesAtShadow path ms _).both
      ((field_raisesOnly timestamp_raisesAtShadow path ms _).both
      ((field_raisesOnly optionalText_raisesAtShadow path ms _).both
      (field_raisesOnly optionalText_raisesAtShadow path ms _)))).map _

theorem cup_raisesAtShadow : Check.RaisesAtShadow cup :=
  object_raisesAtShadow fun path ms =>
    ((field_raisesOnly text_raisesAtShadow path ms _).both
      ((field_raisesOnly (withDefault_raisesAtShadow (Json.not_shadowsToString_str "") text_raisesAtShadow)
        path ms _).both
      ((field_raisesOnly (withDefault_raisesAtShadow Json.not_shadowsToString_arr_nil
        (array_raisesAtShadow text_raisesAtShadow)) path ms _).both
      (field_raisesOnly timestamp_raisesAtShadow path ms _)))).map _

theorem table_raisesAtShadow {α : Type} {value : Check α} (h : Check.RaisesAtShadow value) :
    Check.RaisesAtShadow (table value) :=
  withDefault_raisesAtShadow Json.not_shadowsToString_obj_nil (record_raisesAtShadow integerKey_raisesAtShadow h)

theorem document_raisesAtShadow : Check.RaisesAtShadow document :=
  object_raisesAtShadow fun path ms =>
    ((field_raisesOnly (withDefault_raisesAtShadow Json.not_shadowsToString_arr_nil
        (array_raisesAtShadow integer_raisesAtShadow)) path ms _).both
      ((field_raisesOnly (table_raisesAtShadow profile_raisesAtShadow) path ms _).both
      ((field_raisesOnly (table_raisesAtShadow application_raisesAtShadow) path ms _).both
      ((field_raisesOnly (table_raisesAtShadow historyEntry_raisesAtShadow) path ms _).both
      ((field_raisesOnly (table_raisesAtShadow (record_raisesAtShadow integerKey_raisesAtShadow
        integer_raisesAtShadow)) path ms _).both
      (field_raisesOnly (table_raisesAtShadow (array_raisesAtShadow cup_raisesAtShadow)) path ms _)))))).map _

end DocumentShape

theorem Document.raises_shadowsToString {j : Json} (raising : Document.raises j = true) : j.ShadowsToString := by
  obtain ⟨x, same, shadows⟩ := DocumentShape.document_raisesAtShadow [] (some j) raising
  cases same
  exact shadows

namespace Fernet

theorem decrypt_of_blank (key : Key) {bytes : List UInt8}
    (blank : ∀ b ∈ bytes, Text.isBlank (asciiChar b) = true) : decrypt key bytes = .error .empty := by
  have dropped : (bytes.map asciiChar).dropWhile Text.isBlank = [] :=
    List.dropWhile_eq_nil_iff.mpr (by simpa using blank)
  have trimmed : Text.trimChars (bytes.map asciiChar) = [] := by
    unfold Text.trimChars Text.dropBlanks
    rw [dropped]
    rfl
  simp [decrypt, trimmed]

end Fernet

namespace Disk

theorem inspect_of_unplanted {d : Disk} (unplanted : d.planted? .inspect = none) (path : String) :
    inspect path d = match d.read? path with
      | some _ => .ok () d
      | none => .error (IoError.missing path) d := by
  unfold inspect
  rw [bind_run_ok (enter_of_unplanted unplanted)]
  simp only [bind, EStateM.bind, get_run]
  cases d.read? path <;> rfl

theorem readFile_of_unplanted {d : Disk} (unplanted : d.planted? .readFile = none) (path : String) :
    readFile path d = match d.read? path with
      | some bytes => .ok bytes d
      | none => .error (IoError.missing path) d := by
  unfold readFile
  rw [bind_run_ok (enter_of_unplanted unplanted)]
  simp only [bind, EStateM.bind, get_run]
  cases d.read? path <;> rfl

end Disk

namespace SnapshotFile

variable (f : SnapshotFile)

/-- The calls a load makes up to reading the snapshot: making the directory, inspecting and
removing the temp file, and reading the snapshot. -/
def loadCalls : List FaultPoint := [.makeDirectory, .inspect, .remove, .readFile]

theorem removeStaleTemp_of_unplanted {w : World} (inspecting : w.disk.planted? .inspect = none)
    (removing : w.disk.planted? .remove = none) :
    ∃ w', f.removeStaleTemp w = .ok () w' ∧ (w'.disk = w.disk ∨ w'.disk = w.disk.delete f.tempPath) := by
  unfold removeStaleTemp
  cases found : w.disk.read? f.tempPath with
  | none =>
    rw [bind_run_ok (show World.attempt (Disk.inspect f.tempPath) w = _ by
      rw [World.attempt_run, Disk.inspect_of_unplanted inspecting, found])]
    exact ⟨_, rfl, .inl rfl⟩
  | some bytes =>
    rw [bind_run_ok (show World.attempt (Disk.inspect f.tempPath) w = _ by
      rw [World.attempt_run, Disk.inspect_of_unplanted inspecting, found])]
    dsimp only
    rw [bind_run_ok (World.record_run _ _ _ _)]
    exact ⟨_, World.call_of_ok _ (Disk.remove_of_unplanted removing _), .inr rfl⟩

theorem load_of_unplanted {w : World} (calm : ∀ p ∈ loadCalls, w.disk.planted? p = none) :
    ∃ w', f.load w = match f.documentOf (w.disk.read? f.path) with
      | .ok doc => .ok doc w'
      | .error e => .error e w' := by
  simp only [loadCalls, List.mem_cons, List.not_mem_nil, or_false, forall_eq_or_imp, forall_eq] at calm
  obtain ⟨making, inspecting, removing, reading⟩ := calm
  obtain ⟨w₂, removed, left⟩ := f.removeStaleTemp_of_unplanted (w := { w with disk := w.disk }) inspecting removing
  -- removing the temp file leaves the snapshot and every planted failure where they were
  have kept : w₂.disk.read? f.path = w.disk.read? f.path := by
    rcases left with same | deleted
    · rw [same]
    · rw [deleted, Disk.read?_delete_of_ne _ f.path_ne_tempPath]
  have reading₂ : w₂.disk.planted? .readFile = none := by
    rcases left with same | deleted
    · rw [same]; exact reading
    · rw [deleted, Disk.planted?_delete]; exact reading
  unfold load
  rw [bind_run_ok (World.call_of_ok _ (show Disk.makeDirectory w.disk = _ from Disk.enter_of_unplanted making)),
    bind_run_ok removed, ← kept]
  unfold documentOf
  cases found : w₂.disk.read? f.path with
  | none =>
    rw [bind_run_ok (show World.attempt (Disk.readFile f.path) w₂ = _ by
      rw [World.attempt_run, Disk.readFile_of_unplanted reading₂, found])]
    exact ⟨_, rfl⟩
  | some bytes =>
    rw [bind_run_ok (show World.attempt (Disk.readFile f.path) w₂ = _ by
      rw [World.attempt_run, Disk.readFile_of_unplanted reading₂, found])]
    cases bytes with
    | nil => exact ⟨_, rfl⟩
    | cons b rest =>
      dsimp only
      cases f.readBytes (b :: rest) <;> exact ⟨_, rfl⟩

/-- The bytes open to a document: they decrypt, the plaintext is JSON, and the document's
check accepts the JSON without raising, giving `d`. -/
def Opens (bytes : List UInt8) (d : Document) : Prop :=
  ∃ plain j, Fernet.decrypt f.key bytes = .ok plain ∧ Json.parse? (Utf8.decodeLossy plain) = some j ∧
    Document.raises j = false ∧ Document.check j = .ok d

/-- Why a load refuses a snapshot's bytes, with the failure it raises. -/
inductive Rejects (bytes : List UInt8) : StoreError → Prop
  /-- The token does not decrypt under the key. -/
  | undecryptable {r : Fernet.Refusal} : Fernet.decrypt f.key bytes = .error r →
      Rejects bytes (.decryption ("Failed to decrypt " ++ f.path ++ " (" ++ r.reason ++ "). Check the secret key."))
  /-- The plaintext is no JSON. -/
  | notJson {plain : List UInt8} : Fernet.decrypt f.key bytes = .ok plain →
      Json.parse? (Utf8.decodeLossy plain) = none →
      Rejects bytes (.badSnapshot ("Snapshot " ++ f.path ++ " is not valid JSON") none)
  /-- The JSON is no document; the check lists the issues. -/
  | misshapen {plain : List UInt8} {j : Json} {issues : List Schema.Issue} :
      Fernet.decrypt f.key bytes = .ok plain → Json.parse? (Utf8.decodeLossy plain) = some j →
      Document.raises j = false → Document.check j = .error issues →
      Rejects bytes (.badSnapshot ("Snapshot " ++ f.path ++ " has an unexpected shape") (some issues))
  /-- Reading the document meets an object that shadows `toString` where a number is read. -/
  | unconvertible {plain : List UInt8} {j : Json} : Fernet.decrypt f.key bytes = .ok plain →
      Json.parse? (Utf8.decodeLossy plain) = some j → Document.raises j = true → j.ShadowsToString →
      Rejects bytes (.typeError Json.unconvertible)

variable {f}

theorem Rejects.not_opens {bytes : List UInt8} {e : StoreError} (rejected : f.Rejects bytes e) (d : Document) :
    ¬ f.Opens bytes d := by
  rintro ⟨plain, j, opened, parsed, quiet, checked⟩
  cases rejected with
  | undecryptable refused => rw [opened] at refused; cases refused
  | notJson opened' unparsed =>
    rw [opened] at opened'
    cases opened'
    rw [parsed] at unparsed
    cases unparsed
  | misshapen opened' parsed' quiet' misfit =>
    rw [opened] at opened'
    cases opened'
    rw [parsed] at parsed'
    cases parsed'
    rw [checked] at misfit
    cases misfit
  | unconvertible opened' parsed' raising _ =>
    rw [opened] at opened'
    cases opened'
    rw [parsed] at parsed'
    cases parsed'
    rw [quiet] at raising
    cases raising

theorem readBytes_cases (bytes : List UInt8) :
    match f.readBytes bytes with
    | .ok d => f.Opens bytes d
    | .error e => f.Rejects bytes e := by
  unfold readBytes
  cases opened : Fernet.decrypt f.key bytes with
  | error r => exact .undecryptable opened
  | ok plain =>
    dsimp only
    cases parsed : Json.parse? (Utf8.decodeLossy plain) with
    | none => exact .notJson opened parsed
    | some j =>
      dsimp only
      cases raising : Document.raises j with
      | true => exact .unconvertible opened parsed raising (Document.raises_shadowsToString raising)
      | false =>
        cases checked : Document.check j with
        | ok d => exact ⟨plain, j, opened, parsed, raising, checked⟩
        | error issues => exact .misshapen opened parsed raising checked

/-- Loading classifies every snapshot. With no failure planted at making the directory, at
inspecting or removing the temp file, or at reading the snapshot, a load gives no document
exactly when the file is missing or empty, and a document exactly when the bytes open to it.
Every other load fails with a refusal of the bytes: the decryption's, a bad snapshot when the
text is no JSON or no document, or the type error of a number read from an object that shadows
`toString`; bytes refused so open to no document. -/
theorem load_classifies (f : SnapshotFile) (w : World) (calm : ∀ p ∈ loadCalls, w.disk.planted? p = none) :
    match f.load w with
    | .ok doc _ =>
      (doc = none ↔ w.disk.read? f.path = none ∨ w.disk.read? f.path = some []) ∧
        ∀ d, doc = some d ↔ ∃ bytes, w.disk.read? f.path = some bytes ∧ f.Opens bytes d
    | .error e _ =>
      ∃ bytes, w.disk.read? f.path = some bytes ∧ bytes ≠ [] ∧ f.Rejects bytes e ∧ ∀ d, ¬ f.Opens bytes d := by
  obtain ⟨w', loaded⟩ := f.load_of_unplanted calm
  rw [loaded]
  unfold documentOf
  cases found : w.disk.read? f.path with
  | none => simp
  | some bytes =>
    cases bytes with
    | nil =>
      -- no bytes decrypt, so an empty file opens to nothing
      refine ⟨by simp, fun d => ⟨(fun given => by cases given), ?_⟩⟩
      rintro ⟨bytes, same, plain, j, opened, -⟩
      cases same
      cases opened
    | cons b rest =>
      dsimp only
      have classified := f.readBytes_cases (b :: rest)
      cases reading : f.readBytes (b :: rest) with
      | ok d =>
        rw [reading] at classified
        refine ⟨by simp, fun d' => ⟨?_, ?_⟩⟩
        · intro same
          cases same
          exact ⟨_, rfl, classified⟩
        · rintro ⟨bytes, same, opens⟩
          cases same
          obtain ⟨plain, j, opened, parsed, quiet, checked⟩ := opens
          simp only [readBytes, opened, parsed, quiet, checked] at reading
          cases reading
          rfl
      | error e =>
        rw [reading] at classified
        exact ⟨_, rfl, List.cons_ne_nil b rest, classified, classified.not_opens⟩

/-- A file holding blanks only is refused as undecryptable, the load answering the reason. -/
theorem load_classifies_blank_file :
    let f : SnapshotFile := ⟨"data/storage.enc", ⟨[], []⟩⟩
    let w : World := ⟨⟨[("data/storage.enc", [32, 10])], []⟩, []⟩
    (∀ p ∈ loadCalls, w.disk.planted? p = none) ∧
      match f.load w with
      | .ok doc _ =>
        (doc = none ↔ w.disk.read? f.path = none ∨ w.disk.read? f.path = some []) ∧
          ∀ d, doc = some d ↔ ∃ bytes, w.disk.read? f.path = some bytes ∧ f.Opens bytes d
      | .error e _ =>
        ∃ bytes, w.disk.read? f.path = some bytes ∧ bytes ≠ [] ∧ f.Rejects bytes e ∧ ∀ d, ¬ f.Opens bytes d := by
  intro f w
  have calm : ∀ p ∈ loadCalls, w.disk.planted? p = none := by decide
  exact ⟨calm, load_classifies f w calm⟩

/-- A snapshot whose JSON puts an object with a `toString` member of its own where an admin's
number is read makes the load raise a type error: it is refused neither as undecryptable nor
as a bad snapshot. -/
theorem load_raises_on_own_toString :
    let f : SnapshotFile := ⟨"data/storage.enc", ⟨[], []⟩⟩
    let j : Json := .obj [("admins", .arr [.obj [("toString", Json.ofNat 1)]])]
    ∃ w', f.load ⟨⟨[(f.path, sealText f.key (Json.render j))], []⟩, []⟩ =
      .error (.typeError Json.unconvertible) w' := by
  intro f j
  obtain ⟨w', loaded⟩ := f.load_of_unplanted (w := ⟨⟨[(f.path, sealText f.key (Json.render j))], []⟩, []⟩)
    (by decide)
  have raising : Document.raises (Json.reread (Json.toUnits j)) = true := by decide +kernel
  refine ⟨w', ?_⟩
  rw [loaded]
  obtain ⟨b, rest, sealed⟩ := List.exists_cons_of_ne_nil (sealText_ne_nil f.key (Json.render j))
  have found : Disk.read? ⟨[(f.path, sealText f.key (Json.render j))], []⟩ f.path = some (b :: rest) := by
    rw [← sealed]
    simp [Disk.read?]
  rw [found]
  unfold documentOf
  dsimp only
  rw [← sealed]
  unfold readBytes
  rw [decrypt_sealText]
  dsimp only
  rw [Utf8.decodeLossy_encode, Json.wellFormed_render, Json.parse?_render]
  dsimp only
  rw [raising]
  rfl

end SnapshotFile

end GuildRegistry
