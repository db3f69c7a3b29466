import GuildRegistry.Bot.Texts
import GuildRegistry.Proofs.Timestamp.Canonical
import GuildRegistry.Proofs.Number.Reading
import GuildRegistry.Proofs.Markup.Entities

/-! Markup in the bot's messages.

A message sent as HTML may hold markup only where its template puts it. `Markup` is the grammar of
such text: characters other than `<`, `>` and `&`, the tags `<b>` and `<code>` with their closing
tags, and the five entities `Html.escape` writes; `markupOk` decides it.
-/

set_option autoImplicit false

namespace GuildRegistry.Html

/-- The characters with a meaning in markup. -/
def isMarkupChar (c : Char) : Bool := c == '<' || c == '>' || c == '&'

/-- The tags the message templates use and the entities escaping writes. -/
def pieces : List (List Char) :=
  [['<', 'b', '>'], ['<', '/', 'b', '>'], ['<', 'c', 'o', 'd', 'e', '>'],
    ['<', '/', 'c', 'o', 'd', 'e', '>'], ['&', 'a', 'm', 'p', ';'], ['&', 'l', 't', ';'],
    ['&', 'g', 't', ';'], ['&', 'q', 'u', 'o', 't', ';'], ['&', '#', '3', '9', ';']]

/-- Text whose markup is only the templates' tags and escaping's entities. -/
inductive Markup : List Char → Prop
  | nil : Markup []
  | text {c : Char} {rest : List Char} : isMarkupChar c = false → Markup rest → Markup (c :: rest)
  | piece {p rest : List Char} : p ∈ pieces → Markup rest → Markup (p ++ rest)

/-- Decides `Markup`: no piece is a prefix of another, so the pieces can be read off greedily. -/
def markupOk : List Char → Bool
  | [] => true
  | '<' :: 'b' :: '>' :: rest => markupOk rest
  | '<' :: '/' :: 'b' :: '>' :: rest => markupOk rest
  | '<' :: 'c' :: 'o' :: 'd' :: 'e' :: '>' :: rest => markupOk rest
  | '<' :: '/' :: 'c' :: 'o' :: 'd' :: 'e' :: '>' :: rest => markupOk rest
  | '&' :: 'a' :: 'm' :: 'p' :: ';' :: rest => markupOk rest
  | '&' :: 'l' :: 't' :: ';' :: rest => markupOk rest
  | '&' :: 'g' :: 't' :: ';' :: rest => markupOk rest
  | '&' :: 'q' :: 'u' :: 'o' :: 't' :: ';' :: rest => markupOk rest
  | '&' :: '#' :: '3' :: '9' :: ';' :: rest => markupOk rest
  | c :: rest => !isMarkupChar c && markupOk rest

/-! ### The grammar and its decision -/

theorem markup_of_markupOk {cs : List Char} (ok : markupOk cs = true) : Markup cs := by
  fun_induction markupOk cs with
  | case1 => exact .nil
  | case2 rest ih => exact .piece (p := ['<', 'b', '>']) (by simp [pieces]) (ih ok)
  | case3 rest ih => exact .piece (p := ['<', '/', 'b', '>']) (by simp [pieces]) (ih ok)
  | case4 rest ih => exact .piece (p := ['<', 'c', 'o', 'd', 'e', '>']) (by simp [pieces]) (ih ok)
  | case5 rest ih => exact .piece (p := ['<', '/', 'c', 'o', 'd', 'e', '>']) (by simp [pieces]) (ih ok)
  | case6 rest ih => exact .piece (p := ['&', 'a', 'm', 'p', ';']) (by simp [pieces]) (ih ok)
  | case7 rest ih => exact .piece (p := ['&', 'l', 't', ';']) (by simp [pieces]) (ih ok)
  | case8 rest ih => exact .piece (p := ['&', 'g', 't', ';']) (by simp [pieces]) (ih ok)
  | case9 rest ih => exact .piece (p := ['&', 'q', 'u', 'o', 't', ';']) (by simp [pieces]) (ih ok)
  | case10 rest ih => exact .piece (p := ['&', '#', '3', '9', ';']) (by simp [pieces]) (ih ok)
  | case11 c rest _ _ _ _ _ _ _ _ _ ih =>
    simp only [Bool.and_eq_true, Bool.not_eq_true'] at ok
    exact .text ok.1 (ih ok.2)

theorem markupOk_cons {c : Char} (plain : isMarkupChar c = false) (rest : List Char) :
    markupOk (c :: rest) = markupOk rest := by
  have notOpen : c ≠ '<' := fun h => by subst h; exact absurd plain (by decide)
  have notAmp : c ≠ '&' := fun h => by subst h; exact absurd plain (by decide)
  rw [markupOk.eq_def]
  split <;> simp_all

theorem markupOk_of_markup {cs : List Char} (markup : Markup cs) : markupOk cs = true := by
  induction markup with
  | nil => rfl
  | text plain _ ih => rw [markupOk_cons plain, ih]
  | piece mem _ ih =>
    simp only [pieces, List.mem_cons, List.not_mem_nil, or_false] at mem
    rcases mem with rfl | rfl | rfl | rfl | rfl | rfl | rfl | rfl | rfl <;> exact ih

theorem markupOk_iff {cs : List Char} : markupOk cs = true ↔ Markup cs :=
  ⟨markup_of_markupOk, markupOk_of_markup⟩

instance : DecidablePred Markup := fun _ => decidable_of_iff _ markupOk_iff

/-! ### Building markup -/

theorem Markup.append {a b : List Char} (left : Markup a) (right : Markup b) : Markup (a ++ b) := by
  induction left with
  | nil => exact right
  | text plain _ ih => exact .text plain ih
  | piece mem _ ih => rw [List.append_assoc]; exact .piece mem ih

theorem markup_of_plain {cs : List Char} (plain : ∀ c ∈ cs, isMarkupChar c = false) : Markup cs := by
  induction cs with
  | nil => exact .nil
  | cons c rest ih =>
    exact .text (plain c List.mem_cons_self) (ih fun d mem => plain d (List.mem_cons_of_mem c mem))

theorem markup_escapeChar (c : Char) : Markup (escapeChar c) := by
  unfold escapeChar
  split
  · decide
  · decide
  · decide
  · decide
  · rename_i notAmp notLt notGt notQuote
    split
    · decide
    · exact .text (by simp_all [isMarkupChar]) .nil

theorem markup_escape (s : String) : Markup (escape s).toList := by
  rw [escape, String.toList_ofList, escapeChars_eq_flatMap]
  induction s.toList with
  | nil => exact .nil
  | cons c rest ih => rw [List.flatMap_cons]; exact (markup_escapeChar c).append ih

theorem markup_intercalate {sep : String} {parts : List String} (markupSep : Markup sep.toList)
    (markupParts : ∀ part ∈ parts, Markup part.toList) : Markup (sep.intercalate parts).toList := by
  induction parts with
  | nil => exact .nil
  | cons part rest ih =>
    have head := markupParts part List.mem_cons_self
    have tail := ih fun q mem => markupParts q (List.mem_cons_of_mem part mem)
    cases rest with
    | nil => rwa [String.intercalate_singleton]
    | cons next more =>
      rw [String.intercalate_cons_cons, String.toList_append, String.toList_append]
      exact (head.append markupSep).append tail

theorem isMarkupChar_eq_false {c : Char} (amp : c.toNat ≠ 38) (lt : c.toNat ≠ 60) (gt : c.toNat ≠ 62) :
    isMarkupChar c = false := by
  simp only [isMarkupChar, Bool.or_eq_false_iff, beq_eq_false_iff_ne]
  refine ⟨⟨?_, ?_⟩, ?_⟩ <;> rintro rfl <;> simp_all

theorem markup_format (x : Binary64) : Markup x.format.toList := by
  cases x with
  | nan => decide
  | infinity neg => cases neg <;> decide
  | finite neg u =>
    rcases Nat.eq_zero_or_pos u with zero | pos
    · subst zero
      cases neg <;> decide
    · -- a sign, then the digits laid out with a point and an exponent
      apply markup_of_plain
      intro c mem
      have text : toString (Binary64.shortestDecimal u).digits =
          String.ofList (Nat.toDigits 10 (Binary64.shortestDecimal u).digits) := Nat.repr_eq_ofList_toDigits
      rw [Binary64.format_finite neg pos, text, String.toList_append] at mem
      have numeral : Binary64.isNumeralChar c = true := by
        rcases List.mem_append.mp mem with sign | body
        · have minus : c = '-' := by cases neg <;> simp_all
          rw [minus]
          decide
        · exact Binary64.layout_numeral (fun d h => Nat.isDigit_of_mem_toDigits (by decide) (by decide) h) _ c body
      have range := Binary64.toNat_of_isNumeralChar numeral
      exact isMarkupChar_eq_false (by omega) (by omega) (by omega)

theorem isMarkupChar_of_isoChar {c : Char} (iso : Instant.isoChar c = true) : isMarkupChar c = false := by
  simp only [Instant.isoChar, Bool.or_eq_true, beq_iff_eq] at iso
  rcases iso with (((((digit | rfl) | rfl) | rfl) | rfl) | rfl) | rfl
  · have := Text.toNat_of_isDigit digit
    exact isMarkupChar_eq_false (by omega) (by omega) (by omega)
  all_goals decide

theorem markup_display {raw : String}
    (shown : (Timestamp.parse? raw).isSome ∨ ∀ c ∈ raw.toList, isMarkupChar c = false) :
    Markup (Timestamp.display (some raw)).toList := by
  simp only [Timestamp.display]
  split
  · decide
  · cases parsed : Timestamp.parse? raw with
    | some t =>
      -- the date and the time of day cut from the canonical text
      have iso : ∀ c ∈ t.toIso.toList, isMarkupChar c = false := fun c mem =>
        isMarkupChar_of_isoChar (List.all_eq_true.mp (Instant.all_isoChar_toIso t) c mem)
      simp only [String.toList_append, String.toList_ofList]
      exact (((markup_of_plain fun c mem => iso c (List.mem_of_mem_take mem)).append (by decide)).append
        (markup_of_plain fun c mem => iso c (List.mem_of_mem_drop (List.mem_of_mem_take mem)))).append (by decide)
    | none =>
      have plain : ∀ c ∈ raw.toList, isMarkupChar c = false := by simpa [parsed] using shown
      simp only
      split
      · decide
      · exact markup_of_plain fun c mem => (Timestamp.mem_clean mem).elim (fun space => space ▸ rfl) (plain c)

end GuildRegistry.Html

namespace GuildRegistry.Bot

open Html

/-- A timestamp that can be shown in markup: recognised, or without markup characters. -/
def ShowsSafely (raw : String) : Prop :=
  (Timestamp.parse? raw).isSome ∨ ∀ c ∈ raw.toList, isMarkupChar c = false

theorem markup_append {s t : String} (left : Markup s.toList) (right : Markup t.toList) :
    Markup (s ++ t).toList := by
  rw [String.toList_append]
  exact left.append right

theorem markup_lines {ls : List String} (each : ∀ l ∈ ls, Markup l.toList) : Markup (lines ls).toList :=
  markup_intercalate (by decide) each

theorem markup_renderApplication {a : Application} (created : ShowsSafely a.createdAt) :
    Markup (renderApplication a).toList := by
  apply markup_lines
  intro line mem
  simp only [List.mem_append, List.mem_cons, List.not_mem_nil, or_false] at mem
  -- the head, the optional username and language, the answers, and the submission time
  rcases mem with (((rfl | username) | language) | body) | rfl
  · exact markup_append (markup_append (markup_append (markup_append (by decide) (markup_escape _)) (by decide))
      (markup_format _)) (by decide)
  · split at username
    · rw [List.mem_singleton.mp username]
      exact markup_append (by decide) (markup_escape _)
    · cases username
  · split at language
    · rw [List.mem_singleton.mp language]
      exact markup_append (by decide) (markup_escape _)
    · cases language
  · split at body
    · rw [List.mem_singleton.mp body]
      exact markup_append (by decide) (markup_escape _)
    · obtain ⟨r, -, rfl⟩ := List.mem_map.mp body
      exact markup_append (markup_append (markup_append (by decide) (markup_escape _)) (by decide)) (markup_escape _)
  · exact markup_append (by decide) (markup_display created)

theorem markup_statusLabel (status : Status) : Markup (statusLabel status).toList := by
  cases status <;> decide

theorem markup_renderStatus {e : HistoryEntry} (updated : ShowsSafely e.updatedAt) :
    Markup (renderStatus e).toList := by
  apply markup_lines
  intro line mem
  simp only [List.mem_append, List.mem_cons, List.not_mem_nil, or_false] at mem
  rcases mem with (rfl | rfl) | note
  · exact markup_append (by decide) (markup_statusLabel _)
  · exact markup_append (by decide) (markup_display updated)
  · split at note
    · rw [List.mem_singleton.mp note]
      exact markup_append (by decide) (markup_escape _)
    · cases note

theorem markup_renderDecisionForAdmin (approved : Bool) (applicantName : String) (note : Option String) :
    Markup (renderDecisionForAdmin approved applicantName note).toList := by
  have verdict : Markup (if approved then "approved" else "denied").toList := by cases approved <;> decide
  have line : Markup ("Application from " ++ escape applicantName ++ " " ++
      (if approved then "approved" else "denied") ++ ".").toList :=
    markup_append (markup_append (markup_append (markup_append (by decide) (markup_escape applicantName))
      (by decide)) verdict) (by decide)
  unfold renderDecisionForAdmin
  dsimp only
  split
  · exact markup_append (markup_append line (by decide)) (markup_escape _)
  · exact line

theorem markup_renderNotePrompt (approved : Bool) (applicantName : String) :
    Markup (renderNotePrompt approved applicantName).toList := by
  have verb : Markup (if approved then "Approving" else "Denying").toList := by cases approved <;> decide
  exact markup_append (markup_append (markup_append (markup_append (markup_append verb (by decide))
    (markup_escape applicantName)) (by decide)) (by decide)) (by decide)

theorem markup_renderAdmins (admins : List AdminRecord) : Markup (renderAdmins admins).toList := by
  unfold renderAdmins
  split
  · decide
  · apply markup_lines
    intro line mem
    rcases List.mem_cons.mp mem with rfl | listed
    · decide
    · obtain ⟨r, -, rfl⟩ := List.mem_map.mp listed
      -- an admin with neither name is shown by the identifier alone
      dsimp only
      split
      · exact markup_append (markup_append (by decide) (markup_format _)) (by decide)
      · exact markup_append (markup_append (markup_append (markup_append (by decide) (markup_escape _))
          (by decide)) (markup_format _)) (by decide)

theorem markup_renderXpMilestone (name : String) (score : Binary64) :
    Markup (renderXpMilestone name score).toList :=
  markup_append (markup_append (markup_append (markup_escape name) (by decide)) (markup_format score)) (by decide)

theorem markup_toString (n : Nat) : Markup (toString n).toList := by
  rw [show toString n = String.ofList (Nat.toDigits 10 n) from Nat.repr_eq_ofList_toDigits, String.toList_ofList]
  apply markup_of_plain
  intro c mem
  have := Text.toNat_of_isDigit (Nat.isDigit_of_mem_toDigits (by decide) (by decide) mem)
  exact isMarkupChar_eq_false (by omega) (by omega) (by omega)

theorem markup_renderLeaderboard (rows : List ScoreRow) : Markup (renderLeaderboard rows).toList := by
  unfold renderLeaderboard
  split
  · decide
  · apply markup_lines
    intro line mem
    rcases List.mem_cons.mp mem with rfl | ranked
    · decide
    · obtain ⟨⟨r, i⟩, -, rfl⟩ := List.mem_map.mp ranked
      exact markup_append (markup_append (markup_append (markup_append (markup_append
        (markup_toString _) (by decide)) (markup_escape _)) (by decide)) (markup_format _)) (by decide)

theorem markup_renderCups (cups : List Cup) : Markup (renderCups cups).toList := by
  unfold renderCups
  split
  · decide
  · apply markup_intercalate (by decide)
    intro block mem
    rcases List.mem_cons.mp mem with rfl | listed
    · decide
    · obtain ⟨c, -, rfl⟩ := List.mem_map.mp listed
      -- the title, the description when there is one, then the podium of escaped names
      have podium : Markup (", ".intercalate ((c.podium.filter (!·.isEmpty)).map escape)).toList :=
        markup_intercalate (by decide) fun name mem => by
          obtain ⟨raw, -, rfl⟩ := List.mem_map.mp mem
          exact markup_escape raw
      have head : Markup (if c.description.isEmpty then "<b>" ++ escape c.title ++ "</b>"
          else "<b>" ++ escape c.title ++ "</b> - " ++ escape c.description).toList := by
        split
        · exact markup_append (markup_append (by decide) (markup_escape _)) (by decide)
        · exact markup_append (markup_append (markup_append (by decide) (markup_escape _)) (by decide))
            (markup_escape _)
      have medal : Markup (Text.ofChars "🥇 ").toList := by decide
      dsimp only
      refine markup_append (markup_append (markup_append head (by decide)) medal) ?_
      split
      · decide
      · exact podium

theorem markup_renderCupAdded (title : String) : Markup (renderCupAdded title).toList :=
  markup_append (markup_append (by decide) (markup_escape title)) (by decide)

/-- The HTML messages carry markup only in their templates' tags and in escaped entities, as
long as each timestamp they show is recognised or free of markup characters: names, answers,
notes, titles and podiums reach them escaped, identifiers and scores as numbers. -/
theorem renderers_give_markup (a : Application) (e : HistoryEntry) (approved : Bool) (name : String)
    (note : Option String) (admins : List AdminRecord) (rows : List ScoreRow) (cups : List Cup)
    (score : Binary64) (created : ShowsSafely a.createdAt) (updated : ShowsSafely e.updatedAt) :
    Markup (renderApplication a).toList ∧ Markup (renderStatus e).toList ∧
      Markup (renderDecisionForAdmin approved name note).toList ∧
      Markup (renderNotePrompt approved name).toList ∧ Markup (renderAdmins admins).toList ∧
      Markup (renderLeaderboard rows).toList ∧ Markup (renderCups cups).toList ∧
      Markup (renderCupAdded name).toList ∧ Markup (renderXpMilestone name score).toList :=
  ⟨markup_renderApplication created, markup_renderStatus updated, markup_renderDecisionForAdmin approved name note,
    markup_renderNotePrompt approved name, markup_renderAdmins admins, markup_renderLeaderboard rows,
    markup_renderCups cups, markup_renderCupAdded name, markup_renderXpMilestone name score⟩

/-- An application submitted at the epoch, and a status with no time recorded, render as markup
even when the applicant's name is a script tag. -/
theorem script_name_renders_as_markup :
    Markup (renderApplication { (default : Application) with
        fullName := "<script>", createdAt := (⟨0⟩ : Instant).toIso }).toList ∧
      Markup (renderStatus { (default : HistoryEntry) with note := some "<script>" }).toList := by
  have recognised : ShowsSafely (⟨0⟩ : Instant).toIso := by
    left
    rw [Timestamp.parse?_toIso (by decide)]
    rfl
  have blank : ShowsSafely (default : HistoryEntry).updatedAt := Or.inr fun c mem => by cases mem
  obtain ⟨application, status, -⟩ := renderers_give_markup
    { (default : Application) with fullName := "<script>", createdAt := (⟨0⟩ : Instant).toIso }
    { (default : HistoryEntry) with note := some "<script>" } true "" none [] [] [] .nan recognised blank
  exact ⟨application, status⟩

/-- A status updated at the unrecognised text `<i>` shows that text as it is stored, a tag no
template writes. -/
theorem renderStatus_passes_raw_tag :
    renderStatus ⟨.pending, "<i>", none, none⟩ = "<b>Status:</b> Pending review\n<b>Updated:</b> <i>" ∧
      ¬ Markup (renderStatus ⟨.pending, "<i>", none, none⟩).toList := by
  have text : String.ofList ['<', 'i', '>'] = "<i>" := rfl
  have printable : ∀ c ∈ ['<', 'i', '>'], 33 ≤ c.toNat ∧ c.toNat < 127 := by simp
  have unread := Timestamp.parse?_of_not_digit printable (by decide)
  have kept : Timestamp.clean (String.ofList ['<', 'i', '>']) = String.ofList ['<', 'i', '>'] :=
    Timestamp.clean_of_printable (by rw [String.toList_ofList]; exact printable)
  rw [text] at unread kept
  have shown : Timestamp.display (some "<i>") = "<i>" := by
    simp only [Timestamp.display, unread, kept]
    decide
  have rendered : renderStatus ⟨.pending, "<i>", none, none⟩ = "<b>Status:</b> Pending review\n<b>Updated:</b> <i>" := by
    simp only [renderStatus, shown, given, lines, statusLabel]
    decide
  rw [rendered]
  exact ⟨rfl, by decide⟩

end GuildRegistry.Bot
