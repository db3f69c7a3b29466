import GuildRegistry.Markup.Html

/-! Entities: escaped text and how it reads back.

Escaping is five replace-all passes, `&` first. Since no pass after the first finds anything in
an entity, the passes together write each character on its own (`escapeChars_eq_flatMap`), and
one pass from the left reads the text back (`unescape_escape`).
-/

set_option autoImplicit false

namespace GuildRegistry.Html

/-- The five entities escaping writes, each with the character it stands for. -/
def entities : List (List Char × Char) :=
  [(['&', 'a', 'm', 'p', ';'], '&'), (['&', 'l', 't', ';'], '<'), (['&', 'g', 't', ';'], '>'),
    (['&', 'q', 'u', 'o', 't', ';'], '"'), (['&', '#', '3', '9', ';'], '\x27')]

/-- A character that escaping keeps: no entity stands for it. -/
def Plain (c : Char) : Prop := c ∉ entities.map Prod.snd

instance : DecidablePred Plain := fun _ => inferInstanceAs (Decidable (_ ∉ _))

/-- Reads escaped text back in one pass from the left: each of the five entities becomes its
character, the text after it is read on, and every other character stays. -/
def unescapeChars : List Char → List Char
  | [] => []
  | '&' :: 'a' :: 'm' :: 'p' :: ';' :: rest => '&' :: unescapeChars rest
  | '&' :: 'l' :: 't' :: ';' :: rest => '<' :: unescapeChars rest
  | '&' :: 'g' :: 't' :: ';' :: rest => '>' :: unescapeChars rest
  | '&' :: 'q' :: 'u' :: 'o' :: 't' :: ';' :: rest => '"' :: unescapeChars rest
  | '&' :: '#' :: '3' :: '9' :: ';' :: rest => '\x27' :: unescapeChars rest
  | c :: rest => c :: unescapeChars rest

/-- Reads escaped text back. -/
def unescape (s : String) : String := String.ofList (unescapeChars s.toList)

/-- Text whose markup characters stand only as entities. -/
structure EntityText (t : List Char) : Prop where
  /-- None of `<`, `>`, `"` and `'` is left. -/
  no_markup : ∀ m ∈ ['<', '>', '"', '\x27'], m ∉ t
  /-- Every `&` begins one of the five entities. -/
  amp_begins_entity : ∀ pre post, t = pre ++ '&' :: post → ∃ p ∈ entities, p.1 <+: '&' :: post

/-! ### Plain characters -/

theorem Plain.ne_amp {c : Char} (plain : Plain c) : c ≠ '&' := by
  rintro rfl
  exact plain (by decide)

theorem Plain.not_markup {c : Char} (plain : Plain c) : c ∉ ['<', '>', '"', '\x27'] :=
  fun markup => plain ((by decide : ['<', '>', '"', '\x27'] ⊆ entities.map Prod.snd) markup)

/-! ### Reading back -/

theorem unescapeChars_entity {e : List Char} {d : Char} (mem : (e, d) ∈ entities) (rest : List Char) :
    unescapeChars (e ++ rest) = d :: unescapeChars rest := by
  simp only [entities, List.mem_cons, Prod.mk.injEq, List.not_mem_nil, or_false] at mem
  rcases mem with ⟨rfl, rfl⟩ | ⟨rfl, rfl⟩ | ⟨rfl, rfl⟩ | ⟨rfl, rfl⟩ | ⟨rfl, rfl⟩ <;> rfl

theorem unescapeChars_cons {c : Char} (notAmp : c ≠ '&') (rest : List Char) :
    unescapeChars (c :: rest) = c :: unescapeChars rest := by
  rw [unescapeChars.eq_def]
  split <;> simp_all

/-! ### Escaping one character -/

/-- The written form of one character: its entity, or the character itself. -/
def escapeChar (c : Char) : List Char :=
  match c with
  | '&' => "&amp;".toList
  | '<' => "&lt;".toList
  | '>' => "&gt;".toList
  | '"' => "&quot;".toList
  | c => if c.toNat = 39 then "&#39;".toList else [c]

theorem escapeChar_cases (c : Char) : (escapeChar c, c) ∈ entities ∨ (escapeChar c = [c] ∧ Plain c) := by
  unfold escapeChar
  split
  · exact .inl (by decide)
  · exact .inl (by decide)
  · exact .inl (by decide)
  · exact .inl (by decide)
  · rename_i notAmp notLt notGt notQuote
    split
    · rename_i apostrophe
      have same : c = '\x27' := Char.toNat_inj.mp apostrophe
      subst same
      exact .inl (by decide)
    · rename_i notApostrophe
      refine .inr ⟨rfl, ?_⟩
      simp only [Plain, entities, List.map_cons, List.map_nil, List.mem_cons, List.not_mem_nil,
        or_false, not_or]
      exact ⟨notAmp, notLt, notGt, notQuote, fun same => notApostrophe (same ▸ rfl)⟩

theorem unescapeChars_escapeChar (c : Char) (rest : List Char) :
    unescapeChars (escapeChar c ++ rest) = c :: unescapeChars rest := by
  rcases escapeChar_cases c with entity | ⟨kept, plain⟩
  · exact unescapeChars_entity entity rest
  · rw [kept, List.singleton_append, unescapeChars_cons plain.ne_amp]

/-! ### The shape of escaped text -/

theorem EntityText.nil : EntityText [] :=
  ⟨fun _ _ => List.not_mem_nil, fun pre post split => absurd split.symm (by simp)⟩

theorem EntityText.append {a b : List Char} (left : EntityText a) (right : EntityText b) :
    EntityText (a ++ b) where
  no_markup m markup := List.not_mem_append (left.no_markup m markup) (right.no_markup m markup)
  amp_begins_entity pre post split := by
    rcases List.append_eq_append_iff.mp split with ⟨mid, -, inRight⟩ | ⟨mid, inLeft, rest⟩
    · exact right.amp_begins_entity mid post inRight
    · -- the `&` is the first character of `b`, or lies in `a`
      rcases List.cons_eq_append_iff.mp rest with ⟨rfl, atJoin⟩ | ⟨tail, rfl, rfl⟩
      · exact right.amp_begins_entity [] post atJoin
      · obtain ⟨p, mem, lead⟩ := left.amp_begins_entity pre tail inLeft
        exact ⟨p, mem, lead.trans (List.prefix_append _ b)⟩

theorem EntityText.plain {c : Char} (plain : Plain c) : EntityText [c] where
  no_markup m markup := by
    rw [List.mem_singleton]
    rintro rfl
    exact plain.not_markup markup
  amp_begins_entity pre post split := by
    rcases List.singleton_eq_append_iff.mp split with ⟨-, single⟩ | ⟨-, empty⟩
    · exact absurd (List.cons.inj single).1.symm plain.ne_amp
    · exact absurd empty (List.cons_ne_nil _ _)

theorem EntityText.lead {body : List Char} {d : Char} (mem : ('&' :: body, d) ∈ entities)
    (plain : ∀ c ∈ body, Plain c) : EntityText ('&' :: body) where
  no_markup m markup := by
    have notAmp : m ≠ '&' := by
      rintro rfl
      exact absurd markup (by decide)
    exact List.not_mem_cons_of_ne_of_not_mem notAmp fun inBody => (plain m inBody).not_markup markup
  amp_begins_entity pre post split := by
    rcases List.cons_eq_append_iff.mp split with ⟨rfl, same⟩ | ⟨tail, rfl, inBody⟩
    · exact ⟨_, mem, same ▸ List.prefix_refl _⟩
    · have amp : '&' ∈ body := inBody ▸ List.mem_append_right tail List.mem_cons_self
      exact absurd rfl (plain '&' amp).ne_amp

theorem EntityText.entity {e : List Char} {d : Char} (mem : (e, d) ∈ entities) : EntityText e := by
  have listed := mem
  simp only [entities, List.mem_cons, Prod.mk.injEq, List.not_mem_nil, or_false] at listed
  rcases listed with ⟨rfl, rfl⟩ | ⟨rfl, rfl⟩ | ⟨rfl, rfl⟩ | ⟨rfl, rfl⟩ | ⟨rfl, rfl⟩ <;>
    exact .lead mem (by simp [Plain, entities])

theorem entityText_escapeChar (c : Char) : EntityText (escapeChar c) := by
  rcases escapeChar_cases c with entity | ⟨kept, plain⟩
  · exact .entity entity
  · rw [kept]
    exact .plain plain

/-! ### The five passes -/

theorem replaceAll_append (c : Char) (entity a b : List Char) :
    replaceAll c entity (a ++ b) = replaceAll c entity a ++ replaceAll c entity b :=
  List.flatMap_append

theorem replaceAll_self (c : Char) (entity : List Char) : replaceAll c entity [c] = entity := by
  simp [replaceAll]

theorem replaceAll_of_not_mem {c : Char} (entity : List Char) {cs : List Char} (absent : c ∉ cs) :
    replaceAll c entity cs = cs := by
  induction cs with
  | nil => rfl
  | cons x rest ih =>
    have other : x ≠ c := fun same => absent (same ▸ List.mem_cons_self)
    have restKept := ih fun inRest => absent (List.mem_cons_of_mem x inRest)
    calc replaceAll c entity (x :: rest) = [x] ++ replaceAll c entity rest := by simp [replaceAll, other]
      _ = x :: rest := by rw [restKept, List.singleton_append]

theorem replaceAll_entity {c : Char} (markup : c ∈ ['<', '>', '"', '\x27']) (entity : List Char)
    {e : List Char} {d : Char} (mem : (e, d) ∈ entities) : replaceAll c entity e = e :=
  replaceAll_of_not_mem entity ((EntityText.entity mem).no_markup c markup)

/-- With `&` escaped last, the entity of `<` would be escaped again. -/
example : replaceAll '&' "&amp;".toList (replaceAll '<' "&lt;".toList ['<']) = "&amp;lt;".toList := by
  decide

theorem escapeChars_append (a b : List Char) : escapeChars (a ++ b) = escapeChars a ++ escapeChars b := by
  simp only [escapeChars, replaceAll_append]

theorem entity_texts : "&amp;".toList = ['&', 'a', 'm', 'p', ';'] ∧ "&lt;".toList = ['&', 'l', 't', ';'] ∧
    "&gt;".toList = ['&', 'g', 't', ';'] ∧ "&quot;".toList = ['&', 'q', 'u', 'o', 't', ';'] ∧
    "&#39;".toList = ['&', '#', '3', '9', ';'] :=
  ⟨rfl, rfl, rfl, rfl, rfl⟩

theorem replaceAll_other {c x : Char} (entity : List Char) (other : x ≠ c) : replaceAll c entity [x] = [x] :=
  replaceAll_of_not_mem entity fun mem => other (List.mem_singleton.mp mem).symm

theorem escapeChars_singleton (c : Char) : escapeChars [c] = escapeChar c := by
  rcases escapeChar_cases c with entity | ⟨kept, plain⟩
  · have listed := entity
    simp only [entities, List.mem_cons, Prod.mk.injEq, List.not_mem_nil, or_false] at listed
    rcases listed with ⟨written, rfl⟩ | ⟨written, rfl⟩ | ⟨written, rfl⟩ | ⟨written, rfl⟩ | ⟨written, rfl⟩ <;>
    · rw [written] at entity ⊢
      simp (disch := decide) only [escapeChars, entity_texts, replaceAll_self, replaceAll_other,
        replaceAll_entity (c := '<') (by simp) _ entity, replaceAll_entity (c := '>') (by simp) _ entity,
        replaceAll_entity (c := '"') (by simp) _ entity, replaceAll_entity (c := '\x27') (by simp) _ entity]
  · have notMarkup := plain.not_markup
    simp only [List.mem_cons, List.not_mem_nil, or_false, not_or] at notMarkup
    obtain ⟨notLt, notGt, notQuote, notApostrophe⟩ := notMarkup
    rw [kept, escapeChars, replaceAll_other _ plain.ne_amp, replaceAll_other _ notLt,
      replaceAll_other _ notGt, replaceAll_other _ notQuote, replaceAll_other _ notApostrophe]

theorem escapeChars_eq_flatMap (cs : List Char) : escapeChars cs = cs.flatMap escapeChar := by
  induction cs with
  | nil => rfl
  | cons c rest ih =>
    rw [show c :: rest = [c] ++ rest from rfl, escapeChars_append, escapeChars_singleton, ih,
      List.singleton_append, List.flatMap_cons]

/-! ### Escaped text -/

theorem escapeChars_cons (c : Char) (cs : List Char) :
    escapeChars (c :: cs) = escapeChar c ++ escapeChars cs := by
  rw [escapeChars_eq_flatMap, escapeChars_eq_flatMap, List.flatMap_cons]

theorem entityText_escapeChars (cs : List Char) : EntityText (escapeChars cs) := by
  induction cs with
  | nil => exact .nil
  | cons c rest ih => rw [escapeChars_cons]; exact (entityText_escapeChar c).append ih

theorem unescapeChars_escapeChars (cs : List Char) : unescapeChars (escapeChars cs) = cs := by
  induction cs with
  | nil => rfl
  | cons c rest ih => rw [escapeChars_cons, unescapeChars_escapeChar, ih]

theorem entityText_escape (s : String) : EntityText (escape s).toList := by
  rw [escape, String.toList_ofList]
  exact entityText_escapeChars s.toList

theorem unescape_escape (s : String) : unescape (escape s) = s := by
  rw [unescape, escape, String.toList_ofList, unescapeChars_escapeChars, String.ofList_toList]

/-- Text that already looks like an entity is escaped once more and read back as it was. -/
example : escape "&lt;" = "&amp;lt;" ∧ unescape "&amp;lt;" = "&lt;" := by decide

theorem escape_injective : Function.Injective escape :=
  Function.LeftInverse.injective unescape_escape

/-- Escaping is an injective encoding: the escaped text holds markup characters only as the five
entities, and reading it back in one pass gives the text that was escaped. -/
theorem escape_encodes_injectively :
    Function.Injective escape ∧ ∀ s : String, EntityText (escape s).toList ∧ unescape (escape s) = s :=
  ⟨escape_injective, fun s => ⟨entityText_escape s, unescape_escape s⟩⟩

end GuildRegistry.Html
