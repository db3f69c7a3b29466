import GuildRegistry.Proofs.Ledger.Reload
import GuildRegistry.Json.Writer

/-! The text of a ledger's snapshot.

A value's text depends only on the texts of its parts, and `-0` is written as `0`, so an
application prints the same with its identifier in stored form. Ledgers that answer alike
write the same snapshot text.
-/

set_option autoImplicit false

namespace GuildRegistry

namespace Json

theorem renderMembers_congr {ms ms' : List (String × Json)}
    (same : List.Forall₂ (fun p q => p.1 = q.1 ∧ render p.2 = render q.2) ms ms') :
    renderMembers ms = renderMembers ms' := by
  induction same with
  | nil => rfl
  | cons head tail ih =>
    rename_i p q ps qs
    obtain ⟨key, value⟩ := head
    -- the last member has no comma after it
    cases tail with
    | nil => simp [renderMembers, key, value]
    | cons _ _ => simp [renderMembers, key, value, ih]

theorem render_obj_congr {ms ms' : List (String × Json)}
    (same : List.Forall₂ (fun p q => p.1 = q.1 ∧ render p.2 = render q.2) ms ms') :
    render (.obj ms) = render (.obj ms') := by
  simp [render, renderMembers_congr same]

theorem render_obj_map {α : Type} (ps : List (String × α)) {f g : α → Json}
    (same : ∀ a, render (f a) = render (g a)) :
    render (.obj (ps.map fun (k, a) => (k, f a))) = render (.obj (ps.map fun (k, a) => (k, g a))) := by
  apply render_obj_congr
  rw [List.forall₂_map_left_iff, List.forall₂_map_right_iff]
  exact List.forall₂_same.mpr fun p _ => ⟨rfl, same p.2⟩

theorem numberText_normalizeKey (x : Binary64) : numberText (KeyMap.normalizeKey x) = numberText x := by
  unfold KeyMap.normalizeKey
  split
  · decide
  · rfl

end Json

theorem render_toJson_normId (a : Application) : Json.render a.normId.toJson = Json.render a.toJson := by
  apply Json.render_obj_congr
  simp [Application.normId, Json.render, Json.numberText_normalizeKey]

namespace Document

/-- A document with every application's identifier in stored form. -/
def normIds (d : Document) : Document :=
  { d with applications := d.applications.map fun (k, a) => (k, a.normId) }

theorem render_normIds (d : Document) : Json.render d.normIds.toJson = Json.render d.toJson := by
  apply Json.render_obj_congr
  simp only [normIds, List.map_map, List.forall₂_cons, List.Forall₂.nil, and_true, true_and]
  exact Json.render_obj_map d.applications render_toJson_normId

end Document

namespace Ledger

open KeyMap

variable {l l' : Ledger}

theorem textKeyed_reread {α : Type} {m : KeyMap α} (valid : m.Valid) : textKeyed (reread m) = textKeyed m :=
  (valid_reread valid).textKeyed_eq_of_similar valid.similar_reread

theorem normIds_toDocument (c : l.Consistent) (c' : l'.Consistent) (h : Equiv l l') :
    l.toDocument.normIds = l'.toDocument.normIds := by
  -- the XP tables are written as they read back
  have tables : ∀ {k : Ledger}, k.Consistent →
      textKeyed (k.xp.mapValues textKeyed) = textKeyed ((k.xp.mapValues reread).mapValues textKeyed) := by
    intro k ck
    rw [mapValues_mapValues, mapValues_congr fun t mem => (textKeyed_reread (ck.scores t mem)).symm]
    rfl
  have apps : ∀ {k : Ledger}, k.Consistent →
      (textKeyed k.applications).map (fun (n, a) => (n, a.normId)) =
        textKeyed (k.applications.mapValues Application.normId) := by
    intro k ck
    rw [textKeyed_mapValues ck.applications]
  simp only [toDocument, Document.normIds, Document.mk.injEq]
  refine ⟨h.admins, c.profiles.textKeyed_eq_of_similar h.profiles, ?_,
    c.history.textKeyed_eq_of_similar h.history, ?_, c.cups.textKeyed_eq_of_similar h.cups⟩
  · rw [apps c, apps c']
    exact (c.applications.mapValues _).textKeyed_eq_of_similar h.applications
  · rw [tables c, tables c', textKeyed_mapValues (c.xp.mapValues _), textKeyed_mapValues (c'.xp.mapValues _),
      (c.xp.mapValues _).textKeyed_eq_of_similar h.xp]

theorem Equiv.render_snapshot (c : l.Consistent) (c' : l'.Consistent) (h : Equiv l l') :
    Json.render l.toDocument.toJson = Json.render l'.toDocument.toJson := by
  rw [← Document.render_normIds, normIds_toDocument c c' h, Document.render_normIds]

end Ledger

end GuildRegistry
