import CarCatalog.Proofs.View.Tree

/-!
# What the parts of a page show

Of the parts that several pages show only the table of catalog rows has rows.  A row can be opened,
saved, edited and deleted, as far as its table offers that, and the latter two only where the table
says that it may be changed.

    tableRows [rowTable actions rows] = rows.map (tableRow actions)             (tableRows_rowTable)
-/

namespace CarCatalog.View

open Node

variable {α β : Type}

@[simp] theorem plain_spinner {label : String} {xs : List (Node α)} :
    Plain (spinner label :: xs) ↔ Plain xs := by
  simp [spinner]

@[simp] theorem plain_waiting {xs : List (Node α)} : Plain (waiting :: xs) ↔ Plain xs :=
  plain_spinner

@[simp] theorem plain_errorNotice {message : String} {retry : α} {xs : List (Node α)} :
    Plain (errorNotice message retry :: xs) ↔ Plain xs := by
  simp [errorNotice]

@[simp] theorem plain_pagerBar {pager : Pager} {previous next : α} :
    Plain (pagerBar pager previous next) := by
  simp [pagerBar]

/-- Before a value is there, nothing of note is shown in its place. -/
theorem gather_loaded {γ : Type} {pick : Node α → List γ} {value : Loadable β} {retry : α}
    (waits : gatherAll pick [waiting] = [])
    (fails : ∀ message, gatherAll pick [errorNotice message retry] = [])
    (ready : β → List (Node α)) :
    gatherAll pick (loaded value retry ready) =
      match value with
      | .ready b => gatherAll pick (ready b)
      | _ => [] := by
  cases value with
  | loading => exact waits
  | failed message => exact fails message
  | ready b => rfl

theorem pages_loaded (value : Loadable β) (retry : α) (ready : β → List (Node α)) :
    pages (loaded value retry ready) =
      match value with
      | .ready b => pages (ready b)
      | _ => [] :=
  gather_loaded (plain_waiting.mpr plain_nil).1
    (fun _ => (plain_errorNotice.mpr plain_nil).1) ready

theorem tableRows_loaded (value : Loadable β) (retry : α) (ready : β → List (Node α)) :
    tableRows (loaded value retry ready) =
      match value with
      | .ready b => tableRows (ready b)
      | _ => [] :=
  gather_loaded (plain_waiting.mpr plain_nil).2
    (fun _ => (plain_errorNotice.mpr plain_nil).2) ready

theorem plain_loaded {value : Loadable β} {retry : α} {ready : β → List (Node α)}
    (h : ∀ b, Plain (ready b)) : Plain (loaded value retry ready) := by
  rw [Plain, pages_loaded, tableRows_loaded]
  cases value with
  | loading => exact plain_nil
  | failed message => exact plain_nil
  | ready b => exact h b

@[simp] theorem not_fires_spinner {label : String} {m : α} : ¬Fires [spinner label] m := by
  simp [spinner]

@[simp] theorem not_fires_waiting {m : α} : ¬Fires [waiting] m := not_fires_spinner

@[simp] theorem fires_errorNotice {message : String} {retry m : α} :
    Fires [errorNotice message retry] m ↔ retry = m := by
  simp [errorNotice]

theorem fires_pagerBar {pager : Pager} {previous next m : α}
    (h : Fires (pagerBar pager previous next) m) : previous = m ∨ next = m := by
  simp [pagerBar] at h
  exact h.2

theorem fires_loaded {value : Loadable β} {retry m : α} {ready : β → List (Node α)}
    (h : Fires (loaded value retry ready) m) :
    retry = m ∨ ∃ b, value = .ready b ∧ Fires (ready b) m := by
  cases value with
  | loading => exact absurd h not_fires_waiting
  | failed message => exact .inl (fires_errorNotice.mp h)
  | ready b => exact .inr ⟨b, rfl, h⟩

/-! ## The table of rows -/

theorem plain_rowLabel (actions : RowActions α) (r : Row) : Plain [rowLabel actions r] := by
  unfold rowLabel
  split <;> simp

theorem plain_actionButton {className : String} (other : Section.ofPageClass? className = none)
    (label : String) (action : Option (Int64 → α)) (id : Int64) :
    Plain (actionButton className label action id) := by
  cases action with
  | none => exact plain_nil
  | some f => exact plain_button.mpr ⟨other, plain_nil⟩

theorem plain_tableRow (actions : RowActions α) (r : Row) : Plain [tableRow actions r] := by
  simp only [tableRow]
  cases actions.mayChange r.createdBy <;> simp [plain_rowLabel, plain_actionButton]

theorem clicks_rowLabel (actions : RowActions α) (r : Row) :
    clicks [rowLabel actions r] = actions.enter.toList.map fun f => (seen r.label, f r.id) := by
  unfold rowLabel
  split <;> next h => simp [h]

theorem clicks_actionButton (className label : String) (action : Option (Int64 → α)) (id : Int64) :
    clicks (actionButton className label action id) =
      action.toList.map fun f => (seen label, f id) := by
  cases action <;> simp [actionButton]

/-- The clicks of a row. -/
theorem clicks_tableRow (actions : RowActions α) (r : Row) :
    clicks [tableRow actions r] =
      actions.enter.toList.map (fun f => (seen r.label, f r.id)) ++
      actions.save.toList.map (fun f => ("Add to My Cars", f r.id)) ++
      if actions.mayChange r.createdBy then
        actions.edit.toList.map (fun f => ("Edit", f r.id)) ++
          actions.delete.toList.map (fun f => ("Delete", f r.id))
      else [] := by
  have save : seen "Add to My Cars" = "Add to My Cars" := by decide
  have edit : seen "Edit" = "Edit" := by decide
  have delete : seen "Delete" = "Delete" := by decide
  simp only [tableRow]
  cases actions.mayChange r.createdBy <;>
    simp [clicks_rowLabel, clicks_actionButton, save, edit, delete]

theorem tableRows_rowTable (actions : RowActions α) (rows : List Row) :
    tableRows [rowTable actions rows] = rows.map (tableRow actions) := by
  unfold rowTable
  split
  · next empty =>
    rw [List.isEmpty_iff.mp empty]
    rfl
  · have inside : Plain (rows.map (tableRow actions)) :=
      plain_list.mpr fun r _ => plain_tableRow actions r
    simp [inside.2]

theorem pages_rowTable (actions : RowActions α) (rows : List Row) :
    pages [rowTable actions rows] = [] := by
  unfold rowTable
  split
  · rfl
  · have inside : Plain (rows.map (tableRow actions)) :=
      plain_list.mpr fun r _ => plain_tableRow actions r
    simp [inside.1]

theorem fires_actionButton {className label : String} {action : Option (Int64 → α)} {id : Int64}
    {m : α} :
    Fires (actionButton className label action id) m ↔ ∃ f, action = some f ∧ f id = m := by
  cases action <;> simp [actionButton]

theorem fires_rowLabel {actions : RowActions α} {r : Row} {m : α} :
    Fires [rowLabel actions r] m ↔ ∃ f, actions.enter = some f ∧ f r.id = m := by
  unfold rowLabel
  split <;> next h => simp [h]

/-- What a row is good for. -/
theorem fires_tableRow {actions : RowActions α} {r : Row} {m : α} :
    Fires [tableRow actions r] m ↔
      (∃ f, actions.enter = some f ∧ f r.id = m) ∨ (∃ f, actions.save = some f ∧ f r.id = m) ∨
        actions.mayChange r.createdBy = true ∧
          ((∃ f, actions.edit = some f ∧ f r.id = m) ∨
            ∃ f, actions.delete = some f ∧ f r.id = m) := by
  simp only [tableRow]
  cases actions.mayChange r.createdBy <;>
    simp [fires_rowLabel, fires_actionButton]

theorem fires_rowTable {actions : RowActions α} {rows : List Row} {m : α} :
    Fires [rowTable actions rows] m ↔ ∃ r ∈ rows, Fires [tableRow actions r] m := by
  unfold rowTable
  split
  · next empty =>
    rw [List.isEmpty_iff.mp empty]
    simp
  · simp [fires_list]

end CarCatalog.View
