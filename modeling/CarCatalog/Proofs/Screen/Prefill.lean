import CarCatalog.App.Basic
import CarCatalog.Proofs.Form

/-!
# Editing without a change

A record that is chosen to be edited goes through its row, and for a spec through the loaded record, into
the texts of a form; submitting the form reads the texts again.  What is saved is the record with its
texts trimmed, or nothing.

    p.trail.level is the record's and its row is shown →
      (p.prefilled n r).form = r.form p.trail.level                            (form_prefilled)
    Judges (r.form level).saving r.Acceptable (r.saving level)                 (judges_saving)
-/

namespace CarCatalog

open Form

/-- A record of any level. -/
inductive CatalogRecord
  | brand (b : Brand)
  | model (m : Model)
  | submodel (s : Submodel)
  | generation (g : Generation)
  | spec (s : CarSpec)
  deriving DecidableEq, Repr

namespace CatalogRecord

def row : CatalogRecord → Row
  | .brand b => b.row
  | .model m => m.row
  | .submodel s => s.row
  | .generation g => g.row
  | .spec s => s.row

/-- The lists that hold records of the kind. -/
def At : CatalogRecord → Level → Prop
  | .brand _, .brands | .model _, .models _ | .submodel _, .submodels _
  | .generation _, .generations _ | .spec _, .specs _ => True
  | _, _ => False

/-- Every text has something in it and is not too long, every year is one of those that are allowed, and
there is some power and some torque. -/
def Acceptable : CatalogRecord → Prop
  | .brand b => IsText 100 b.name
  | .model m => IsText 100 m.name
  | .submodel s => IsText 100 s.name
  | .generation g => IsText 100 g.name ∧ IsYear g.yearStart ∧ IsYear g.yearEnd
  | .spec s => IsText 100 s.name ∧ IsText 100 s.engine ∧ 1 ≤ s.horsepower.toInt ∧
      1 ≤ s.torque.toInt ∧ IsText 50 s.fuelType ∧ IsYear s.year

/-- The record as it is saved to a list: its texts trimmed, its numbers as they are. -/
def saving (r : CatalogRecord) (level : Level) : Saving :=
  match r, level with
  | .generation g, .generations parent =>
    .generation parent (some g.id) ⟨Text.trim g.name, g.yearStart, g.yearEnd⟩
  | .spec s, .specs parent =>
    .spec parent (some s.id)
      ⟨Text.trim s.name, Text.trim s.engine, s.horsepower, s.torque, Text.trim s.fuelType, s.year⟩
  | r, level => .name level (some r.row.id) ⟨Text.trim r.row.name⟩

/-- The form that is filled with the record. -/
def form (r : CatalogRecord) (level : Level) : RecordForm :=
  let form := RecordForm.new level (some r.row)
  match r with
  | .spec s => { form with spec := .ofSpec s }
  | _ => form

end CatalogRecord

/-- The page once a record was chosen to be edited, and all that its form loads has arrived. -/
def EditorPage.prefilled (p : EditorPage) (n : Nat) (r : CatalogRecord) : EditorPage :=
  let q := ((p.update n (.edit r.row.id)).1.rebuild n).1
  match r with
  | .spec s => ((App.specPlace q q.formNumber (.ready s)).rebuild n).1
  | _ => q

/-! ## Lemmas -/

namespace CatalogRecord

theorem saving_form_generation (g : Generation) (parent : Int64) :
    ((generation g).form (.generations parent)).saving =
      (newGeneration g.name (toString g.yearStart.toInt) (toString g.yearEnd.toInt)).map
        (Saving.generation parent (some g.id)) := rfl

theorem saving_form_spec (s : CarSpec) (parent : Int64) :
    ((spec s).form (.specs parent)).saving =
      (newSpec (.ofSpec s)).map (Saving.spec parent (some s.id)) := rfl

theorem judges_saving {r : CatalogRecord} {level : Level} (here : r.At level) :
    Judges (r.form level).saving r.Acceptable (r.saving level) := by
  cases r with
  | brand b =>
    cases level with
    | brands => exact (judges_newName b.name).map (Saving.name .brands (some b.id))
    | _ => cases here
  | model m =>
    cases level with
    | models brand => exact (judges_newName m.name).map (Saving.name (.models brand) (some m.id))
    | _ => cases here
  | submodel s =>
    cases level with
    | submodels model =>
      exact (judges_newName s.name).map (Saving.name (.submodels model) (some s.id))
    | _ => cases here
  | generation g =>
    cases level with
    | generations submodel =>
      have read := judges_newGeneration g.name (reads_toString g.yearStart) (reads_toString g.yearEnd)
      rw [saving_form_generation]
      exact read.map (Saving.generation submodel (some g.id))
    | _ => cases here
  | spec s =>
    cases level with
    | specs generation =>
      have read := judges_newSpec (f := .ofSpec s) (reads_toString s.horsepower)
        (reads_toString s.torque) (reads_toString s.year)
      rw [saving_form_spec]
      exact read.map (Saving.spec generation (some s.id))
    | _ => cases here

end CatalogRecord

namespace EditorPage

variable {p : EditorPage} {n : Nat} {r : CatalogRecord}

theorem form_prefilled (shown : Row.find? p.rows.items r.row.id = some r.row) :
    (p.prefilled n r).form = r.form p.trail.level := by
  have opened : ((p.update n (.edit r.row.id)).1.rebuild n).1.form =
      .new p.trail.level (some r.row) := by
    show RecordForm.new p.trail.level (Row.find? p.rows.items r.row.id) = _
    rw [shown]
  cases r with
  | spec s =>
    generalize hq : ((p.update n (.edit (CatalogRecord.spec s).row.id)).1.rebuild n).1 = q at opened
    have fresh : q.formStale = false := by rw [← hq]; rfl
    -- the form still has the number under which the spec was asked for
    have arrived : ((App.specPlace q q.formNumber (.ready s)).rebuild n).1.form =
        { q.form with spec := .ofSpec s, arrived := none } := by
      rw [App.specPlace, modifyForm, if_pos rfl, rebuild]
      dsimp only
      rw [fresh]
      rfl
    rw [prefilled, hq]
    exact arrived.trans (by rw [opened]; rfl)
  | _ => exact opened

theorem update_submit {saving : Saving} {fine : Prop} (h : Judges p.form.saving fine saving) :
    (fine → p.update n (.form .submit) =
      ({ p with form := { p.form with notice := "" } },
        [.act n (.saveRecord p.formNumber saving)])) ∧
    (¬fine → ∃ e : FormError, p.update n (.form .submit) =
      ({ p with form := { p.form with notice := e.message } }, [])) := by
  constructor
  · intro accepted
    simp only [update, updateForm, RecordForm.submit, h.accepts accepted]
    rfl
  · intro refused
    obtain ⟨e, he⟩ := h.refuses refused
    refine ⟨e, ?_⟩
    simp only [update, updateForm, RecordForm.submit, he]
    rfl

/-! ## Top theorem -/

/-- **Submitting what was there.**  A form that is filled with a record and submitted as it is saves the
record's own numbers and its trimmed texts, if these have something in them and are not too long, its years
are from 1900 to 2100, and power and torque at least one.  Otherwise it names what is wrong, and nothing is
sent. -/
theorem submit_prefilled (p : EditorPage) (n : Nat) (r : CatalogRecord) (here : r.At p.trail.level)
    (shown : Row.find? p.rows.items r.row.id = some r.row) :
    let q := p.prefilled n r
    (r.Acceptable → q.update n (.form .submit) =
      ({ q with form := { q.form with notice := "" } },
        [.act n (.saveRecord q.formNumber (r.saving p.trail.level))])) ∧
    (¬r.Acceptable → ∃ e : FormError, q.update n (.form .submit) =
      ({ q with form := { q.form with notice := e.message } }, [])) := by
  intro q
  have filled : q.form = r.form p.trail.level := form_prefilled shown
  refine update_submit ?_
  rw [filled]
  exact CatalogRecord.judges_saving here

/-- A generation of the submodel 3, shown in the editor. -/
def golf7 : Generation := ⟨7, " Mk 7 ", 2012, 2019, 3, 5⟩

def golfEditor : EditorPage :=
  { EditorPage.blank with
    trail := .submodel 1 2 3
    rows := .ready ⟨[golf7.row], ⟨1, 10, 1, 1⟩⟩ }

theorem submit_prefilled_golf :
    (golfEditor.prefilled 0 (.generation golf7)).form.name = " Mk 7 " ∧
    ((golfEditor.prefilled 0 (.generation golf7)).update 0 (.form .submit)).2 =
      [.act 0 (.saveRecord 1 (.generation 3 (some 7) ⟨"Mk 7", 2012, 2019⟩))] := by
  have acceptable : (CatalogRecord.generation golf7).Acceptable := by
    refine ⟨⟨?_, ?_⟩, ?_, ?_⟩
    · decide +kernel
    · decide +kernel
    · decide
    · decide
  have trimmed : Text.trim " Mk 7 " = "Mk 7" := by decide +kernel
  obtain ⟨accepted, -⟩ := submit_prefilled golfEditor 0 (.generation golf7) trivial rfl
  refine ⟨rfl, ?_⟩
  rw [accepted acceptable, ← trimmed]
  rfl

end EditorPage

end CarCatalog
