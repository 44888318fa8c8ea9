import CarCatalog.Proofs.App.Crash

/-!
# What a save resets

The answer to a save may come after the user went on to other forms.  On the users page a success
blanks the form for a new user, or closes the form of the user it was about.  The editor has one form
at a time, and the success of a save puts a blank one in its place, whichever form it is by then.

    a.screen.Resets a.number action (a.step (.answer i reply)).screen              (resets_of_save)

`typed_text_lost` is a run in which the form of one brand is lost to the save of another.
-/

namespace CarCatalog

/-- The actions that save a form. -/
def Action.isSave : Action → Bool
  | .createUser _ | .updateUser _ _ _ | .saveRecord _ _ => true
  | _ => false

/-- What the success of a save makes of the forms of the page of a number. -/
inductive Screen.Resets (n : Nat) : Screen → Action → Screen → Prop
  /-- The form for a new user is blank, whatever it says by now; no other form changes. -/
  | created {p q : UsersPage} {payload : NewUser} (blank : q.username = "" ∧ q.password = "")
    (form : q.form = p.form) (panel : q.panel = p.panel) :
    Resets n (.users p) (.createUser payload) (.users q)
  /-- The form that was submitted is closed, and it is the form of that user; no other changes. -/
  | updated {p q : UsersPage} {f : UserForm} {form : Nat} {user : Int64} {payload : UserUpdate}
    (stands : p.form.built = some f) (number : p.form.number = form) (same : f.user.id = user)
    (closed : (q.rebuild n).1.form.built = none)
    (create : q.username = p.username ∧ q.password = p.password) (panel : q.panel = p.panel) :
    Resets n (.users p) (.updateUser form user payload) (.users q)
  /-- A blank form for a new record takes the place of the form that stands.  That is the form that was
  submitted, and about the record that was saved, or it was built since. -/
  | saved {p q : EditorPage} {form : Nat} {saving : Saving}
    (stands : form = p.formNumber ∧ saving.record = (p.form.level, p.form.id) ∨ form < p.formNumber)
    (trail : q.trail = p.trail) (blank : (q.rebuild n).1.form = .new p.trail.level none) :
    Resets n (.editor p) (.saveRecord form saving) (.editor q)

/-! ## Lemmas -/

/-- A form that stands under the number of a save is about what is saved. -/
theorem Task.Owned.user_of_has {n : Nat} {p : UsersPage} {form : Nat} {user : Int64}
    {payload : UserUpdate} (owned : (Task.act n (.updateUser form user payload)).Owned n (.users p))
    (has : p.form.has form = true) :
    ∃ f, p.form.built = some f ∧ p.form.number = form ∧ f.user.id = user := by
  obtain ⟨built, number⟩ := Bool.and_eq_true_iff.mp has
  obtain ⟨f, hf⟩ := Option.isSome_iff_exists.mp built
  have number : p.form.number = form := eq_of_beq number
  rcases owned.form rfl form _ rfl with before | ⟨-, subject⟩
  · exact absurd number.symm (Nat.ne_of_lt before)
  · have stands : (Screen.users p).subject? = some (.user f.user.id) := congrArg (Option.map _) hf
    exact ⟨f, hf, number, Subject.user.inj (subject _ stands)⟩

theorem Task.Owned.record_of_editor {n : Nat} {p : EditorPage} {form : Nat} {saving : Saving}
    (owned : (Task.act n (.saveRecord form saving)).Owned n (.editor p)) :
    form = p.formNumber ∧ saving.record = (p.form.level, p.form.id) ∨ form < p.formNumber := by
  rcases owned.form rfl form _ rfl with before | ⟨number, subject⟩
  · exact .inr before
  · obtain ⟨level, id⟩ := Subject.record.inj (subject _ rfl)
    exact .inl ⟨number, Prod.ext level.symm id.symm⟩

namespace Screen

variable {n : Nat} {s s' : Screen} {more : List Task} {action : Action}

theorem resets_of_succeeds (owned : (Task.act n action).Owned n s) (save : action.isSave = true)
    (h : s.Succeeds n action (s', more)) : s.Resets n action s' := by
  cases h with
  | created p => exact .created ⟨rfl, rfl⟩ rfl rfl
  | updated p form user payload has =>
    obtain ⟨f, stands, number, same⟩ := owned.user_of_has has
    exact .updated stands number same rfl ⟨rfl, rfl⟩ rfl
  | saved p form saving =>
    have trail : (p.saved n form).1.trail = p.trail := by
      show (p.modifyForm form RecordForm.saved).trail = _
      unfold EditorPage.modifyForm
      split <;> rfl
    refine .saved owned.record_of_editor trail ?_
    rw [← trail]
    rfl
  | _ => cases save

theorem resets_of_answers {reply : Api.Reply} (owned : (Task.act n action).Owned n s)
    (save : action.isSave = true) (accepted : action.call.outcome reply = .ok ())
    (h : s.Answers n reply (.act n action) (s', more)) : s.Resets n action s' := by
  cases h with
  | succeeded _ h => exact resets_of_succeeds owned save h
  | refused f refused =>
    rw [accepted] at refused
    cases refused

end Screen

/-! ## Top theorem -/

namespace App

/-- **What a save resets.**  On any run, the success of a save whose page is still mounted makes of the
forms there what `Screen.Resets` says, unless it is the save of a user whose form has been closed or
built anew since: that crashes the application, which reads the form. -/
theorem resets_of_save (policy : MalformedPolicy) (storage : Storage) (now : Binary64)
    (path : String) (events : List Event) (i : Nat) (action : Action) (reply : Api.Reply) :
    let a := (App.start (.fresh policy storage now) path).run events
    let b := a.step (.answer i reply)
    a.waiting[i]? = some (.act a.number action) → action.isSave = true →
      action.call.outcome reply = .ok () →
        b.crashed = a.crashed ∧ a.screen.Resets a.number action b.screen ∨
        b.crashed = true ∧ b.screen = a.screen ∧ ∃ form user payload p,
          action = .updateUser form user payload ∧ a.screen = .users p ∧
            p.form.has form = false := by
  intro a b waits save accepted
  have owned := Stage.owned_run (.fresh policy storage now) path events _
    (List.mem_of_getElem? (tasks_getElem? waits))
  have reads : (Task.act a.number action).reads reply = action.reads a.number := by
    simp only [Task.reads, accepted]
  generalize hc : b.stage = c
  have received : a.stage.Receives i reply c := hc ▸ receives_answer waits reply
  have crashed : b.crashed = c.crashed := congrArg Stage.crashed hc
  have screen : b.screen = c.screen := congrArg Stage.screen hc
  rw [crashed, screen]
  cases received with
  | answered ht page h =>
    cases (tasks_getElem? waits).symm.trans ht
    exact .inl ⟨rfl, Screen.resets_of_answers owned save accepted h⟩
  | stray ht stray =>
    cases (tasks_getElem? waits).symm.trans ht
    rw [owned.fits rfl] at stray
    cases stray rfl
  | crashed ht reads' lost =>
    cases (tasks_getElem? waits).symm.trans ht
    rw [reads] at reads'
    -- the page of the task stands, so what is lost is its form
    have gone : ¬ a.stage.Stands _ := fun stands => by
      rw [owned.fits rfl] at lost
      cases (lost stands).2
    cases action with
    | updateUser form user payload =>
      cases reads'
      refine .inr ⟨rfl, rfl, form, user, payload, ?_⟩
      cases hs : a.screen with
      | users p =>
        refine ⟨p, rfl, rfl, Bool.eq_false_iff.mpr fun has => gone ⟨rfl, p, hs, has⟩⟩
      | _ =>
        have fits := owned.fits rfl
        rw [show a.stage.screen = _ from hs] at fits
        cases fits
    | createUser | saveRecord =>
      cases reads'
      exact absurd rfl gone
    | _ => cases save

/-! ## A save that takes another form with it -/

def brandsListed : Api.Reply :=
  .arrived 200 (Wire.toJson (⟨[⟨1, "VW", 3⟩, ⟨2, "Audi", 3⟩], onlyPage⟩ : Page Brand)).toBytes

def brandSaved : Api.Reply := .arrived 200 (Wire.toJson (⟨1, "VW", 3⟩ : Brand)).toBytes

/-- The form of the first brand is submitted as it is. -/
def submitting : List Event :=
  [.bootstrap, .refresh, .send, .answer 0 brandsListed, .press (.editor (.edit 1)), .refresh,
    .press (.editor (.form .submit)), .refresh, .send]

/-- Before that is confirmed, the form of the second brand is opened and changed. -/
def changing : List Event :=
  submitting ++ [.press (.editor (.edit 2)), .refresh,
    .press (.editor (.form (.typed .name "Auto Union"))), .refresh]

/-- Which record the form of the editor is about, and the name it has. -/
def draft? (a : App) : Option (Option Int64 × String) :=
  match a.screen with
  | .editor p => some (p.form.id, p.form.name)
  | _ => none

/-- The save of the first brand is confirmed while the form of the second one is on the screen. -/
theorem resets_of_save_changing :
    let a := editorVisit.run changing
    let save := Action.saveRecord 1 (.name .brands (some 1) ⟨"VW"⟩)
    a.waiting[0]? = some (.act a.number save) ∧
      a.screen.Resets a.number save (a.step (.answer 0 brandSaved)).screen := by
  intro a save
  have waits : a.waiting[0]? = some (.act a.number save) := by decide +kernel
  have accepted : save.call.outcome brandSaved = .ok () :=
    Except.eq_ok_of_toOption (by decide +kernel)
  refine ⟨waits, ?_⟩
  rcases resets_of_save .retain ⟨.works, [(tokenKey, adminCredential)]⟩ (.ofNat 0) "/car-spec"
    changing 0 save brandSaved waits rfl accepted with ⟨-, resets⟩ | ⟨-, -, form, user, payload, _, h, -⟩
  · exact resets
  · exact absurd h (by simp [save])

/-- **Typed text is lost.**  The form of the second brand is on the screen with what was typed; the
save of the first one is confirmed, and a blank form for a new brand is on the screen. -/
theorem typed_text_lost :
    let a := editorVisit.run changing
    a.draft? = some (some 2, "Auto Union") ∧
    a.waiting = [.act 1 (.saveRecord 1 (.name .brands (some 1) ⟨"VW"⟩))] ∧
    (a.run [.answer 0 brandSaved, .refresh]).draft? = some (none, "") := by
  decide +kernel

end App

end CarCatalog
