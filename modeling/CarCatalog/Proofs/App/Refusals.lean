import CarCatalog.Proofs.App.Owned
import CarCatalog.Proofs.App.Rows
import CarCatalog.Proofs.Screen.Part

/-!
# What a refused action leaves

When an action is refused with anything but the status 401, the reason is written where the action was
started, and that is all that happens.  Two applications that differ in what they say about actions, and in
what they still wait for, are alike (`App.Alike`).

    a.Alike (a.step (.answer i reply))                                          (alike_of_refusal)
    a.Alike b → a.refresh.Alike b.refresh                                          (Alike.refresh)
    s.Complains message action s' → s'.notice? place =
      if place = action.place then (s.notice? place).map fun _ => message else s.notice? place
                                                                           (notice_of_complains)
-/

namespace CarCatalog

/-- Where a page says why an action was refused: at its top, or in a form or panel of a number. -/
inductive NoticePlace
  | page
  | form (number : Nat)
  | panel (number : Nat)
  deriving DecidableEq, Repr

/-- The place that an action was started from. -/
def Action.place : Action → NoticePlace
  | .createUser _ | .deleteUser _ _ | .deleteRow _ _ _ | .addMyCar _ | .removeMyCar _ _ => .page
  | .updateUser form _ _ | .saveRecord form _ => .form form
  | .assignRole panel _ _ | .removeRole panel _ _ => .panel panel

/-- What a page says at a place, if it has that place. -/
def Screen.notice? : Screen → NoticePlace → Option String
  | .users p, .page => some p.notice
  | .users p, .form k => (p.form.at? k).map UserForm.notice
  | .users p, .panel k => (p.panel.at? k).map RolesPanel.notice
  | .editor p, .page => some p.notice
  | .editor p, .form k => if p.formNumber = k then some p.form.notice else none
  | .browser p, .page => some p.notice
  | .myCars p, .page => some p.notice
  | _, _ => none

def UserForm.hushed (f : UserForm) : UserForm := { f with notice := "" }

def RolesPanel.hushed (r : RolesPanel) : RolesPanel := { r with notice := "" }

def RecordForm.hushed (f : RecordForm) : RecordForm := { f with notice := "" }

def UsersPage.hushed (p : UsersPage) : UsersPage :=
  { p with notice := "", form := p.form.modify UserForm.hushed, panel := p.panel.modify RolesPanel.hushed }

def EditorPage.hushed (p : EditorPage) : EditorPage := { p with notice := "", form := p.form.hushed }

/-- A page with nothing said about any action, and all the rest as it is. -/
def Screen.hushed : Screen → Screen
  | .users p => .users p.hushed
  | .editor p => .editor p.hushed
  | .browser p => .browser { p with notice := "" }
  | .myCars p => .myCars { p with notice := "" }
  | s => s

/-- Everything but what is said about actions, and the answers that are waited for, is the same. -/
structure App.Alike (a b : App) : Prop where
  account : b.account = a.account
  path : b.path = a.path
  number : b.number = a.number
  screen : b.screen.hushed = a.screen.hushed
  queue : b.queue = a.queue
  crashed : b.crashed = a.crashed

/-! ## One page -/

namespace Screen

variable {s s' : Screen} {action : Action} {message : String}

theorem hushed_of_complains (h : s.Complains message action s') : s'.hushed = s.hushed := by
  cases h with
  | updateUser p form =>
    have same := p.form.modify_modifyAt form (f := UserForm.hushed)
      (g := fun f => { f with notice := message }) fun _ => rfl
    simp only [hushed, UsersPage.hushed, same]
  | assignRole p panel | removeRole p panel =>
    have same := p.panel.modify_modifyAt panel (f := RolesPanel.hushed)
      (g := fun r => { r with notice := message }) fun _ => rfl
    simp only [hushed, UsersPage.hushed, same]
  | saveRecord p form =>
    unfold EditorPage.modifyForm
    split <;> rfl
  | _ => rfl

/-- The reason stands at the place of the action, if that is still there; what is said elsewhere stays. -/
theorem notice_of_complains (h : s.Complains message action s') (place : NoticePlace) :
    s'.notice? place =
      if place = action.place then (s.notice? place).map fun _ => message else s.notice? place := by
  cases h with
  | updateUser p form =>
    cases place with
    | form k =>
      simp only [notice?, Action.place, Part.at?_modifyAt, NoticePlace.form.injEq]
      split <;> simp [Function.comp_def]
    | page | panel => rfl
  | assignRole p panel | removeRole p panel =>
    cases place with
    | panel k =>
      simp only [notice?, Action.place, Part.at?_modifyAt, NoticePlace.panel.injEq]
      split <;> simp [Function.comp_def]
    | page | form => rfl
  | saveRecord p form =>
    cases place with
    | form k =>
      by_cases stands : p.formNumber = form
      · rw [EditorPage.modifyForm, if_pos stands]
        by_cases same : k = form
        · simp [notice?, Action.place, same, stands]
        · simp [notice?, Action.place, same, stands, Ne.symm same]
      · rw [EditorPage.modifyForm, if_neg stands]
        by_cases same : k = form
        · simp [notice?, Action.place, same, stands]
        · simp [notice?, Action.place, same]
    | page | panel =>
      unfold EditorPage.modifyForm
      split <;> rfl
  | _ => cases place <;> rfl

theorem notice_page_of_fits {n : Nat} (fits : (Task.act n action).fits s.kind = true)
    (place : action.place = .page) : (s.notice? .page).isSome = true := by
  cases action <;> cases place <;> cases s <;> first | rfl | cases fits

theorem kind_hushed (s : Screen) : s.hushed.kind = s.kind := by
  cases s <;> rfl

end Screen

/-! ## What is built anew -/

/-- What a page builds anew and asks for does not depend on what it says. -/
theorem UsersPage.rebuild_hushed (p : UsersPage) (n : Nat) :
    (p.hushed.rebuild n).1.hushed = (p.rebuild n).1.hushed ∧
      (p.hushed.rebuild n).2 = (p.rebuild n).2 := by
  have form := p.form.rebuild_modify (f := UserForm.hushed) (fun _ => rfl) UserForm.ofUser
  have panel := p.panel.rebuild_modify (f := RolesPanel.hushed) (fun _ => rfl) RolesPanel.ofUser
  constructor
  · simp only [hushed, rebuild, form, panel]
  · simp only [hushed, rebuild, Part.choice_rebuild, Part.number_rebuild]
    rfl

theorem EditorPage.rebuild_hushed (p : EditorPage) (n : Nat) :
    (p.hushed.rebuild n).1.hushed = (p.rebuild n).1.hushed ∧
      (p.hushed.rebuild n).2 = (p.rebuild n).2 := by
  have settled : p.form.hushed.settle.hushed = p.form.settle.hushed := by
    unfold RecordForm.settle
    split <;> next arrived => simp only [RecordForm.hushed] at arrived ⊢; simp [arrived]
  unfold rebuild
  cases stale : p.formStale with
  | true => simp [hushed, stale]
  | false => simp [hushed, stale, settled]

namespace App

variable {a b : App}

theorem Alike.put {π : Type} {screen : π → Screen} {step step' : π × List Task} (h : a.Alike b)
    (page : (screen step'.1).hushed = (screen step.1).hushed) (tasks : step'.2 = step.2) :
    (a.put screen step).Alike (b.put screen step') where
  account := h.account
  path := h.path
  number := h.number
  screen := page
  queue := by
    show b.queue ++ step'.2 = a.queue ++ step.2
    rw [h.queue, tasks]
  crashed := h.crashed

theorem Alike.mount (h : a.Alike b) (kind : ScreenKind) : (a.mount kind).Alike (b.mount kind) := by
  unfold App.mount
  rw [h.number]
  have numbered : ({ a with number := a.number + 1 } : App).Alike { b with number := a.number + 1 } :=
    ⟨h.account, h.path, rfl, h.screen, h.queue, h.crashed⟩
  exact numbered.put rfl rfl

theorem Alike.visit (h : a.Alike b) (path : String) : (a.visit path).Alike (b.visit path) := by
  have session : b.account.session = a.account.session := congrArg Account.session h.account
  unfold App.visit
  rw [h.path, session]
  split
  · exact h
  · have there : ({ a with path } : App).Alike { b with path } :=
      ⟨h.account, rfl, h.number, h.screen, h.queue, h.crashed⟩
    exact there.mount _

theorem Alike.rebuild (h : a.Alike b) : a.rebuild.Alike b.rebuild := by
  have screens := h.screen
  unfold App.rebuild
  rw [h.number]
  cases hs : a.screen <;> cases hs' : b.screen <;> rw [hs, hs'] at screens <;> try cases screens
  case users p q =>
    have same : q.hushed = p.hushed := Screen.users.inj screens
    obtain ⟨page, tasks⟩ := p.rebuild_hushed a.number
    obtain ⟨page', tasks'⟩ := q.rebuild_hushed a.number
    rw [same] at page' tasks'
    exact h.put (congrArg Screen.users (page'.symm.trans page)) (tasks'.symm.trans tasks)
  case editor p q =>
    have same : q.hushed = p.hushed := Screen.editor.inj screens
    obtain ⟨page, tasks⟩ := p.rebuild_hushed a.number
    obtain ⟨page', tasks'⟩ := q.rebuild_hushed a.number
    rw [same] at page' tasks'
    exact h.put (congrArg Screen.editor (page'.symm.trans page)) (tasks'.symm.trans tasks)
  all_goals exact h

theorem Alike.refresh (h : a.Alike b) : a.refresh.Alike b.refresh := by
  have kind : b.screen.kind = a.screen.kind := by
    rw [← b.screen.kind_hushed, h.screen, a.screen.kind_hushed]
  unfold App.refresh
  dsimp only
  rw [h.path, h.account, kind]
  split
  · exact h.visit _
  · split
    · exact h.rebuild
    · exact h.mount _

/-! ## Refusals -/

theorem hushed_of_complains {page : Nat} {action : Action} {message : String} {s : Screen}
    (h : a.Complains page action message s) : s.hushed = a.screen.hushed := by
  cases h with
  | said _ h => exact Screen.hushed_of_complains h
  | unsaid => rfl

/-- An action of the mounted page fits it, so that the page says why unless it is gone. -/
theorem notice_of_complains {page : Nat} {action : Action} {message : String} {s : Screen}
    (fits : page = a.number → (Task.act page action).fits a.screen.kind = true)
    (h : a.Complains page action message s) (place : NoticePlace) :
    s.notice? place =
      if page = a.number ∧ place = action.place then (a.screen.notice? place).map fun _ => message
      else a.screen.notice? place := by
  cases h with
  | said number h => simpa [number] using Screen.notice_of_complains h place
  | unsaid gone =>
    have gone : page ≠ a.number := fun number => by
      rw [gone number] at fits
      cases fits number
    rw [if_neg fun h => gone h.1]

theorem step_refused {i page : Nat} {action : Action} {reply : Api.Reply} {f : Api.Failure}
    (waits : a.waiting[i]? = some (.act page action)) (refused : action.call.outcome reply = .error f)
    (other : f.isUnauthorized = false) :
    ∃ s, a.step (.answer i reply) = { a with waiting := a.waiting.eraseIdx i, screen := s } ∧
      a.Complains page action f.message s := by
  have done : a.account.receiveDone (.error f) = (a.account, some f.message) := by
    simp [Account.receiveDone, Account.refuse, other]
  obtain ⟨s, hs, complains⟩ :=
    complain_spec { a with waiting := a.waiting.eraseIdx i } page action f.message
  refine ⟨s, ?_, ?_⟩
  · rw [step, waits]
    simp only [receive, refused, done]
    exact hs
  · cases complains with
    | said number h => exact .said number h
    | unsaid gone => exact .unsaid gone

/-! ## Top theorem -/

/-- **What a refused action leaves.**  On any run, when an action is refused with anything but the status
401, the account, the page with all that is shown and typed on it, and the requests to be sent stay as they
are, and what is built next is what would have been built.  Only the place that the action was started from
changes, if it is still there, and says why. -/
theorem alike_of_refusal (policy : MalformedPolicy) (storage : Storage) (now : Binary64)
    (path : String) (events : List Event) (i page : Nat) (action : Action) (reply : Api.Reply)
    (f : Api.Failure) :
    let a := (start (.fresh policy storage now) path).run events
    let b := a.step (.answer i reply)
    a.waiting[i]? = some (.act page action) → action.call.outcome reply = .error f →
      f.isUnauthorized = false →
        a.Alike b ∧ (a.step .refresh).Alike (b.step .refresh) ∧ b.waiting = a.waiting.eraseIdx i ∧
        (∀ place, b.screen.notice? place =
          if page = a.number ∧ place = action.place then
            (a.screen.notice? place).map fun _ => f.message
          else a.screen.notice? place) ∧
        (page = a.number → action.place = .page → b.screen.notice? .page = some f.message) := by
  intro a b waits refused other
  have owned : (Task.act page action).Owned a.number a.screen :=
    Stage.owned_run _ path events _ (List.mem_of_getElem? (tasks_getElem? waits))
  obtain ⟨s, hb, complains⟩ := step_refused waits refused other
  have alike : a.Alike b := by
    rw [show b = _ from hb]
    exact ⟨rfl, rfl, rfl, hushed_of_complains complains, rfl, rfl⟩
  have notices : ∀ place, b.screen.notice? place =
      if page = a.number ∧ place = action.place then
        (a.screen.notice? place).map fun _ => f.message
      else a.screen.notice? place := by
    rw [show b = _ from hb]
    exact notice_of_complains owned.fits complains
  refine ⟨alike, alike.refresh, congrArg App.waiting hb, notices, fun number place => ?_⟩
  have stands := Screen.notice_page_of_fits (owned.fits number) place
  obtain ⟨said, there⟩ := Option.isSome_iff_exists.mp stands
  rw [notices, if_pos ⟨number, place.symm⟩, there]
  rfl

/-- A new brand is typed in and submitted while the list of brands is still loading. -/
def drafting : List Event :=
  [.bootstrap, .refresh, .send, .press (.editor (.form (.typed .name "VW"))),
    .press (.editor (.form .submit)), .refresh, .send]

/-- The server fails, and the form says so and still has the name. -/
theorem alike_of_refusal_drafting :
    let a := editorVisit.run drafting
    let save := Action.saveRecord 0 (.name .brands none ⟨"VW"⟩)
    let b := a.step (.answer 1 (.arrived 500 []))
    a.waiting[1]? = some (.act 1 save) ∧
      save.call.outcome (.arrived 500 []) = .error (.status 500) ∧
      (Api.Failure.status 500).isUnauthorized = false ∧ a.Alike b ∧
      b.screen.notice? (.form 0) = some "server responded with status 500" := by
  intro a save b
  have waits : a.waiting[1]? = some (.act 1 save) := by decide +kernel
  have refused : save.call.outcome (.arrived 500 []) = .error (.status 500) := rfl
  have other : (Api.Failure.status 500).isUnauthorized = false := by decide
  have stands : 1 = a.number ∧ a.screen.notice? (.form 0) = some "" := by decide +kernel
  obtain ⟨alike, -, -, notices, -⟩ := alike_of_refusal .retain ⟨.works, [(tokenKey, adminCredential)]⟩
    (.ofNat 0) "/car-spec" drafting 1 1 save _ _ waits refused other
  refine ⟨waits, refused, other, alike, ?_⟩
  rw [show b.screen.notice? (.form 0) = _ from notices (.form 0), if_pos ⟨stands.1, rfl⟩]
  rw [show ((start _ _).run drafting).screen.notice? _ = _ from stands.2]
  decide +kernel

end App

end CarCatalog
