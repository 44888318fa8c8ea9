import CarCatalog.Proofs.App.Change

/-!
# What one event does

A `Stage` is the mounted page with the tasks that are without an answer.  It turns with every event,
in one of a few ways: the page takes a message, builds what is stale, gives way to a new page, or
takes the answer to one of its tasks; an answer may also be for no page, or find nothing to read where
it has to read.

    a.stage.Turn e (a.step e).stage                                                  (turn_step)
-/

namespace CarCatalog

/-! ## What an answer reads -/

/-- What a task may read once its answer has arrived: the mounted page of a number, or a form on it.
What a task only writes to is not among them. -/
inductive Handle
  | page (number : Nat)
  | form (page number : Nat)
  deriving DecidableEq, Repr

/-- What is read when an action succeeds. -/
def Action.reads (page : Nat) : Action → Option Handle
  | .createUser _ | .deleteUser _ _ | .saveRecord _ _ | .deleteRow _ _ _ | .removeMyCar _ _ =>
    some (.page page)
  | .updateUser form _ _ => some (.form page form)
  | .assignRole _ _ _ | .removeRole _ _ _ | .addMyCar _ => none

/-- What is read when a reply to a task arrives. -/
def Task.reads (t : Task) (reply : Api.Reply) : Option Handle :=
  match t with
  | .act page action =>
    match action.call.outcome reply with
    | .ok _ => action.reads page
    | .error _ => none
  | _ => none

/-- The pages that have a task among theirs. -/
def Task.fits (kind : ScreenKind) : Task → Bool
  | .signIn _ _ => kind = .login
  | .users _ _ | .overview _ | .heldRoles _ _ _ | .allRoles _ _ => kind = .users
  | .rows _ _ _ => kind = .editor || kind = .browser
  | .cars _ _ => kind = .myCars
  | .spec _ _ _ => kind = .editor
  | .act _ action =>
    match action with
    | .createUser _ | .deleteUser _ _ | .updateUser _ _ _ | .assignRole _ _ _
    | .removeRole _ _ _ => kind = .users
    | .saveRecord _ _ | .deleteRow _ _ _ => kind = .editor
    | .addMyCar _ => kind = .browser
    | .removeMyCar _ _ => kind = .myCars

/-! ## The stage -/

/-- The mounted page, its number, and the tasks without an answer. -/
structure Stage where
  number : Nat
  screen : Screen
  tasks : List Task
  crashed : Bool

def App.stage (a : App) : Stage := ⟨a.number, a.screen, a.tasks, a.crashed⟩

/-- What a handle names is there. -/
def Stage.Stands (c : Stage) : Handle → Prop
  | .page number => c.number = number
  | .form page number =>
    c.number = page ∧ ∃ p, c.screen = .users p ∧ p.form.has number = true

/-- What a failure says to the user. -/
def Api.Failure.said (f : Api.Failure) : String :=
  if f.isUnauthorized then Account.expiredMessage else f.message

/-- The value that a load brought, or why it failed. -/
def Loadable.ofOutcome {α : Type} : Except Api.Failure α → Loadable α
  | .ok value => .ready value
  | .error f => .failed f.said

/-- A pager after the answer to a load. -/
def Pager.follow {α : Type} (p : Pager) : Except Api.Failure (Page α) → Pager
  | .ok page => p.observe page.info
  | .error _ => p

namespace Screen

/-- What the page of a number makes of a message. -/
inductive Presses (n : Nat) : Screen → Msg → Screen × List Task → Prop
  | login (f : LoginForm) (m : LoginForm.Msg) :
    Presses n (.login f) (.login m)
      (.login (f.update m).1, (f.update m).2.toList.map (.signIn n))
  | users (p : UsersPage) (m : UsersPage.Msg) :
    Presses n (.users p) (.users m) (.users (p.update n m).1, (p.update n m).2)
  | editor (p : EditorPage) (m : EditorPage.Msg) :
    Presses n (.editor p) (.editor m) (.editor (p.update n m).1, (p.update n m).2)
  | browser (p : BrowserPage) (m : BrowserPage.Msg) :
    Presses n (.browser p) (.browser m) (.browser (p.update n m).1, (p.update n m).2)
  | myCars (p : MyCarsPage) (m : MyCarsPage.Msg) :
    Presses n (.myCars p) (.myCars m) (.myCars (p.update n m).1, (p.update n m).2)

/-- What the page of a number builds anew. -/
inductive Rebuilds (n : Nat) : Screen → Screen × List Task → Prop
  | users (p : UsersPage) : Rebuilds n (.users p) (.users (p.rebuild n).1, (p.rebuild n).2)
  | editor (p : EditorPage) : Rebuilds n (.editor p) (.editor (p.rebuild n).1, (p.rebuild n).2)

/-- What the page of a number makes of the success of an action. -/
inductive Succeeds (n : Nat) : Screen → Action → Screen × List Task → Prop
  | created (p : UsersPage) (payload : NewUser) :
    Succeeds n (.users p) (.createUser payload) (.users (p.created n).1, (p.created n).2)
  | userDeleted (p : UsersPage) (user : Int64) (remaining : Nat) :
    Succeeds n (.users p) (.deleteUser user remaining)
      (.users (p.deleted n user remaining).1, (p.deleted n user remaining).2)
  | updated (p : UsersPage) (form : Nat) (user : Int64) (payload : UserUpdate)
    (has : p.form.has form = true) :
    Succeeds n (.users p) (.updateUser form user payload)
      (.users (p.updated n).1, (p.updated n).2)
  | assigned (p : UsersPage) (panel : Nat) (user : Int64) (role : String) :
    Succeeds n (.users p) (.assignRole panel user role)
      (.users { p with panel := p.panel.modifyAt panel fun r => { r with choice := "" }.reload },
        UsersPage.panelTasks n panel user)
  | removed (p : UsersPage) (panel : Nat) (user : Int64) (role : String) :
    Succeeds n (.users p) (.removeRole panel user role)
      (.users { p with panel := p.panel.modifyAt panel RolesPanel.reload },
        UsersPage.panelTasks n panel user)
  | saved (p : EditorPage) (form : Nat) (saving : Saving) :
    Succeeds n (.editor p) (.saveRecord form saving)
      (.editor (p.saved n form).1, (p.saved n form).2)
  | rowDeleted (p : EditorPage) (level : Level) (id : Int64) (remaining : Nat) :
    Succeeds n (.editor p) (.deleteRow level id remaining)
      (.editor (p.deleted n id remaining).1, (p.deleted n id remaining).2)
  | added (p : BrowserPage) (spec : Int64) :
    Succeeds n (.browser p) (.addMyCar spec) (.browser p.added, [])
  | carRemoved (p : MyCarsPage) (spec : Int64) (remaining : Nat) :
    Succeeds n (.myCars p) (.removeMyCar spec remaining)
      (.myCars (p.removed n remaining).1, (p.removed n remaining).2)

/-- Where a page says why an action was refused. -/
inductive Complains (message : String) : Screen → Action → Screen → Prop
  | createUser (p : UsersPage) (payload : NewUser) :
    Complains message (.users p) (.createUser payload) (.users { p with notice := message })
  | deleteUser (p : UsersPage) (user : Int64) (remaining : Nat) :
    Complains message (.users p) (.deleteUser user remaining) (.users { p with notice := message })
  | updateUser (p : UsersPage) (form : Nat) (user : Int64) (payload : UserUpdate) :
    Complains message (.users p) (.updateUser form user payload)
      (.users { p with form := p.form.modifyAt form fun f => { f with notice := message } })
  | assignRole (p : UsersPage) (panel : Nat) (user : Int64) (role : String) :
    Complains message (.users p) (.assignRole panel user role)
      (.users { p with panel := p.panel.modifyAt panel fun r => { r with notice := message } })
  | removeRole (p : UsersPage) (panel : Nat) (user : Int64) (role : String) :
    Complains message (.users p) (.removeRole panel user role)
      (.users { p with panel := p.panel.modifyAt panel fun r => { r with notice := message } })
  | saveRecord (p : EditorPage) (form : Nat) (saving : Saving) :
    Complains message (.editor p) (.saveRecord form saving)
      (.editor (p.modifyForm form fun f => { f with notice := message }))
  | deleteRow (p : EditorPage) (level : Level) (id : Int64) (remaining : Nat) :
    Complains message (.editor p) (.deleteRow level id remaining)
      (.editor { p with notice := message })
  | addMyCar (p : BrowserPage) (spec : Int64) :
    Complains message (.browser p) (.addMyCar spec) (.browser { p with notice := message })
  | removeMyCar (p : MyCarsPage) (spec : Int64) (remaining : Nat) :
    Complains message (.myCars p) (.removeMyCar spec remaining)
      (.myCars { p with notice := message })

/-- What the page of a number makes of the answer to one of its tasks. -/
inductive Answers (n : Nat) (reply : Api.Reply) : Screen → Task → Screen × List Task → Prop
  | signIn (f : LoginForm) (credentials : SignIn) (result : Except String Unit) :
    Answers n reply (.login f) (.signIn n credentials) (.login (f.answered result), [])
  | users (p : UsersPage) (query : PageQuery) (outcome : Except Api.Failure (Page User))
    (h : (Api.listUsers query).outcome reply = outcome) :
    Answers n reply (.users p) (.users n query)
      (.users { p with pager := p.pager.follow outcome, users := .ofOutcome outcome }, [])
  | overview (p : UsersPage) :
    Answers n reply (.users p) (.overview n)
      (.users { p with overview := .ofOutcome (Api.listRoles.outcome reply) }, [])
  | heldRoles (p : UsersPage) (panel : Nat) (user : Int64) :
    Answers n reply (.users p) (.heldRoles n panel user)
      (.users { p with panel := p.panel.modifyAt panel fun r =>
        { r with held := .ofOutcome ((Api.listUserRoles user).outcome reply) } }, [])
  | allRoles (p : UsersPage) (panel : Nat) :
    Answers n reply (.users p) (.allRoles n panel)
      (.users { p with panel := p.panel.modifyAt panel fun r =>
        { r with all := .ofOutcome (Api.listRoles.outcome reply) } }, [])
  | editorRows (p : EditorPage) (level : Level) (query : PageQuery)
    (outcome : Except Api.Failure (Page Row)) (h : (Api.loadRows level query).outcome reply = outcome) :
    Answers n reply (.editor p) (.rows n level query)
      (.editor { p with pager := p.pager.follow outcome, rows := .ofOutcome outcome }, [])
  | browserRows (p : BrowserPage) (level : Level) (query : PageQuery)
    (outcome : Except Api.Failure (Page Row)) (h : (Api.loadRows level query).outcome reply = outcome) :
    Answers n reply (.browser p) (.rows n level query)
      (.browser { p with pager := p.pager.follow outcome, rows := .ofOutcome outcome }, [])
  | cars (p : MyCarsPage) (query : PageQuery) (outcome : Except Api.Failure (Page CarSpec))
    (h : (Api.listMyCars query).outcome reply = outcome) :
    Answers n reply (.myCars p) (.cars n query)
      (.myCars { p with pager := p.pager.follow outcome, cars := .ofOutcome outcome }, [])
  | spec (p : EditorPage) (form : Nat) (id : Int64) :
    Answers n reply (.editor p) (.spec n form id)
      (.editor (App.specPlace p form (.ofOutcome ((Api.getSpec id).outcome reply))), [])
  | succeeded {s : Screen} {action : Action} {step : Screen × List Task}
    (accepted : action.call.outcome reply = .ok ()) (h : Succeeds n s action step) :
    Answers n reply s (.act n action) step
  | refused {s s' : Screen} {action : Action} (f : Api.Failure)
    (refused : action.call.outcome reply = .error f) (h : Complains f.said s action s') :
    Answers n reply s (.act n action) (s', [])

end Screen

/-- What becomes of the page of the application when an action is refused: it says why, or it is not the
page of that action. -/
inductive App.Complains (a : App) (page : Nat) (action : Action) (message : String) : Screen → Prop
  | said {s : Screen} (number : page = a.number) (h : a.screen.Complains message action s) :
    Complains a page action message s
  | unsaid (gone : page = a.number → (Task.act page action).fits a.screen.kind = false) :
    Complains a page action message a.screen

namespace Stage

/-- What becomes of a stage when the reply to one of its tasks arrives. -/
inductive Receives (c : Stage) (i : Nat) (reply : Api.Reply) : Stage → Prop
  | answered {t : Task} {s : Screen} {more : List Task} (ht : c.tasks[i]? = some t)
    (page : t.page = c.number) (h : c.screen.Answers c.number reply t (s, more)) :
    Receives c i reply { c with screen := s, tasks := c.tasks.eraseIdx i ++ more }
  /-- The answer is for no page; the roles of a user are loaded again even so. -/
  | stray {t : Task} {more : List Task} (ht : c.tasks[i]? = some t)
    (stray : t.page = c.number → t.fits c.screen.kind = false) (reads : t.reads reply = none)
    (panel : more = [] ∨ ∃ panel user, more = UsersPage.panelTasks t.page panel user) :
    Receives c i reply { c with tasks := c.tasks.eraseIdx i ++ more }
  | crashed {t : Task} {handle : Handle} (ht : c.tasks[i]? = some t)
    (reads : t.reads reply = some handle)
    (lost : c.Stands handle → t.page = c.number ∧ t.fits c.screen.kind = false) :
    Receives c i reply { c with tasks := c.tasks.eraseIdx i, crashed := true }

/-- How an event turns a stage. -/
inductive Turn (c : Stage) : App.Event → Stage → Prop
  | idle (e : App.Event) : Turn c e c
  | pressed {msg : Msg} {s : Screen} {more : List Task}
    (h : c.screen.Presses c.number msg (s, more)) :
    Turn c (.press msg) { c with screen := s, tasks := c.tasks ++ more }
  | rebuilt {s : Screen} {more : List Task} (h : c.screen.Rebuilds c.number (s, more)) :
    Turn c .refresh { c with screen := s, tasks := c.tasks ++ more }
  | mounted (e : App.Event) (kind : ScreenKind) :
    Turn c e { c with
      number := c.number + 1
      screen := (kind.build (c.number + 1)).1
      tasks := c.tasks ++ (kind.build (c.number + 1)).2 }
  | received {i : Nat} {reply : Api.Reply} {c' : Stage} (h : c.Receives i reply c') :
    Turn c (.answer i reply) c'

end Stage

/-! ## Lemmas -/

theorem Account.receivePage_eq {α : Type} (a : Account) (pager : Pager)
    (outcome : Except Api.Failure (Page α)) :
    (a.receivePage pager outcome).2 = (pager.follow outcome, .ofOutcome outcome) := by
  cases outcome with
  | ok page => rfl
  | error f =>
    simp only [receivePage, refuse, Pager.follow, Loadable.ofOutcome, Api.Failure.said]
    split <;> rfl

theorem Account.receiveValue_eq {α : Type} (a : Account) (outcome : Except Api.Failure α) :
    (a.receiveValue outcome).2 = .ofOutcome outcome := by
  cases outcome with
  | ok value => rfl
  | error f =>
    simp only [receiveValue, refuse, Loadable.ofOutcome, Api.Failure.said]
    split <;> rfl

theorem Account.receiveDone_eq (a : Account) (outcome : Except Api.Failure Unit) :
    (a.receiveDone outcome).2 =
      match outcome with
      | .ok _ => none
      | .error f => some f.said := by
  cases outcome with
  | ok value => rfl
  | error f =>
    simp only [receiveDone, refuse, Api.Failure.said]
    split <;> rfl

namespace App

theorem tasks_eraseIdx {a : App} {i : Nat} {t : Task} (ht : a.waiting[i]? = some t) :
    ({ a with waiting := a.waiting.eraseIdx i } : App).tasks = a.tasks.eraseIdx i :=
  (List.eraseIdx_append_of_lt_length (List.getElem?_eq_some_iff.mp ht).1 a.queue).symm

theorem tasks_getElem? {a : App} {i : Nat} {t : Task} (ht : a.waiting[i]? = some t) :
    a.tasks[i]? = some t :=
  (List.getElem?_append_left (List.getElem?_eq_some_iff.mp ht).1).trans ht

theorem stage_put {π : Type} (a : App) (screen : π → Screen) (step : π × List Task) :
    (a.put screen step).stage =
      { a.stage with screen := screen step.1, tasks := a.stage.tasks ++ step.2 } := by
  simp only [stage, tasks_put]
  rfl

theorem stage_queue (a : App) (more : List Task) :
    ({ a with queue := a.queue ++ more } : App).stage =
      { a.stage with tasks := a.stage.tasks ++ more } := stage_put a (fun s => s) (a.screen, more)

theorem stage_screen (a : App) (account : Account) (screen : Screen) :
    ({ a with account, screen } : App).stage =
      { a.stage with screen := screen, tasks := a.stage.tasks ++ [] } := by
  rw [List.append_nil]
  rfl

theorem stage_send (a : App) : (a.step .send).stage = a.stage := by
  cases hq : a.queue with
  | nil => rw [show a.step .send = a by simp [step, send?, hq]]
  | cons t queue =>
    rw [show a.step .send = { a with queue, waiting := a.waiting ++ [t] } by
      simp [step, send?, hq]]
    simp [stage, tasks, hq]

/-! ### Handlers and navigation -/

theorem turn_press (a : App) (msg : Msg) : a.stage.Turn (.press msg) (a.press msg).stage := by
  have pressed : ∀ {π : Type} {screen : π → Screen} {step : π × List Task},
      a.screen.Presses a.number msg (screen step.1, step.2) →
        a.stage.Turn (.press msg) (a.put screen step).stage := by
    intro π screen step h
    rw [stage_put]
    exact .pressed h
  unfold press
  split
  · exact .idle _
  · next m f hs => exact pressed (hs ▸ .login f m)
  · next m p hs => exact pressed (hs ▸ .users p m)
  · next m p hs => exact pressed (hs ▸ .editor p m)
  · next m p hs => exact pressed (hs ▸ .browser p m)
  · next m p hs => exact pressed (hs ▸ .myCars p m)
  · exact .idle _

theorem turn_mount (a : App) (e : Event) (kind : ScreenKind) :
    a.stage.Turn e (a.mount kind).stage := by
  unfold mount
  rw [stage_put]
  exact .mounted e kind

theorem turn_visit (a : App) (e : Event) (path : String) :
    a.stage.Turn e (a.visit path).stage := by
  unfold visit
  split
  · exact .idle e
  · exact turn_mount { a with path } e _

theorem turn_rebuild (a : App) : a.stage.Turn .refresh a.rebuild.stage := by
  have rebuilt : ∀ {π : Type} {screen : π → Screen} {step : π × List Task},
      a.screen.Rebuilds a.number (screen step.1, step.2) →
        a.stage.Turn .refresh (a.put screen step).stage := by
    intro π screen step h
    rw [stage_put]
    exact .rebuilt h
  unfold rebuild
  split
  · next p hs => exact rebuilt (hs ▸ .users p)
  · next p hs => exact rebuilt (hs ▸ .editor p)
  · exact .idle _

theorem turn_refresh (a : App) : a.stage.Turn .refresh a.refresh.stage := by
  unfold refresh
  dsimp only
  split
  · exact turn_visit a _ _
  · split
    · exact turn_rebuild a
    · exact turn_mount a _ _

/-! ### Answers -/

section

variable {c : Stage} {b : App} {i : Nat} {t : Task} {reply : Api.Reply}

/-- The page that a task works for is still mounted. -/
theorem receives_answered (ht : c.tasks[i]? = some t)
    (hb : b.stage = { c with tasks := c.tasks.eraseIdx i }) {s s' : Screen} {more : List Task}
    {d : App} (mounted : b.screenAt t.page = s) (blank : s ≠ .blank)
    (h : s.Answers t.page reply t (s', more))
    (hd : d.stage = { b.stage with screen := s', tasks := b.stage.tasks ++ more }) :
    c.Receives i reply d.stage := by
  obtain ⟨page, hs⟩ := screenAt_eq mounted blank
  have number : t.page = c.number := page.trans (congrArg Stage.number hb)
  have screen : c.screen = s := (congrArg Stage.screen hb).symm.trans hs
  rw [hd, hb]
  exact .answered ht number (by rwa [screen, ← number])

theorem fits_screenAt (hb : b.stage = { c with tasks := c.tasks.eraseIdx i })
    (page : t.page = c.number) : t.fits (b.screenAt t.page).kind = t.fits c.screen.kind := by
  have number : b.number = t.page := (congrArg Stage.number hb).trans page.symm
  rw [screenAt, if_pos number, show c.screen = b.screen from (congrArg Stage.screen hb).symm]

theorem receives_stray (ht : c.tasks[i]? = some t)
    (hb : b.stage = { c with tasks := c.tasks.eraseIdx i }) {more : List Task} {d : App}
    (stray : t.fits (b.screenAt t.page).kind = false) (reads : t.reads reply = none)
    (panel : more = [] ∨ ∃ panel user, more = UsersPage.panelTasks t.page panel user)
    (hd : d.stage = { b.stage with tasks := b.stage.tasks ++ more }) :
    c.Receives i reply d.stage := by
  rw [hd, hb]
  exact .stray ht (fun page => fits_screenAt hb page ▸ stray) reads panel

/-- What is read on the page of a task stands only if that page does. -/
theorem page_of_stands {handle : Handle} (reads : t.reads reply = some handle)
    (stands : c.Stands handle) : t.page = c.number := by
  cases t with
  | act page action =>
    simp only [Task.reads] at reads
    split at reads
    · cases action <;> cases reads
      · exact stands.symm
      · exact stands.symm
      · exact stands.1.symm
      · exact stands.symm
      · exact stands.symm
      · exact stands.symm
    · cases reads
  | _ => cases reads

theorem receives_crash (ht : c.tasks[i]? = some t)
    (hb : b.stage = { c with tasks := c.tasks.eraseIdx i }) {handle : Handle}
    (reads : t.reads reply = some handle)
    (lost : c.Stands handle → t.fits (b.screenAt t.page).kind = false) :
    c.Receives i reply b.crash.stage := by
  rw [show b.crash.stage = { b.stage with crashed := true } from rfl, hb]
  refine .crashed ht reads fun stands => ?_
  have page := page_of_stands reads stands
  exact ⟨page, fits_screenAt hb page ▸ lost stands⟩

theorem receives_succeed {page : Nat} {action : Action} (ht : c.tasks[i]? = some (.act page action))
    (hb : b.stage = { c with tasks := c.tasks.eraseIdx i })
    (accepted : action.call.outcome reply = .ok ()) :
    c.Receives i reply (b.succeed page action).stage := by
  have reads : (Task.act page action).reads reply = action.reads page := by
    simp only [Task.reads, accepted]
  have succeeded : ∀ {π : Type} {screen : π → Screen} {step : π × List Task} {s : Screen},
      b.screenAt page = s → s ≠ .blank → s.Succeeds page action (screen step.1, step.2) →
        c.Receives i reply (b.put screen step).stage := fun mounted blank h =>
    receives_answered ht hb mounted blank (.succeeded accepted h) (stage_put _ _ _)
  -- the page is gone, or is none that has such tasks
  have crashed : ∀ {handle : Handle} {s : Screen}, action.reads page = some handle →
      b.screenAt page = s → (Task.act page action).fits s.kind = false →
        c.Receives i reply b.crash.stage := fun h mounted lost =>
    receives_crash ht hb (reads.trans h) fun _ => mounted ▸ lost
  have stray : ∀ {s : Screen} {more : List Task} {d : App}, action.reads page = none →
      b.screenAt page = s → (Task.act page action).fits s.kind = false →
        (more = [] ∨ ∃ panel user, more = UsersPage.panelTasks page panel user) →
          d.stage = { b.stage with tasks := b.stage.tasks ++ more } →
            c.Receives i reply d.stage := fun h mounted lost panel hd =>
    receives_stray ht hb (mounted ▸ lost) (reads.trans h) panel hd
  cases action with
  | createUser | deleteUser =>
    cases mounted : b.screenAt page with
    | users p =>
      simp only [succeed, mounted]
      exact succeeded mounted nofun (by constructor)
    | _ => simpa only [succeed, mounted] using crashed rfl mounted rfl
  | updateUser form user payload =>
    cases mounted : b.screenAt page with
    | users p =>
      simp only [succeed, mounted]
      split
      · next has => exact succeeded mounted nofun (.updated p form user payload has)
      · next gone =>
        refine receives_crash ht hb reads fun ⟨number, q, hq, has⟩ => absurd ?_ gone
        obtain ⟨-, hs⟩ := screenAt_eq mounted nofun
        rw [show b.screen = c.screen from congrArg Stage.screen hb, hq] at hs
        cases hs
        exact has
    | _ => simpa only [succeed, mounted] using crashed rfl mounted rfl
  | assignRole panel user role | removeRole panel user role =>
    cases mounted : b.screenAt page with
    | users p =>
      simp only [succeed, mounted]
      exact succeeded mounted nofun (by constructor)
    | _ =>
      simp only [succeed, mounted]
      exact stray rfl mounted rfl (.inr ⟨panel, user, rfl⟩) (stage_queue b _)
  | saveRecord | deleteRow =>
    cases mounted : b.screenAt page with
    | editor p =>
      simp only [succeed, mounted]
      exact succeeded mounted nofun (by constructor)
    | _ => simpa only [succeed, mounted] using crashed rfl mounted rfl
  | addMyCar spec =>
    cases mounted : b.screenAt page with
    | browser p =>
      simp only [succeed, mounted]
      exact receives_answered ht hb mounted nofun (.succeeded accepted (.added p spec))
        (stage_screen b b.account _)
    | _ =>
      simp only [succeed, mounted]
      exact stray rfl mounted rfl (.inl rfl) (stage_screen b b.account b.screen)
  | removeMyCar spec remaining =>
    cases mounted : b.screenAt page with
    | myCars p =>
      simpa only [succeed, mounted] using succeeded mounted nofun (.carRemoved p spec remaining)
    | _ => simpa only [succeed, mounted] using crashed rfl mounted rfl

theorem complain_spec (b : App) (page : Nat) (action : Action) (message : String) :
    ∃ s, b.complain page action message = { b with screen := s } ∧
      b.Complains page action message s := by
  have complained : ∀ {s s' : Screen}, b.screenAt page = s → s ≠ .blank →
      s.Complains message action s' →
        ∃ r, ({ b with screen := s' } : App) = { b with screen := r } ∧
          b.Complains page action message r := by
    intro s s' mounted blank h
    obtain ⟨number, hs⟩ := screenAt_eq mounted blank
    exact ⟨s', rfl, .said number (hs ▸ h)⟩
  have ignored : ∀ {s : Screen}, b.screenAt page = s → (Task.act page action).fits s.kind = false →
      ∃ r, b = { b with screen := r } ∧ b.Complains page action message r := by
    intro s mounted lost
    refine ⟨b.screen, rfl, .unsaid fun number => ?_⟩
    rwa [← mounted, screenAt, if_pos number.symm] at lost
  cases action with
  | createUser | deleteUser | updateUser | assignRole | removeRole =>
    cases mounted : b.screenAt page with
    | users p =>
      simp only [complain, mounted]
      exact complained mounted (by simp) (by constructor)
    | _ => simpa only [complain, mounted] using ignored mounted rfl
  | saveRecord | deleteRow =>
    cases mounted : b.screenAt page with
    | editor p =>
      simp only [complain, mounted]
      exact complained mounted (by simp) (by constructor)
    | _ => simpa only [complain, mounted] using ignored mounted rfl
  | addMyCar spec =>
    cases mounted : b.screenAt page with
    | browser p => simpa only [complain, mounted] using complained mounted (by simp) (.addMyCar p spec)
    | _ => simpa only [complain, mounted] using ignored mounted rfl
  | removeMyCar spec remaining =>
    cases mounted : b.screenAt page with
    | myCars p =>
      simpa only [complain, mounted] using complained mounted (by simp) (.removeMyCar p spec remaining)
    | _ => simpa only [complain, mounted] using ignored mounted rfl

theorem receives_complain {page : Nat} {action : Action} (ht : c.tasks[i]? = some (.act page action))
    (hb : b.stage = { c with tasks := c.tasks.eraseIdx i }) {f : Api.Failure}
    (refused : action.call.outcome reply = .error f) :
    c.Receives i reply (b.complain page action f.said).stage := by
  have number : b.number = c.number := congrArg Stage.number hb
  have screen : b.screen = c.screen := congrArg Stage.screen hb
  have reads : (Task.act page action).reads reply = none := by simp only [Task.reads, refused]
  obtain ⟨s, hs, complains⟩ := complain_spec b page action f.said
  rw [hs, stage_screen b b.account s, hb]
  cases complains with
  | said same h =>
    obtain rfl : page = c.number := same.trans number
    exact .answered ht rfl (.refused f refused (screen ▸ h))
  | unsaid gone =>
    rw [number, screen] at gone
    rw [screen]
    exact .stray ht gone reads (.inl rfl)

/-- Once a task is no longer waited for, its answer is received. -/
theorem receives_task (ht : c.tasks[i]? = some t)
    (hb : b.stage = { c with tasks := c.tasks.eraseIdx i }) :
    c.Receives i reply (b.receive t reply).stage := by
  have answered : ∀ {s s' : Screen} {account : Account}, b.screenAt t.page = s → s ≠ .blank →
      s.Answers t.page reply t (s', []) →
        c.Receives i reply ({ b with account, screen := s' } : App).stage :=
    fun mounted blank h => receives_answered ht hb mounted blank h (stage_screen b _ _)
  have ignored : ∀ {s : Screen} {account : Account}, t.reads reply = none →
      b.screenAt t.page = s → t.fits s.kind = false →
        c.Receives i reply ({ b with account } : App).stage := fun reads mounted lost =>
    receives_stray ht hb (mounted ▸ lost) reads (.inl rfl) (stage_screen b _ b.screen)
  cases t with
  | signIn page credentials =>
    simp only [receive]
    generalize b.account.signIn ((Api.signIn credentials).outcome reply) = signedIn
    cases mounted : b.screenAt page with
    | login f =>
      rw [show ({ b with account := signedIn.2 } : App).screenAt page = .login f from mounted]
      exact answered mounted nofun (.signIn f credentials signedIn.1)
    | _ =>
      rw [show ({ b with account := signedIn.2 } : App).screenAt page = _ from mounted]
      exact ignored rfl mounted rfl
  | users page query =>
    cases mounted : b.screenAt page with
    | users p =>
      simp only [receive, mounted, receivePage, Account.receivePage_eq]
      exact answered mounted nofun (.users p query _ rfl)
    | _ =>
      simp only [receive, mounted]
      exact ignored rfl mounted rfl
  | overview page | heldRoles page | allRoles page =>
    cases mounted : b.screenAt page with
    | users p =>
      simp only [receive, mounted, receiveValue, Account.receiveValue_eq]
      exact answered mounted nofun (by constructor)
    | _ =>
      simp only [receive, mounted]
      exact ignored rfl mounted rfl
  | rows page level query =>
    cases mounted : b.screenAt page with
    | editor p =>
      simp only [receive, mounted, receivePage, Account.receivePage_eq]
      exact answered mounted nofun (.editorRows p level query _ rfl)
    | browser p =>
      simp only [receive, mounted, receivePage, Account.receivePage_eq]
      exact answered mounted nofun (.browserRows p level query _ rfl)
    | _ =>
      simp only [receive, mounted]
      exact ignored rfl mounted rfl
  | cars page query =>
    cases mounted : b.screenAt page with
    | myCars p =>
      simp only [receive, mounted, receivePage, Account.receivePage_eq]
      exact answered mounted nofun (.cars p query _ rfl)
    | _ =>
      simp only [receive, mounted]
      exact ignored rfl mounted rfl
  | spec page form id =>
    cases mounted : b.screenAt page with
    | editor p =>
      simp only [receive, mounted, receiveValue, Account.receiveValue_eq]
      exact answered mounted nofun (.spec p form id)
    | _ =>
      simp only [receive, mounted]
      exact ignored rfl mounted rfl
  | act page action =>
    simp only [receive, Account.receiveDone_eq]
    generalize (b.account.receiveDone (action.call.outcome reply)).1 = account
    have hb' : ({ b with account } : App).stage = { c with tasks := c.tasks.eraseIdx i } := hb
    cases outcome : action.call.outcome reply with
    | ok value => exact receives_succeed ht hb' outcome
    | error f => exact receives_complain ht hb' outcome

end

theorem receives_answer {a : App} {i : Nat} {t : Task} (ht : a.waiting[i]? = some t)
    (reply : Api.Reply) : a.stage.Receives i reply (a.step (.answer i reply)).stage := by
  rw [step, ht]
  refine receives_task (tasks_getElem? ht) ?_
  rw [show a.stage.tasks.eraseIdx i = a.tasks.eraseIdx i from rfl, ← tasks_eraseIdx ht]
  rfl

/-- There is no such task. -/
theorem step_answer_of_none {a : App} {i : Nat} (ht : a.waiting[i]? = none) (reply : Api.Reply) :
    a.step (.answer i reply) = a := by
  rw [step, ht]

/-! ## Top theorem -/

/-- **One event** turns the stage in one of the ways there are. -/
theorem turn_step (a : App) (e : Event) : a.stage.Turn e (a.step e).stage := by
  cases e with
  | bootstrap => exact .idle _
  | press msg => exact turn_press a msg
  | visit path => exact turn_visit a _ _
  | send =>
    rw [stage_send]
    exact .idle _
  | answer i reply =>
    cases ht : a.waiting[i]? with
    | none =>
      rw [step_answer_of_none ht]
      exact .idle _
    | some t => exact .received (receives_answer ht reply)
  | refresh => exact turn_refresh a
  | world storage now => exact .idle _

/-- What no turn takes away holds along every run. -/
theorem stage_run {P : Stage → Prop} (turn : ∀ {c e c'}, P c → Stage.Turn c e c' → P c') {a : App}
    (h : P a.stage) (events : List Event) : P (a.run events).stage := by
  induction events generalizing a with
  | nil => exact h
  | cons e es ih => exact ih (turn h (turn_step a e))

end App

end CarCatalog
