import CarCatalog.Proofs.App.Awaited
import CarCatalog.Proofs.App.Shown

/-!
# What a failed load leaves

A list, the overview or the roles of a user that failed to load show why, with a button that asks for them
once more (`App.Reports`).  Of the two lists that a panel loads it is only the user's roles that do so; and
of a spec that failed to load its form keeps no more than the message.

    a.stage.load? k = some ⟨.failed message, u⟩ → ∃ retry, a.Reports k message retry u
                                                                                 (reports_of_failed)
    (a.step (.answer i reply)).view = (a.step (.answer i empty)).view       (view_of_fails_allRoles)
    (a.step (.answer i reply)).rebuild.screen =
      .editor { p with form := { p.form with notice := f.message, arrived := none } }
                                                                           (rebuild_of_fails_spec)
-/

namespace CarCatalog

/-- The failure of a place is shown, together with a button that asks for it once more. -/
structure App.Reports (a : App) (k : Target) (message : String) (retry : Msg) (u : Task) : Prop where
  failed : a.stage.load? k = some ⟨.failed message, u⟩
  shown : ∀ s : Session, View.errorNotice message retry ∈ Node.nodes (App.content s a.screen)
  viewed : ∀ part : Section, a.screen.kind = part.screen →
    (a.account.session.sectionGate part).isAllowed = true →
      View.errorNotice message retry ∈ Node.nodes a.view
  loading : (a.press retry).stage.load? k = some ⟨.loading, u⟩
  asked : ∃ more, (a.press retry).queue = a.queue ++ u :: more

/-! ## What is shown -/

theorem View.errorNotice_map {α β : Type} (f : α → β) (message : String) (retry : α) :
    (errorNotice message retry).map f = errorNotice message (f retry) := rfl

/-- A failure that is among the children of a page is in the content. -/
theorem Node.errorNotice_of_children {α β : Type} {f : α → β} {tag className : String}
    {children : List (Node α)} {message : String} {retry : α}
    (inside : View.errorNotice message retry ∈ nodes children) :
    View.errorNotice message (f retry) ∈ nodes [(Node.el tag className children).map f] := by
  rw [show [(Node.el tag className children).map f] = mapAll f [.el tag className children] from rfl,
    nodes_mapAll, ← View.errorNotice_map]
  exact List.mem_map_of_mem (mem_nodes_inside (.head _) inside)

theorem Account.receiveValue_of_error {α : Type} (a : Account) {f : Api.Failure}
    (other : f.isUnauthorized = false) :
    a.receiveValue (.error f : Except Api.Failure α) = (a, .failed f.message) := by
  simp [receiveValue, refuse, other]

theorem UsersPage.built_of_pane (p : UsersPage) {k : Nat} {x : Loadable Unit × Int64}
    (h : p.pane? k = some x) : ∃ r, k = p.panel.number ∧ p.panel.built = some r ∧ r.pane = x := by
  obtain ⟨r, hr, pane⟩ := Option.map_eq_some_iff.mp h
  rw [Part.at?_eq] at hr
  split at hr
  · next number => exact ⟨r, number, hr, pane⟩
  · cases hr

namespace App

variable {a : App}

theorem route_of_kind (placed : a.Placed) {part : Section} (kind : a.screen.kind = part.screen) :
    Route.ofPath a.path = .part part := by
  rcases placed with blank | page
  · rw [kind] at blank
    cases part <;> cases blank
  · rw [kind] at page
    cases route : Route.ofPath a.path with
    | part p =>
      rw [route] at page
      exact congrArg Route.part (screen_inj.mp page.symm)
    | _ => rw [route] at page; cases part <;> cases page

theorem mem_view_of_content (placed : a.Placed) {part : Section} (kind : a.screen.kind = part.screen)
    (allowed : (a.account.session.sectionGate part).isAllowed = true) {n : Node Msg}
    (inside : n ∈ Node.nodes (content a.account.session a.screen)) : n ∈ Node.nodes a.view := by
  rw [view_of_allowed (route_of_kind placed kind) allowed]
  -- the content stands in the body of the frame, beside the menu
  exact Node.mem_nodes_inside (.head _) (Node.mem_nodes_inside (.tail _ (.head _))
    (Node.mem_nodes_inside (.tail _ (.head _)) inside))

/-- A page that has the failure among its children, and asks again when the button there is pressed. -/
theorem reports_of_children {β : Type} (f : β → Msg) (retry : β) {tag className : String}
    {children : Session → List (Node β)} {k : Target} {message : String} {u : Task} {s : Screen}
    {more : List Task} (placed : a.Placed) (failed : a.stage.load? k = some ⟨.failed message, u⟩)
    (page : ∀ s, content s a.screen = [(Node.el tag className (children s)).map f])
    (inside : ∀ s, View.errorNotice message retry ∈ Node.nodes (children s))
    (press : a.press (f retry) = a.put id (s, u :: more))
    (now : s.load? a.number k = some ⟨.loading, u⟩) : a.Reports k message (f retry) u := by
  have shown : ∀ s, View.errorNotice message (f retry) ∈ Node.nodes (content s a.screen) := by
    intro s
    rw [page]
    exact Node.errorNotice_of_children (inside s)
  refine ⟨failed, shown, fun _ kind allowed => mem_view_of_content placed kind allowed (shown _), ?_,
    more, ?_⟩
  · rw [press]
    exact now
  · rw [press]
    rfl

theorem reports_of_failed (placed : a.Placed) {k : Target} {message : String} {u : Task}
    (failed : a.stage.load? k = some ⟨.failed message, u⟩) : ∃ retry, a.Reports k message retry u := by
  have load : a.screen.load? a.number k = some ⟨.failed message, u⟩ := failed
  cases hs : a.screen with
  | users p =>
    rw [hs] at load
    have page : ∀ s, content s a.screen = [(p.view (s.identity.map Identity.id)).map .users] :=
      fun s => by rw [hs]; rfl
    cases k with
    | list =>
      obtain ⟨status, rfl⟩ := Load.mk.inj (Option.some.inj load)
      have users : p.users = .failed message := Loadable.failed_of_map status
      refine ⟨_, reports_of_children Msg.users .retry placed failed page
        (fun s => Node.mem_nodes_of_mem ?_) (by simp only [press, hs]; rfl) rfl⟩
      simp [users, View.loaded]
    | overview =>
      obtain ⟨status, rfl⟩ := Load.mk.inj (Option.some.inj load)
      have overview : p.overview = .failed message := Loadable.failed_of_map status
      refine ⟨_, reports_of_children Msg.users .retryOverview placed failed page (fun s => ?_)
        (by simp only [press, hs]; rfl) rfl⟩
      refine Node.mem_nodes_of_part (x := p.rolesOverview) (by simp) (Node.mem_nodes_inside (.head _) ?_)
      exact Node.mem_nodes_of_mem (by simp [overview, View.loaded])
    | held k =>
      obtain ⟨⟨status, user⟩, pane, same⟩ := Option.map_eq_some_iff.mp load
      obtain ⟨rfl, rfl⟩ := Load.mk.inj same
      obtain ⟨r, rfl, hr, pane⟩ := p.built_of_pane pane
      obtain ⟨status, rfl⟩ := Prod.mk.inj pane
      have held : r.held = .failed message := Loadable.failed_of_map status
      have again : (p.updatePanel a.number r .retry).1.pane? p.panel.number =
          some (.loading, r.user.id) :=
        UsersPage.pane?_eq _ (r := r.reload) (congrArg (Option.map RolesPanel.reload) hr)
      refine ⟨_, reports_of_children Msg.users (.panel .retry) placed failed page (fun s => ?_)
        (by simp only [press, hs, UsersPage.update, hr]; rfl) ?_⟩
      · refine Node.mem_nodes_of_part (x := r.view.map .panel) (by simp [hr]) ?_
        exact Node.errorNotice_of_children (Node.mem_nodes_of_mem (by simp [held, View.loaded]))
      · exact congrArg (Option.map _) again
  | editor p =>
    rw [hs] at load
    cases k with
    | list =>
      obtain ⟨status, rfl⟩ := Load.mk.inj (Option.some.inj load)
      have rows : p.rows = .failed message := Loadable.failed_of_map status
      refine ⟨_, reports_of_children Msg.editor .retry placed failed (fun s => by rw [hs]; rfl)
        (fun s => Node.mem_nodes_of_mem ?_) (by simp only [press, hs]; rfl) rfl⟩
      simp [rows, View.loaded]
    | _ => cases load
  | browser p =>
    rw [hs] at load
    cases k with
    | list =>
      obtain ⟨status, rfl⟩ := Load.mk.inj (Option.some.inj load)
      have rows : p.rows = .failed message := Loadable.failed_of_map status
      refine ⟨_, reports_of_children Msg.browser .retry placed failed (fun s => by rw [hs]; rfl)
        (fun s => Node.mem_nodes_of_mem ?_) (by simp only [press, hs]; rfl) rfl⟩
      simp [rows, View.loaded]
    | _ => cases load
  | myCars p =>
    rw [hs] at load
    cases k with
    | list =>
      obtain ⟨status, rfl⟩ := Load.mk.inj (Option.some.inj load)
      have cars : p.cars = .failed message := Loadable.failed_of_map status
      refine ⟨_, reports_of_children Msg.myCars .retry placed failed (fun s => by rw [hs]; rfl)
        (fun s => Node.mem_nodes_of_mem ?_) (by simp only [press, hs]; rfl) rfl⟩
      simp [cars, View.loaded]
    | _ => cases load
  | _ => rw [hs] at load; cases load

/-! ## What a failure leaves -/

variable {i : Nat} {t : Task} {k : Target} {reply : Api.Reply} {f : Api.Failure}

/-- A load of a place that fails leaves its message there, and the same task to ask for it once more. -/
theorem load_of_fails (owned : a.stage.Owned) (waits : a.waiting[i]? = some t)
    (loads : t.loads a.number k = true) (fails : t.Fails reply f) :
    (a.step (.answer i reply)).stage.load? k =
      (a.stage.load? k).map fun l => ⟨.failed f.said, l.task⟩ := by
  have ht : a.stage.tasks[i]? = some t := tasks_getElem? waits
  obtain ⟨page, target⟩ : t.page = a.number ∧ t.target? = some k := by simpa [Task.loads] using loads
  have receives := receives_answer waits reply
  generalize (a.step (.answer i reply)).stage = c' at receives
  cases receives with
  | answered ht' _ h =>
    cases ht.symm.trans ht'
    exact (Screen.takes_of_answers h target).1.failed f fails
  | stray ht' stray =>
    cases ht.symm.trans ht'
    exact absurd page (Stage.page_ne_of_stray owned ht stray)
  | crashed ht' reads =>
    cases ht.symm.trans ht'
    cases t with
    | act => cases target
    | _ => cases reads

theorem loads_of_load {n : Nat} {s : Screen} {l : Load} (h : s.load? n k = some l) :
    l.task.loads n k = true := by
  cases s with
  | users p =>
    cases k with
    | held k =>
      obtain ⟨x, -, rfl⟩ := Option.map_eq_some_iff.mp h
      simp [Task.loads, Task.page, Task.target?]
    | _ =>
      cases Option.some.inj h
      simp [Load.of, Task.loads, Task.page, Task.target?]
  | editor | browser | myCars =>
    cases k with
    | list =>
      cases Option.some.inj h
      simp [Load.of, Task.loads, Task.page, Task.target?]
    | _ => cases h
  | _ => cases h

/-- Only a list is ever asked for in several ways. -/
theorem task_of_load (paneled : a.stage.Paneled) (ht : t ∈ a.stage.tasks)
    (loads : t.loads a.number k = true) (other : k ≠ .list) {l : Load}
    (h : a.stage.load? k = some l) : l.task = t := by
  have load : a.screen.load? a.number k = some l := h
  obtain ⟨page, target⟩ : t.page = a.number ∧ t.target? = some k := by simpa [Task.loads] using loads
  have paneled := paneled t ht page
  cases hs : a.screen with
  | users p =>
    rw [hs] at load
    cases k with
    | list => exact absurd rfl other
    | overview =>
      cases Option.some.inj load
      cases t with
      | overview number => exact congrArg Task.overview page.symm
      | _ => cases target
    | held k =>
      obtain ⟨x, pane, rfl⟩ := Option.map_eq_some_iff.mp load
      cases t with
      | heldRoles number panel user =>
        cases target
        have same : x.2 = user := by
          refine (paneled k user rfl).2 x.2 ?_
          rw [show a.stage.screen = .users p from hs, Screen.panelUser?, pane]
          rfl
        rw [same, ← page]
        rfl
      | _ => cases target
  | editor | browser | myCars =>
    rw [hs] at load
    cases k with
    | list => exact absurd rfl other
    | _ => cases load
  | _ => rw [hs] at load; cases load

/-! ### The other loads of a panel and of a form -/

/-- A panel that could not load all roles is shown as one that found there are none. -/
theorem content_of_failed_all (s : Session) (p : UsersPage) (panel : Nat) (message : String) :
    content s (.users { p with
      panel := p.panel.modifyAt panel fun r => { r with all := .failed message } }) =
    content s (.users { p with
      panel := p.panel.modifyAt panel fun r => { r with all := .ready [] } }) := by
  unfold Part.modifyAt
  split
  · simp only [content, UsersPage.view, Part.modify, UsersPage.createForm, UsersPage.rolesOverview]
    cases p.panel.built <;> rfl
  · rfl

theorem view_congr {b c : App} (session : b.account.session = c.account.session)
    (path : b.path = c.path) (same : ∀ s, content s b.screen = content s c.screen) :
    b.view = c.view := by
  simp only [view, loginPage, sectionPage, session, path, same]

/-- What is shown after all roles failed to load is what would be shown if there were none. -/
theorem view_of_fails_allRoles {page panel : Nat} {empty : Api.Reply}
    (waits : a.waiting[i]? = some (.allRoles page panel))
    (fails : Api.listRoles.outcome reply = .error f) (other : f.isUnauthorized = false)
    (none : Api.listRoles.outcome empty = .ok []) :
    (a.step (.answer i reply)).view = (a.step (.answer i empty)).view := by
  have failed := a.account.receiveValue_of_error (α := List RoleRecord) other
  simp only [step, waits, receive, fails, none]
  cases mounted : ({ a with waiting := a.waiting.eraseIdx i } : App).screenAt page with
  | users p =>
    simp only [receiveValue, failed]
    exact view_congr rfl rfl fun s => content_of_failed_all s p panel f.message
  | _ =>
    simp only [receiveNothing, failed]
    rfl

/-! ### A form -/

/-- A spec that failed to load is a notice of its form once the form has taken it over. -/
theorem rebuild_of_fails_spec {p : EditorPage} {form : Nat} {id : Int64}
    (waits : a.waiting[i]? = some (.spec a.number form id)) (hs : a.screen = .editor p)
    (stands : p.formNumber = form) (fresh : p.formStale = false)
    (fails : (Api.getSpec id).outcome reply = .error f) (other : f.isUnauthorized = false) :
    (a.step (.answer i reply)).rebuild.screen =
      .editor { p with form := { p.form with notice := f.message, arrived := none } } := by
  have failed := a.account.receiveValue_of_error (α := CarSpec) other
  have step : (a.step (.answer i reply)).screen =
      .editor { p with form := { p.form with arrived := some (.error f.message) } } := by
    simp [App.step, waits, receive, screenAt, hs, fails, receiveValue, failed, specPlace,
      EditorPage.modifyForm, stands]
  rw [rebuild, step]
  simp [put, EditorPage.rebuild, fresh, RecordForm.settle]

theorem not_spec_of_presses {n : Nat} {s : Screen} {msg : Msg} {step : Screen × List Task}
    (h : s.Presses n msg step) (page form : Nat) (id : Int64) : .spec page form id ∉ step.2 := by
  intro ht
  have fits := ((Screen.becomes_of_presses h).asked _ ht).fits
  cases h with
  | editor p m =>
    have turned : ∀ moved : Bool × Pager, .spec page form id ∉ (p.turn n moved).2 := by
      intro moved
      unfold EditorPage.turn
      split <;> simp [EditorPage.reload]
    cases m with
    | previous | next => exact turned _ ht
    | form m => cases m <;> simp [EditorPage.update, EditorPage.updateForm] at ht
    | _ => simp [EditorPage.update, EditorPage.moveTo, EditorPage.reload] at ht
  | _ => cases fits

/-- No button asks for a spec once more. -/
theorem spec_of_press {msg : Msg} {page form : Nat} {id : Int64}
    (asked : .spec page form id ∈ (a.press msg).queue) : .spec page form id ∈ a.queue := by
  have put : ∀ {π : Type} {screen : π → Screen} {step : π × List Task},
      .spec page form id ∈ (a.put screen step).queue →
        a.screen.Presses a.number msg (screen step.1, step.2) → .spec page form id ∈ a.queue :=
    fun asked h => (List.mem_append.mp asked).resolve_right (not_spec_of_presses h page form id)
  unfold press at asked
  split at asked
  · exact asked
  · next m f hs => exact put asked (hs ▸ .login f m)
  · next m p hs => exact put asked (hs ▸ .users p m)
  · next m p hs => exact put asked (hs ▸ .editor p m)
  · next m p hs => exact put asked (hs ▸ .browser p m)
  · next m p hs => exact put asked (hs ▸ .myCars p m)
  · exact asked

/-! ## Top theorem -/

/-- **What a failed load leaves**, on every run, when it fails with anything but the status 401.

A list, the overview and the roles of a panel's user show the message, for as long as their place is left
alone, with a button that asks for the place once more.  That is the failed request again, except that a
list may have moved on meanwhile: it is for sure when the failed load is the one the place waits for.

All roles of a panel that failed to load are shown as a list of none that was loaded.  A spec that failed to
load becomes a notice of its form, and no button asks for it once more. -/
theorem reports_of_failed_load (policy : MalformedPolicy) (storage : Storage) (now : Binary64)
    (path : String) (events : List Event) (i : Nat) (t : Task) (reply : Api.Reply) (f : Api.Failure) :
    let a := (start (.fresh policy storage now) path).run events
    let b := a.step (.answer i reply)
    a.waiting[i]? = some t → t.Fails reply f → f.isUnauthorized = false →
      (∀ k after, t.loads a.number k = true → (a.stage.load? k).isSome = true → Rests k b after →
        ∃ retry u, (b.run after).Reports k f.message retry u ∧ u.loads a.number k = true ∧
          (k ≠ .list ∨ (a.stage.load? k).map Load.status = some .loading ∧
            (a.stage.loads k).getLast? = some t → u = t)) ∧
      (∀ page panel empty, t = .allRoles page panel → Api.listRoles.outcome empty = .ok [] →
        b.view = (a.step (.answer i empty)).view) ∧
      ∀ form id p, t = .spec a.number form id → a.screen = .editor p → p.formNumber = form →
        p.formStale = false →
          b.rebuild.screen =
            .editor { p with form := { p.form with notice := f.message, arrived := none } } ∧
          ∀ msg page form' id', .spec page form' id' ∈ (b.rebuild.press msg).queue →
            .spec page form' id' ∈ b.rebuild.queue := by
  intro a b waits fails other
  refine ⟨fun k after loads there rests => ?_, fun page panel empty ht none => ?_,
    fun form id p ht hs stands fresh => ?_⟩
  · obtain ⟨owned, paneled, awaits⟩ : a.stage.Owned ∧ a.stage.Paneled ∧ ∀ j, a.stage.Awaits j :=
      Stage.awaits_run policy storage now path events
    have turn : a.stage.Turn (.answer i reply) b.stage := turn_step a _
    obtain ⟨l, hl⟩ := Option.isSome_iff_exists.mp there
    have said : f.said = f.message := by simp [Api.Failure.said, other]
    have after_load : (b.run after).stage.load? k = some ⟨.failed f.message, l.task⟩ := by
      rw [load_of_rests (Stage.owned_turn owned turn) (Stage.paneled_turn owned paneled turn) rests,
        show b.stage.load? k = _ from load_of_fails owned waits loads fails, hl, said]
      rfl
    have placed : (b.run after).Placed :=
      placed_run (placed_step (placed_run (placed_start _ path) events) _) after
    obtain ⟨retry, reports⟩ := reports_of_failed placed after_load
    refine ⟨retry, l.task, reports, loads_of_load hl, fun same => ?_⟩
    rcases same with notList | ⟨loading, last⟩
    · exact task_of_load paneled (List.mem_of_getElem? (tasks_getElem? waits)) loads notList hl
    · rw [hl] at loading
      have waiting : a.stage.load? k = some ⟨.loading, l.task⟩ := by
        rw [hl, ← Option.some.inj loading]
      exact Option.some.inj ((awaits k _ waiting).symm.trans last)
  · subst ht
    exact view_of_fails_allRoles waits fails other none
  · subst ht
    exact ⟨rebuild_of_fails_spec waits hs stands fresh fails other,
      fun msg page form' id' => spec_of_press⟩

/-- The list of brands is loading. -/
def awaitingBrands : List Event := [.bootstrap, .refresh, .send]

/-- A name is typed in. -/
def typingName : List Event := [.press (.editor (.form (.typed .name "VW"))), .refresh]

/-- The failure stays while something is typed, and the brands can be asked for again. -/
theorem reports_of_failed_load_brands :
    let a := editorVisit.run awaitingBrands
    let brands := Task.rows 1 .brands EditorPage.firstPage.query
    let b := a.step (.answer 0 (.arrived 500 []))
    a.waiting[0]? = some brands ∧ brands.Fails (.arrived 500 []) (.status 500) ∧
      (Api.Failure.status 500).isUnauthorized = false ∧ Rests .list b typingName ∧
      ∃ retry, (b.run typingName).Reports .list "server responded with status 500" retry brands := by
  intro a brands b
  have fails : brands.Fails (.arrived 500 []) (.status 500) := rfl
  have other : (Api.Failure.status 500).isUnauthorized = false := by decide
  obtain ⟨waits, loads, loading, last, rests⟩ : a.waiting[0]? = some brands ∧
      brands.loads a.number .list = true ∧ a.stage.load? .list = some ⟨.loading, brands⟩ ∧
        (a.stage.loads .list).getLast? = some brands ∧ Rests .list b typingName := by
    decide +kernel
  have there : (a.stage.load? .list).isSome = true := by rw [loading]; rfl
  obtain ⟨retry, u, reports, -, same⟩ :
      ∃ retry u, (b.run typingName).Reports .list (Api.Failure.status 500).message retry u ∧
        u.loads a.number .list = true ∧
          (Target.list ≠ .list ∨ (a.stage.load? .list).map Load.status = some .loading ∧
            (a.stage.loads .list).getLast? = some brands → u = brands) :=
    (reports_of_failed_load .retain ⟨.works, [(tokenKey, adminCredential)]⟩ (.ofNat 0) "/car-spec"
      awaitingBrands 0 brands _ _ waits fails other).1 .list typingName loads there rests
  have message : (Api.Failure.status 500).message = "server responded with status 500" := by
    decide +kernel
  clear_value b a
  have asked : u = brands := same (.inr ⟨congrArg (Option.map Load.status) loading, last⟩)
  rw [asked, message] at reports
  exact ⟨waits, fails, other, rests, retry, reports⟩

/-- The browser of an administrator who looks at the users. -/
def usersVisit : App :=
  App.start (.fresh .retain ⟨.works, [(tokenKey, adminCredential)]⟩ (.ofNat 0)) "/admin"

def anna : User := ⟨3, "anna", true⟩

def usersReply : Api.Reply :=
  .arrived 200 (Wire.toJson (⟨[anna], onlyPage⟩ : Page User)).toBytes

def noRoles : Api.Reply := .arrived 200 (Wire.toJson ([] : List RoleRecord)).toBytes

/-- The users and the overview are shown; the panel of a user is opened, and its roles are loaded. -/
def openingPanel : List Event :=
  [.bootstrap, .refresh, .send, .send, .answer 0 usersReply, .answer 0 noRoles,
    .press (.users (.roles anna)), .refresh, .send, .send, .answer 0 noRoles]

/-- **A failure that is not shown.**  All roles fail to load while the panel is open: nothing says so, and
none of the buttons that are offered asks for them again. -/
theorem failed_roles_hidden :
    let a := usersVisit.run openingPanel
    let b := (a.step (.answer 0 (.arrived 500 []))).refresh
    a.waiting = [.allRoles 1 1] ∧ (Task.allRoles 1 1).Fails (.arrived 500 []) (.status 500) ∧
      b.queue = [] ∧ b.waiting = [] ∧ .users (.panel .close) ∈ b.offers ∧
      (∀ e ∈ Node.elementsAll b.view, e.inner ≠ (Api.Failure.status 500).message) ∧
      ∀ msg ∈ b.offers, ∀ u ∈ (b.press msg).queue, u ≠ .allRoles 1 1 := by
  intro a b
  obtain ⟨waits, shown⟩ : a.waiting = [.allRoles 1 1] ∧ b.queue = [] ∧ b.waiting = [] ∧
      .users (.panel .close) ∈ b.offers ∧
      (∀ e ∈ Node.elementsAll b.view, e.inner ≠ (Api.Failure.status 500).message) ∧
      ∀ msg ∈ b.offers, ∀ u ∈ (b.press msg).queue, u ≠ .allRoles 1 1 := by
    decide +kernel
  exact ⟨waits, rfl, shown⟩

end App

end CarCatalog
