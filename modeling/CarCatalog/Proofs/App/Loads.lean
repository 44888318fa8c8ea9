import CarCatalog.Proofs.App.Paged
import CarCatalog.Proofs.Screen.Part

/-!
# The places of what is loaded

A page has places of its own for what it loads: its list, the overview of roles, the roles of the user of a
panel (`Target`).  In each stands the status of the load, and it is known which task would ask for it once
more.  What happens to a page leaves such a place alone, asks for it, or takes it away (`Screen.Tends`); an
answer to a load changes its own place only (`Screen.Takes`).

    s.Presses n msg step → s.Goes n step                                           (goes_of_presses)
    s.Answers n reply t step → t.target? = some k → s.Takes n k (t.Fails reply) step.1
                                                                                  (takes_of_answers)

A page opens panel after panel, and a task for one may be sent when it is no longer there; so it is part of
`Screen.Goes` that the panel of a number stays that of its user.
-/

namespace CarCatalog

/-- A place for what a page loads. -/
inductive Target
  | list
  | overview
  | held (panel : Nat)
  deriving DecidableEq, Repr

def Task.target? : Task → Option Target
  | .users _ _ | .rows _ _ _ | .cars _ _ => some .list
  | .overview _ => some .overview
  | .heldRoles _ panel _ => some (.held panel)
  | _ => none

/-- A load for a place on the page of a number. -/
def Task.loads (n : Nat) (k : Target) (t : Task) : Bool := t.page == n && t.target? == some k

/-- How a load stands, and the task that asks for it once more. -/
structure Load where
  status : Loadable Unit
  task : Task
  deriving DecidableEq, Repr

def Load.of {α : Type} (value : Loadable α) (task : Task) : Load := ⟨value.map fun _ => (), task⟩

/-- How the roles of a panel stand, and whose they are. -/
def RolesPanel.pane (r : RolesPanel) : Loadable Unit × Int64 := (r.held.map fun _ => (), r.user.id)

def UsersPage.pane? (p : UsersPage) (panel : Nat) : Option (Loadable Unit × Int64) :=
  (p.panel.at? panel).map RolesPanel.pane

/-- What is in a place of the page of a number, if it has that place. -/
def Screen.load? (n : Nat) : Screen → Target → Option Load
  | .users p, .list => some (.of p.users (.users n p.pager.query))
  | .users p, .overview => some (.of p.overview (.overview n))
  | .users p, .held k => (p.pane? k).map fun pane => ⟨pane.1, .heldRoles n k pane.2⟩
  | .editor p, .list => some (.of p.rows (.rows n p.trail.level p.pager.query))
  | .browser p, .list => some (.of p.rows (.rows n p.trail.level p.pager.query))
  | .myCars p, .list => some (.of p.cars (.cars n p.pager.query))
  | _, _ => none

/-- What the page of a number makes of a place, and what it asks for. -/
inductive Screen.Tends (n : Nat) (k : Target) (s : Screen) (step : Screen × List Task) : Prop
  | kept (same : step.1.load? n k = s.load? n k) (none : ∀ u ∈ step.2, u.loads n k = false)
  | asked {u : Task} (now : step.1.load? n k = some ⟨.loading, u⟩)
    (more : step.2.filter (Task.loads n k) = [u])
  | gone (now : step.1.load? n k = none)

/-! ### Panels -/

/-- The panel that a task is for, and the user it is about. -/
def Task.panel? : Task → Option (Nat × Int64)
  | .heldRoles _ panel user => some (panel, user)
  | .act _ (.assignRole panel user _) | .act _ (.removeRole panel user _) => some (panel, user)
  | _ => none

def Screen.panelNumber : Screen → Nat
  | .users p => p.panel.number
  | _ => 0

def Screen.panelUser? : Screen → Nat → Option Int64
  | .users p, k => (p.pane? k).map Prod.snd
  | _, _ => none

/-- A task for a panel is about the user whose panel it is. -/
def Task.Paneled (s : Screen) (t : Task) : Prop :=
  ∀ k x, t.panel? = some (k, x) → k ≤ s.panelNumber ∧ ∀ y, s.panelUser? k = some y → y = x

/-- The reply to a task is a failure. -/
def Task.Fails (t : Task) (reply : Api.Reply) (f : Api.Failure) : Prop :=
  match t with
  | .signIn _ credentials => (Api.signIn credentials).outcome reply = .error f
  | .users _ query => (Api.listUsers query).outcome reply = .error f
  | .overview _ | .allRoles _ _ => Api.listRoles.outcome reply = .error f
  | .rows _ level query => (Api.loadRows level query).outcome reply = .error f
  | .cars _ query => (Api.listMyCars query).outcome reply = .error f
  | .heldRoles _ _ user => (Api.listUserRoles user).outcome reply = .error f
  | .spec _ _ id => (Api.getSpec id).outcome reply = .error f
  | .act _ action => action.call.outcome reply = .error f

/-- What the answer to a load makes of its place. -/
structure Screen.Takes (n : Nat) (k : Target) (fails : Api.Failure → Prop) (s s' : Screen) : Prop where
  others : ∀ j ≠ k, s'.load? n j = s.load? n j
  number : s'.panelNumber = s.panelNumber
  user : ∀ j, s'.panelUser? j = s.panelUser? j
  ended : ∀ l, s'.load? n k = some l → l.status ≠ .loading
  failed : ∀ f, fails f → s'.load? n k = (s.load? n k).map fun l => ⟨.failed f.said, l.task⟩

/-- A page after something happened to it: the panel is that of the same user or built anew. -/
structure Screen.Goes (n : Nat) (s : Screen) (step : Screen × List Task) : Prop where
  tends : ∀ k, s.Tends n k step
  number : s.panelNumber ≤ step.1.panelNumber
  user : ∀ k ≤ s.panelNumber, ∀ y, step.1.panelUser? k = some y → s.panelUser? k = some y
  asked : ∀ t ∈ step.2, t.Paneled step.1

/-! ## Pages -/

theorem Task.paneled_of_none {t : Task} (none : t.panel? = none) (s : Screen) : t.Paneled s :=
  fun k x h => by rw [none] at h; cases h

namespace Screen

variable {n : Nat} {s s' : Screen} {more : List Task}

/-- What leaves all places alone. -/
theorem goes_of_same (load : ∀ k, s'.load? n k = s.load? n k) (number : s'.panelNumber = s.panelNumber)
    (user : ∀ k, s'.panelUser? k = s.panelUser? k) (none : ∀ t ∈ more, t.target? = none)
    (asked : ∀ t ∈ more, t.Paneled s') : s.Goes n (s', more) where
  tends k := .kept (load k) fun u hu => by simp [Task.loads, none u hu]
  number := Nat.le_of_eq number.symm
  user k _ y h := (user k).symm.trans h
  asked := asked

/-- What leaves all places alone, and starts at most some action that is of no panel. -/
theorem goes_quiet (load : ∀ k, s'.load? n k = s.load? n k) (number : s'.panelNumber = s.panelNumber)
    (user : ∀ k, s'.panelUser? k = s.panelUser? k)
    (quiet : ∀ t ∈ more, t.target? = none ∧ t.panel? = none) : s.Goes n (s', more) :=
  goes_of_same load number user (fun t ht => (quiet t ht).1)
    fun t ht => Task.paneled_of_none (quiet t ht).2 _

/-- What asks for one place and nothing else. -/
theorem goes_load {k : Target} {t : Task} (now : s'.load? n k = some ⟨.loading, t⟩) (page : t.page = n)
    (target : t.target? = some k) (none : t.panel? = none)
    (others : ∀ j, j ≠ k → s'.load? n j = s.load? n j) (number : s'.panelNumber = s.panelNumber)
    (user : ∀ j, s'.panelUser? j = s.panelUser? j) : s.Goes n (s', [t]) where
  tends j := by
    by_cases same : j = k
    · subst same
      exact .asked now (by simp [Task.loads, page, target])
    · exact .kept (others j same) (by simp [Task.loads, target, Ne.symm same])
  number := Nat.le_of_eq number.symm
  user k _ y h := (user k).symm.trans h
  asked := List.forall_mem_singleton.mpr (Task.paneled_of_none none _)

/-- Turning a page, on whatever page: a pager that did not move asks for nothing. -/
theorem goes_turned {π : Type} {screen : π → Screen} {moved : Bool} {went stayed : π × List Task}
    (load : s.Goes n (screen went.1, went.2))
    (still : moved = false → s.Goes n (screen stayed.1, stayed.2)) :
    s.Goes n (screen (if moved then went else stayed).1, (if moved then went else stayed).2) := by
  cases moved with
  | true => exact load
  | false => exact still rfl

end Screen

theorem RolesPanel.pane_assign (r : RolesPanel) : r.assign.1.pane = r.pane := by
  unfold assign
  split <;> rfl

namespace UsersPage

variable (n : Nat) {p p' : UsersPage} {more : List Task}

theorem pane?_modify {q : Part User RolesPanel} {f : RolesPanel → RolesPanel} (k : Nat)
    (same : ∀ r, q.built = some r → (f r).pane = r.pane) :
    ((q.modify f).at? k).map RolesPanel.pane = (q.at? k).map RolesPanel.pane := by
  rw [Part.at?_modify, Part.at?_eq]
  split
  · cases h : q.built with
    | none => rfl
    | some r => exact congrArg some (same r h)
  · rfl

/-- What changes nothing of the loads. -/
theorem goes_of_same (users : p'.users = p.users) (pager : p'.pager = p.pager)
    (overview : p'.overview = p.overview) (number : p'.panel.number = p.panel.number)
    (pane : ∀ k, p'.pane? k = p.pane? k) (none : ∀ t ∈ more, t.target? = none)
    (asked : ∀ t ∈ more, t.Paneled (.users p')) : (Screen.users p).Goes n (.users p', more) := by
  refine Screen.goes_of_same (fun k => ?_) number (fun k => congrArg (Option.map _) (pane k)) none asked
  cases k with
  | list => simp only [Screen.load?, users, pager]
  | overview => simp only [Screen.load?, overview]
  | held k => simp only [Screen.load?, pane]

/-- What changes nothing of the loads, and starts at most some action that is of no panel. -/
theorem goes_quiet (users : p'.users = p.users) (pager : p'.pager = p.pager)
    (overview : p'.overview = p.overview) (number : p'.panel.number = p.panel.number)
    (pane : ∀ k, p'.pane? k = p.pane? k)
    (quiet : ∀ t ∈ more, t.target? = none ∧ t.panel? = none) :
    (Screen.users p).Goes n (.users p', more) :=
  goes_of_same n users pager overview number pane (fun t ht => (quiet t ht).1)
    fun t ht => Task.paneled_of_none (quiet t ht).2 _

/-- What asks for the list anew. -/
theorem goes_reload (overview : p'.overview = p.overview) (number : p'.panel.number = p.panel.number)
    (pane : ∀ k, p'.pane? k = p.pane? k) :
    (Screen.users p).Goes n (.users (p'.reload n).1, (p'.reload n).2) := by
  refine Screen.goes_load rfl rfl rfl rfl (fun k other => ?_) number
    fun k => congrArg (Option.map _) (pane k)
  cases k with
  | list => exact absurd rfl other
  | overview => simp only [Screen.load?, reload, overview]
  | held k => exact congrArg (Option.map _) (pane k)

/-- What asks for the roles of the user of a panel. -/
theorem goes_panelTasks (panel : Nat) (user : Int64) (users : p'.users = p.users)
    (pager : p'.pager = p.pager) (overview : p'.overview = p.overview)
    (number : p'.panel.number = p.panel.number)
    (pane : ∀ k, p'.pane? k = if k = panel then (p.pane? k).map fun x => (.loading, x.2) else p.pane? k)
    (bound : panel ≤ p.panel.number)
    (same : ∀ y, (Screen.users p).panelUser? panel = some y → y = user) :
    (Screen.users p).Goes n (.users p', panelTasks n panel user) := by
  have users' : ∀ k, (Screen.users p').panelUser? k = (Screen.users p).panelUser? k := by
    intro k
    rw [Screen.panelUser?, Screen.panelUser?, pane k]
    split
    · rw [Option.map_map]
      rfl
    · rfl
  refine ⟨fun k => ?_, Nat.le_of_eq number.symm, fun k _ y h => (users' k).symm.trans h, ?_⟩
  · cases k with
    | list =>
      refine .kept ?_ (by simp [panelTasks, Task.loads, Task.target?])
      simp only [Screen.load?, users, pager]
    | overview =>
      refine .kept ?_ (by simp [panelTasks, Task.loads, Task.target?])
      simp only [Screen.load?, overview]
    | held k =>
      by_cases own : k = panel
      · subst own
        cases h : p.pane? k with
        | none => exact .gone (by simp [Screen.load?, pane, h])
        | some x =>
          have own : x.2 = user := same x.2 (by rw [Screen.panelUser?, h]; rfl)
          refine .asked (u := .heldRoles n k user) ?_ ?_
          · simp [Screen.load?, pane, h, own]
          · simp [panelTasks, Task.loads, Task.target?, Task.page]
      · refine .kept ?_ ?_
        · simp only [Screen.load?, pane, if_neg own]
        · simp [panelTasks, Task.loads, Task.target?, Ne.symm own]
  · refine List.forall_mem_cons.mpr ⟨fun k x h => ?_,
      List.forall_mem_singleton.mpr (Task.paneled_of_none rfl _)⟩
    cases h
    exact ⟨Nat.le_trans bound (Nat.le_of_eq number.symm),
      fun y hy => same y ((users' panel).symm.trans hy)⟩

variable (p)

theorem goes_turn {step : Bool × Pager} (stays : step.1 = false → step.2 = p.pager) :
    (Screen.users p).Goes n (.users (p.turn n step).1, (p.turn n step).2) :=
  Screen.goes_turned (goes_reload n rfl rfl fun _ => rfl) fun still =>
    goes_quiet n rfl (stays still) rfl rfl (fun _ => rfl) (List.forall_mem_nil _)

theorem goes_updateForm (f : UserForm) (m : UserForm.Msg) :
    (Screen.users p).Goes n (.users (p.updateForm n f m).1, (p.updateForm n f m).2) := by
  have quiet : ∀ t ∈ (p.updateForm n f m).2, t.target? = none ∧ t.panel? = none := by
    intro t ht
    cases m with
    | submit =>
      obtain ⟨u, -, rfl⟩ := List.mem_map.mp ht
      exact ⟨rfl, rfl⟩
    | _ => cases ht
  cases m <;> exact goes_quiet n rfl rfl rfl rfl (fun _ => rfl) quiet

theorem pane?_eq {r : RolesPanel} (hr : p.panel.built = some r) : p.pane? p.panel.number = some r.pane := by
  rw [pane?, Part.at?_eq, if_pos rfl, hr]
  rfl

/-- The panel that stands acts for its user. -/
theorem goes_acts {r : RolesPanel} (hr : p.panel.built = some r) {f : RolesPanel → RolesPanel}
    (same : ∀ r, p.panel.built = some r → (f r).pane = r.pane)
    (acts : ∀ t ∈ more, t.target? = none ∧ t.panel? = some (p.panel.number, r.user.id)) :
    (Screen.users p).Goes n (.users { p with panel := p.panel.modify f }, more) := by
  have pane : ∀ k, UsersPage.pane? { p with panel := p.panel.modify f } k = p.pane? k :=
    fun k => pane?_modify k same
  refine goes_of_same n rfl rfl rfl rfl pane (fun t ht => (acts t ht).1) fun t ht k x h => ?_
  cases (acts t ht).2.symm.trans h
  refine ⟨Nat.le_refl _, fun y hy => ?_⟩
  rw [Screen.panelUser?, pane, p.pane?_eq hr] at hy
  exact (Option.some.inj hy).symm

theorem goes_updatePanel {r : RolesPanel} (hr : p.panel.built = some r) (m : RolesPanel.Msg) :
    (Screen.users p).Goes n (.users (p.updatePanel n r m).1, (p.updatePanel n r m).2) := by
  cases m with
  | close => exact goes_quiet n rfl rfl rfl rfl (fun _ => rfl) (List.forall_mem_nil _)
  | choose role =>
    exact goes_quiet n rfl rfl rfl rfl (fun k => pane?_modify k fun _ _ => rfl) (List.forall_mem_nil _)
  | assign =>
    refine p.goes_acts n hr (fun q hq => ?_) fun t ht => ?_
    · cases hr.symm.trans hq
      exact r.pane_assign
    · obtain ⟨name, -, rfl⟩ := List.mem_map.mp ht
      have user : r.assign.1.user.id = r.user.id := congrArg Prod.snd r.pane_assign
      exact ⟨rfl, congrArg (fun x => some (p.panel.number, x)) user⟩
  | remove role => exact p.goes_acts n hr (fun _ _ => rfl) (List.forall_mem_singleton.mpr ⟨rfl, rfl⟩)
  | retry =>
    refine goes_panelTasks n p.panel.number r.user.id rfl rfl rfl rfl (fun k => ?_)
      (Nat.le_refl _) fun y hy => ?_
    · show ((p.panel.modify RolesPanel.reload).at? k).map RolesPanel.pane = _
      rw [Part.at?_modify, Option.map_map]
      split
      · rw [pane?, Option.map_map]
        rfl
      · next other =>
        rw [pane?, Part.at?_eq, if_neg other]
        rfl
    · rw [Screen.panelUser?, p.pane?_eq hr] at hy
      exact (Option.some.inj hy).symm

theorem goes_update (m : Msg) :
    (Screen.users p).Goes n (.users (p.update n m).1, (p.update n m).2) := by
  have nothing : ∀ t ∈ ([] : List Task), t.target? = none ∧ t.panel? = none := List.forall_mem_nil _
  cases m with
  | username | password | roles | edit =>
    exact goes_quiet n rfl rfl rfl rfl (fun _ => rfl) nothing
  | create =>
    rw [update]
    split
    · exact goes_quiet n rfl rfl rfl rfl (fun _ => rfl) nothing
    · exact goes_quiet n rfl rfl rfl rfl (fun _ => rfl) (List.forall_mem_singleton.mpr ⟨rfl, rfl⟩)
  | delete =>
    exact goes_quiet n rfl rfl rfl rfl (fun _ => rfl) (List.forall_mem_singleton.mpr ⟨rfl, rfl⟩)
  | previous => exact p.goes_turn n Pager.previous_of_stays
  | next => exact p.goes_turn n Pager.next_of_stays
  | retry => exact goes_reload n rfl rfl fun _ => rfl
  | form msg =>
    rw [update]
    split
    · exact p.goes_updateForm n _ msg
    · exact goes_quiet n rfl rfl rfl rfl (fun _ => rfl) nothing
  | panel msg =>
    rw [update]
    split
    · next r hr => exact p.goes_updatePanel n hr msg
    · exact goes_quiet n rfl rfl rfl rfl (fun _ => rfl) nothing
  | retryOverview =>
    refine Screen.goes_load (k := .overview) rfl rfl rfl rfl (fun k other => ?_) rfl fun _ => rfl
    cases k with
    | overview => exact absurd rfl other
    | _ => rfl

/-- A panel that is built anew has a number that none had before. -/
theorem goes_rebuild : (Screen.users p).Goes n (.users (p.rebuild n).1, (p.rebuild n).2) := by
  have number : (p.rebuild n).1.panel.number = _ := p.panel.number_rebuild RolesPanel.ofUser
  have pane : ∀ k, (p.rebuild n).1.pane? k =
      if p.panel.stale then
        if k = p.panel.number + 1 then p.panel.choice.map fun u => (.loading, u.id) else none
      else p.pane? k := by
    intro k
    show ((p.panel.rebuild RolesPanel.ofUser).at? k).map RolesPanel.pane = _
    rw [Part.at?_rebuild]
    split
    · split
      · exact Option.map_map _ _ _
      · rfl
    · rfl
  cases stale : p.panel.stale with
  | false =>
    simp only [stale, Bool.false_eq_true, if_false] at number pane
    rw [show (p.rebuild n).2 = [] by simp [rebuild, stale]]
    exact goes_quiet n rfl rfl rfl number pane (List.forall_mem_nil _)
  | true =>
    simp only [stale, if_true] at number pane
    have more : (p.rebuild n).2 =
        p.panel.choice.toList.flatMap fun u => panelTasks n (p.panel.number + 1) u.id := by
      cases choice : p.panel.choice <;>
        simp [rebuild, stale, choice, Part.choice_rebuild, Part.number_rebuild]
    rw [more]
    refine ⟨fun k => ?_, Nat.le_trans (Nat.le_succ _) (Nat.le_of_eq number.symm),
      fun k hk y h => ?_, ?_⟩
    · cases k with
      | list | overview =>
        refine .kept rfl ?_
        cases p.panel.choice <;> simp [panelTasks, Task.loads, Task.target?]
      | held k =>
        by_cases new : k = p.panel.number + 1
        · subst new
          cases choice : p.panel.choice with
          | none => exact .gone (by simp [Screen.load?, pane, choice])
          | some u =>
            refine .asked (u := .heldRoles n (p.panel.number + 1) u.id) ?_ ?_
            · simp [Screen.load?, pane, choice]
            · simp [panelTasks, Task.loads, Task.target?, Task.page]
        · exact .gone (by simp [Screen.load?, pane, new])
    · have old : k ≠ p.panel.number + 1 := Nat.ne_of_lt (Nat.lt_succ_of_le hk)
      rw [Screen.panelUser?, pane, if_neg old] at h
      cases h
    · intro t ht
      obtain ⟨u, hu, ht⟩ := List.mem_flatMap.mp ht
      have choice : p.panel.choice = some u := Option.mem_toList.mp hu
      rcases List.mem_cons.mp ht with rfl | ht
      · intro k x h
        cases h
        refine ⟨Nat.le_of_eq number.symm, fun y hy => ?_⟩
        rw [Screen.panelUser?, pane, if_pos rfl, choice] at hy
        exact (Option.some.inj hy).symm
      · rw [List.mem_singleton.mp ht]
        exact Task.paneled_of_none rfl _

/-! ### Successes -/

theorem goes_closeIf (user : Int64) :
    (closeIf user p.panel).number = p.panel.number ∧
      ∀ k, ((closeIf user p.panel).at? k).map RolesPanel.pane = p.pane? k := by
  unfold closeIf
  split <;> exact ⟨rfl, fun _ => rfl⟩

theorem pane?_modifyAt (panel : Nat) {f : RolesPanel → RolesPanel}
    {g : Loadable Unit × Int64 → Loadable Unit × Int64} (becomes : ∀ r, (f r).pane = g r.pane)
    (k : Nat) :
    UsersPage.pane? { p with panel := p.panel.modifyAt panel f } k =
      if k = panel then (p.pane? k).map g else p.pane? k := by
  show ((p.panel.modifyAt panel f).at? k).map RolesPanel.pane = _
  rw [Part.at?_modifyAt]
  split
  · rw [pane?, Option.map_map, Option.map_map]
    exact congrArg (Option.map · _) (funext becomes)
  · rfl

/-- A panel that changes in something else than its load. -/
theorem goes_modifyAt (panel : Nat) {f : RolesPanel → RolesPanel} (same : ∀ r, (f r).pane = r.pane) :
    (Screen.users p).Goes n (.users { p with panel := p.panel.modifyAt panel f }, []) := by
  refine goes_quiet n rfl rfl rfl (p.panel.number_modifyAt panel f) (fun k => ?_)
    (List.forall_mem_nil _)
  rw [p.pane?_modifyAt panel (g := id) same]
  simp

/-- The roles of a panel are loaded again after its action. -/
theorem goes_reloads {f : RolesPanel → RolesPanel} (reloads : ∀ r, (f r).pane = (.loading, r.pane.2))
    {panel : Nat} {user : Int64} {t : Task} (asks : t.panel? = some (panel, user))
    (paneled : t.Paneled (.users p)) :
    (Screen.users p).Goes n
      (.users { p with panel := p.panel.modifyAt panel f }, panelTasks n panel user) := by
  obtain ⟨bound, same⟩ := paneled panel user asks
  exact goes_panelTasks n panel user rfl rfl rfl (p.panel.number_modifyAt panel f)
    (p.pane?_modifyAt panel (g := fun x => (.loading, x.2)) reloads) bound same

end UsersPage

/-! ### The other pages -/

namespace EditorPage

variable (n : Nat) {p p' : EditorPage}

theorem goes_reload : (Screen.editor p).Goes n (.editor (p'.reload n).1, (p'.reload n).2) := by
  refine Screen.goes_load rfl rfl rfl rfl (fun k other => ?_) rfl fun _ => rfl
  cases k with
  | list => exact absurd rfl other
  | _ => rfl

theorem goes_quiet {more : List Task} (rows : p'.rows = p.rows) (trail : p'.trail = p.trail)
    (pager : p'.pager = p.pager) (quiet : ∀ t ∈ more, t.target? = none ∧ t.panel? = none) :
    (Screen.editor p).Goes n (.editor p', more) := by
  refine Screen.goes_quiet (fun k => ?_) rfl (fun _ => rfl) quiet
  cases k with
  | list => simp only [Screen.load?, rows, trail, pager]
  | _ => rfl

theorem goes_modifyForm (form : Nat) (f : RecordForm → RecordForm) :
    (Screen.editor p).Goes n (.editor (p.modifyForm form f), []) := by
  unfold modifyForm
  split <;> exact goes_quiet n rfl rfl rfl (List.forall_mem_nil _)

variable (p)

theorem goes_turn {step : Bool × Pager} (stays : step.1 = false → step.2 = p.pager) :
    (Screen.editor p).Goes n (.editor (p.turn n step).1, (p.turn n step).2) :=
  Screen.goes_turned (goes_reload n) fun still =>
    goes_quiet n rfl rfl (stays still) (List.forall_mem_nil _)

theorem goes_update (m : Msg) :
    (Screen.editor p).Goes n (.editor (p.update n m).1, (p.update n m).2) := by
  cases m with
  | enter | back | retry => exact goes_reload n
  | edit => exact goes_quiet n rfl rfl rfl (List.forall_mem_nil _)
  | delete => exact goes_quiet n rfl rfl rfl (List.forall_mem_singleton.mpr ⟨rfl, rfl⟩)
  | previous => exact p.goes_turn n Pager.previous_of_stays
  | next => exact p.goes_turn n Pager.next_of_stays
  | form msg =>
    cases msg with
    | typed | cancel => exact goes_quiet n rfl rfl rfl (List.forall_mem_nil _)
    | submit =>
      refine goes_quiet n rfl rfl rfl fun t ht => ?_
      obtain ⟨s, -, rfl⟩ := List.mem_map.mp ht
      exact ⟨rfl, rfl⟩

theorem goes_rebuild : (Screen.editor p).Goes n (.editor (p.rebuild n).1, (p.rebuild n).2) := by
  unfold rebuild
  split
  · refine goes_quiet n rfl rfl rfl fun t ht => ?_
    obtain ⟨id, -, rfl⟩ := List.mem_map.mp ht
    exact ⟨rfl, rfl⟩
  · exact goes_quiet n rfl rfl rfl (List.forall_mem_nil _)

end EditorPage

namespace BrowserPage

variable (n : Nat) {p p' : BrowserPage}

theorem goes_reload : (Screen.browser p).Goes n (.browser (p'.reload n).1, (p'.reload n).2) := by
  refine Screen.goes_load rfl rfl rfl rfl (fun k other => ?_) rfl fun _ => rfl
  cases k with
  | list => exact absurd rfl other
  | _ => rfl

theorem goes_quiet {more : List Task} (rows : p'.rows = p.rows) (trail : p'.trail = p.trail)
    (pager : p'.pager = p.pager) (quiet : ∀ t ∈ more, t.target? = none ∧ t.panel? = none) :
    (Screen.browser p).Goes n (.browser p', more) := by
  refine Screen.goes_quiet (fun k => ?_) rfl (fun _ => rfl) quiet
  cases k with
  | list => simp only [Screen.load?, rows, trail, pager]
  | _ => rfl

variable (p)

theorem goes_turn {step : Bool × Pager} (stays : step.1 = false → step.2 = p.pager) :
    (Screen.browser p).Goes n (.browser (p.turn n step).1, (p.turn n step).2) :=
  Screen.goes_turned (goes_reload n) fun still =>
    goes_quiet n rfl rfl (stays still) (List.forall_mem_nil _)

theorem goes_update (m : Msg) :
    (Screen.browser p).Goes n (.browser (p.update n m).1, (p.update n m).2) := by
  cases m with
  | enter | back | retry => exact goes_reload n
  | save => exact goes_quiet n rfl rfl rfl (List.forall_mem_singleton.mpr ⟨rfl, rfl⟩)
  | previous => exact p.goes_turn n Pager.previous_of_stays
  | next => exact p.goes_turn n Pager.next_of_stays

end BrowserPage

namespace MyCarsPage

variable (n : Nat) {p p' : MyCarsPage}

theorem goes_reload : (Screen.myCars p).Goes n (.myCars (p'.reload n).1, (p'.reload n).2) := by
  refine Screen.goes_load rfl rfl rfl rfl (fun k other => ?_) rfl fun _ => rfl
  cases k with
  | list => exact absurd rfl other
  | _ => rfl

theorem goes_quiet {more : List Task} (cars : p'.cars = p.cars) (pager : p'.pager = p.pager)
    (quiet : ∀ t ∈ more, t.target? = none ∧ t.panel? = none) :
    (Screen.myCars p).Goes n (.myCars p', more) := by
  refine Screen.goes_quiet (fun k => ?_) rfl (fun _ => rfl) quiet
  cases k with
  | list => simp only [Screen.load?, cars, pager]
  | _ => rfl

variable (p)

theorem goes_turn {step : Bool × Pager} (stays : step.1 = false → step.2 = p.pager) :
    (Screen.myCars p).Goes n (.myCars (p.turn n step).1, (p.turn n step).2) :=
  Screen.goes_turned (goes_reload n) fun still =>
    goes_quiet n rfl (stays still) (List.forall_mem_nil _)

theorem goes_update (m : Msg) :
    (Screen.myCars p).Goes n (.myCars (p.update n m).1, (p.update n m).2) := by
  cases m with
  | retry => exact goes_reload n
  | remove => exact goes_quiet n rfl rfl (List.forall_mem_singleton.mpr ⟨rfl, rfl⟩)
  | previous => exact p.goes_turn n Pager.previous_of_stays
  | next => exact p.goes_turn n Pager.next_of_stays

end MyCarsPage

/-! ### Every page -/

namespace Screen

variable {n : Nat} {s : Screen} {step : Screen × List Task}

theorem goes_of_presses {msg : Msg} (h : s.Presses n msg step) : s.Goes n step := by
  cases h with
  | login f m =>
    refine goes_quiet (fun _ => rfl) rfl (fun _ => rfl) fun t ht => ?_
    obtain ⟨credentials, -, rfl⟩ := List.mem_map.mp ht
    exact ⟨rfl, rfl⟩
  | users p m => exact p.goes_update n m
  | editor p m => exact p.goes_update n m
  | browser p m => exact p.goes_update n m
  | myCars p m => exact p.goes_update n m

theorem goes_of_rebuilds (h : s.Rebuilds n step) : s.Goes n step := by
  cases h with
  | users p => exact p.goes_rebuild n
  | editor p => exact p.goes_rebuild n

/-- A new page, in the place of none, asks for all that it shows. -/
theorem goes_build (n : Nat) (kind : ScreenKind) : Screen.blank.Goes n (kind.build n) := by
  cases kind with
  | blank | login => exact goes_quiet (fun _ => rfl) rfl (fun _ => rfl) (List.forall_mem_nil _)
  | users =>
    refine ⟨fun k => ?_, Nat.le_refl _, fun k _ y h => (by cases h), ?_⟩
    · cases k with
      | list =>
        exact .asked (u := .users n UsersPage.blank.pager.query) rfl
          (by simp [ScreenKind.build, UsersPage.reload, UsersPage.reloadOverview, Task.loads,
            Task.target?, Task.page])
      | overview =>
        exact .asked (u := .overview n) rfl
          (by simp [ScreenKind.build, UsersPage.reload, UsersPage.reloadOverview, Task.loads,
            Task.target?, Task.page])
      | held k =>
        exact .kept rfl (by simp [ScreenKind.build, UsersPage.reload, UsersPage.reloadOverview,
          Task.loads, Task.target?])
    · exact List.forall_mem_cons.mpr ⟨Task.paneled_of_none rfl _,
        List.forall_mem_singleton.mpr (Task.paneled_of_none rfl _)⟩
  | editor | browser | myCars =>
    refine goes_load rfl rfl rfl rfl (fun k other => ?_) rfl fun _ => rfl
    cases k with
    | list => exact absurd rfl other
    | _ => rfl

theorem goes_of_succeeds {action : Action} (h : s.Succeeds n action step)
    (paneled : (Task.act n action).Paneled s) : s.Goes n step := by
  cases h with
  | created | updated => exact UsersPage.goes_reload n rfl rfl fun _ => rfl
  | userDeleted p user remaining =>
    obtain ⟨number, pane⟩ := p.goes_closeIf user
    exact UsersPage.goes_reload n rfl number pane
  | assigned p panel user role | removed p panel user role =>
    exact p.goes_reloads n (fun _ => rfl) rfl paneled
  | saved | rowDeleted => exact EditorPage.goes_reload n
  | added => exact BrowserPage.goes_quiet n rfl rfl rfl (List.forall_mem_nil _)
  | carRemoved => exact MyCarsPage.goes_reload n

theorem goes_of_complains {message : String} {action : Action} {s' : Screen}
    (h : s.Complains message action s') : s.Goes n (s', []) := by
  cases h with
  | createUser | deleteUser | updateUser =>
    exact UsersPage.goes_quiet n rfl rfl rfl rfl (fun _ => rfl) (List.forall_mem_nil _)
  | assignRole p panel | removeRole p panel =>
    exact p.goes_modifyAt n panel fun _ => rfl
  | saveRecord p form => exact p.goes_modifyForm n form _
  | deleteRow => exact EditorPage.goes_quiet n rfl rfl rfl (List.forall_mem_nil _)
  | addMyCar => exact BrowserPage.goes_quiet n rfl rfl rfl (List.forall_mem_nil _)
  | removeMyCar => exact MyCarsPage.goes_quiet n rfl rfl (List.forall_mem_nil _)

/-- What is no load leaves the places alone, or asks for them. -/
theorem goes_of_answers {reply : Api.Reply} {t : Task} (h : s.Answers n reply t step)
    (other : t.target? = none) (paneled : t.Paneled s) : s.Goes n step := by
  cases h with
  | signIn => exact goes_quiet (fun _ => rfl) rfl (fun _ => rfl) (List.forall_mem_nil _)
  | allRoles p panel => exact p.goes_modifyAt n panel fun _ => rfl
  | spec p form => exact p.goes_modifyForm n form _
  | succeeded _ h => exact goes_of_succeeds h paneled
  | refused _ _ h => exact goes_of_complains h
  | _ => cases other

/-- The answer to what a page always has a place for. -/
theorem takes_of_place {k : Target} {fails : Api.Failure → Prop} {α : Type}
    (outcome : Except Api.Failure α) {s s' : Screen} {u : Task}
    (others : ∀ j ≠ k, s'.load? n j = s.load? n j) (number : s'.panelNumber = s.panelNumber)
    (user : ∀ j, s'.panelUser? j = s.panelUser? j)
    (now : s'.load? n k = some (.of (.ofOutcome outcome) u))
    (failed : ∀ f, fails f → outcome = .error f ∧ ∃ status, s.load? n k = some ⟨status, u⟩) :
    s.Takes n k fails s' where
  others := others
  number := number
  user := user
  ended l h := by
    cases now.symm.trans h
    cases outcome <;> nofun
  failed f h := by
    obtain ⟨rfl, status, before⟩ := failed f h
    rw [now, before]
    rfl

theorem takes_of_answers {reply : Api.Reply} {t : Task} {k : Target} (h : s.Answers n reply t step)
    (target : t.target? = some k) : s.Takes n k (t.Fails reply) step.1 ∧ step.2 = [] := by
  cases h with
  | users p query outcome h | editorRows p level query outcome h | browserRows p level query outcome h
  | cars p query outcome h =>
    cases target
    refine ⟨takes_of_place outcome (fun j other => ?_) rfl (fun _ => rfl) rfl
      fun f fails => ?_, rfl⟩
    · cases j with
      | list => exact absurd rfl other
      | _ => rfl
    · cases h.symm.trans fails
      exact ⟨rfl, _, rfl⟩
  | overview p =>
    cases target
    refine ⟨takes_of_place (Api.listRoles.outcome reply) (fun j other => ?_) rfl
      (fun _ => rfl) rfl fun f fails => ⟨fails, _, rfl⟩, rfl⟩
    cases j with
    | overview => exact absurd rfl other
    | _ => rfl
  | heldRoles p panel user =>
    cases target
    generalize brought : (Api.listUserRoles user).outcome reply = outcome
    have pane := p.pane?_modifyAt panel (f := fun r => { r with held := .ofOutcome outcome })
      (g := fun x => ((Loadable.ofOutcome outcome).map fun _ => (), x.2)) fun _ => rfl
    refine ⟨⟨fun j other => ?_, p.panel.number_modifyAt panel _, fun j => ?_, fun l h => ?_,
      fun f fails => ?_⟩, rfl⟩
    · cases j with
      | held j =>
        have apart : j ≠ panel := fun same => other (congrArg Target.held same)
        simp only [Screen.load?, pane, if_neg apart]
      | _ => rfl
    · rw [panelUser?, pane]
      split
      · rw [Option.map_map]
        rfl
      · rfl
    · simp only [Screen.load?, pane, if_pos] at h
      obtain ⟨x, hx, rfl⟩ := Option.map_eq_some_iff.mp h
      obtain ⟨y, -, rfl⟩ := Option.map_eq_some_iff.mp hx
      cases outcome <;> nofun
    · cases brought.symm.trans fails
      simp only [Screen.load?, pane, if_pos, Option.map_map]
      rfl
  | _ => cases target

end Screen

end CarCatalog
