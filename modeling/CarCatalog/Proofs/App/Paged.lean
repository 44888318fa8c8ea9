import CarCatalog.App.View
import CarCatalog.Proofs.Api.Address
import CarCatalog.Proofs.App.Deletions
import CarCatalog.Proofs.View.Parts

/-!
# The pager and its rows

The pager of a page and the rows it shows are set apart from each other, and loads of the list may be
under way in any number and be answered in any order.  Still the pager is that of the rows: whatever
moves it asks for the list anew, and an answer sets both.

    c.Told → c.Turn e c' → c'.Told                                                   (told_turn)

A page makes one of three things of its list (`Screen.Lists`): it leaves it alone, asks for it anew, or
takes an answer.
-/

namespace CarCatalog

/-- All that a bar says of the page an answer brought. -/
structure Pager.Describes (p : Pager) (info : PageMeta) : Prop where
  page : p.page = max info.page 1
  totalPages : p.totalPages = max info.totalPages 1
  summary : p.summary =
    s!"Page {(max info.page 1).toNat} of {(max info.totalPages 1).toNat}"
  hasPrevious : p.hasPrevious ↔ 1 < info.page
  hasNext : p.hasNext ↔ max info.page 1 < info.totalPages
  isSinglePage : p.isSinglePage ↔ info.totalPages ≤ 1

/-- Where the list of a page is found. -/
def Screen.listPath? : Screen → Option String
  | .users _ => some Api.Path.users
  | .editor p => some p.trail.level.collection
  | .browser p => some p.trail.level.collection
  | .myCars _ => some Api.Path.myCars
  | _ => none

/-- The button to load the list of a page once more. -/
def Screen.retry? : Screen → Option Msg
  | .users _ => some (.users .retry)
  | .editor _ => some (.editor .retry)
  | .browser _ => some (.browser .retry)
  | .myCars _ => some (.myCars .retry)
  | _ => none

/-- What the page of a number makes of its list, while some tasks are done with: it takes an answer, and
it has to if one of these is a load of the list. -/
inductive Screen.Lists (n : Nat) (done : List Task) (s : Screen) (step : Screen × List Task) : Prop
  | kept (same : step.1.paged? = s.paged?)
    (other : ∀ t ∈ done, ∀ query, t.listRequest? n ≠ some (.load query))
  | asked {pager : Pager} {t : Task} (now : step.1.paged? = some (pager, .loading))
    (ht : t ∈ step.2) (asks : t.listRequest? n = some (.load pager.query))
  | taken {pager : Pager} {outcome : Except Api.Failure (Page Int64)}
    (now : step.1.paged? = some (pager.follow outcome, .ofOutcome outcome))

/-- The button to try again is offered, and loads what the pager says. -/
structure App.Retries (a : App) (msg : Msg) (path : String) (pager : Pager) : Prop where
  offered : ∀ s : Session, Node.Fires (App.content s a.screen) msg
  loading : (a.press msg).screen.paged? = some (pager, .loading)
  asked : ∃ t : Task, (a.press msg).queue = a.queue ++ [t] ∧ t.page = a.number ∧
    ∀ credential, t.request credential =
      ⟨.get, Api.withQuery path pager.query, credential.map Api.bearer, none⟩

/-- The pager is that of the rows, and rows that are loading have been asked for. -/
structure Stage.Told (c : Stage) : Prop where
  ready : ∀ pager page, c.screen.paged? = some (pager, .ready page) →
    pager = pager.observe page.info
  loading : ∀ pager, c.screen.paged? = some (pager, .loading) →
    ∃ t ∈ c.tasks, ∃ query, t.listRequest? c.number = some (.load query)

/-! ## Pagers -/

namespace Pager

theorem describes_observe (info : PageMeta) (p : Pager) : (p.observe info).Describes info := by
  have above {x : UInt32} : 1 < max x 1 ↔ 1 < x := by
    simp only [UInt32.lt_iff_toNat_lt, UInt32.toNat_max]
    omega
  have next : max info.page 1 < max info.totalPages 1 ↔ max info.page 1 < info.totalPages := by
    simp only [UInt32.lt_iff_toNat_lt, UInt32.toNat_max]
    omega
  have single : max info.totalPages 1 ≤ 1 ↔ info.totalPages ≤ 1 := by
    simp only [UInt32.le_iff_toNat_le, UInt32.toNat_max]
    omega
  refine ⟨rfl, rfl, rfl, ?_, ?_, ?_⟩
  · exact decide_eq_true_iff.trans above
  · exact decide_eq_true_iff.trans next
  · exact decide_eq_true_iff.trans single

/-- A pager that says it did not move has not. -/
theorem next_of_stays {p : Pager} (h : p.next.1 = false) : p.next.2 = p := by
  unfold next at h ⊢
  split at h
  · cases h
  · next last => rw [if_neg last]

theorem previous_of_stays {p : Pager} (h : p.previous.1 = false) : p.previous.2 = p := by
  unfold previous at h ⊢
  split at h
  · cases h
  · next first => rw [if_neg first]

theorem follow_map {α β : Type} (f : α → β) (p : Pager) (outcome : Except Api.Failure (Page α)) :
    p.follow (outcome.map (·.map f)) = p.follow outcome := by
  cases outcome <;> rfl

end Pager

theorem Loadable.ofOutcome_map {α β : Type} (f : α → β) (outcome : Except Api.Failure α) :
    Loadable.ofOutcome (outcome.map f) = (Loadable.ofOutcome outcome).map f := by
  cases outcome <;> rfl

/-- An action loads nothing. -/
theorem Task.listRequest_act (n page : Nat) (action : Action) (query : PageQuery) :
    (Task.act page action).listRequest? n ≠ some (.load query) := by
  cases action <;> simp [listRequest?]

/-! ## What a page makes of its list -/

namespace Screen

variable {n : Nat} {done : List Task} {s : Screen} {step : Screen × List Task}

/-- What is not an answer, and leaves the list alone. -/
theorem Lists.same (same : step.1.paged? = s.paged?) : s.Lists n [] step :=
  .kept same nofun

/-- An answer to something else than a load of the list. -/
theorem Lists.other {t : Task} (same : step.1.paged? = s.paged?)
    (other : ∀ query, t.listRequest? n ≠ some (.load query)) : s.Lists n [t] step :=
  .kept same fun _ hu => List.mem_singleton.mp hu ▸ other

theorem Lists.answer {α : Type} {key : α → Int64} {pager : Pager}
    {outcome : Except Api.Failure (Page α)}
    (now : step.1.paged? = some (pager.follow outcome, (Loadable.ofOutcome outcome).map (·.map key))) :
    s.Lists n done step := by
  rw [← Loadable.ofOutcome_map, ← Pager.follow_map key] at now
  exact .taken now

/-- What asks for the list and nothing else. -/
theorem Lists.load {s' : Screen} {t : Task} {pager : Pager}
    (now : s'.paged? = some (pager, .loading))
    (asks : t.listRequest? n = some (.load pager.query)) : s.Lists n done (s', [t]) :=
  .asked now (.head _) asks

/-- Turning a page, on whatever page: a pager that did not move asks for nothing. -/
theorem Lists.turned {π : Type} {screen : π → Screen} {moved : Bool} {went stayed : π × List Task}
    (load : s.Lists n done (screen went.1, went.2))
    (still : moved = false → s.Lists n done (screen stayed.1, stayed.2)) :
    s.Lists n done
      (screen (if moved then went else stayed).1, (if moved then went else stayed).2) := by
  cases moved with
  | true => exact load
  | false => exact still rfl

end Screen

/-! ### Handlers -/

theorem UsersPage.lists_update (n : Nat) (p : UsersPage) (m : Msg) :
    (Screen.users p).Lists n [] (.users (p.update n m).1, (p.update n m).2) := by
  have turned : ∀ step : Bool × Pager, (step.1 = false → step.2 = p.pager) →
      (Screen.users p).Lists n [] (.users (p.turn n step).1, (p.turn n step).2) := fun _ stays =>
    .turned (.load rfl (if_pos rfl)) fun still => .same (by rw [stays still])
  cases m with
  | username | password | roles | edit | delete | retryOverview => exact .same rfl
  | create =>
    rw [update]
    split <;> exact .same rfl
  | previous => exact turned _ Pager.previous_of_stays
  | next => exact turned _ Pager.next_of_stays
  | retry => exact .load rfl (if_pos rfl)
  | form msg =>
    rw [update]
    split
    · cases msg <;> exact .same rfl
    · exact .same rfl
  | panel msg =>
    rw [update]
    split
    · cases msg <;> exact .same rfl
    · exact .same rfl

theorem EditorPage.lists_update (n : Nat) (p : EditorPage) (m : Msg) :
    (Screen.editor p).Lists n [] (.editor (p.update n m).1, (p.update n m).2) := by
  have turned : ∀ step : Bool × Pager, (step.1 = false → step.2 = p.pager) →
      (Screen.editor p).Lists n [] (.editor (p.turn n step).1, (p.turn n step).2) := fun _ stays =>
    .turned (.load rfl (if_pos rfl)) fun still => .same (by rw [stays still])
  cases m with
  | enter | back | retry => exact .load rfl (if_pos rfl)
  | edit | delete => exact .same rfl
  | previous => exact turned _ Pager.previous_of_stays
  | next => exact turned _ Pager.next_of_stays
  | form msg => cases msg <;> exact .same rfl

theorem BrowserPage.lists_update (n : Nat) (p : BrowserPage) (m : Msg) :
    (Screen.browser p).Lists n [] (.browser (p.update n m).1, (p.update n m).2) := by
  have turned : ∀ step : Bool × Pager, (step.1 = false → step.2 = p.pager) →
      (Screen.browser p).Lists n [] (.browser (p.turn n step).1, (p.turn n step).2) := fun _ stays =>
    .turned (.load rfl (if_pos rfl)) fun still => .same (by rw [stays still])
  cases m with
  | enter | back | retry => exact .load rfl (if_pos rfl)
  | save => exact .same rfl
  | previous => exact turned _ Pager.previous_of_stays
  | next => exact turned _ Pager.next_of_stays

theorem MyCarsPage.lists_update (n : Nat) (p : MyCarsPage) (m : Msg) :
    (Screen.myCars p).Lists n [] (.myCars (p.update n m).1, (p.update n m).2) := by
  have turned : ∀ step : Bool × Pager, (step.1 = false → step.2 = p.pager) →
      (Screen.myCars p).Lists n [] (.myCars (p.turn n step).1, (p.turn n step).2) := fun _ stays =>
    .turned (.load rfl (if_pos rfl)) fun still => .same (by rw [stays still])
  cases m with
  | retry => exact .load rfl (if_pos rfl)
  | remove => exact .same rfl
  | previous => exact turned _ Pager.previous_of_stays
  | next => exact turned _ Pager.next_of_stays

namespace Screen

variable {n : Nat} {s : Screen} {step : Screen × List Task}

theorem lists_of_presses {msg : Msg} (h : s.Presses n msg step) : s.Lists n [] step := by
  cases h with
  | login => exact .same rfl
  | users p m => exact p.lists_update n m
  | editor p m => exact p.lists_update n m
  | browser p m => exact p.lists_update n m
  | myCars p m => exact p.lists_update n m

theorem lists_of_rebuilds (h : s.Rebuilds n step) : s.Lists n [] step := by
  cases h with
  | users p => exact .same rfl
  | editor p =>
    refine .same ?_
    unfold EditorPage.rebuild
    split <;> rfl

/-! ### Answers -/

/-- An action that succeeded was no load; what it changes is loaded again. -/
theorem lists_of_succeeds {action : Action} (h : s.Succeeds n action step) :
    s.Lists n [.act n action] step := by
  cases h with
  | assigned | removed | added => exact .other rfl (Task.listRequest_act n n _)
  | created | userDeleted | updated | saved | carRemoved => exact .load rfl (if_pos rfl)
  | rowDeleted p level id remaining =>
    obtain ⟨asked, now⟩ := p.listed_deleted n id remaining
    rw [asked]
    exact .load now (if_pos rfl)

theorem lists_of_complains {message : String} {action : Action} {s' : Screen}
    (h : s.Complains message action s') : s.Lists n [.act n action] (s', []) := by
  refine .other ?_ (Task.listRequest_act n n action)
  cases h with
  | saveRecord p form =>
    unfold EditorPage.modifyForm
    split <;> rfl
  | _ => rfl

theorem lists_of_answers {reply : Api.Reply} {t : Task} (h : s.Answers n reply t step) :
    s.Lists n [t] step := by
  cases h with
  | users | editorRows | browserRows | cars => exact .answer rfl
  | succeeded _ h => exact lists_of_succeeds h
  | refused _ _ h => exact lists_of_complains h
  | signIn | overview | heldRoles | allRoles => exact .other rfl nofun
  | spec p form =>
    refine .other ?_ nofun
    show (Screen.editor (p.modifyForm form _)).paged? = _
    unfold EditorPage.modifyForm
    split <;> rfl

/-- A new page asks for its list, if it has one. -/
theorem lists_build (n : Nat) (kind : ScreenKind) : Screen.blank.Lists n [] (kind.build n) := by
  cases kind with
  | blank | login => exact .same rfl
  | users => exact .asked rfl (.head _) (if_pos rfl)
  | _ => exact .load rfl (if_pos rfl)

end Screen

/-! ## Turns -/

namespace Stage

variable {c c' : Stage}

/-- What a page makes of its list keeps the stage told, whatever else is still awaited. -/
theorem told_lists (told : c.Told) {done rest more : List Task} {s : Screen}
    (tasks : ∀ t ∈ c.tasks, t ∈ done ∨ t ∈ rest) (h : c.screen.Lists c.number done (s, more)) :
    Told { c with screen := s, tasks := rest ++ more } := by
  cases h with
  | kept same other =>
    have same : s.paged? = c.screen.paged? := same
    refine ⟨fun pager page now => told.ready pager page (same.symm.trans now), fun pager now => ?_⟩
    obtain ⟨t, ht, query, asks⟩ := told.loading pager (same.symm.trans now)
    have awaited : t ∈ rest := (tasks t ht).resolve_left fun hd => other t hd query asks
    exact ⟨t, List.mem_append_left _ awaited, query, asks⟩
  | @asked pager t now ht asks =>
    have now : s.paged? = some (pager, .loading) := now
    refine ⟨fun pager' page now' => ?_, fun pager' now' => ?_⟩
    · cases now.symm.trans now'
    · exact ⟨t, List.mem_append_right _ ht, pager.query, asks⟩
  | @taken pager outcome now =>
    have now : s.paged? = some (pager.follow outcome, .ofOutcome outcome) := now
    refine ⟨fun pager' page now' => ?_, fun pager' now' => ?_⟩
    · cases outcome with
      | ok brought =>
        cases now.symm.trans now'
        rfl
      | error f => cases now.symm.trans now'
    · cases outcome <;> cases now.symm.trans now'

theorem mem_or_mem_eraseIdx {i : Nat} {t : Task} (ht : c.tasks[i]? = some t) :
    ∀ u ∈ c.tasks, u ∈ [t] ∨ u ∈ c.tasks.eraseIdx i := by
  intro u hu
  obtain ⟨j, hj⟩ := List.mem_iff_getElem?.mp hu
  by_cases same : j = i
  · rw [same, ht] at hj
    exact .inl (List.mem_singleton.mpr (Option.some.inj hj).symm)
  · exact .inr (List.mem_eraseIdx_iff_getElem?.mpr ⟨j, same, hj⟩)

/-- An answer that no page takes was not to a load of the mounted page's list. -/
theorem told_erased (told : c.Told) {i : Nat} {t : Task} (ht : c.tasks[i]? = some t)
    (other : ∀ query, t.listRequest? c.number ≠ some (.load query)) (more : List Task)
    (crashed : Bool) : Told { c with tasks := c.tasks.eraseIdx i ++ more, crashed } := by
  have kept : c.screen.Lists c.number [t] (c.screen, more) := .other rfl other
  have after := told_lists told (mem_or_mem_eraseIdx ht) kept
  exact ⟨after.ready, after.loading⟩

theorem told_turn (owned : c.Owned) (told : c.Told) {e : App.Event} (turn : c.Turn e c') :
    c'.Told := by
  have all : ∀ t ∈ c.tasks, t ∈ ([] : List Task) ∨ t ∈ c.tasks := fun t ht => .inr ht
  cases turn with
  | idle => exact told
  | pressed h => exact told_lists told all (Screen.lists_of_presses h)
  | rebuilt h => exact told_lists told all (Screen.lists_of_rebuilds h)
  | mounted e kind =>
    have blank : Told { c with number := c.number + 1, screen := .blank } := ⟨nofun, nofun⟩
    exact told_lists blank all (Screen.lists_build _ kind)
  | received h =>
    cases h with
    | answered ht _ h =>
      exact told_lists told (mem_or_mem_eraseIdx ht) (Screen.lists_of_answers h)
    | @stray t more ht stray reads panel =>
      have other := page_ne_of_stray owned ht stray
      exact told_erased told ht (fun _ asks => other (Task.page_of_listRequest asks)) more c.crashed
    | @crashed t handle ht reads lost =>
      have other : ∀ query, t.listRequest? c.number ≠ some (.load query) := by
        cases t with
        | act page action => exact Task.listRequest_act _ page action
        | _ => cases reads
      rw [← List.append_nil (c.tasks.eraseIdx _)]
      exact told_erased told ht other [] true

/-- **The stage stays told**, on every run that starts without a list. -/
theorem told_run {account : Account} {path : String}
    (blank : (App.start account path).screen.paged? = none) (events : List App.Event) :
    ((App.start account path).run events).stage.Told := by
  generalize hs : App.start account path = start at blank
  have told : start.stage.Told := by
    constructor
    · intro pager page h
      cases blank.symm.trans h
    · intro pager h
      cases blank.symm.trans h
  have owned : start.stage.Owned := hs ▸ fun _ ht => (by cases ht)
  exact (App.stage_run (P := fun c => c.Owned ∧ c.Told)
    (fun h turn => ⟨owned_turn h.1 turn, told_turn h.1 h.2 turn⟩) ⟨owned, told⟩ events).2

end Stage

/-! ## Trying again -/

theorem View.fires_retry {α β : Type} (message : String) (retry : α) (ready : β → List (Node α)) :
    Node.Fires (loaded (.failed message) retry ready) retry := by
  simp [loaded]

theorem Loadable.failed_of_map {α β : Type} {f : α → β} {value : Loadable α} {message : String}
    (h : value.map f = .failed message) : value = .failed message := by
  cases value with
  | failed m => exact congrArg _ (Loadable.failed.inj h)
  | _ => cases h

namespace App

theorem retries_of_press {a : App} {π : Type} {screen : π → Screen} {p : π} {msg : Msg} {t : Task}
    {path : String} {pager : Pager} (press : a.press msg = a.put screen (p, [t]))
    (now : (screen p).paged? = some (pager, .loading)) (page : t.page = a.number)
    (request : ∀ credential, t.request credential =
      ⟨.get, Api.withQuery path pager.query, credential.map Api.bearer, none⟩)
    (offered : ∀ s : Session, Node.Fires (content s a.screen) msg) : a.Retries msg path pager where
  offered := offered
  loading := by
    rw [press]
    exact now
  asked := by
    refine ⟨t, ?_, page, request⟩
    rw [press]
    rfl

/-- Whatever list a page shows, its failure can be tried again. -/
theorem retries_of_failed {a : App} {pager : Pager} {message : String}
    (failed : a.screen.paged? = some (pager, .failed message)) :
    ∃ msg path, a.screen.retry? = some msg ∧ a.screen.listPath? = some path ∧
      a.Retries msg path pager := by
  cases hs : a.screen with
  | users p =>
    rw [hs] at failed
    obtain ⟨same, failed⟩ := Prod.mk.inj (Option.some.inj failed)
    have rows : p.users = .failed message := Loadable.failed_of_map failed
    have press : a.press (.users .retry) = a.put .users (p.reload a.number) := by
      simp only [App.press, hs]
      rfl
    refine ⟨_, _, rfl, rfl, same ▸ retries_of_press press rfl rfl (fun _ => rfl) fun s => ?_⟩
    rw [hs]
    refine (Node.fires_mapAll Msg.users [p.view _]).mpr ⟨_, ?_, rfl⟩
    simp [UsersPage.view, rows, View.fires_retry]
  | editor p =>
    rw [hs] at failed
    obtain ⟨same, failed⟩ := Prod.mk.inj (Option.some.inj failed)
    have rows : p.rows = .failed message := Loadable.failed_of_map failed
    have press : a.press (.editor .retry) = a.put .editor (p.reload a.number) := press_editor hs _
    refine ⟨_, _, rfl, rfl, same ▸ retries_of_press press rfl rfl
      (Api.request_loadRows _ _) fun s => ?_⟩
    rw [hs]
    refine (Node.fires_mapAll Msg.editor [p.view _]).mpr ⟨_, ?_, rfl⟩
    simp [EditorPage.view, rows, View.fires_retry]
  | browser p =>
    rw [hs] at failed
    obtain ⟨same, failed⟩ := Prod.mk.inj (Option.some.inj failed)
    have rows : p.rows = .failed message := Loadable.failed_of_map failed
    have press : a.press (.browser .retry) = a.put .browser (p.reload a.number) :=
      press_browser hs _
    refine ⟨_, _, rfl, rfl, same ▸ retries_of_press press rfl rfl
      (Api.request_loadRows _ _) fun s => ?_⟩
    rw [hs]
    refine (Node.fires_mapAll Msg.browser [p.view _]).mpr ⟨_, ?_, rfl⟩
    simp [BrowserPage.view, rows, View.fires_retry]
  | myCars p =>
    rw [hs] at failed
    obtain ⟨same, failed⟩ := Prod.mk.inj (Option.some.inj failed)
    have rows : p.cars = .failed message := Loadable.failed_of_map failed
    have press : a.press (.myCars .retry) = a.put .myCars (p.reload a.number) := by
      simp only [App.press, hs]
      rfl
    refine ⟨_, _, rfl, rfl, same ▸ retries_of_press press rfl rfl (fun _ => rfl) fun s => ?_⟩
    rw [hs]
    refine (Node.fires_mapAll Msg.myCars [p.view]).mpr ⟨_, ?_, rfl⟩
    simp [MyCarsPage.view, rows, View.fires_retry]
  | _ => rw [hs] at failed; cases failed

/-! ## Top theorem -/

/-- **The pager and its rows**, on every run.  When rows are shown the bar is about the answer that
brought them; while they load a load of them is awaited; when that has failed, the button to try again
asks for just the page where the pager stands. -/
theorem pager_of_rows (policy : MalformedPolicy) (storage : Storage) (now : Binary64)
    (path : String) (events : List Event) :
    let a := (start (.fresh policy storage now) path).run events
    (∀ pager page, a.screen.paged? = some (pager, .ready page) → pager.Describes page.info) ∧
    (∀ pager, a.screen.paged? = some (pager, .loading) → ∃ t ∈ a.tasks,
      t.fits a.screen.kind = true ∧ ∃ query, t.listRequest? a.number = some (.load query)) ∧
    ∀ pager message, a.screen.paged? = some (pager, .failed message) →
      ∃ msg path, a.screen.retry? = some msg ∧ a.screen.listPath? = some path ∧
        a.Retries msg path pager := by
  intro a
  have blank : (start (.fresh policy storage now) path).screen.paged? = none := by
    rcases screen_start policy storage now path with h | h
    · rw [h]
      rfl
    · rw [h]
      rfl
  have owned : a.stage.Owned := Stage.owned_run _ path events
  have told : a.stage.Told := Stage.told_run blank events
  refine ⟨fun pager page h => ?_, fun pager h => ?_, fun pager message h => retries_of_failed h⟩
  · rw [told.ready pager page h]
    exact Pager.describes_observe page.info pager
  · obtain ⟨t, ht, query, asks⟩ := told.loading pager h
    exact ⟨t, ht, (owned t ht).fits (Task.page_of_listRequest asks), query, asks⟩

end App

end CarCatalog
