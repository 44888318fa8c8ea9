import CarCatalog.Proofs.App.Rows
import CarCatalog.Proofs.App.Shown
import CarCatalog.Proofs.App.Turn
import CarCatalog.Proofs.Catalog.Trail

/-!
# The way back

The browser keeps the labels of what was opened beside the trail.  One ignores what the other does not:
the trail takes no fifth id, the labels take whatever comes.  But nothing is offered that would part them,
so as long as no click is made that the view does not offer, they are the ids and the labels of the rows
that were opened and not left again (`retraced`).

    c.Turn e c' → c'.number = c.number → e opens nothing and does not go back →
      c'.screen.crumbs? = c.screen.crumbs?                                    (crumbs_of_turn)
    a.Opens rows e rows' → a.Retraces rows → (a.step e).Retraces rows'        (retraces_step)
-/

namespace CarCatalog

open Node

/-- The trail of the browser, and the labels beside it. -/
def Screen.crumbs? : Screen → Option (Trail × List String)
  | .browser p => some (p.trail, p.picked)
  | _ => none

/-- What is clicked in the browser. -/
def App.Event.clicked? : App.Event → Option BrowserPage.Msg
  | .press (.browser m) => some m
  | _ => none

/-- An event that moves along the trail of the browser. -/
inductive App.Event.Moves : App.Event → Prop
  | enter (id : Int64) : Moves (.press (.browser (.enter id)))
  | back : Moves (.press (.browser .back))

namespace App

/-- No click is made in the browser that is not offered. -/
def OnlyOffered (a : App) : List Event → Prop
  | [] => True
  | e :: es => (∀ m ∈ e.clicked?, .browser m ∈ a.offers) ∧ (a.step e).OnlyOffered es

instance decidableOnlyOffered : (a : App) → (es : List Event) → Decidable (a.OnlyOffered es)
  | _, [] => .isTrue trivial
  | a, e :: es =>
    have := decidableOnlyOffered (a.step e) es
    inferInstanceAs (Decidable (_ ∧ _))

/-- The rows opened and not left again, after an event: a click opens the first row shown that has its id. -/
inductive Opens (a : App) (rows : List Row) : Event → List Row → Prop
  | opened {p : BrowserPage} {page : Page Row} {front back : List Row} {r : Row}
    (screen : a.screen = .browser p) (ready : p.rows = .ready page)
    (shown : page.data = front ++ r :: back) (first : ∀ other ∈ front, other.id ≠ r.id) :
    Opens a rows (.press (.browser (.enter r.id))) (rows ++ [r])
  | left {p : BrowserPage} (screen : a.screen = .browser p) :
    Opens a rows (.press (.browser .back)) rows.dropLast
  | mounted {e : Event} (number : (a.step e).number ≠ a.number) : Opens a rows e []
  | kept {e : Event} (number : (a.step e).number = a.number) (stays : ¬e.Moves) : Opens a rows e rows

/-- The rows opened and not left again, after some events. -/
inductive Opened : App → List Row → List Event → List Row → Prop
  | nil (a : App) (rows : List Row) : Opened a rows [] rows
  | cons {a : App} {e : Event} {es : List Event} {rows mid rows' : List Row}
    (first : a.Opens rows e mid) (rest : Opened (a.step e) mid es rows') :
    Opened a rows (e :: es) rows'

/-- The trail and the labels are those of rows. -/
def Retraces (a : App) (rows : List Row) : Prop :=
  ∀ trail picked, a.screen.crumbs? = some (trail, picked) →
    trail.toList = rows.map (·.id) ∧ picked = rows.map (·.label)

end App

/-! ## What keeps the trail -/

namespace Screen

variable {n : Nat} {s : Screen} {step : Screen × List Task}

theorem crumbs_of_presses {msg : Msg} (h : s.Presses n msg step)
    (stays : ¬(App.Event.press msg).Moves) : step.1.crumbs? = s.crumbs? := by
  cases h with
  | browser p m =>
    have turned (move : Bool × Pager) :
        crumbs? (.browser (p.turn n move).1) = crumbs? (.browser p) := by
      unfold BrowserPage.turn
      split <;> rfl
    cases m with
    | enter id => exact absurd (.enter id) stays
    | back => exact absurd .back stays
    | save spec => rfl
    | previous => exact turned p.pager.previous
    | next => exact turned p.pager.next
    | retry => rfl
  | _ => rfl

theorem crumbs_of_rebuilds (h : s.Rebuilds n step) : step.1.crumbs? = s.crumbs? := by
  cases h <;> rfl

theorem crumbs_of_succeeds {action : Action} (h : s.Succeeds n action step) :
    step.1.crumbs? = s.crumbs? := by
  cases h <;> rfl

theorem crumbs_of_complains {message : String} {action : Action} {s' : Screen}
    (h : s.Complains message action s') : s'.crumbs? = s.crumbs? := by
  cases h <;> rfl

theorem crumbs_of_answers {reply : Api.Reply} {t : Task} (h : s.Answers n reply t step) :
    step.1.crumbs? = s.crumbs? := by
  cases h with
  | succeeded _ h => exact crumbs_of_succeeds h
  | refused _ _ h => exact crumbs_of_complains h
  | _ => rfl

/-- A new browser stands at the root. -/
theorem crumbs_build {kind : ScreenKind} {trail : Trail} {picked : List String}
    (h : (kind.build n).1.crumbs? = some (trail, picked)) : trail = .root ∧ picked = [] := by
  cases kind <;> cases h
  exact ⟨rfl, rfl⟩

end Screen

namespace Stage

variable {c c' : Stage} {e : App.Event}

theorem crumbs_of_turn (h : c.Turn e c') (number : c'.number = c.number) (stays : ¬e.Moves) :
    c'.screen.crumbs? = c.screen.crumbs? := by
  cases h with
  | idle => rfl
  | pressed h => exact Screen.crumbs_of_presses h stays
  | rebuilt h => exact Screen.crumbs_of_rebuilds h
  | mounted => exact absurd number (Nat.succ_ne_self _)
  | received h =>
    cases h with
    | answered _ _ h => exact Screen.crumbs_of_answers h
    | stray => rfl
    | crashed => rfl

theorem crumbs_of_mounted (h : c.Turn e c') (number : c'.number ≠ c.number) {trail : Trail}
    {picked : List String} (now : c'.screen.crumbs? = some (trail, picked)) :
    trail = .root ∧ picked = [] := by
  cases h with
  | mounted e kind => exact Screen.crumbs_build now
  | received h => cases h <;> exact absurd rfl number
  | _ => exact absurd rfl number

end Stage

namespace App

variable {a : App} {e : Event} {rows rows' : List Row}

/-! ## What is offered -/

theorem browser_of_offers (placed : a.Placed) {m : BrowserPage.Msg} (h : .browser m ∈ a.offers) :
    ∃ p maySave, a.screen = .browser p ∧ Fires [p.view maySave] m := by
  obtain ⟨element, he, click⟩ := List.mem_filterMap.mp h
  have fires : Fires a.view (.browser m) := by
    split at click
    · cases click
    · exact fires_of_click he click
  rcases view_cases placed with quiet | ⟨part, route, allowed, -⟩
  · cases quiet.2 _ fires
  · rw [view_of_allowed route allowed] at fires
    obtain ⟨-, -, inside⟩ := shows_shell a.account.session (menuOf a.account.session.role) a.path
      (content a.account.session a.screen)
    have fires := ((inside _).mp fires).resolve_left nofun
    have kind := isIn_content_iff.mp (.inr ⟨_, fires, rfl⟩ : Section.catalog.IsIn _)
    cases hs : a.screen with
    | browser p =>
      rw [hs] at fires
      obtain ⟨m', fires, same⟩ := (fires_mapAll Msg.browser [p.view _]).mp fires
      cases same
      exact ⟨p, _, rfl, fires⟩
    | _ =>
      rw [hs] at kind
      cases kind

/-! ## Steps -/

theorem exists_opens (placed : a.Placed)
    (offered : ∀ m ∈ e.clicked?, .browser m ∈ a.offers) (rows : List Row) :
    ∃ rows', a.Opens rows e rows' := by
  by_cases moves : e.Moves
  · cases moves with
    | enter id =>
      obtain ⟨p, maySave, screen, fires⟩ := browser_of_offers placed (offered _ rfl)
      obtain ⟨-, page, ready, r, hr, same⟩ := BrowserPage.row_of_fires fires
      obtain ⟨first, found⟩ : ∃ first, Row.find? page.data id = some first := by
        rw [← Option.isSome_iff_exists, Row.find?, List.find?_isSome]
        exact ⟨r, hr, by simpa using same⟩
      obtain ⟨is_id, front, back, shown, before⟩ := List.find?_eq_some_iff_append.mp found
      have is_id : first.id = id := by simpa using is_id
      subst is_id
      exact ⟨_, .opened screen ready shown fun other h => by simpa using before other h⟩
    | back =>
      obtain ⟨p, -, screen, -⟩ := browser_of_offers placed (offered _ rfl)
      exact ⟨_, .left screen⟩
  · by_cases number : (a.step e).number = a.number
    · exact ⟨_, .kept number moves⟩
    · exact ⟨_, .mounted number⟩

/-- What is clicked is found in the rows as the first one of its id. -/
theorem labelOf_of_shown {p : BrowserPage} {page : Page Row} {front back : List Row} {r : Row}
    (ready : p.rows = .ready page) (shown : page.data = front ++ r :: back)
    (first : ∀ other ∈ front, other.id ≠ r.id) : p.labelOf r.id = r.label := by
  have found : Row.find? p.rows.items r.id = some r := by
    refine List.find?_eq_some_iff_append.mpr ⟨by simp, front, back, ?_, fun other h => ?_⟩
    · rw [ready]
      exact shown
    · simpa using first other h
  rw [BrowserPage.labelOf, found]
  rfl

theorem retraces_step (placed : a.Placed)
    (offered : ∀ m ∈ e.clicked?, .browser m ∈ a.offers) (opens : a.Opens rows e rows')
    (h : a.Retraces rows) : (a.step e).Retraces rows' := by
  intro trail picked now
  have turn := turn_step a e
  cases opens with
  | @opened p page front back r screen ready shown first =>
    obtain ⟨p', maySave, screen', fires⟩ := browser_of_offers placed (offered _ rfl)
    cases screen.symm.trans screen'
    obtain ⟨inner, -⟩ := BrowserPage.row_of_fires fires
    obtain ⟨ids, labels⟩ := h p.trail p.picked (by rw [screen]; rfl)
    have room : p.trail.toList.length < 4 := by
      have := p.trail.length_toList_le
      have := mt p.trail.isLeaf_iff.mpr (Bool.eq_false_iff.mp inner)
      omega
    rw [step, press_browser screen] at now
    cases now
    show (p.trail.descend r.id).toList = _ ∧ p.picked ++ [p.labelOf r.id] = _
    rw [Trail.toList_descend, if_pos room, ids, labels, labelOf_of_shown ready shown first,
      List.map_append, List.map_append]
    exact ⟨rfl, rfl⟩
  | @left p screen =>
    obtain ⟨ids, labels⟩ := h p.trail p.picked (by rw [screen]; rfl)
    rw [step, press_browser screen] at now
    cases now
    show p.trail.ascend.toList = _ ∧ p.picked.dropLast = _
    rw [Trail.toList_ascend, ids, labels, List.map_dropLast, List.map_dropLast]
    exact ⟨rfl, rfl⟩
  | mounted number =>
    obtain ⟨rfl, rfl⟩ := Stage.crumbs_of_mounted turn number now
    exact ⟨rfl, rfl⟩
  | kept number stays =>
    have kept := Stage.crumbs_of_turn turn number stays
    exact h trail picked (kept.symm.trans now)

/-! ## Runs -/

theorem exists_opened (placed : a.Placed) {events : List Event} (offered : a.OnlyOffered events)
    (rows : List Row) : ∃ rows', Opened a rows events rows' := by
  induction events generalizing a rows with
  | nil => exact ⟨rows, .nil a rows⟩
  | cons e es ih =>
    obtain ⟨mid, first⟩ := exists_opens placed offered.1 rows
    obtain ⟨rows', rest⟩ := ih (placed_step placed e) offered.2 mid
    exact ⟨rows', .cons first rest⟩

theorem retraces_run (placed : a.Placed) {events : List Event} (offered : a.OnlyOffered events)
    (opened : Opened a rows events rows') (h : a.Retraces rows) : (a.run events).Retraces rows' := by
  induction opened with
  | nil => exact h
  | @cons a e es rows mid rows' first rest ih =>
    exact ih (placed_step placed e) offered.2 (retraces_step placed offered.1 first h)

theorem retraces_start (policy : MalformedPolicy) (storage : Storage) (now : Binary64)
    (path : String) (rows : List Row) :
    (App.start (.fresh policy storage now) path).Retraces rows := by
  intro trail picked shown
  rcases screen_start policy storage now path with blank | login
  · rw [blank] at shown
    cases shown
  · rw [login] at shown
    cases shown

/-! ## Top theorem -/

/-- **The way down and back.**  Moves leave the trail, and the four picks, as they leave a stack of at most
four ids.  On any run on which the browser is only clicked where it offers it, the trail and the labels
are the ids and the labels of the rows opened and not left again. -/
theorem retraced :
    (∀ moves, Trail.Refines (stacked [] moves) (Trail.root.after moves) (Picks.blank.after moves)) ∧
    ∀ (policy : MalformedPolicy) (storage : Storage) (now : Binary64) (path : String)
      (events : List Event),
      let start := App.start (.fresh policy storage now) path
      start.OnlyOffered events →
        (∃ rows, Opened start [] events rows) ∧
        ∀ rows p, Opened start [] events rows → (start.run events).screen = .browser p →
          p.trail.toList = rows.map (·.id) ∧ p.picked = rows.map (·.label) ∧
            p.picked.length = p.trail.toList.length := by
  refine ⟨Trail.refines_after, fun policy storage now path events => ?_⟩
  intro start offered
  have placed : start.Placed := placed_start _ _
  refine ⟨exists_opened placed offered [], fun rows p opened screen => ?_⟩
  have retraces := retraces_run placed offered opened (retraces_start policy storage now path [])
  obtain ⟨ids, labels⟩ := retraces p.trail p.picked (by rw [screen]; rfl)
  refine ⟨ids, labels, ?_⟩
  rw [ids, labels, List.length_map, List.length_map]

/-- The browser of an administrator who comes back to the catalog. -/
def catalogVisit : App :=
  App.start (.fresh .retain ⟨.works, [(tokenKey, adminCredential)]⟩ (.ofNat 0)) "/catalog"

/-- A brand is opened, then a model of it, which is left again. -/
def strolling : List Event :=
  [.bootstrap, .refresh, .send, .answer 0 brandsReply,
    .press (.browser (.enter 1)), .refresh, .send, .answer 0 modelsReply,
    .press (.browser (.enter 11)), .refresh, .press (.browser .back)]

/-- The brand is the row that is opened and not left. -/
theorem retraced_strolling : catalogVisit.OnlyOffered strolling ∧
    ∃ rows, Opened catalogVisit [] strolling rows ∧ rows.map (·.id) = [1] ∧
      rows.map (·.label) = ["VW"] := by
  obtain ⟨offered, crumbs⟩ : catalogVisit.OnlyOffered strolling ∧
      (catalogVisit.run strolling).screen.crumbs? = some (.brand 1, ["VW"]) := by
    decide +kernel
  obtain ⟨-, onRuns⟩ := retraced
  obtain ⟨⟨rows, opened⟩, exactly⟩ := onRuns .retain ⟨.works, [(tokenKey, adminCredential)]⟩
    (.ofNat 0) "/catalog" strolling offered
  cases screen : (catalogVisit.run strolling).screen with
  | browser p =>
    rw [screen] at crumbs
    obtain ⟨trail, picked⟩ := Prod.mk.inj (Option.some.inj crumbs)
    obtain ⟨ids, labels, -⟩ := exactly rows p opened screen
    exact ⟨offered, rows, opened, by rw [← ids, trail]; rfl, by rw [← labels, picked]⟩
  | _ =>
    rw [screen] at crumbs
    cases crumbs

end App

end CarCatalog
