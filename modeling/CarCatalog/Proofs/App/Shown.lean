import CarCatalog.App.View
import CarCatalog.Proofs.App.Placed
import CarCatalog.Proofs.Credential
import CarCatalog.Proofs.Route.Redirects
import CarCatalog.Proofs.Screen.Pages

/-!
# What is shown is permitted

The view follows the session: whatever happened before, a section's page is in the view only while
its gates allow it, and the buttons of a row are those that the user of the moment may press.

    part.IsIn (content s screen) ↔ screen.kind = part.screen                      (isIn_content_iff)
    a.Placed → (part.IsIn a.view ↔ Route.ofPath a.path = .part part ∧
      (s.sectionGate part).isAllowed ∧ a.screen.kind = part.screen)               (isIn_view_iff)
-/

namespace CarCatalog

open Node

/-- The section that a message is meant for. -/
def Msg.part? : Msg → Option Section
  | .users _ => some .users
  | .editor _ => some .carSpecs
  | .browser _ => some .catalog
  | .myCars _ => some .myCars
  | .login _ | .logout => none

/-- Something of a section is in a view: the root of its page, or a handler that is meant for it. -/
def Section.IsIn (part : Section) (view : List (Node Msg)) : Prop :=
  part ∈ pages view ∨ ∃ m, Fires view m ∧ m.part? = some part

namespace App

/-! ## Buttons of rows -/

/-- The clicks of a row in the editor: a record can be changed by those who may modify it. -/
def editorClicks (s : Session) (p : EditorPage) (r : Row) : List (String × Msg) :=
  (if p.trail.level.isLeaf then [] else [(seen r.label, .editor (.enter r.id))]) ++
    if s.identity.any (·.canModify r.createdBy) then
      [("Edit", .editor (.edit r.id)), ("Delete", .editor (.delete r.id))]
    else []

/-- The clicks of a row in the browser: a spec can be saved by those who have cars of their own. -/
def browserClicks (s : Session) (p : BrowserPage) (r : Row) : List (String × Msg) :=
  if p.trail.level.isLeaf then
    if Section.myCars.permits s.role then [("Add to My Cars", .browser (.save r.id))] else []
  else [(seen r.label, .browser (.enter r.id))]

/-- The clicks of a user's row: all but oneself can be deleted. -/
def userClicks (s : Session) (u : User) : List (String × Msg) :=
  [("Roles", .users (.roles u)), ("Edit", .users (.edit u))] ++
    if s.identity.map Identity.id = some u.id then [] else [("Delete", .users (.delete u.id))]

/-- The rows of a view are those of a list, in order, and can be clicked as expected. -/
def RowsClick {ρ : Type} (view : List (Node Msg)) (rows : List ρ)
    (expected : ρ → List (String × Msg)) : Prop :=
  (tableRows view).map (fun row => clicks [row]) = rows.map expected

/-- What the user of a session finds in a view, with a page mounted. -/
structure Guarded (s : Session) (screen : Screen) (view : List (Node Msg)) : Prop where
  signedIn : ∀ part : Section, part.IsIn view → s.loading = false ∧ s.isAuthenticated = true
  users : Section.users.IsIn view → s.role = some .admin
  carSpecs : Section.carSpecs.IsIn view → s.role = some .admin ∨ s.role = some .carSpec
  myCars : Section.myCars.IsIn view → s.role = some .admin ∨ s.role = some .user
  save : ∀ id, Fires view (.browser (.save id)) → Section.myCars.permits s.role = true
  editorRows : ∀ p, screen = .editor p → Section.carSpecs.IsIn view →
    RowsClick view p.rows.items (editorClicks s p)
  browserRows : ∀ p, screen = .browser p → Section.catalog.IsIn view →
    RowsClick view p.rows.items (browserClicks s p)
  userRows : ∀ p, screen = .users p → Section.users.IsIn view →
    RowsClick view p.users.items (userClicks s)
  noRows : (∀ part : Section, ¬part.IsIn view) → tableRows view = []

/-! ## Lemmas -/

/-! ### The frame -/

theorem plain_link (path : String) (part : Section) : Plain [link path part] := by
  rw [link, plain_element (by decide)]
  refine ⟨?_, by simp, plain_nil⟩
  split <;> rfl

theorem not_fires_link (path : String) (part : Section) (m : Msg) : ¬Fires [link path part] m := by
  simp [link]

/-- The frame adds the menu and the way out to what it holds. -/
theorem shows_shell (s : Session) (menu : List Section) (path : String)
    (content : List (Node Msg)) :
    pages [shell s menu path content] = pages content ∧
      tableRows [shell s menu path content] = tableRows content ∧
      ∀ m, Fires [shell s menu path content] m ↔ m = .logout ∨ Fires content m := by
  have links : Plain (menu.map (link path)) := plain_list.mpr fun part _ => plain_link path part
  have badge : Plain ((s.identity.bind Identity.badge).toList.map
      (fun role => (el "span" "role-badge" [.text role] : Node Msg))) :=
    plain_list.mpr fun role _ => by simp
  refine ⟨?_, ?_, fun m => ?_⟩
  · simp [shell, links.1, badge.1]
  · simp [shell, links.2, badge.2]
  · have noLinks : ¬Fires (menu.map (link path)) m := by
      rw [fires_list]
      rintro ⟨part, -, h⟩
      exact not_fires_link path part m h
    simp [shell, fires_list, noLinks, eq_comm]

/-- Nothing of any section is in a view. -/
def Quiet (view : List (Node Msg)) : Prop := Plain view ∧ ∀ m, Fires view m → m.part? = none

theorem Quiet.not_isIn {view : List (Node Msg)} (h : Quiet view) (part : Section) :
    ¬part.IsIn view := by
  rintro (page | ⟨m, fires, meant⟩)
  · rw [h.1.1] at page
    cases page
  · rw [h.2 m fires] at meant
    cases meant

theorem quiet_spinner (label : String) : Quiet [View.spinner label] :=
  ⟨View.plain_spinner.mpr plain_nil, fun _ fires => absurd fires View.not_fires_spinner⟩

theorem quiet_shell {s : Session} {menu : List Section} {path : String} {content : List (Node Msg)}
    (h : Quiet content) : Quiet [shell s menu path content] := by
  obtain ⟨pages, rows, fires⟩ := shows_shell s menu path content
  refine ⟨⟨pages.trans h.1.1, rows.trans h.1.2⟩, fun m hm => ?_⟩
  rcases (fires m).mp hm with rfl | inside
  · rfl
  · exact h.2 m inside

theorem quiet_layout {s : Session} {path : String} {content : List (Node Msg)} (h : Quiet content) :
    Quiet [layout s path content] := by
  unfold layout
  split
  · exact quiet_shell h
  · exact quiet_spinner _

/-! ### Pages -/

section Pages

variable {μ ρ : Type} {n : Node μ} {own : Section}

theorem isIn_map {rows : List (Node μ)} (shows : Shows [n] own rows) {f : μ → Msg}
    (meant : ∀ m, (f m).part? = some own) {part : Section} : part.IsIn [n.map f] ↔ part = own := by
  have root : pages [n.map f] = [own] := (pages_mapAll f [n]).trans shows.pages
  constructor
  · rintro (page | ⟨m, fires, hm⟩)
    · rw [root] at page
      exact List.mem_singleton.mp page
    · obtain ⟨m, -, rfl⟩ := (fires_mapAll f [n]).mp fires
      rw [meant] at hm
      exact (Option.some.inj hm).symm
  · rintro rfl
    exact .inl (by rw [root]; exact List.mem_singleton_self _)

theorem clicks_rows_map {rows : List ρ} {row : ρ → Node μ} (shows : Shows [n] own (rows.map row))
    (f : μ → Msg) :
    (tableRows [n.map f]).map (fun r => clicks [r]) =
      rows.map fun r => (clicks [row r]).map (Prod.map id f) := by
  have mapped : tableRows [n.map f] = (rows.map row).map (map f) :=
    (tableRows_mapAll f [n]).trans (by rw [shows.rows])
  rw [mapped, List.map_map, List.map_map]
  exact List.map_congr_left fun r _ => clicks_mapAll f [row r]

end Pages

theorem quiet_content {s : Session} {screen : Screen}
    (h : screen.kind = .blank ∨ screen.kind = .login) : Quiet (content s screen) := by
  cases screen with
  | blank => exact ⟨plain_nil, fun m fires => absurd fires (not_fires_nil m)⟩
  | login f =>
    refine ⟨(plain_mapAll Msg.login [f.view]).mpr f.plain_view, fun m fires => ?_⟩
    obtain ⟨m, -, rfl⟩ := (fires_mapAll Msg.login [f.view]).mp fires
    rfl
  | _ => rcases h with h | h <;> cases h

/-- A page's content is that of its section. -/
theorem isIn_content_iff {s : Session} {screen : Screen} {part : Section} :
    part.IsIn (content s screen) ↔ screen.kind = part.screen := by
  cases screen with
  | blank =>
    refine ⟨fun h => absurd h ((quiet_content (.inl rfl)).not_isIn part), fun h => ?_⟩
    cases part <;> cases h
  | login f =>
    refine ⟨fun h => absurd h ((quiet_content (.inr rfl)).not_isIn part), fun h => ?_⟩
    cases part <;> cases h
  | users p =>
    rw [content, isIn_map (p.shows _) fun _ => rfl]
    cases part <;> simp [Screen.kind, Section.screen]
  | editor p =>
    rw [content, isIn_map (p.shows _) fun _ => rfl]
    cases part <;> simp [Screen.kind, Section.screen]
  | browser p =>
    rw [content, isIn_map (p.shows _) fun _ => rfl]
    cases part <;> simp [Screen.kind, Section.screen]
  | myCars p =>
    rw [content, isIn_map p.shows fun _ => rfl]
    cases part <;> simp [Screen.kind, Section.screen]

/-! ### Rows -/

theorem rowsClick_editor (s : Session) (p : EditorPage) :
    RowsClick (content s (.editor p)) p.rows.items (editorClicks s p) := by
  refine (clicks_rows_map (p.shows _) Msg.editor).trans (List.map_congr_left fun r _ => ?_)
  rw [View.clicks_tableRow, editorClicks]
  by_cases leaf : p.trail.level.isLeaf = true <;>
    by_cases mine : s.identity.any (·.canModify r.createdBy) = true <;>
      simp [EditorPage.actions, leaf, mine]

theorem rowsClick_users (s : Session) (p : UsersPage) :
    RowsClick (content s (.users p)) p.users.items (userClicks s) := by
  refine (clicks_rows_map (p.shows _) Msg.users).trans (List.map_congr_left fun u _ => ?_)
  rw [UsersPage.clicks_userRow, userClicks]
  split <;> rfl

/-- A section's gate allows one who is signed in and permitted. -/
theorem sectionGate_allows_iff {s : Session} {part : Section} :
    (s.sectionGate part).isAllowed = true ↔
      s.phase = .authenticated ∧ part.permits s.role = true := by
  rw [Session.sectionGate_eq]
  cases s.phase <;> simp [ViewGate.isAllowed]

theorem rowsClick_browser {s : Session} (signedIn : s.phase = .authenticated) (p : BrowserPage) :
    RowsClick (content s (.browser p)) p.rows.items (browserClicks s p) := by
  refine (clicks_rows_map (p.shows _) Msg.browser).trans (List.map_congr_left fun r _ => ?_)
  have maySave : (s.sectionGate .myCars).isAllowed = Section.myCars.permits s.role := by
    rw [Bool.eq_iff_iff, sectionGate_allows_iff]
    exact and_iff_right signedIn
  rw [View.clicks_tableRow, browserClicks, maySave, BrowserPage.actions]
  cases p.trail.level.isLeaf <;> cases Section.myCars.permits s.role <;> rfl

theorem permits_of_fires_save {s : Session} {screen : Screen} {id : Int64}
    (fires : Fires (content s screen) (.browser (.save id))) :
    Section.myCars.permits s.role = true := by
  have shown : Section.catalog.IsIn (content s screen) := .inr ⟨_, fires, rfl⟩
  have kind := isIn_content_iff.mp shown
  cases screen with
  | browser p =>
    obtain ⟨m, hm, same⟩ := (fires_mapAll Msg.browser [p.view _]).mp fires
    cases same
    exact (sectionGate_allows_iff.mp (BrowserPage.maySave_of_fires hm)).2
  | _ => cases kind

/-! ### The view -/

/-- The frame shows of the sections what it holds. -/
theorem isIn_shell_iff {s : Session} {menu : List Section} {path : String}
    {content : List (Node Msg)} {part : Section} :
    part.IsIn [shell s menu path content] ↔ part.IsIn content := by
  obtain ⟨pages, -, fires⟩ := shows_shell s menu path content
  unfold Section.IsIn
  rw [pages]
  refine or_congr_right ⟨fun ⟨m, hm, meant⟩ => ?_, fun ⟨m, hm, meant⟩ => ?_⟩
  · rcases (fires m).mp hm with rfl | inside
    · cases meant
    · exact ⟨m, inside, meant⟩
  · exact ⟨m, (fires m).mpr (.inr hm), meant⟩

theorem screen_inj {part other : Section} : part.screen = other.screen ↔ part = other := by
  cases part <;> cases other <;> simp [Section.screen]

/-- At a section whose gate allows it, the frame holds the content of what is mounted. -/
theorem view_of_allowed {a : App} {part : Section} (route : Route.ofPath a.path = .part part)
    (allowed : (a.account.session.sectionGate part).isAllowed = true) :
    a.view = [shell a.account.session (menuOf a.account.session.role) a.path
      (content a.account.session a.screen)] := by
  unfold view
  rw [route]
  dsimp only
  rw [sectionPage, if_pos allowed, layout, Session.layoutGate_eq,
    (sectionGate_allows_iff.mp allowed).1]

/-- A view shows nothing of any section, or the path is that of a section whose gate allows it and
whose page is mounted. -/
theorem view_cases {a : App} (placed : a.Placed) :
    Quiet a.view ∨ ∃ part, Route.ofPath a.path = .part part ∧
      (a.account.session.sectionGate part).isAllowed = true ∧ a.screen.kind = part.screen := by
  unfold Placed at placed
  cases route : Route.ofPath a.path with
  | login =>
    rw [route] at placed
    unfold view
    rw [route]
    dsimp only
    rw [loginPage]
    split
    · exact .inl (quiet_content placed)
    · exact .inl (quiet_spinner _)
  | home =>
    unfold view
    rw [route]
    exact .inl (quiet_layout (quiet_spinner _))
  | unknown =>
    unfold view
    rw [route]
    exact .inl ⟨plain_nil, fun m fires => absurd fires (not_fires_nil m)⟩
  | part p =>
    rw [route] at placed
    by_cases allowed : (a.account.session.sectionGate p).isAllowed = true
    · rcases placed with blank | kind
      · rw [view_of_allowed route allowed]
        exact .inl (quiet_shell (quiet_content (.inl blank)))
      · exact .inr ⟨p, rfl, allowed, kind⟩
    · unfold view
      rw [route]
      dsimp only
      rw [sectionPage, if_neg allowed]
      exact .inl (quiet_layout (quiet_spinner _))

/-- A section is in the view exactly when the path is its own, its gate allows it, and its page is
mounted. -/
theorem isIn_view_iff {a : App} (placed : a.Placed) {part : Section} :
    part.IsIn a.view ↔ Route.ofPath a.path = .part part ∧
      (a.account.session.sectionGate part).isAllowed = true ∧ a.screen.kind = part.screen := by
  constructor
  · intro shown
    rcases view_cases placed with quiet | ⟨own, route, allowed, kind⟩
    · exact absurd shown (quiet.not_isIn part)
    · rw [view_of_allowed route allowed, isIn_shell_iff, isIn_content_iff] at shown
      obtain rfl := screen_inj.mp (shown.symm.trans kind)
      exact ⟨route, allowed, kind⟩
  · rintro ⟨route, allowed, kind⟩
    rw [view_of_allowed route allowed, isIn_shell_iff, isIn_content_iff]
    exact kind

theorem guarded_of_quiet {s : Session} {screen : Screen} {view : List (Node Msg)} (h : Quiet view) :
    Guarded s screen view where
  signedIn _ shown := absurd shown (h.not_isIn _)
  users shown := absurd shown (h.not_isIn _)
  carSpecs shown := absurd shown (h.not_isIn _)
  myCars shown := absurd shown (h.not_isIn _)
  save _ fires := by cases h.2 _ fires
  editorRows _ _ shown := absurd shown (h.not_isIn _)
  browserRows _ _ shown := absurd shown (h.not_isIn _)
  userRows _ _ shown := absurd shown (h.not_isIn _)
  noRows _ := h.1.2

theorem guarded_shell {s : Session} {screen : Screen} {part : Section} (menu : List Section)
    (path : String) (allowed : (s.sectionGate part).isAllowed = true)
    (kind : screen.kind = part.screen) :
    Guarded s screen [shell s menu path (content s screen)] := by
  obtain ⟨-, rows, fires⟩ := shows_shell s menu path (content s screen)
  obtain ⟨signedIn, permitted⟩ := sectionGate_allows_iff.mp allowed
  have permits {other : Section} (shown : other.IsIn [shell s menu path (content s screen)]) :
      other.permits s.role = true := by
    have same := (isIn_content_iff.mp (isIn_shell_iff.mp shown)).symm.trans kind
    rw [screen_inj.mp same]
    exact permitted
  have rowsClick {ρ : Type} {list : List ρ} {expected : ρ → List (String × Msg)}
      (h : RowsClick (content s screen) list expected) :
      RowsClick [shell s menu path (content s screen)] list expected := by
    rw [RowsClick, rows]
    exact h
  exact {
    signedIn := fun _ _ => Session.phase_eq_authenticated_iff.mp signedIn
    users := fun shown => by simpa [Section.permits] using permits shown
    carSpecs := fun shown => by simpa [Section.permits] using permits shown
    myCars := fun shown => by simpa [Section.permits] using permits shown
    save := fun id h => by
      rcases (fires _).mp h with out | inside
      · cases out
      · exact permits_of_fires_save inside
    editorRows := fun p hs _ => rowsClick (hs ▸ rowsClick_editor s p)
    browserRows := fun p hs _ => rowsClick (hs ▸ rowsClick_browser signedIn p)
    userRows := fun p hs _ => rowsClick (hs ▸ rowsClick_users s p)
    noRows := fun nothing =>
      absurd (isIn_shell_iff.mpr (isIn_content_iff.mpr kind)) (nothing part) }

/-! ## Top theorem -/

/-- **What is shown.**  After any events, over any storage and clock: a section's page, or anything
that is meant for it, is in the view exactly when the path is the section's, its gate allows it and
its page is mounted.  So the session has loaded and is signed in, for the users as an administrator,
for the car specs and the user's own cars with a role for them; only with the latter can a spec be
saved.  The rows of the view are those of the list that is mounted, and the clicks of a row those
that the user of the moment may make. -/
theorem view_guarded (policy : MalformedPolicy) (storage : Storage) (now : Binary64) (path : String)
    (events : List Event) :
    let a := (App.start (.fresh policy storage now) path).run events
    let s := a.account.session
    (∀ part : Section, part.IsIn a.view ↔ Route.ofPath a.path = .part part ∧
      (s.sectionGate part).isAllowed = true ∧ a.screen.kind = part.screen) ∧
    Guarded s a.screen a.view := by
  intro a s
  have placed : a.Placed := placed_run (placed_start _ _) events
  refine ⟨fun part => isIn_view_iff placed, ?_⟩
  rcases view_cases placed with quiet | ⟨part, route, allowed, kind⟩
  · exact guarded_of_quiet quiet
  · rw [view_of_allowed route allowed]
    exact guarded_shell _ a.path allowed kind

/-- User 5 may change what they added themselves. -/
example :
    let credential := credentialOf
      (.record [("sub", .int 5), ("exp", .int 9999999999), ("role", .text "CarSpec")])
    let brands : Page Brand := ⟨[⟨1, "VW", 3⟩, ⟨2, "Audi", 5⟩], ⟨1, 10, 2, 1⟩⟩
    let a := (App.start (.fresh .retain ⟨.works, [(tokenKey, credential)]⟩ (.ofNat 0))
      "/car-spec").run
        [.bootstrap, .refresh, .send, .answer 0 (.arrived 200 (Wire.toJson brands).toBytes)]
    pages a.view = [.carSpecs] ∧ (tableRows a.view).map (fun row => clicks [row]) =
      [[("VW", .editor (.enter 1))],
        [("Audi", .editor (.enter 2)), ("Edit", .editor (.edit 2)),
          ("Delete", .editor (.delete 2))]] := by
  decide +kernel

end App

end CarCatalog
