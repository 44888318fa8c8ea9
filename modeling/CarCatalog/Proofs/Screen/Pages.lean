import CarCatalog.App.View
import CarCatalog.Proofs.View.Parts

/-!
# What the pages show

Every section's page is the page of that section and of no other, and the rows of its table are
those of its list, in order (`Node.Shows`).  The buttons of a row depend on what its page was told
of the user.
-/

namespace CarCatalog

open Node

variable {α : Type}

/-- A section's page, with these rows. -/
structure Node.Shows (view : List (Node α)) (part : Section) (rows : List (Node α)) : Prop where
  pages : pages view = [part]
  rows : tableRows view = rows

/-! ## Lemmas -/

/-- A page is a head, a notice, what it lists, and plain parts below. -/
theorem Node.shows_page {className : String} {part : Section}
    (root : Section.ofPageClass? className = some part) {head notice list below : List (Node α)}
    (hhead : Plain head) (hnotice : Plain notice) (hbelow : Plain below) (hlist : pages list = []) :
    Shows [el "section" className (head ++ (notice ++ (list ++ below)))] part (tableRows list) where
  pages := by
    have children : pages (head ++ (notice ++ (list ++ below))) = [] := by
      simp [hhead.1, hnotice.1, hbelow.1, hlist]
    rw [pages_el, root, children]
    rfl
  rows := by
    have children : tableRows (head ++ (notice ++ (list ++ below))) = tableRows list := by
      simp [hhead.2, hnotice.2, hbelow.2]
    rw [tableRows_el, children]
    simp

/-- A list shows the rows of its table once they are there. -/
theorem View.shows_list {β : Type} (value : Loadable (Page β)) (retry : α)
    {table : Page β → List (Node α)} {row : β → Node α}
    (shows : ∀ page, pages (table page) = [] ∧ tableRows (table page) = page.data.map row) :
    pages (loaded value retry table) = [] ∧
      tableRows (loaded value retry table) = value.items.map row := by
  rw [pages_loaded, tableRows_loaded]
  cases value with
  | loading => exact ⟨rfl, rfl⟩
  | failed message => exact ⟨rfl, rfl⟩
  | ready page => exact shows page

theorem LoginForm.plain_view (f : LoginForm) : Plain [f.view] := by
  simp [view]

/-! ### The users page -/

theorem UserForm.plain_view (f : UserForm) : Plain [f.view] := by
  simp [view]

namespace RolesPanel

theorem plain_heldRole (r : RoleRecord) : Plain [heldRole r] := by
  simp [heldRole]

theorem plain_option (name : String) : Plain [option name] := ⟨rfl, rfl⟩

theorem plain_roles (p : RolesPanel) (held : List RoleRecord) : Plain (p.roles held) := by
  have listed : Plain (held.map heldRole) := plain_list.mpr fun r _ => plain_heldRole r
  have options : Plain (.element "option" [("value", .text "")] .none [.text "Select a role"] ::
      (p.options held).map option) :=
    plain_cons.mpr ⟨⟨rfl, rfl⟩, plain_list.mpr fun name _ => plain_option name⟩
  simp [roles, listed, options]

theorem plain_view (p : RolesPanel) : Plain [p.view] := by
  have roles : Plain (View.loaded p.held .retry p.roles) := View.plain_loaded p.plain_roles
  simp [view, roles]

end RolesPanel

namespace UsersPage

theorem plain_userRow (self : Option Int64) (u : User) : Plain [userRow self u] := by
  simp [userRow]

/-- The buttons of a user's row; there is none to delete oneself. -/
theorem clicks_userRow (self : Option Int64) (u : User) :
    clicks [userRow self u] =
      [("Roles", .roles u), ("Edit", .edit u)] ++
        if self = some u.id then [] else [("Delete", .delete u.id)] := by
  have roles : seen "Roles" = "Roles" := by decide
  have edit : seen "Edit" = "Edit" := by decide
  have delete : seen "Delete" = "Delete" := by decide
  by_cases own : self = some u.id
  · simp [userRow, shownIf, own, roles, edit]
  · simp [userRow, shownIf, own, roles, edit, delete]

theorem shows_table (self : Option Int64) (users : Page User) :
    pages (table self users) = [] ∧
      tableRows (table self users) = users.data.map (userRow self) := by
  have inside : Plain (users.data.map (userRow self)) :=
    plain_list.mpr fun u _ => plain_userRow self u
  constructor
  · simp [table, heading, inside.1]
  · simp [table, heading, inside.2]

theorem plain_createForm (p : UsersPage) : Plain [p.createForm] := by
  simp [createForm]

theorem plain_rolesOverview (p : UsersPage) : Plain [p.rolesOverview] := by
  have entries (roles : List RoleRecord) : Plain (roles.flatMap roleEntry) := by
    induction roles with
    | nil => exact plain_nil
    | cons r rs ih => simp [roleEntry, ih]
  have list (roles : List RoleRecord) :
      Plain [(el "dl" "roles-overview__list" (roles.flatMap roleEntry) : Node Msg)] := by
    simp [entries]
  simp [rolesOverview, View.plain_loaded list]

theorem plain_below (p : UsersPage) :
    Plain (View.pagerBar p.pager .previous .next ++ ([p.createForm] ++
      (p.form.built.toList.map (fun f => f.view.map Msg.form) ++
        (p.panel.built.toList.map (fun r => r.view.map Msg.panel) ++ [p.rolesOverview])))) := by
  have form : Plain (p.form.built.toList.map fun f => f.view.map Msg.form) :=
    plain_list.mpr fun f _ => (plain_mapAll _ [f.view]).mpr f.plain_view
  have panel : Plain (p.panel.built.toList.map fun r => r.view.map Msg.panel) :=
    plain_list.mpr fun r _ => (plain_mapAll _ [r.view]).mpr r.plain_view
  simp only [plain_append]
  exact ⟨View.plain_pagerBar, p.plain_createForm, form, panel, p.plain_rolesOverview⟩

theorem shows (self : Option Int64) (p : UsersPage) :
    Shows [p.view self] .users (p.users.items.map (userRow self)) := by
  obtain ⟨list, rows⟩ := View.shows_list p.users .retry (shows_table self)
  rw [← rows, view]
  simp only [List.append_assoc]
  exact shows_page rfl (by simp) (plain_notice rfl) p.plain_below list

end UsersPage

/-! ### The catalog -/

theorem View.shows_rowTable (actions : RowActions α) (page : Page Row) :
    pages [rowTable actions page.data] = [] ∧
      tableRows [rowTable actions page.data] = page.data.map (tableRow actions) :=
  ⟨pages_rowTable actions _, tableRows_rowTable actions _⟩

theorem RecordForm.plain_view (f : RecordForm) : Plain [f.view] := by
  have inputs : Plain f.inputs := by
    unfold inputs
    split <;> simp [input]
  simp [view, inputs]

theorem EditorPage.shows (mayChange : Int64 → Bool) (p : EditorPage) :
    Shows [p.view mayChange] .carSpecs
      (p.rows.items.map (View.tableRow (p.actions mayChange))) := by
  obtain ⟨list, rows⟩ := View.shows_list p.rows .retry (View.shows_rowTable (p.actions mayChange))
  have form : Plain [p.form.view.map Msg.form] :=
    (plain_mapAll _ [p.form.view]).mpr p.form.plain_view
  rw [← rows, view]
  simp only [List.append_assoc]
  exact shows_page rfl (by simp) (plain_notice rfl)
    (plain_append.mpr ⟨View.plain_pagerBar, form⟩) list

theorem BrowserPage.shows (maySave : Bool) (p : BrowserPage) :
    Shows [p.view maySave] .catalog (p.rows.items.map (View.tableRow (p.actions maySave))) := by
  obtain ⟨list, rows⟩ := View.shows_list p.rows .retry (View.shows_rowTable (p.actions maySave))
  rw [← rows, view]
  simp only [List.append_assoc]
  exact shows_page rfl (by simp) (plain_notice rfl) View.plain_pagerBar list

/-- What can be pressed in the browser. -/
theorem BrowserPage.fires_cases {maySave : Bool} {p : BrowserPage} {m : Msg}
    (h : Fires [p.view maySave] m) :
    m = .retry ∨ m = .previous ∨ m = .next ∨ m = .back ∧ p.trail.isRoot = false ∨
      ∃ page, p.rows = .ready page ∧
        ∃ r ∈ page.data, Fires [View.tableRow (p.actions maySave) r] m := by
  simp only [view, List.cons_append, List.nil_append, List.append_assoc, fires_el, fires_plain,
    fires_text, fires_button, fires_append, fires_shownIf, not_fires_nil, not_fires_notice,
    or_false, false_or, Bool.not_eq_true'] at h
  rcases h with ⟨root, rfl⟩ | h | h
  · exact .inr (.inr (.inr (.inl ⟨rfl, root⟩)))
  · rcases View.fires_loaded h with rfl | ⟨page, ready, h⟩
    · exact .inl rfl
    · exact .inr (.inr (.inr (.inr ⟨page, ready, View.fires_rowTable.mp h⟩)))
  · rcases View.fires_pagerBar h with rfl | rfl
    · exact .inr (.inl rfl)
    · exact .inr (.inr (.inl rfl))

/-- Only one who may save a spec is shown a button that does. -/
theorem BrowserPage.maySave_of_fires {maySave : Bool} {p : BrowserPage} {id : Int64}
    (h : Fires [p.view maySave] (.save id)) : maySave = true := by
  rcases fires_cases h with h | h | h | ⟨h, -⟩ | ⟨page, -, r, -, h⟩
  · cases h
  · cases h
  · cases h
  · cases h
  · rw [View.fires_tableRow] at h
    cases maySave with
    | true => rfl
    | false =>
      unfold actions at h
      split at h <;> simp [View.RowActions.none] at h

/-- Only rows that are shown can be opened, and none at the specs. -/
theorem BrowserPage.row_of_fires {maySave : Bool} {p : BrowserPage} {id : Int64}
    (h : Fires [p.view maySave] (.enter id)) :
    p.trail.level.isLeaf = false ∧ ∃ page, p.rows = .ready page ∧ ∃ r ∈ page.data, r.id = id := by
  rcases fires_cases h with h | h | h | ⟨h, -⟩ | ⟨page, ready, r, hr, h⟩
  · cases h
  · cases h
  · cases h
  · cases h
  · rw [View.fires_tableRow] at h
    unfold actions at h
    split at h
    · split at h <;> simp [View.RowActions.none] at h
    · next inner =>
      have same : r.id = id := by simpa [View.RowActions.none] using h
      exact ⟨Bool.eq_false_iff.mpr inner, page, ready, r, hr, same⟩

/-! ### The user's own cars -/

theorem MyCarsPage.shows (p : MyCarsPage) : Shows [p.view] .myCars [] := by
  have card (s : CarSpec) : Plain [card s] := by simp [MyCarsPage.card]
  have cards (page : Page CarSpec) : Plain (cards page) := by
    unfold MyCarsPage.cards
    split
    · simp
    · simp [plain_list.mpr fun s _ => card s]
  have list : Plain (View.loaded p.cars .retry MyCarsPage.cards) := View.plain_loaded cards
  have shown : Shows [p.view] .myCars
      (tableRows (View.loaded p.cars .retry MyCarsPage.cards)) := by
    rw [view]
    simp only [List.append_assoc]
    exact shows_page rfl (by simp) (plain_notice rfl) View.plain_pagerBar list.1
  rwa [list.2] at shown

end CarCatalog
