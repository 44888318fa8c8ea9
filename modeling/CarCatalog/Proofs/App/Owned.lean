import CarCatalog.Proofs.App.Clicks
import CarCatalog.Proofs.App.Turn
import Mathlib.Data.List.Perm.Basic

/-!
# Whose task it is

A task without an answer is one of the mounted page, or of a page that is gone.  One that saves a
form is a task of the form that stands, and then about the same record, or of a form before it.

    c.Owned → c.Turn e c' → c'.Owned                                              (owned_turn)
    (start.run events).stage.Owned                                                (owned_run)
-/

namespace CarCatalog

/-- What a form saves: a record of the catalog, which a new one is not yet, or a user. -/
inductive Subject
  | record (level : Level) (id : Option Int64)
  | user (id : Int64)
  deriving DecidableEq, Repr

/-- The number of the form that stands on a page, or stood there last. -/
def Screen.formNumber : Screen → Nat
  | .users p => p.form.number
  | .editor p => p.formNumber
  | _ => 0

/-- What the form that stands on a page would save. -/
def Screen.subject? : Screen → Option Subject
  | .users p => p.form.built.map fun f => .user f.user.id
  | .editor p => some (.record p.form.level p.form.id)
  | _ => none

/-- The form that a task saves, by its number, and what it saves of it. -/
def Task.subject? : Task → Option (Nat × Subject)
  | .act _ (.updateUser form user _) => some (form, .user user)
  | .act _ (.saveRecord form saving) => some (form, .record saving.record.1 saving.record.2)
  | _ => none

/-- A task that the page of a number asks for. -/
structure Task.Asked (n : Nat) (s : Screen) (t : Task) : Prop where
  page : t.page = n
  fits : t.fits s.kind = true
  form : ∀ k x, t.subject? = some (k, x) → k = s.formNumber ∧ s.subject? = some x

/-- A page after something happened to it, with the tasks it asks for. -/
structure Screen.Becomes (n : Nat) (s : Screen) (step : Screen × List Task) : Prop where
  kind : step.1.kind = s.kind
  form : step.1.formNumber = s.formNumber ∧ step.1.subject? = s.subject? ∨
    s.formNumber < step.1.formNumber
  asked : ∀ t ∈ step.2, t.Asked n step.1

/-- A task of the mounted page, which it fits, or of one that is gone.  What it saves of the form that
stands is what that form would save. -/
structure Task.Owned (n : Nat) (s : Screen) (t : Task) : Prop where
  bounded : t.page ≤ n
  fits : t.page = n → t.fits s.kind = true
  form : t.page = n → ∀ k x, t.subject? = some (k, x) →
    k < s.formNumber ∨ k = s.formNumber ∧ ∀ y, s.subject? = some y → y = x

def Stage.Owned (c : Stage) : Prop := ∀ t ∈ c.tasks, t.Owned c.number c.screen

/-! ## Lemmas -/

namespace Screen

variable {n : Nat} {s s' : Screen} {more : List Task}

/-- What leaves the form alone and asks for no save. -/
theorem becomes_of_same (kind : s'.kind = s.kind) (number : s'.formNumber = s.formNumber)
    (subject : s'.subject? = s.subject?)
    (asked : ∀ t ∈ more, t.page = n ∧ t.fits s.kind = true ∧ t.subject? = none) :
    s.Becomes n (s', more) where
  kind := kind
  form := .inl ⟨number, subject⟩
  asked t ht := by
    obtain ⟨page, fits, none⟩ := asked t ht
    exact ⟨page, kind ▸ fits, fun k x h => by rw [none] at h; cases h⟩

/-- What asks for nothing. -/
theorem becomes_nil (kind : s'.kind = s.kind)
    (form : s'.formNumber = s.formNumber ∧ s'.subject? = s.subject? ∨
      s.formNumber < s'.formNumber) : s.Becomes n (s', []) :=
  ⟨kind, form, fun t ht => by cases ht⟩

/-- What asks for one task, which saves no form. -/
theorem becomes_one {t : Task} (kind : s'.kind = s.kind) (number : s'.formNumber = s.formNumber)
    (subject : s'.subject? = s.subject?) (page : t.page = n) (fits : t.fits s.kind = true)
    (none : t.subject? = none) : s.Becomes n (s', [t]) :=
  becomes_of_same kind number subject fun u hu => by
    rw [List.mem_singleton.mp hu]
    exact ⟨page, fits, none⟩

end Screen

/-! ### The users page -/

theorem UserForm.user_submit (f : UserForm) : f.submit.1.user = f.user := by
  unfold submit
  split
  · rfl
  · split <;> rfl

namespace UsersPage

variable (n : Nat) (p : UsersPage)

theorem becomes_turn (step : Bool × Pager) :
    (Screen.users p).Becomes n (.users (p.turn n step).1, (p.turn n step).2) := by
  unfold turn
  split
  · exact Screen.becomes_one rfl rfl rfl rfl rfl rfl
  · exact Screen.becomes_nil rfl (.inl ⟨rfl, rfl⟩)

theorem becomes_updateForm {f : UserForm} (hf : p.form.built = some f) (m : UserForm.Msg) :
    (Screen.users p).Becomes n (.users (p.updateForm n f m).1, (p.updateForm n f m).2) := by
  cases m with
  | username | password =>
    refine Screen.becomes_nil rfl (.inl ⟨rfl, ?_⟩)
    simp [updateForm, Screen.subject?, Part.modify, hf]
  | submit =>
    have subject : (Screen.users (p.updateForm n f .submit).1).subject? = some (.user f.user.id) := by
      simp [updateForm, Screen.subject?, Part.modify, hf, f.user_submit]
    refine ⟨rfl, .inl ⟨rfl, ?_⟩, fun t ht => ?_⟩
    · rw [subject]
      simp [Screen.subject?, hf]
    · obtain ⟨update, -, rfl⟩ := List.mem_map.mp ht
      refine ⟨rfl, rfl, fun k x h => ?_⟩
      cases h
      exact ⟨rfl, subject.trans (congrArg (fun u => some (Subject.user u.id)) f.user_submit.symm)⟩
  | cancel => exact Screen.becomes_nil rfl (.inl ⟨rfl, rfl⟩)

theorem becomes_panelTasks {p' : UsersPage} (form : p'.form = p.form) (panel : Nat)
    (user : Int64) : (Screen.users p).Becomes n (.users p', panelTasks n panel user) := by
  refine Screen.becomes_of_same rfl (congrArg Part.number form) ?_ ?_
  · simp only [Screen.subject?, form]
  · simp [panelTasks, Task.page, Task.fits, Task.subject?, Screen.kind]

theorem becomes_updatePanel (r : RolesPanel) (m : RolesPanel.Msg) :
    (Screen.users p).Becomes n (.users (p.updatePanel n r m).1, (p.updatePanel n r m).2) := by
  cases m with
  | close | choose => exact Screen.becomes_nil rfl (.inl ⟨rfl, rfl⟩)
  | assign =>
    refine Screen.becomes_of_same rfl rfl rfl fun t ht => ?_
    obtain ⟨name, -, rfl⟩ := List.mem_map.mp ht
    exact ⟨rfl, rfl, rfl⟩
  | remove role => exact Screen.becomes_one rfl rfl rfl rfl rfl rfl
  | retry =>
    refine p.becomes_panelTasks n ?_ _ _
    rfl

theorem becomes_update (m : Msg) :
    (Screen.users p).Becomes n (.users (p.update n m).1, (p.update n m).2) := by
  cases m with
  | username | password | roles | edit => exact Screen.becomes_nil rfl (.inl ⟨rfl, rfl⟩)
  | delete | retry | retryOverview => exact Screen.becomes_one rfl rfl rfl rfl rfl rfl
  | create =>
    rw [update]
    split
    · exact Screen.becomes_nil rfl (.inl ⟨rfl, rfl⟩)
    · exact Screen.becomes_one rfl rfl rfl rfl rfl rfl
  | previous | next => exact p.becomes_turn n _
  | form msg =>
    rw [update]
    split
    · next f hf => exact p.becomes_updateForm n hf msg
    · exact Screen.becomes_nil rfl (.inl ⟨rfl, rfl⟩)
  | panel msg =>
    rw [update]
    split
    · exact p.becomes_updatePanel n _ msg
    · exact Screen.becomes_nil rfl (.inl ⟨rfl, rfl⟩)

theorem becomes_rebuild : (Screen.users p).Becomes n (.users (p.rebuild n).1, (p.rebuild n).2) := by
  have form : (Screen.users (p.rebuild n).1).formNumber = p.form.number ∧
      (Screen.users (p.rebuild n).1).subject? = (Screen.users p).subject? ∨
        p.form.number < (Screen.users (p.rebuild n).1).formNumber := by
    show (p.form.rebuild UserForm.ofUser).number = _ ∧ _ ∨ _ < (p.form.rebuild UserForm.ofUser).number
    unfold Part.rebuild
    split
    · exact .inr (Nat.lt_succ_self _)
    · next fresh => exact .inl ⟨rfl, by simp [rebuild, Part.rebuild, Screen.subject?, fresh]⟩
  refine ⟨rfl, form, fun t ht => ?_⟩
  have asked : ∀ panel user, ∀ t ∈ panelTasks n panel user,
      t.Asked n (.users (p.rebuild n).1) := fun panel user =>
    ((p.rebuild n).1.becomes_panelTasks n rfl panel user).asked
  unfold rebuild at ht
  dsimp only at ht
  split at ht
  · exact asked _ _ t ht
  · cases ht

theorem becomes_reload {p' : UsersPage} (number : p'.form.number = p.form.number)
    (built : p'.form.built = p.form.built) :
    (Screen.users p).Becomes n (.users (p'.reload n).1, (p'.reload n).2) :=
  Screen.becomes_one rfl number (congrArg (Option.map _) built) rfl rfl rfl

theorem closeIf_form (user : Int64) {π : Type} (part : Part User π) :
    (closeIf user part).number = part.number ∧ (closeIf user part).built = part.built := by
  unfold closeIf
  split <;> exact ⟨rfl, rfl⟩

end UsersPage

/-! ### The editor -/

theorem RecordForm.same_set (f : RecordForm) (field : FormField) (value : String) :
    (f.set field value).level = f.level ∧ (f.set field value).id = f.id := by
  unfold set
  split
  · exact ⟨rfl, rfl⟩
  · split <;> exact ⟨rfl, rfl⟩

theorem RecordForm.same_submit (f : RecordForm) :
    f.submit.1.level = f.level ∧ f.submit.1.id = f.id := by
  unfold submit
  split <;> exact ⟨rfl, rfl⟩

theorem RecordForm.same_settle (f : RecordForm) :
    f.settle.level = f.level ∧ f.settle.id = f.id := by
  unfold settle
  split <;> exact ⟨rfl, rfl⟩

theorem RecordForm.saving_of_submit {f : RecordForm} {s : Saving} (h : f.submit.2 = some s) :
    f.saving = .ok s := by
  unfold submit at h
  split at h
  · cases h
  · next saving =>
    rw [saving, ← Option.some.inj h]

namespace EditorPage

variable (n : Nat) (p : EditorPage)

theorem subject_of_same {p p' : EditorPage}
    (same : p'.form.level = p.form.level ∧ p'.form.id = p.form.id) :
    (Screen.editor p').subject? = (Screen.editor p).subject? := by
  simp only [Screen.subject?, same.1, same.2]

theorem becomes_reload {p' : EditorPage} (number : p'.formNumber = p.formNumber)
    (same : p'.form.level = p.form.level ∧ p'.form.id = p.form.id) :
    (Screen.editor p).Becomes n (.editor (p'.reload n).1, (p'.reload n).2) :=
  Screen.becomes_one rfl number (subject_of_same same) rfl rfl rfl

theorem becomes_turn (step : Bool × Pager) :
    (Screen.editor p).Becomes n (.editor (p.turn n step).1, (p.turn n step).2) := by
  unfold turn
  split
  · exact p.becomes_reload n rfl ⟨rfl, rfl⟩
  · exact Screen.becomes_nil rfl (.inl ⟨rfl, rfl⟩)

theorem becomes_updateForm (m : RecordForm.Msg) :
    (Screen.editor p).Becomes n (.editor (p.updateForm n m).1, (p.updateForm n m).2) := by
  cases m with
  | typed field value =>
    exact Screen.becomes_nil rfl (.inl ⟨rfl, subject_of_same (p.form.same_set field value)⟩)
  | submit =>
    have same := p.form.same_submit
    refine ⟨rfl, .inl ⟨rfl, subject_of_same same⟩, fun t ht => ?_⟩
    obtain ⟨s, hs, rfl⟩ := List.mem_map.mp ht
    refine ⟨rfl, rfl, fun k x h => ?_⟩
    cases h
    rw [RecordForm.record_saving (RecordForm.saving_of_submit (Option.mem_toList.mp hs))]
    exact ⟨rfl, subject_of_same same⟩
  | cancel => exact Screen.becomes_nil rfl (.inl ⟨rfl, rfl⟩)

theorem becomes_update (m : Msg) :
    (Screen.editor p).Becomes n (.editor (p.update n m).1, (p.update n m).2) := by
  cases m with
  | enter | back | retry => exact p.becomes_reload n rfl ⟨rfl, rfl⟩
  | edit id => exact Screen.becomes_nil rfl (.inl ⟨rfl, rfl⟩)
  | delete id => exact Screen.becomes_one rfl rfl rfl rfl rfl rfl
  | previous | next => exact p.becomes_turn n _
  | form msg => exact p.becomes_updateForm n msg

theorem becomes_rebuild :
    (Screen.editor p).Becomes n (.editor (p.rebuild n).1, (p.rebuild n).2) := by
  unfold rebuild
  split
  · refine ⟨rfl, .inr (Nat.lt_succ_self _), fun t ht => ?_⟩
    obtain ⟨id, -, rfl⟩ := List.mem_map.mp ht
    exact ⟨rfl, rfl, fun k x h => by cases h⟩
  · exact Screen.becomes_nil rfl (.inl ⟨rfl, subject_of_same p.form.same_settle⟩)

theorem same_modifyForm (form : Nat) {f : RecordForm → RecordForm}
    (same : ∀ r, (f r).level = r.level ∧ (f r).id = r.id) :
    (p.modifyForm form f).formNumber = p.formNumber ∧
      (p.modifyForm form f).form.level = p.form.level ∧
      (p.modifyForm form f).form.id = p.form.id := by
  unfold modifyForm
  split
  · exact ⟨rfl, same p.form⟩
  · exact ⟨rfl, rfl, rfl⟩

/-- A change of the form that leaves it one for the same record. -/
theorem becomes_modifyForm (form : Nat) {f : RecordForm → RecordForm}
    (same : ∀ r, (f r).level = r.level ∧ (f r).id = r.id) :
    (Screen.editor p).Becomes n (.editor (p.modifyForm form f), []) := by
  obtain ⟨number, same⟩ := p.same_modifyForm form same
  exact Screen.becomes_nil rfl (.inl ⟨number, subject_of_same same⟩)

end EditorPage

/-! ### Every page -/

theorem BrowserPage.becomes_update (n : Nat) (p : BrowserPage) (m : BrowserPage.Msg) :
    (Screen.browser p).Becomes n (.browser (p.update n m).1, (p.update n m).2) := by
  have turned : ∀ step, (Screen.browser p).Becomes n
      (.browser (p.turn n step).1, (p.turn n step).2) := by
    intro step
    unfold turn
    split
    · exact Screen.becomes_one rfl rfl rfl rfl rfl rfl
    · exact Screen.becomes_nil rfl (.inl ⟨rfl, rfl⟩)
  cases m with
  | previous | next => exact turned _
  | _ => exact Screen.becomes_one rfl rfl rfl rfl rfl rfl

theorem MyCarsPage.becomes_update (n : Nat) (p : MyCarsPage) (m : MyCarsPage.Msg) :
    (Screen.myCars p).Becomes n (.myCars (p.update n m).1, (p.update n m).2) := by
  have turned : ∀ step, (Screen.myCars p).Becomes n
      (.myCars (p.turn n step).1, (p.turn n step).2) := by
    intro step
    unfold turn
    split
    · exact Screen.becomes_one rfl rfl rfl rfl rfl rfl
    · exact Screen.becomes_nil rfl (.inl ⟨rfl, rfl⟩)
  cases m with
  | previous | next => exact turned _
  | _ => exact Screen.becomes_one rfl rfl rfl rfl rfl rfl

namespace Screen

variable {n : Nat} {s : Screen} {step : Screen × List Task}

theorem becomes_of_presses {msg : Msg} (h : s.Presses n msg step) : s.Becomes n step := by
  cases h with
  | login f m =>
    refine becomes_of_same rfl rfl rfl fun t ht => ?_
    obtain ⟨credentials, -, rfl⟩ := List.mem_map.mp ht
    exact ⟨rfl, rfl, rfl⟩
  | users p m => exact p.becomes_update n m
  | editor p m => exact p.becomes_update n m
  | browser p m => exact p.becomes_update n m
  | myCars p m => exact p.becomes_update n m

theorem becomes_of_rebuilds (h : s.Rebuilds n step) : s.Becomes n step := by
  cases h with
  | users p => exact p.becomes_rebuild n
  | editor p => exact p.becomes_rebuild n

theorem becomes_of_succeeds {action : Action} (h : s.Succeeds n action step) : s.Becomes n step := by
  cases h with
  | created p | updated p => exact p.becomes_reload n rfl rfl
  | userDeleted p user =>
    obtain ⟨number, built⟩ := UsersPage.closeIf_form user p.form
    exact p.becomes_reload n number built
  | assigned p | removed p =>
    refine p.becomes_panelTasks n ?_ _ _
    rfl
  | saved p form =>
    have same : ∀ r : RecordForm, r.saved.level = r.level ∧ r.saved.id = r.id := fun _ => ⟨rfl, rfl⟩
    obtain ⟨number, same⟩ := p.same_modifyForm form same
    exact p.becomes_reload n number same
  | rowDeleted p level id =>
    refine p.becomes_reload n ?_ ?_
    · show (if p.editing.any (·.id == id) then p.edit none else p).formNumber = _
      split <;> rfl
    · show (if p.editing.any (·.id == id) then p.edit none else p).form.level = _ ∧
        (if p.editing.any (·.id == id) then p.edit none else p).form.id = _
      split <;> exact ⟨rfl, rfl⟩
  | added p => exact becomes_nil rfl (.inl ⟨rfl, rfl⟩)
  | carRemoved p => exact becomes_one rfl rfl rfl rfl rfl rfl

theorem becomes_of_complains {message : String} {action : Action} {s' : Screen}
    (h : s.Complains message action s') : s.Becomes n (s', []) := by
  cases h with
  | updateUser p form =>
    have same : (p.form.modifyAt form fun f => { f with notice := message }).number = p.form.number ∧
        (p.form.modifyAt form fun f => { f with notice := message }).built.map
          (fun f => Subject.user f.user.id) = p.form.built.map fun f => .user f.user.id := by
      unfold Part.modifyAt
      split
      · exact ⟨rfl, Option.map_map _ _ _⟩
      · exact ⟨rfl, rfl⟩
    exact becomes_nil rfl (.inl same)
  | saveRecord p form => exact p.becomes_modifyForm n form fun _ => ⟨rfl, rfl⟩
  | _ => exact becomes_nil rfl (.inl ⟨rfl, rfl⟩)

theorem becomes_of_answers {reply : Api.Reply} {t : Task} (h : s.Answers n reply t step) :
    s.Becomes n step := by
  cases h with
  | spec p form => exact p.becomes_modifyForm n form fun _ => ⟨rfl, rfl⟩
  | succeeded _ h => exact becomes_of_succeeds h
  | refused _ _ h => exact becomes_of_complains h
  | _ => exact becomes_nil rfl (.inl ⟨rfl, rfl⟩)

/-- A new page asks for what it shows. -/
theorem asked_build (n : Nat) (kind : ScreenKind) :
    (kind.build n).1.kind = kind ∧ ∀ t ∈ (kind.build n).2, t.Asked n (kind.build n).1 := by
  have load : ∀ {t : Task} {s : Screen}, t.page = n → t.fits s.kind = true → t.subject? = none →
      t.Asked n s := fun page fits none => ⟨page, fits, fun k x h => by rw [none] at h; cases h⟩
  cases kind with
  | blank | login => exact ⟨rfl, fun t ht => by cases ht⟩
  | users => exact ⟨rfl, List.forall_mem_cons.mpr
      ⟨load rfl rfl rfl, List.forall_mem_singleton.mpr (load rfl rfl rfl)⟩⟩
  | _ => exact ⟨rfl, List.forall_mem_singleton.mpr (load rfl rfl rfl)⟩

end Screen

/-! ## Tasks of a kind -/

section

variable {tasks : List Task}

theorem filter_append_of_none {more : List Task} {p : Task → Bool}
    (none : ∀ t ∈ more, p t = false) : (tasks ++ more).filter p = tasks.filter p := by
  have nothing : more.filter p = [] := List.filter_eq_nil_iff.mpr fun t ht => by simp [none t ht]
  rw [List.filter_append, nothing, List.append_nil]

theorem length_filter_eraseIdx {i : Nat} {t : Task} (ht : tasks[i]? = some t)
    (p : Task → Bool) :
    (tasks.filter p).length = ((tasks.eraseIdx i).filter p).length + if p t then 1 else 0 := by
  obtain ⟨bound, rfl⟩ := List.getElem?_eq_some_iff.mp ht
  have perm := (List.getElem_cons_eraseIdx_perm bound).countP_eq p
  rw [← List.countP_eq_length_filter, ← List.countP_eq_length_filter, ← perm, List.countP_cons]

/-- What is answered is missing only among tasks of its kind. -/
theorem filter_eraseIdx_of_not {i : Nat} {t : Task} (ht : tasks[i]? = some t) {p : Task → Bool}
    (not : p t = false) : (tasks.eraseIdx i).filter p = tasks.filter p := by
  have length := length_filter_eraseIdx ht p
  rw [not] at length
  exact ((List.eraseIdx_sublist tasks i).filter p).eq_of_length length.symm

end

/-! ## Turns -/

namespace Task

variable {n : Nat} {s : Screen} {t : Task}

theorem Asked.owned (h : t.Asked n s) : t.Owned n s where
  bounded := Nat.le_of_eq h.page
  fits _ := h.fits
  form _ k x hx := by
    obtain ⟨number, subject⟩ := h.form k x hx
    exact .inr ⟨number, fun y hy => Option.some.inj (hy.symm.trans subject)⟩

theorem Owned.of_lt (h : t.page < n) : t.Owned n s where
  bounded := Nat.le_of_lt h
  fits page := absurd page (Nat.ne_of_lt h)
  form page := absurd page (Nat.ne_of_lt h)

/-- A task is left over when its page has become another of its kind. -/
theorem Owned.becomes (h : t.Owned n s) {step : Screen × List Task} (now : s.Becomes n step) :
    t.Owned n step.1 where
  bounded := h.bounded
  fits page := now.kind.symm ▸ h.fits page
  form page k x hx := by
    rcases now.form with ⟨number, subject⟩ | later
    · rw [number, subject]
      exact h.form page k x hx
    · refine .inl (Nat.lt_of_le_of_lt ?_ later)
      rcases h.form page k x hx with lt | ⟨eq, -⟩
      · exact Nat.le_of_lt lt
      · exact Nat.le_of_eq eq

theorem page_of_mem_panelTasks {page panel : Nat} {user : Int64}
    (h : t ∈ UsersPage.panelTasks page panel user) : t.page = page := by
  rcases List.mem_cons.mp h with rfl | h
  · rfl
  · rw [List.mem_singleton.mp h]
    rfl

end Task

namespace Stage

variable {c c' : Stage}

theorem owned_becomes {n : Nat} {s : Screen} {step : Screen × List Task} {tasks : List Task}
    (owned : ∀ t ∈ tasks, t.Owned n s) (h : s.Becomes n step) :
    ∀ t ∈ tasks ++ step.2, t.Owned n step.1 :=
  List.forall_mem_append.mpr
    ⟨fun t ht => (owned t ht).becomes h, fun t ht => (h.asked t ht).owned⟩

/-- A task of the mounted page fits it, so that a task that is for no page is of one that is gone. -/
theorem page_ne_of_stray (owned : c.Owned) {i : Nat} {t : Task} (ht : c.tasks[i]? = some t)
    (stray : t.page = c.number → t.fits c.screen.kind = false) : t.page ≠ c.number := by
  intro page
  have fits := (owned t (List.mem_of_getElem? ht)).fits page
  rw [stray page] at fits
  cases fits

theorem page_of_strays {n : Nat} {more : List Task}
    (panel : more = [] ∨ ∃ panel user, more = UsersPage.panelTasks n panel user) :
    ∀ u ∈ more, u.page = n := by
  rcases panel with rfl | ⟨panel, user, rfl⟩
  · exact List.forall_mem_nil _
  · exact fun u hu => Task.page_of_mem_panelTasks hu

theorem owned_turn {e : App.Event} (owned : c.Owned) (turn : c.Turn e c') : c'.Owned := by
  have erase : ∀ i, ∀ t ∈ c.tasks.eraseIdx i, t.Owned c.number c.screen := fun i t ht =>
    owned t (List.mem_of_mem_eraseIdx ht)
  cases turn with
  | idle => exact owned
  | pressed h => exact owned_becomes owned (Screen.becomes_of_presses h)
  | rebuilt h => exact owned_becomes owned (Screen.becomes_of_rebuilds h)
  | mounted e kind =>
    exact List.forall_mem_append.mpr
      ⟨fun t ht => .of_lt (Nat.lt_succ_of_le (owned t ht).bounded),
        fun t ht => ((Screen.asked_build (c.number + 1) kind).2 t ht).owned⟩
  | received h =>
    cases h with
    | answered _ _ h => exact owned_becomes (erase _) (Screen.becomes_of_answers h)
    | @stray t _ ht stray _ panel =>
      have before : t.page < c.number :=
        Nat.lt_of_le_of_ne (owned t (List.mem_of_getElem? ht)).bounded (page_ne_of_stray owned ht stray)
      exact List.forall_mem_append.mpr
        ⟨erase _, fun u hu => .of_lt (page_of_strays panel u hu ▸ before)⟩
    | crashed => exact erase _

/-- **Every task is owned**, on every run. -/
theorem owned_run (account : Account) (path : String) (events : List App.Event) :
    ((App.start account path).run events).stage.Owned :=
  App.stage_run owned_turn (fun _ ht => by cases ht) events

end Stage

end CarCatalog
