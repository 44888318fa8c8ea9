import CarCatalog.Proofs.App.Loads

/-!
# What a place waits for

An event leaves a place of the mounted page alone, asks for it, takes it away, or answers a load of it
(`Stage.Tends`).  So a place that is loading waits for just the task that would ask for it once more
(`Stage.Awaits`), and what stands in a place stays as long as the tasks that load it are left alone
(`App.Leaves`).

    c.Owned → c.Paneled → c.Turn e c' → ∀ k, c.Tends k c'                               (tends_turn)
    c.Awaits k → c.Tends k c' → c'.Awaits k                                         (Tends.awaits)
    a.Rests k events → (a.run events).stage.load? k = a.stage.load? k               (load_of_rests)
-/

namespace CarCatalog

namespace Stage

/-- What is in a place of the mounted page. -/
def load? (c : Stage) (k : Target) : Option Load := c.screen.load? c.number k

/-- The loads for a place of the mounted page that are without an answer. -/
def loads (c : Stage) (k : Target) : List Task := c.tasks.filter (Task.loads c.number k)

/-- The tasks for the panels of the mounted page are about the users of these. -/
def Paneled (c : Stage) : Prop := ∀ t ∈ c.tasks, t.page = c.number → t.Paneled c.screen

/-- What becomes of a place. -/
inductive Tends (c : Stage) (k : Target) (c' : Stage) : Prop
  | kept (same : c'.load? k = c.load? k) (loads : c'.loads k = c.loads k)
  | asked {u : Task} (now : c'.load? k = some ⟨.loading, u⟩) (loads : c'.loads k = c.loads k ++ [u])
  | gone (now : c'.load? k = none)
  | mounted {u : Task} (number : c'.number ≠ c.number) (now : c'.load? k = some ⟨.loading, u⟩)
    (loads : c'.loads k = [u])
  | answered (ended : ∀ l, c'.load? k = some l → l.status ≠ .loading)
    (fewer : (c'.loads k).length < (c.loads k).length)

/-- A place that is loading waits, last of all, for the task that would ask for it once more. -/
def Awaits (c : Stage) (k : Target) : Prop :=
  ∀ u, c.load? k = some ⟨.loading, u⟩ → (c.loads k).getLast? = some u

/-! ## Turns -/

variable {c c' : Stage} {k : Target}

theorem Tends.awaits (awaits : c.Awaits k) (h : c.Tends k c') : c'.Awaits k := by
  intro u hu
  cases h with
  | kept same loads =>
    rw [loads]
    exact awaits u (same.symm.trans hu)
  | asked now loads =>
    cases now.symm.trans hu
    rw [loads, List.getLast?_concat]
  | gone now => cases now.symm.trans hu
  | mounted _ now loads =>
    cases now.symm.trans hu
    rw [loads]
    rfl
  | answered ended => exact absurd rfl (ended _ hu)

/-- What a page makes of its places shows on the stage, if no load is answered with it. -/
theorem tends_goes {s : Screen} {rest more : List Task} (h : c.screen.Goes c.number (s, more))
    (rests : rest.filter (Task.loads c.number k) = c.loads k) :
    c.Tends k { c with screen := s, tasks := rest ++ more } := by
  have loads : ({ c with screen := s, tasks := rest ++ more } : Stage).loads k =
      c.loads k ++ more.filter (Task.loads c.number k) := by
    rw [← rests]
    exact List.filter_append ..
  cases h.tends k with
  | kept same none =>
    refine .kept same ?_
    rw [loads, List.filter_eq_nil_iff.mpr fun u hu => by simp [none u hu], List.append_nil]
  | asked now asks => exact .asked now (loads.trans (congrArg _ asks))
  | gone now => exact .gone now

theorem paneled_goes {n : Nat} {s : Screen} {step : Screen × List Task} {tasks : List Task}
    (paneled : ∀ t ∈ tasks, t.page = n → t.Paneled s) (h : s.Goes n step) :
    ∀ t ∈ tasks ++ step.2, t.page = n → t.Paneled step.1 := by
  refine List.forall_mem_append.mpr ⟨fun t ht page k x hx => ?_, fun t ht _ => h.asked t ht⟩
  obtain ⟨bound, same⟩ := paneled t ht page k x hx
  exact ⟨Nat.le_trans bound h.number, fun y hy => same y (h.user k bound y hy)⟩

/-- The answer to a load is for its place. -/
theorem tends_takes {s : Screen} {i : Nat} {t : Task} {j : Target} {fails : Api.Failure → Prop}
    (ht : c.tasks[i]? = some t) (page : t.page = c.number) (target : t.target? = some j)
    (h : c.screen.Takes c.number j fails s) :
    c.Tends k { c with screen := s, tasks := c.tasks.eraseIdx i } := by
  by_cases own : k = j
  · subst own
    refine .answered h.ended ?_
    have loads : t.loads c.number k = true := by simp [Task.loads, page, target]
    have length := length_filter_eraseIdx ht (Task.loads c.number k)
    rw [if_pos loads] at length
    exact Nat.lt_of_succ_le (Nat.le_of_eq length.symm)
  · refine .kept (h.others k own) (filter_eraseIdx_of_not ht ?_)
    simp [Task.loads, target, Ne.symm own]

/-- A task that is of no place of the mounted page goes, and others that are of none come. -/
theorem tends_stray {i : Nat} {t : Task} {more : List Task} (ht : c.tasks[i]? = some t)
    (stray : t.loads c.number k = false) (strays : ∀ u ∈ more, u.loads c.number k = false)
    (crashed : Bool) : c.Tends k { c with tasks := c.tasks.eraseIdx i ++ more, crashed } :=
  .kept rfl ((filter_append_of_none strays).trans (filter_eraseIdx_of_not ht stray))

theorem tends_turn (owned : c.Owned) (paneled : c.Paneled) {e : App.Event} (turn : c.Turn e c')
    (k : Target) : c.Tends k c' := by
  have elsewhere : ∀ {t : Task}, t.page ≠ c.number → t.loads c.number k = false :=
    fun other => by simp [Task.loads, other]
  cases turn with
  | idle => exact .kept rfl rfl
  | pressed h => exact tends_goes (Screen.goes_of_presses h) rfl
  | rebuilt h => exact tends_goes (Screen.goes_of_rebuilds h) rfl
  | mounted e kind =>
    -- no task can be one of a page that was not there
    have none : c.tasks.filter (Task.loads (c.number + 1) k) = [] := by
      refine List.filter_eq_nil_iff.mpr fun t ht => ?_
      have bounded := (owned t ht).bounded
      simp only [Task.loads, Bool.and_eq_true, beq_iff_eq]
      omega
    cases (Screen.goes_build (c.number + 1) kind).tends k with
    | kept same => exact .gone same
    | asked now asks =>
      refine .mounted (Nat.succ_ne_self _) now ?_
      rw [loads, List.filter_append, none, asks]
      rfl
    | gone now => exact .gone now
  | received h =>
    cases h with
    | @answered t s more ht page h =>
      cases target : t.target? with
      | none =>
        have goes := Screen.goes_of_answers h target (paneled t (List.mem_of_getElem? ht) page)
        exact tends_goes goes (filter_eraseIdx_of_not ht (by simp [Task.loads, target]))
      | some j =>
        obtain ⟨takes, none⟩ := Screen.takes_of_answers h target
        obtain rfl : more = [] := none
        rw [List.append_nil]
        exact tends_takes ht page target takes
    | @stray t more ht stray _ panel =>
      have other := page_ne_of_stray owned ht stray
      exact tends_stray ht (elsewhere other)
        (fun u hu => elsewhere (page_of_strays panel u hu ▸ other)) c.crashed
    | @crashed t handle ht reads =>
      have act : t.target? = none := by
        cases t with
        | act => rfl
        | _ => cases reads
      rw [← List.append_nil (c.tasks.eraseIdx _)]
      exact tends_stray ht (by simp [Task.loads, act]) (List.forall_mem_nil _) true

theorem paneled_turn (owned : c.Owned) (paneled : c.Paneled) {e : App.Event} (turn : c.Turn e c') :
    c'.Paneled := by
  have erase : ∀ i, ∀ t ∈ c.tasks.eraseIdx i, t.page = c.number → t.Paneled c.screen :=
    fun i t ht => paneled t (List.mem_of_mem_eraseIdx ht)
  cases turn with
  | idle => exact paneled
  | pressed h => exact paneled_goes paneled (Screen.goes_of_presses h)
  | rebuilt h => exact paneled_goes paneled (Screen.goes_of_rebuilds h)
  | mounted e kind =>
    refine paneled_goes (s := .blank) (fun t ht page => ?_) (Screen.goes_build (c.number + 1) kind)
    exact absurd (Nat.le_of_eq page.symm) (Nat.not_le_of_lt (Nat.lt_succ_of_le (owned t ht).bounded))
  | received h =>
    cases h with
    | @answered t s more ht page h =>
      cases target : t.target? with
      | none =>
        exact paneled_goes (erase _)
          (Screen.goes_of_answers h target (paneled t (List.mem_of_getElem? ht) page))
      | some j =>
        obtain ⟨takes, none⟩ := Screen.takes_of_answers h target
        obtain rfl : more = [] := none
        rw [List.append_nil]
        intro u hu page k x hx
        obtain ⟨bound, same⟩ := erase _ u hu page k x hx
        exact ⟨takes.number ▸ bound, fun y hy => same y ((takes.user k).symm.trans hy)⟩
    | @stray t more ht stray _ panel =>
      have other := page_ne_of_stray owned ht stray
      exact List.forall_mem_append.mpr
        ⟨erase _, fun u hu page => absurd ((page_of_strays panel u hu).symm.trans page) other⟩
    | crashed => exact erase _

end Stage

/-- A browser that was just opened loads nothing. -/
theorem App.load_start (policy : MalformedPolicy) (storage : Storage) (now : Binary64) (path : String)
    (k : Target) : (start (.fresh policy storage now) path).stage.load? k = none := by
  have screen := screen_start policy storage now path
  generalize start (.fresh policy storage now) path = a at screen ⊢
  show a.screen.load? a.number k = none
  rcases screen with h | h
  · rw [h]
    rfl
  · rw [h]
    rfl

/-- **Every place that is loading awaits its load**, on every run. -/
theorem Stage.awaits_run (policy : MalformedPolicy) (storage : Storage) (now : Binary64) (path : String)
    (events : List App.Event) :
    let c := ((App.start (.fresh policy storage now) path).run events).stage
    c.Owned ∧ c.Paneled ∧ ∀ k, c.Awaits k := by
  have awaits : ∀ k, (App.start (.fresh policy storage now) path).stage.Awaits k := fun k u hu => by
    rw [App.load_start] at hu
    cases hu
  exact App.stage_run (P := fun c => c.Owned ∧ c.Paneled ∧ ∀ k, c.Awaits k)
    (fun ⟨owned, paneled, awaits⟩ turn => ⟨owned_turn owned turn, paneled_turn owned paneled turn,
      fun k => (tends_turn owned paneled turn k).awaits (awaits k)⟩)
    ⟨fun _ ht => (by cases ht), fun _ ht => (by cases ht), awaits⟩ events

/-! ## What is left alone -/

namespace App

/-- An event leaves a place alone: the page and the place are still there, and no load of it is asked for
or answered. -/
structure Leaves (a : App) (k : Target) (e : Event) : Prop where
  number : (a.step e).number = a.number
  stands : ((a.step e).stage.load? k).isSome
  loads : (a.step e).stage.loads k = a.stage.loads k

/-- All events of a run leave a place alone. -/
def Rests (k : Target) : App → List Event → Prop
  | _, [] => True
  | a, e :: es => a.Leaves k e ∧ Rests k (a.step e) es

instance (a : App) (k : Target) (e : Event) : Decidable (a.Leaves k e) :=
  decidable_of_iff ((a.step e).number = a.number ∧ ((a.step e).stage.load? k).isSome ∧
      (a.step e).stage.loads k = a.stage.loads k)
    ⟨fun ⟨number, stands, loads⟩ => ⟨number, stands, loads⟩,
      fun ⟨number, stands, loads⟩ => ⟨number, stands, loads⟩⟩

instance decidableRests (k : Target) : ∀ (events : List Event) (a : App), Decidable (Rests k a events)
  | [], _ => .isTrue trivial
  | e :: es, a =>
    have := decidableRests k es (a.step e)
    inferInstanceAs (Decidable (a.Leaves k e ∧ Rests k (a.step e) es))

variable {a : App} {k : Target}

theorem load_of_leaves (owned : a.stage.Owned) (paneled : a.stage.Paneled) {e : Event}
    (leaves : a.Leaves k e) : (a.step e).stage.load? k = a.stage.load? k := by
  cases Stage.tends_turn owned paneled (turn_step a e) k with
  | kept same => exact same
  | asked _ loads => exact absurd (leaves.loads.symm.trans loads) (by simp)
  | gone now => exact absurd leaves.stands (by simp [now])
  | mounted number => exact absurd leaves.number number
  | answered _ fewer => exact absurd (congrArg List.length leaves.loads) (Nat.ne_of_lt fewer)

theorem load_of_rests (owned : a.stage.Owned) (paneled : a.stage.Paneled) {events : List Event}
    (rests : Rests k a events) : (a.run events).stage.load? k = a.stage.load? k := by
  induction events generalizing a with
  | nil => rfl
  | cons e es ih =>
    obtain ⟨leaves, rests⟩ := rests
    have turn := turn_step a e
    exact (ih (Stage.owned_turn owned turn) (Stage.paneled_turn owned paneled turn) rests).trans
      (load_of_leaves owned paneled leaves)

end App

end CarCatalog
