import CarCatalog.Proofs.App.Owned
import CarCatalog.Proofs.App.Rows

/-!
# Answers that crash the application

A task is not given up when the page or form that started it goes away.  Most answers then only write
to what is gone, which does nothing; the success of some actions reads there (`Task.reads`), and that
is fatal.

    (a.step e).crashed ↔ a.crashed ∨ a.ReadsGone e                     (crashed_step_iff)

Hence a run crashes by the first such answer, and by nothing else (`crashed_iff_reads_gone`).
`crashed_of_leaving` is a run of a user who removes a car and goes to the catalog before the answer.
-/

namespace CarCatalog

namespace App

/-- The event is the answer to a task that then reads what is gone. -/
inductive ReadsGone (a : App) : Event → Prop
  | intro {i : Nat} {t : Task} {reply : Api.Reply} {handle : Handle}
    (waits : a.waiting[i]? = some t) (reads : t.reads reply = some handle)
    (gone : ¬ a.stage.Stands handle) : ReadsGone a (.answer i reply)

/-! ## Lemmas -/

/-- A page that takes an answer has all that is read. -/
theorem stands_of_answers {c : Stage} {t : Task} {reply : Api.Reply} {step : Screen × List Task}
    (h : c.screen.Answers c.number reply t step) {handle : Handle}
    (reads : t.reads reply = some handle) : c.Stands handle := by
  generalize hs : c.screen = s at h
  cases h with
  | succeeded accepted h =>
    simp only [Task.reads, accepted] at reads
    cases h with
    | updated p form user payload has =>
      cases reads
      exact ⟨rfl, p, hs, has⟩
    | assigned | removed | added => cases reads
    | _ =>
      cases reads
      rfl
  | refused f refused =>
    simp only [Task.reads, refused] at reads
    cases reads
  | _ => cases reads

theorem crashed_receives_iff {c c' : Stage} (owned : c.Owned) {i : Nat} {t : Task}
    {reply : Api.Reply} (ht : c.tasks[i]? = some t) (h : c.Receives i reply c') :
    c'.crashed = true ↔
      c.crashed = true ∨ ∃ handle, t.reads reply = some handle ∧ ¬ c.Stands handle := by
  cases h with
  | answered ht' _ answers =>
    cases ht.symm.trans ht'
    refine ⟨.inl, fun h => ?_⟩
    rcases h with h | ⟨handle, reads, gone⟩
    · exact h
    · exact absurd (stands_of_answers answers reads) gone
  | stray ht' _ none =>
    cases ht.symm.trans ht'
    refine ⟨.inl, fun h => ?_⟩
    rcases h with h | ⟨handle, reads, gone⟩
    · exact h
    · rw [none] at reads
      cases reads
  | crashed ht' reads lost =>
    cases ht.symm.trans ht'
    refine ⟨fun _ => .inr ⟨_, reads, fun stands => ?_⟩, fun _ => rfl⟩
    obtain ⟨page, other⟩ := lost stands
    rw [(owned t (List.mem_of_getElem? ht)).fits page] at other
    cases other

theorem readsGone_answer_iff {a : App} {i : Nat} {t : Task} {reply : Api.Reply}
    (ht : a.waiting[i]? = some t) : a.ReadsGone (.answer i reply) ↔
      ∃ handle, t.reads reply = some handle ∧ ¬ a.stage.Stands handle := by
  constructor
  · rintro ⟨waits, reads, gone⟩
    cases ht.symm.trans waits
    exact ⟨_, reads, gone⟩
  · rintro ⟨handle, reads, gone⟩
    exact ⟨ht, reads, gone⟩

theorem crashed_mono {c c' : Stage} {e : Event} (h : c.Turn e c') (crashed : c.crashed = true) :
    c'.crashed = true := by
  cases h with
  | received h =>
    cases h with
    | crashed => rfl
    | _ => exact crashed
  | _ => exact crashed

/-- What is no answer crashes nothing. -/
theorem crashed_turn {c c' : Stage} {e : Event} (h : c.Turn e c')
    (other : ∀ i reply, e ≠ .answer i reply) : c'.crashed = c.crashed := by
  cases h with
  | received => exact absurd rfl (other _ _)
  | _ => rfl

theorem crashed_step_iff {a : App} (owned : a.stage.Owned) (e : Event) :
    (a.step e).crashed = true ↔ a.crashed = true ∨ a.ReadsGone e := by
  cases e with
  | answer i reply =>
    cases ht : a.waiting[i]? with
    | some t =>
      rw [readsGone_answer_iff ht]
      exact crashed_receives_iff owned (tasks_getElem? ht) (receives_answer ht reply)
    | none =>
      rw [step_answer_of_none ht]
      refine ⟨.inl, fun h => ?_⟩
      rcases h with h | ⟨waits, -, -⟩
      · exact h
      · rw [ht] at waits
        cases waits
  | _ =>
    rw [show (a.step _).crashed = a.crashed from crashed_turn (turn_step a _) (by simp)]
    exact ⟨.inl, fun h => h.elim id fun gone => by cases gone⟩

theorem run_append (a : App) (before after : List Event) :
    a.run (before ++ after) = (a.run before).run after := List.foldl_append

theorem run_cons (a : App) (e : Event) (events : List Event) :
    a.run (e :: events) = (a.step e).run events := rfl

/-- A crash is for good. -/
theorem crashed_run {a : App} (h : a.crashed = true) (events : List Event) :
    (a.run events).crashed = true :=
  stage_run (P := fun c => c.crashed = true) (fun h turn => crashed_mono turn h) h events

/-- The first answer that reads what is gone. -/
theorem exists_readsGone {a : App} (owned : ∀ events, (a.run events).stage.Owned)
    (fresh : a.crashed = false) {events : List Event} (crashed : (a.run events).crashed = true) :
    ∃ before e after, events = before ++ e :: after ∧ (a.run before).ReadsGone e := by
  induction events generalizing a with
  | nil => exact absurd (fresh.symm.trans crashed) (by decide)
  | cons e es ih =>
    cases now : (a.step e).crashed with
    | true =>
      rcases (crashed_step_iff (owned []) e).mp now with before | gone
      · exact absurd (fresh.symm.trans before) (by decide)
      · exact ⟨[], e, es, rfl, gone⟩
    | false =>
      obtain ⟨before, e', after, rfl, gone⟩ :=
        ih (fun events => owned (e :: events)) now crashed
      exact ⟨e :: before, e', after, rfl, gone⟩

/-! ## Top theorem -/

/-- **What crashes the application.**  It has crashed at the end of a run exactly if one of the
answers of the run let an action succeed that then reads its page after that was left, or its form
after that was closed or built anew.  No load, no sign-in, no refusal, no role given or taken and no
car added is ever such an action (`Task.reads`). -/
theorem crashed_iff_reads_gone (policy : MalformedPolicy) (storage : Storage) (now : Binary64)
    (path : String) (events : List Event) :
    let start := App.start (.fresh policy storage now) path
    (start.run events).crashed = true ↔
      ∃ before i reply after, events = before ++ .answer i reply :: after ∧
        ∃ t handle, (start.run before).waiting[i]? = some t ∧ t.reads reply = some handle ∧
          ¬ (start.run before).stage.Stands handle := by
  intro start
  have owned : ∀ events, (start.run events).stage.Owned := Stage.owned_run _ path
  constructor
  · intro crashed
    obtain ⟨before, e, after, rfl, gone⟩ := exists_readsGone owned rfl crashed
    cases gone with
    | intro waits reads gone => exact ⟨before, _, _, after, rfl, _, _, waits, reads, gone⟩
  · rintro ⟨before, i, reply, after, rfl, t, handle, waits, reads, gone⟩
    rw [run_append, run_cons]
    refine crashed_run ?_ after
    exact (crashed_step_iff (owned before) _).mpr (.inr ⟨waits, reads, gone⟩)

/-! ## A run that crashes -/

/-- The browser of an administrator who looks at their cars. -/
def garageVisit : App :=
  App.start (.fresh .retain ⟨.works, [(tokenKey, adminCredential)]⟩ (.ofNat 0)) "/my-cars"

def carsReply : Api.Reply :=
  .arrived 200 (Wire.toJson
    (⟨[⟨1, "S1", "E", 100, 200, "Petrol", 2020, 1, 3⟩], onlyPage⟩ : Page CarSpec)).toBytes

/-- The car is shown. -/
def arriving : List Event := [.bootstrap, .refresh, .send, .answer 0 carsReply]

/-- It is removed, and the catalog is visited before that is confirmed. -/
def leaving : List Event :=
  arriving ++ [.press (.myCars (.remove 1)), .refresh, .send, .visit "/catalog"]

/-- **A crash.**  The button is offered, the user goes to another section, and the confirmation of the
removal crashes the application. -/
theorem crashed_of_leaving :
    .myCars (.remove 1) ∈ (garageVisit.run arriving).offers ∧
    (garageVisit.run leaving).crashed = false ∧
    (garageVisit.run (leaving ++ [.answer 0 (.arrived 204 [])])).crashed = true := by
  decide +kernel

end App

end CarCatalog
