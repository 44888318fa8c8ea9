import CarCatalog.Proofs.Credential
import CarCatalog.Proofs.Session.Sound
import CarCatalog.Proofs.Slot.Memory

/-!
# A session outlives its memory

Once a session is settled, its slot holds its credential, or nothing that can be read
(`Session.Agrees`), as long as nobody else writes there.  A later session over the same slot is then
restored to it, unless the credential has expired meanwhile.

    s.Agrees stored → (s.login c).2.1.Agrees ((s.login c).2.2.apply stored)     (agrees_login)
    restore policy t stored = s if s has an unexpired credential, else anonymous
                                                                    (restore_of_agrees)
-/

namespace CarCatalog

namespace Session

/-- What a slot holds beside a session that is settled. -/
def Agrees (s : Session) (stored : Option String) : Prop :=
  s.loading = false →
    (∀ c, s.credential = some c → stored = some c) ∧
      (s.credential = none → ∀ c, stored = some c → ∃ fault, identify c = .error fault)

/-! ## Lemmas -/

theorem agrees_empty {s : Session} (h : s.credential = none) : s.Agrees none := by
  intro _
  refine ⟨fun c hc => ?_, fun _ c hc => by cases hc⟩
  rw [h] at hc
  cases hc

theorem agrees_restore (policy : MalformedPolicy) (now : Int64) (stored : Option String) :
    (restore policy now stored).1.Agrees ((restore policy now stored).2.apply stored) := by
  cases stored with
  | none => exact agrees_empty rfl
  | some c =>
    rw [restore]
    split
    · exact agrees_empty rfl
    · cases h : identify c with
      | ok who => exact fun _ => ⟨fun _ hd => hd, fun hd => by cases hd⟩
      | error fault =>
        cases policy with
        | retain =>
          refine fun _ => ⟨fun d hd => (by cases hd), fun _ d hd => ?_⟩
          cases hd
          exact ⟨fault, h⟩
        | clear => exact agrees_empty rfl

theorem agrees_bootstrap {s : Session} {stored : Option String} (h : s.Agrees stored)
    (policy : MalformedPolicy) (now : Int64) :
    (s.bootstrap policy now stored).1.Agrees ((s.bootstrap policy now stored).2.apply stored) := by
  unfold bootstrap
  split
  · exact agrees_restore policy now stored
  · exact h

theorem agrees_login {s : Session} {stored : Option String} (h : s.Agrees stored) (c : String) :
    (s.login c).2.1.Agrees ((s.login c).2.2.apply stored) := by
  cases hc : identify c with
  | ok who =>
    rw [login_of_ok hc]
    exact fun _ => ⟨fun _ hd => hd, fun hd => by cases hd⟩
  | error fault => rw [login_of_error hc]; exact h

theorem agrees_logout (s : Session) (stored : Option String) :
    s.logout.1.Agrees (s.logout.2.apply stored) := agrees_empty rfl

/-- Whether the session has a credential that has not expired at a time. -/
def isFresh (s : Session) (t : Int64) : Bool := s.credential.any fun c => !isExpired c t

/-- What is restored from the slot of a settled session is that session, while it is fresh. -/
theorem restore_of_agrees {s : Session} {stored : Option String} (reached : s.Reached)
    (agrees : s.Agrees stored) (settled : s.loading = false) (policy : MalformedPolicy)
    (t : Int64) :
    (restore policy t stored).1 = if s.isFresh t then s else anonymous := by
  obtain ⟨held, unread⟩ := agrees settled
  cases reached with
  | bootstrapping => cases settled
  | anonymous =>
    cases stored with
    | none => rfl
    | some c =>
      obtain ⟨fault, hc⟩ := unread rfl c rfl
      rw [restore, hc]
      split <;> rfl
  | @signedIn c who hc =>
    rw [held c rfl, restore, hc]
    cases h : isExpired c t <;> simp [isFresh, h]

end Session

namespace Owner

variable {σ : Type} {slot : Slot σ} {works : σ → Prop} {content : σ → Option String}

/-- The slot works and agrees with the session. -/
structure Agrees (works : σ → Prop) (content : σ → Option String) (o : Owner σ) : Prop where
  works : works o.store
  agrees : o.session.Agrees (content o.store)

theorem agrees_commit (keeps : slot.Keeps works content) {o : Owner σ} (h : works o.store)
    {step : Session × Write} (agrees : step.1.Agrees (step.2.apply (content o.store))) :
    (o.commit slot step).Agrees works content where
  works := keeps.works_write _ _ h
  agrees := by
    rw [session_commit, store_commit, keeps.content_write _ _ h]
    exact agrees

theorem agrees_step (keeps : slot.Keeps works content) {o : Owner σ} (h : o.Agrees works content)
    (step : Step) : (o.step slot step).Agrees works content := by
  cases step with
  | bootstrap now =>
    rw [Owner.step, bootstrap]
    split
    · rw [keeps.load _ h.works]
      exact agrees_commit keeps h.works (Session.agrees_bootstrap h.agrees _ now)
    · exact h
  | login c => exact agrees_commit keeps h.works (Session.agrees_login h.agrees c)
  | logout => exact agrees_commit keeps h.works (Session.agrees_logout _ _)

theorem agrees_run (keeps : slot.Keeps works content) {o : Owner σ} (h : o.Agrees works content)
    (steps : List Step) : (o.run slot steps).Agrees works content := by
  induction steps generalizing o with
  | nil => exact h
  | cons step steps ih => exact ih (agrees_step keeps h step)

/-- A step that changes the session leaves the slot in agreement with it, whatever it held before. -/
theorem agrees_of_changed_step (keeps : slot.Keeps works content) {o : Owner σ} (h : works o.store)
    {step : Step} (changed : (o.step slot step).session ≠ o.session) :
    (o.step slot step).Agrees works content := by
  cases step with
  | bootstrap now =>
    by_cases loads : o.session.loading = true
    · rw [Owner.step, bootstrap, if_pos loads, keeps.load _ h]
      refine agrees_commit keeps h (Session.agrees_bootstrap (fun settled => ?_) _ now)
      rw [loads] at settled
      cases settled
    · exact absurd (by rw [Owner.step, bootstrap, if_neg loads]) changed
  | login c =>
    cases hc : identify c with
    | ok who =>
      rw [Owner.step, login, Session.login_of_ok hc]
      exact agrees_commit keeps h fun _ => ⟨fun _ hd => hd, fun hd => by cases hd⟩
    | error fault => exact absurd (by rw [Owner.step, login_of_error slot hc]) changed
  | logout => exact agrees_commit keeps h (Session.agrees_logout _ _)

theorem works_step (keeps : slot.Keeps works content) {o : Owner σ} (h : works o.store)
    (step : Step) : works (o.step slot step).store := by
  cases step with
  | bootstrap now =>
    rw [Owner.step, bootstrap]
    split
    · rw [keeps.load _ h]
      exact keeps.works_write _ _ h
    · exact h
  | login c => exact keeps.works_write _ _ h
  | logout =>
    rw [Owner.step, logout, store_commit]
    exact keeps.works_write _ _ h

theorem agrees_of_changed_run (keeps : slot.Keeps works content) {o : Owner σ} (h : works o.store)
    {steps : List Step} (changed : (o.run slot steps).session ≠ o.session) :
    (o.run slot steps).Agrees works content := by
  induction steps generalizing o with
  | nil => exact absurd rfl changed
  | cons step steps ih =>
    by_cases same : (o.step slot step).session = o.session
    · exact ih (works_step keeps h step) fun later => changed (later.trans same)
    · exact agrees_run keeps (agrees_of_changed_step keeps h same) steps

theorem agrees_fresh (config : SessionConfig) {store : σ} (h : works store) :
    (fresh config store).Agrees works content :=
  ⟨h, fun hl => by cases hl⟩

/-! ## Top theorem -/

open Memory in
/-- **Reload.**  Over a handle in memory, whatever it held before: a settled session finds its
credential there while it is signed in, and nothing that can be read while it is anonymous.  So a
session on a copy of the handle, under any settings, is restored to the same while the credential has
not expired, and is anonymous in every other case. -/
theorem reload_restores (commands : List Memory.Command) (on : Nat)
    (hon : on < (Heap.empty.run commands).handles.length) (config : SessionConfig)
    (steps : List Step) :
    let o := (fresh config (Heap.empty.run commands)).run (.memory on) steps
    o.session.loading = false →
      (o.session.phase = .authenticated →
        ∃ c, o.session.credential = some c ∧ o.store.load on = some c) ∧
      (o.session.phase = .anonymous →
        ∀ c, o.store.load on = some c → ∃ fault, identify c = .error fault) ∧
      ∀ (config' : SessionConfig) (t : Int64),
        let reloaded := (fresh config' (o.store.copy on)).bootstrap
          (.memory o.store.handles.length) t
        (∀ c, o.session.phase = .authenticated → o.session.credential = some c →
          isExpired c t = false →
          reloaded.session.identity = o.session.identity ∧ reloaded.session.credential = some c) ∧
        ((∀ c, o.session.phase = .authenticated → o.session.credential = some c →
          isExpired c t = true) → reloaded.session.phase = .anonymous) := by
  intro o settled
  have reached : o.session.Reached := reached_run _ .bootstrapping steps
  obtain ⟨works, agrees⟩ := agrees_run (Slot.memory_keeps on)
    (agrees_fresh config (Heap.works_of_lt hon)) steps
  have restored : ∀ (config' : SessionConfig) (t : Int64),
      ((fresh config' (o.store.copy on)).bootstrap (.memory o.store.handles.length) t).session =
        if o.session.isFresh t then o.session else .anonymous := by
    intro config' t
    rw [session_bootstrap_fresh, (Slot.memory_keeps _).load _ (Heap.works_copy works),
      Heap.load_copy works]
    exact Session.restore_of_agrees reached agrees settled _ t
  obtain ⟨held, unread⟩ := agrees settled
  generalize o.session = s at *
  refine ⟨fun hp => ?_, fun hp => ?_, fun config' t => ?_⟩
  · cases reached with
    | bootstrapping => cases settled
    | anonymous => cases hp
    | signedIn _ => exact ⟨_, rfl, held _ rfl⟩
  · cases reached with
    | bootstrapping => cases settled
    | anonymous => exact unread rfl
    | signedIn _ => cases hp
  · intro reloaded
    rw [show reloaded.session = _ from restored config' t]
    cases reached with
    | bootstrapping => cases settled
    | anonymous =>
      refine ⟨fun c hp _ => (by cases hp), fun _ => ?_⟩
      rw [ite_self]
      rfl
    | @signedIn c who _ =>
      refine ⟨fun d _ hd hx => ?_, fun hx => ?_⟩
      · cases hd
        simp [Session.isFresh, hx]
      · rw [if_neg (by simp [Session.isFresh, hx c rfl rfl])]
        rfl

/-- A slot that held junk, after an administrator has signed in. -/
theorem reload_restores_admin :
    let o := (fresh .default (Memory.Heap.empty.run [.seeded "junk"])).run (.memory 0)
      [.bootstrap 0, .login adminCredential]
    o.session.loading = false ∧ o.store.load 0 = some adminCredential ∧
      ((fresh ⟨.clear⟩ (o.store.copy 0)).bootstrap
        (.memory o.store.handles.length) 0).session.credential = some adminCredential := by
  have restored := reload_restores [.seeded "junk"] 0 (by decide) .default
    [.bootstrap 0, .login adminCredential]
  have settled : ((fresh .default (Memory.Heap.empty.run [.seeded "junk"])).run
      (.memory 0) [.bootstrap 0, .login adminCredential]).session.loading = false := by
    decide +kernel
  have phase : ((fresh .default (Memory.Heap.empty.run [.seeded "junk"])).run
      (.memory 0) [.bootstrap 0, .login adminCredential]).session.phase = .authenticated := by
    decide +kernel
  have signed : ((fresh .default (Memory.Heap.empty.run [.seeded "junk"])).run
      (.memory 0) [.bootstrap 0, .login adminCredential]).session.credential =
        some adminCredential := by
    decide +kernel
  -- the owner is a variable from here on, so that nothing runs it once more
  generalize (fresh .default (Memory.Heap.empty.run [.seeded "junk"])).run
      (.memory 0) [.bootstrap 0, .login adminCredential] = o at *
  obtain ⟨held, -, reloads⟩ := restored settled
  obtain ⟨c, hc, stored⟩ := held phase
  have same : adminCredential = c := Option.some.inj (signed.symm.trans hc)
  refine ⟨settled, same ▸ stored, ?_⟩
  exact ((reloads ⟨.clear⟩ 0).1 _ phase signed (by decide +kernel)).2

end Owner

end CarCatalog
