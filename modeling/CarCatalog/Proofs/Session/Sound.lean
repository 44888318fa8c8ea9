import CarCatalog.Account
import CarCatalog.Session.Owner

/-!
# What holds of a session at all times

A session that was only ever changed by its own steps is bootstrapping, anonymous, or signed in with
a credential that can be read (`Session.Reached`), whatever its slot answered on the way.  So its
identity is always that of its credential, and once it has left the bootstrap it never returns.

    s.Reached → (s.bootstrap policy now stored).1.Reached       (reached_bootstrap)
    ((Owner.fresh config store).run slot steps).session.Sound   (run_sound)

The account in the browser is such an owner, over the local storage (`Account.owner`).
-/

namespace CarCatalog

namespace Session

/-- The sessions that steps lead to. -/
inductive Reached : Session → Prop
  | bootstrapping : Reached bootstrapping
  | anonymous : Reached anonymous
  | signedIn {c : String} {who : Identity} (h : identify c = .ok who) :
    Reached ⟨some who, some c, false⟩

/-- Identity and credential go together, the one read from the other, and neither is there before
the bootstrap is over. -/
structure Sound (s : Session) : Prop where
  identity_iff : s.identity.isSome ↔ s.credential.isSome
  identified : ∀ c, s.credential = some c → ∃ who, identify c = .ok who ∧ s.identity = some who
  blank : s.loading = true → s.identity = none ∧ s.credential = none

/-! ## Lemmas -/

theorem Reached.sound {s : Session} (h : s.Reached) : s.Sound := by
  cases h with
  | bootstrapping =>
    exact ⟨by simp [Session.bootstrapping], fun c hc => by simp [Session.bootstrapping] at hc,
      fun _ => ⟨rfl, rfl⟩⟩
  | anonymous =>
    exact ⟨by simp [Session.anonymous], fun c hc => by simp [Session.anonymous] at hc,
      fun _ => ⟨rfl, rfl⟩⟩
  | signedIn h =>
    refine ⟨by simp, fun c hc => ?_, fun hl => by simp at hl⟩
    obtain rfl := Option.some.inj hc
    exact ⟨_, h, rfl⟩

theorem reached_restore (policy : MalformedPolicy) (now : Int64) (stored : Option String) :
    (restore policy now stored).1.Reached := by
  cases stored with
  | none => exact .anonymous
  | some c =>
    rw [restore]
    split
    · exact .anonymous
    · cases h : identify c with
      | ok who => exact .signedIn h
      | error _ => exact .anonymous

/-- The bootstrap decides; it does not leave a session loading. -/
theorem loading_restore (policy : MalformedPolicy) (now : Int64) (stored : Option String) :
    (restore policy now stored).1.loading = false := by
  cases stored with
  | none => rfl
  | some c =>
    rw [restore]
    split
    · rfl
    · cases identify c <;> rfl

theorem reached_bootstrap {s : Session} (h : s.Reached) (policy : MalformedPolicy) (now : Int64)
    (stored : Option String) : (s.bootstrap policy now stored).1.Reached := by
  unfold bootstrap
  split
  · exact reached_restore policy now stored
  · exact h

theorem login_of_ok {c : String} {who : Identity} (h : identify c = .ok who) (s : Session) :
    s.login c = (.ok who, ⟨some who, some c, false⟩, .save c) := by
  rw [login, h]

theorem login_of_error {c : String} {fault : Fault} (h : identify c = .error fault) (s : Session) :
    s.login c = (.error fault, s, .keep) := by
  rw [login, h]

theorem reached_login {s : Session} (h : s.Reached) (c : String) : (s.login c).2.1.Reached := by
  cases hc : identify c with
  | ok who => rw [login_of_ok hc]; exact .signedIn hc
  | error _ => rw [login_of_error hc]; exact h

theorem reached_logout {s : Session} (h : s.Reached) : s.logout.1.Reached := by
  cases h with
  | bootstrapping => exact .bootstrapping
  | anonymous => exact .anonymous
  | signedIn _ => exact .anonymous

end Session

namespace Owner

variable {σ : Type} (slot : Slot σ)

@[simp] theorem session_commit (o : Owner σ) (step : Session × Write) :
    (o.commit slot step).session = step.1 := rfl

@[simp] theorem store_commit (o : Owner σ) (step : Session × Write) :
    (o.commit slot step).store = slot.write step.2 o.store := rfl

theorem bootstrap_of_settled {o : Owner σ} (h : o.session.loading = false) (now : Int64) :
    o.bootstrap slot now = o := by
  simp [bootstrap, h]

theorem login_of_error {c : String} {fault : Fault} (h : identify c = .error fault) (o : Owner σ) :
    o.login slot c = (.error fault, o) := by
  rw [login, Session.login_of_error h]; rfl

/-- The one thing a slot has a say in is what a session that loads is restored from. -/
theorem session_bootstrap (o : Owner σ) (now : Int64) :
    (o.bootstrap slot now).session =
      (o.session.bootstrap o.config.malformed now (slot.load o.store).1).1 := by
  by_cases h : o.session.loading = true
  · simp [bootstrap, h]
  · simp [bootstrap, Session.bootstrap, h]

theorem session_bootstrap_fresh (config : SessionConfig) (store : σ) (now : Int64) :
    ((fresh config store).bootstrap slot now).session =
      (Session.restore config.malformed now (slot.load store).1).1 :=
  session_bootstrap slot (fresh config store) now

theorem session_login (o : Owner σ) (c : String) :
    (o.login slot c).2.session = (o.session.login c).2.1 := rfl

theorem session_logout (o : Owner σ) : (o.logout slot).session = o.session.logout.1 := rfl

theorem reached_step {o : Owner σ} (h : o.session.Reached) (step : Step) :
    (o.step slot step).session.Reached := by
  cases step with
  | bootstrap now =>
    rw [Owner.step, session_bootstrap]
    exact Session.reached_bootstrap h _ now _
  | login c =>
    rw [Owner.step, session_login]
    exact Session.reached_login h c
  | logout =>
    rw [Owner.step, session_logout]
    exact Session.reached_logout h

theorem reached_run {o : Owner σ} (h : o.session.Reached) (steps : List Step) :
    (o.run slot steps).session.Reached := by
  induction steps generalizing o with
  | nil => exact h
  | cons step steps ih => exact ih (reached_step slot h step)

theorem loading_step {o : Owner σ} (h : o.session.loading = false) (step : Step) :
    (o.step slot step).session.loading = false := by
  cases step with
  | bootstrap now => rw [Owner.step, bootstrap_of_settled slot h]; exact h
  | login c =>
    rw [Owner.step, session_login]
    cases hc : identify c with
    | ok who => rw [Session.login_of_ok hc]
    | error _ => rw [Session.login_of_error hc]; exact h
  | logout => exact h

theorem loading_run {o : Owner σ} (h : o.session.loading = false) (steps : List Step) :
    (o.run slot steps).session.loading = false := by
  induction steps generalizing o with
  | nil => exact h
  | cons step steps ih => exact ih (loading_step slot h step)

end Owner

/-! ## The account -/

namespace Account

/-- An account as the owner of the token's slot in its storage. -/
def owner (a : Account) : Owner Storage := ⟨⟨a.policy⟩, a.session, a.storage⟩

theorem write_browser (s : Storage) (w : Write) : Slot.browser.write w s = s.write tokenKey w := by
  cases w with
  | keep => unfold Storage.write; split <;> rfl
  | save _ => rfl
  | clear => rfl

theorem owner_commit (a : Account) (step : Session × Write) :
    (a.commit step).owner = a.owner.commit .browser step := by
  simp only [owner, commit, Owner.commit, write_browser]

theorem owner_bootstrap (a : Account) :
    a.bootstrap.owner = a.owner.bootstrap .browser a.now.clampInt64 := by
  rw [bootstrap, owner_commit]
  by_cases h : a.session.loading = true
  · simp [Owner.bootstrap, owner, h, Slot.browser]
  · simp [Owner.bootstrap, owner, h, Session.bootstrap, Owner.commit, Slot.write]

theorem owner_login (a : Account) (c : String) :
    ((a.login c).1, (a.login c).2.owner) = a.owner.login .browser c := by
  rw [login, owner_commit]
  rfl

theorem owner_logout (a : Account) : a.logout.owner = a.owner.logout .browser :=
  owner_commit a _

end Account

/-! ## Top theorem -/

namespace Owner

variable {σ : Type} (slot : Slot σ)

/-- **Any run over any slot.**  The session is sound; once settled it stays settled, and a further
bootstrap does nothing at all; a login that fails does nothing either, and one that succeeds signs
in. -/
theorem run_sound (config : SessionConfig) (store : σ) (steps : List Step) :
    let o := (fresh config store).run slot steps
    o.session.Sound ∧
      (o.session.loading = false → ∀ more, (o.run slot more).session.loading = false) ∧
      (∀ now, (o.bootstrap slot now).session.loading = false) ∧
      (o.session.loading = false → ∀ now, o.bootstrap slot now = o) ∧
      (∀ c fault, (o.login slot c).1 = .error fault → (o.login slot c).2 = o) ∧
      ∀ c who, (o.login slot c).1 = .ok who →
        identify c = .ok who ∧ (o.login slot c).2.session = ⟨some who, some c, false⟩ := by
  intro o
  have reached : o.session.Reached := reached_run slot .bootstrapping steps
  refine ⟨reached.sound, fun h more => loading_run slot h more, fun now => ?_,
    fun h now => bootstrap_of_settled slot h now, fun c fault h => ?_, fun c who h => ?_⟩
  · rw [session_bootstrap, Session.bootstrap]
    split
    · exact Session.loading_restore _ now _
    · next hl => simpa using hl
  · cases hc : identify c with
    | ok who => rw [login, Session.login_of_ok hc] at h; cases h
    | error f => rw [login_of_error slot hc]
  · cases hc : identify c with
    | ok who' =>
      rw [login, Session.login_of_ok hc] at h ⊢
      cases h
      exact ⟨rfl, rfl⟩
    | error f => rw [login_of_error slot hc] at h; cases h

end Owner

end CarCatalog
