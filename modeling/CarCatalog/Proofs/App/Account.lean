import CarCatalog.App.Basic
import CarCatalog.Gate
import CarCatalog.Proofs.Credential
import CarCatalog.Proofs.Slot.Browser

/-!
# What an event makes of the account

The account changes by steps of its session alone: the bootstrap, the way out, the answer to a
sign-in and the status 401, which signs out whatever was asked for and whoever is signed in by the
time it arrives.  No other reply makes any difference.

    (a.receive t reply).account = a.account.answered reply                        (account_receive)
    (a.step e).account.owner = a.account.owner.run .browser steps, or e is a world event
                                                                                  (owner_step)
-/

namespace CarCatalog

/-- Whether a reply refuses the credential. -/
def Api.Reply.refuses : Api.Reply → Bool
  | .arrived status _ => status == 401
  | .lost _ => false

/-- The account once a reply has arrived. -/
def Account.answered (a : Account) (reply : Api.Reply) : Account :=
  if reply.refuses then a.logout else a

/-! ## Lemmas -/

theorem Api.Reply.refuses_iff {reply : Api.Reply} :
    reply.refuses = true ↔ ∃ body, reply = .arrived 401 body := by
  cases reply <;> simp [refuses]

namespace Account

variable {α : Type} (a : Account)

/-- A call fails for want of authorization exactly when its reply says so. -/
theorem refuse_outcome {call : Api.Call α} {reply : Api.Reply} {f : Api.Failure}
    (h : call.outcome reply = .error f) : (a.refuse f).2 = a.answered reply := by
  unfold Api.Call.outcome at h
  split at h
  · cases h
    rfl
  · next status body =>
    split at h
    · next success =>
      have other : (status == 401) = false := by
        rw [beq_eq_false_iff_ne]
        rintro rfl
        exact absurd success (by decide)
      split at h
      · cases h
      · cases h
        simp [refuse, answered, Api.Failure.isUnauthorized, Api.Reply.refuses, other]
    · cases h
      by_cases unauthorized : status = 401 <;>
        simp [refuse, answered, Api.Failure.isUnauthorized, Api.Reply.refuses, unauthorized]

theorem answered_of_ok {call : Api.Call α} {reply : Api.Reply} {value : α}
    (h : call.outcome reply = .ok value) : a.answered reply = a := by
  unfold Api.Call.outcome at h
  split at h
  · cases h
  · next status body =>
    split at h
    · next success =>
      refine if_neg fun refused => ?_
      obtain rfl : status = 401 := by simpa [Api.Reply.refuses] using refused
      exact absurd success (by decide)
    · cases h

theorem receivePage_answered (pager : Pager) (call : Api.Call (Page α)) (reply : Api.Reply) :
    (a.receivePage pager (call.outcome reply)).1 = a.answered reply := by
  cases h : call.outcome reply with
  | ok page => exact (a.answered_of_ok h).symm
  | error f => exact a.refuse_outcome h

theorem receiveValue_answered (call : Api.Call α) (reply : Api.Reply) :
    (a.receiveValue (call.outcome reply)).1 = a.answered reply := by
  cases h : call.outcome reply with
  | ok value => exact (a.answered_of_ok h).symm
  | error f => exact a.refuse_outcome h

theorem receiveDone_answered (call : Api.Call Unit) (reply : Api.Reply) :
    (a.receiveDone (call.outcome reply)).1 = a.answered reply := by
  cases h : call.outcome reply with
  | ok value => exact (a.answered_of_ok h).symm
  | error f => exact a.refuse_outcome h

end Account

namespace App

variable {α : Type} (a : App)

theorem account_receivePage (pager : Pager) (call : Api.Call (Page α)) (reply : Api.Reply)
    (place : Pager → Loadable (Page α) → Screen) :
    (a.receivePage pager (call.outcome reply) place).account = a.account.answered reply :=
  a.account.receivePage_answered pager call reply

theorem account_receiveValue (call : Api.Call α) (reply : Api.Reply)
    (place : Loadable α → Screen) :
    (a.receiveValue (call.outcome reply) place).account = a.account.answered reply :=
  a.account.receiveValue_answered call reply

theorem account_receiveNothing (call : Api.Call α) (reply : Api.Reply) :
    (a.receiveNothing (call.outcome reply)).account = a.account.answered reply :=
  a.account.receiveValue_answered call reply

/-- What follows a success leaves the account alone. -/
theorem account_succeed (page : Nat) (action : Action) :
    (a.succeed page action).account = a.account := by
  unfold succeed
  split
  -- the form of an edited user may be gone
  case h_3 => split <;> rfl
  all_goals rfl

theorem account_complain (page : Nat) (action : Action) (message : String) :
    (a.complain page action message).account = a.account := by
  unfold complain
  split <;> rfl

/-- Pages differ in what they make of an answer, not in what it makes of the account. -/
theorem account_receive {t : Task} (other : ∀ page credentials, t ≠ .signIn page credentials)
    (reply : Api.Reply) : (a.receive t reply).account = a.account.answered reply := by
  unfold receive
  cases t with
  | signIn page credentials => exact absurd rfl (other page credentials)
  | users page query =>
    dsimp only
    split <;> simp only [account_receivePage, account_receiveNothing]
  | overview page =>
    dsimp only
    split <;> simp only [account_receiveValue, account_receiveNothing]
  | rows page level query =>
    dsimp only
    split <;> simp only [account_receivePage, account_receiveNothing]
  | cars page query =>
    dsimp only
    split <;> simp only [account_receivePage, account_receiveNothing]
  | heldRoles page panel user =>
    dsimp only
    split <;> simp only [account_receiveValue, account_receiveNothing]
  | allRoles page panel =>
    dsimp only
    split <;> simp only [account_receiveValue, account_receiveNothing]
  | spec page form id =>
    dsimp only
    split <;> simp only [account_receiveValue, account_receiveNothing]
  | act page action =>
    dsimp only
    rw [← a.account.receiveDone_answered action.call reply]
    split
    · rw [account_succeed]
    · rw [account_complain]

theorem account_answer {i : Nat} {t : Task} (waits : a.waiting[i]? = some t)
    (other : ∀ page credentials, t ≠ .signIn page credentials) (reply : Api.Reply) :
    (a.step (.answer i reply)).account = a.account.answered reply := by
  rw [step, waits]
  exact account_receive _ other reply

/-! ## Events -/

theorem account_mount (kind : ScreenKind) : (a.mount kind).account = a.account := rfl

theorem account_visit (path : String) : (a.visit path).account = a.account := by
  unfold visit
  split
  · rfl
  · exact account_mount { a with path } _

theorem account_rebuild : a.rebuild.account = a.account := by
  unfold rebuild
  split <;> rfl

theorem account_refresh : a.refresh.account = a.account := by
  unfold refresh
  dsimp only
  split
  · exact account_visit a _
  · split
    · exact account_rebuild a
    · exact account_mount a _

theorem account_press {msg : Msg} (h : msg ≠ .logout) : (a.press msg).account = a.account := by
  unfold press
  split
  · exact absurd rfl h
  all_goals rfl

/-- The answer to a sign-in logs in with the token it brings. -/
theorem account_receive_signIn (page : Nat) (credentials : SignIn) (reply : Api.Reply) :
    (a.receive (.signIn page credentials) reply).account =
      (a.account.signIn ((Api.signIn credentials).outcome reply)).2 := by
  unfold receive
  dsimp only
  split <;> rfl

theorem owner_signIn (account : Account) (outcome : Except Api.Failure Token) :
    ∃ steps, (account.signIn outcome).2.owner = account.owner.run .browser steps := by
  cases outcome with
  | error f => exact ⟨[], rfl⟩
  | ok token =>
    refine ⟨[.login token.access], ?_⟩
    have after : (account.login token.access).2.owner =
        (account.owner.login .browser token.access).2 :=
      congrArg Prod.snd (account.owner_login token.access)
    rw [Owner.run, List.foldl_cons, List.foldl_nil, Owner.step, ← after, Account.signIn]
    split <;> next h => rw [h]

/-- Unless the world changes the storage, what happens to the application makes steps of its session,
over that storage. -/
theorem owner_step (e : Event) :
    (∃ storage now, e = .world storage now) ∨
      ∃ steps, (a.step e).account.owner = a.account.owner.run .browser steps := by
  cases e with
  | bootstrap => exact .inr ⟨[.bootstrap a.account.now.clampInt64], a.account.owner_bootstrap⟩
  | press msg =>
    by_cases leaves : msg = .logout
    · subst leaves
      exact .inr ⟨[.logout], a.account.owner_logout⟩
    · exact .inr ⟨[], by rw [step, account_press a leaves]; rfl⟩
  | visit path => exact .inr ⟨[], by rw [step, account_visit]; rfl⟩
  | send =>
    refine .inr ⟨[], ?_⟩
    cases hq : a.queue <;> simp [step, send?, hq, Owner.run]
  | answer i reply =>
    refine .inr ?_
    cases waits : a.waiting[i]? with
    | none => exact ⟨[], by rw [step, waits]; rfl⟩
    | some t =>
      by_cases signsIn : ∃ page credentials, t = .signIn page credentials
      · obtain ⟨page, credentials, rfl⟩ := signsIn
        rw [step, waits, account_receive_signIn]
        exact owner_signIn _ _
      · have other : ∀ page credentials, t ≠ .signIn page credentials :=
          fun page credentials h => signsIn ⟨page, credentials, h⟩
        rw [account_answer a waits other, Account.answered]
        split
        · exact ⟨[.logout], a.account.owner_logout⟩
        · exact ⟨[], rfl⟩
  | refresh => exact .inr ⟨[], by rw [step, account_refresh]; rfl⟩
  | world storage now => exact .inl ⟨storage, now, rfl⟩

/-! ## Top theorem -/

/-- **Status 401.**  The answer to anything but a sign-in, in whatever state it finds the application:
with the status 401 nobody is signed in any more, a storage that works holds no token, and a session
that has loaded is sent to the sign-in page; with any other reply the account, its session and its
storage are what they were. -/
theorem unauthorized_answer_signs_out (i : Nat) (t : Task) (reply : Api.Reply)
    (waits : a.waiting[i]? = some t) (other : ∀ page credentials, t ≠ .signIn page credentials) :
    let before := a.account
    let after := (a.step (.answer i reply)).account
    ((∃ body, reply = .arrived 401 body) →
      after.session.identity = none ∧ after.session.credential = none ∧
        after.session.loading = before.session.loading ∧
        (before.storage.condition = .works → after.storage.token = none) ∧
        (before.session.loading = false → after.session.layoutGate = .toLogin)) ∧
    ((¬∃ body, reply = .arrived 401 body) → after = before) := by
  intro before after
  have answered : after = before.answered reply := a.account_answer waits other reply
  rw [answered, Account.answered, ← Api.Reply.refuses_iff]
  refine ⟨fun refused => ?_, fun accepted => if_neg accepted⟩
  rw [if_pos refused]
  refine ⟨rfl, rfl, rfl, fun works => ?_, fun settled => ?_⟩
  · show (before.storage.write tokenKey .clear).token = none
    rw [Storage.token, ← Storage.read_of_works ((Storage.condition_write _ _ _).trans works),
      Storage.read_write works]
    rfl
  · show Session.layoutGate ⟨none, none, before.session.loading⟩ = .toLogin
    rw [settled]
    rfl

/-- An administrator's editor has asked for the brands, and is refused. -/
theorem unauthorized_answer_signs_out_brands :
    let start := App.start (.fresh .retain ⟨.works, [(tokenKey, adminCredential)]⟩ (.ofNat 0))
      "/car-spec"
    let a := start.run [.bootstrap, .refresh, .send]
    let t := Task.rows 1 .brands EditorPage.firstPage.query
    let refused := (a.step (.answer 0 (.arrived 401 []))).account
    a.waiting[0]? = some t ∧ (∀ page credentials, t ≠ .signIn page credentials) ∧
      a.account.storage.token = some adminCredential ∧ refused.storage.token = none ∧
      refused.session.layoutGate = .toLogin := by
  intro start a t refused
  have waits : a.waiting[0]? = some t := by unfold a t start; decide +kernel
  have works : a.account.storage.condition = .works := by unfold a start; decide +kernel
  have settled : a.account.session.loading = false := by unfold a start; decide +kernel
  have stored : a.account.storage.token = some adminCredential := by unfold a start; decide +kernel
  have other : ∀ page credentials, t ≠ .signIn page credentials := nofun
  obtain ⟨-, -, -, cleared, gate⟩ :=
    (unauthorized_answer_signs_out a 0 t (.arrived 401 []) waits other).1 ⟨[], rfl⟩
  exact ⟨waits, other, stored, cleared works, gate settled⟩

end App

end CarCatalog
