import CarCatalog.Proofs.Credential
import CarCatalog.Proofs.Session.Sound
import CarCatalog.Proofs.Slot.Memory

/-!
# What a bootstrap makes of the slot

A stored credential is read twice: for its expiry, where every fault counts as expired, and for its
identity.  A fault of the payload is met by the first reading, so that only the subject is left to
the second, and to the policy.

    isExpired c now = false → identify c = .error fault → fault = .invalidSubject
                                                                          (fault_of_unexpired)
    (restore .retain now stored).2 = (restore .clear now stored).2
      or stored is an unexpired credential of no readable subject             (write_restore)
-/

namespace CarCatalog

/-! ## Faults -/

theorem Claims.fault_of_subject {claims : Claims} {fault : Fault}
    (h : claims.subject = .error fault) : fault = .invalidSubject := by
  rw [Claims.subject] at h
  split at h
  · cases h
  · cases h
    rfl

theorem isExpired_of_fault {c : String} {fault : Fault} (h : Claims.parse c = .error fault)
    (now : Int64) : isExpired c now = true := by
  rw [isExpired, h]
  rfl

theorem isExpired_of_no_number {c : String} {claims : Claims} (h : Claims.parse c = .ok claims)
    (no_number : ∀ n, claims.exp ≠ .number n) (now : Int64) : isExpired c now = true := by
  have unreadable : claims.expiry = .error .missingExpiry := by
    rw [Claims.expiry]
    split
    · next n hn => exact absurd hn (no_number n)
    · rfl
  have read : (Claims.parse c >>= Claims.expiry) = .error .missingExpiry := by
    rw [h]
    exact unreadable
  rw [isExpired, read]

/-- What is at fault in a credential that has not expired is its subject. -/
theorem fault_of_unexpired {c : String} {now : Int64} {fault : Fault}
    (unexpired : isExpired c now = false) (h : identify c = .error fault) :
    fault = .invalidSubject := by
  cases hp : Claims.parse c with
  | error earlier =>
    rw [isExpired_of_fault hp now] at unexpired
    cases unexpired
  | ok claims =>
    rw [identify, hp] at h
    cases hs : claims.subject with
    | error other =>
      have same : (Except.error other : Except Fault Identity) = .error fault := by
        simpa only [bind, Except.bind, hs] using h
      cases same
      exact Claims.fault_of_subject hs
    | ok id =>
      simp only [bind, Except.bind, hs] at h
      cases h

/-! ## Restoring -/

namespace Session

theorem restore_of_expired {c : String} {now : Int64} (h : isExpired c now = true)
    (policy : MalformedPolicy) : restore policy now (some c) = (anonymous, .clear) := by
  rw [restore, if_pos h]

theorem restore_of_ok {c : String} {now : Int64} {who : Identity}
    (unexpired : isExpired c now = false) (h : identify c = .ok who) (policy : MalformedPolicy) :
    restore policy now (some c) = (⟨some who, some c, false⟩, .keep) := by
  rw [restore, unexpired, h]
  rfl

theorem restore_of_error {c : String} {now : Int64} {fault : Fault}
    (unexpired : isExpired c now = false) (h : identify c = .error fault)
    (policy : MalformedPolicy) :
    restore policy now (some c) = (anonymous, if policy = .clear then .clear else .keep) := by
  rw [restore, unexpired, h]
  rfl

/-- A credential that has not expired but has no subject that can be read. -/
def Subjectless (now : Int64) (stored : Option String) : Prop :=
  ∃ c, stored = some c ∧ isExpired c now = false ∧ identify c = .error .invalidSubject

/-- The policy has no say in the session. -/
theorem session_restore (policy : MalformedPolicy) (now : Int64) (stored : Option String) :
    (restore policy now stored).1 = (restore .retain now stored).1 := by
  cases stored with
  | none => rfl
  | some c =>
    cases he : isExpired c now with
    | true => rw [restore_of_expired he, restore_of_expired he]
    | false =>
      cases hc : identify c with
      | ok who => rw [restore_of_ok he hc, restore_of_ok he hc]
      | error fault => rw [restore_of_error he hc, restore_of_error he hc]

/-- It has a say in the slot where only the subject is at fault. -/
theorem write_restore {now : Int64} {stored : Option String} (h : ¬Subjectless now stored)
    (policy : MalformedPolicy) :
    (restore policy now stored).2 = (restore .retain now stored).2 := by
  cases stored with
  | none => rfl
  | some c =>
    cases he : isExpired c now with
    | true => rw [restore_of_expired he, restore_of_expired he]
    | false =>
      cases hc : identify c with
      | ok who => rw [restore_of_ok he hc, restore_of_ok he hc]
      | error fault =>
        obtain rfl := fault_of_unexpired he hc
        exact absurd ⟨c, rfl, he, hc⟩ h

theorem phase_restore_iff {policy : MalformedPolicy} {now : Int64} {stored : Option String} :
    (restore policy now stored).1.phase = .authenticated ↔
      ∃ c, stored = some c ∧ isExpired c now = false ∧ ∃ who, identify c = .ok who := by
  cases stored with
  | none =>
    constructor
    · intro h
      cases h
    · rintro ⟨_, h, -⟩
      cases h
  | some c =>
    constructor
    · intro h
      refine ⟨c, rfl, ?_⟩
      cases he : isExpired c now with
      | true => rw [restore_of_expired he] at h; cases h
      | false =>
        cases hc : identify c with
        | ok who => exact ⟨rfl, who, rfl⟩
        | error fault => rw [restore_of_error he hc] at h; cases h
    · rintro ⟨_, hc, he, who, hw⟩
      cases hc
      rw [restore_of_ok he hw]
      rfl

end Session

/-! ## A fresh owner -/

namespace Owner

variable {σ : Type} {slot : Slot σ} {works : σ → Prop} {content : σ → Option String} {store : σ}
  {now : Int64} {c : String}

theorem session_bootstrap_works (keeps : slot.Keeps works content) (h : works store)
    (policy : MalformedPolicy) (now : Int64) :
    ((fresh ⟨policy⟩ store).bootstrap slot now).session =
      (Session.restore policy now (content store)).1 := by
  rw [session_bootstrap_fresh, keeps.load store h]

theorem store_bootstrap_works (keeps : slot.Keeps works content) (h : works store)
    (policy : MalformedPolicy) (now : Int64) :
    ((fresh ⟨policy⟩ store).bootstrap slot now).store =
      slot.write (Session.restore policy now (content store)).2 store := by
  have loads : (fresh ⟨policy⟩ store).session.loading = true := rfl
  rw [bootstrap, if_pos loads]
  show slot.write (Session.restore policy now (slot.load store).1).2 (slot.load store).2 = _
  rw [keeps.load store h]

theorem content_bootstrap (keeps : slot.Keeps works content) (h : works store)
    (policy : MalformedPolicy) (now : Int64) :
    content ((fresh ⟨policy⟩ store).bootstrap slot now).store =
      (Session.restore policy now (content store)).2.apply (content store) := by
  rw [store_bootstrap_works keeps h, keeps.content_write _ _ h]

theorem content_of_expired (keeps : slot.Keeps works content) (h : works store)
    (stored : content store = some c) (expired : isExpired c now = true)
    (policy : MalformedPolicy) :
    content ((fresh ⟨policy⟩ store).bootstrap slot now).store = none := by
  rw [content_bootstrap keeps h, stored, Session.restore_of_expired expired]
  rfl

theorem content_of_ok (keeps : slot.Keeps works content) (h : works store)
    (stored : content store = some c) (unexpired : isExpired c now = false) {who : Identity}
    (read : identify c = .ok who) (policy : MalformedPolicy) :
    content ((fresh ⟨policy⟩ store).bootstrap slot now).store = some c := by
  rw [content_bootstrap keeps h, stored, Session.restore_of_ok unexpired read]
  rfl

theorem content_of_error (keeps : slot.Keeps works content) (h : works store)
    (stored : content store = some c) (unexpired : isExpired c now = false) {fault : Fault}
    (unread : identify c = .error fault) (policy : MalformedPolicy) :
    content ((fresh ⟨policy⟩ store).bootstrap slot now).store =
      if policy = .clear then none else some c := by
  rw [content_bootstrap keeps h, stored, Session.restore_of_error unexpired unread]
  cases policy <;> rfl

/-- The slots come out different exactly where only the subject is at fault. -/
theorem store_ne_iff (keeps : slot.Keeps works content) (h : works store) :
    ((fresh ⟨.retain⟩ store).bootstrap slot now).store ≠
        ((fresh ⟨.clear⟩ store).bootstrap slot now).store ↔
      Session.Subjectless now (content store) := by
  constructor
  · intro differ
    by_cases subject : Session.Subjectless now (content store)
    · exact subject
    · have same := Session.write_restore subject .clear
      rw [store_bootstrap_works keeps h, store_bootstrap_works keeps h, same] at differ
      exact absurd rfl differ
  · rintro ⟨c, stored, unexpired, unread⟩ same
    have kept := content_of_error keeps h stored unexpired unread .retain
    have cleared := content_of_error keeps h stored unexpired unread .clear
    rw [same, cleared] at kept
    cases kept

/-! ## Top theorem -/

/-- **Bootstrap.**  Over a slot that works, a fresh session is signed in exactly with an unexpired
credential that can be read, and the slot keeps that one; an expired one is removed, and one that is
neither goes by the policy.  Two sessions of different policies come out the same, and so do their
slots unless the subject alone was at fault. -/
theorem bootstrap_decided (keeps : slot.Keeps works content) (h : works store) (now : Int64) :
    let after := fun policy => (fresh ⟨policy⟩ store).bootstrap slot now
    (∀ policy,
      ((after policy).session.phase = .authenticated ↔
        ∃ c, content store = some c ∧ isExpired c now = false ∧ ∃ who, identify c = .ok who) ∧
      (content store = none → content (after policy).store = none) ∧
      ∀ c, content store = some c →
        (∀ who, isExpired c now = false → identify c = .ok who →
          content (after policy).store = some c) ∧
        (isExpired c now = true → content (after policy).store = none) ∧
        (∀ fault, isExpired c now = false → identify c = .error fault →
          content (after policy).store = if policy = .clear then none else some c)) ∧
    (after .retain).session = (after .clear).session ∧
    ((after .retain).store ≠ (after .clear).store ↔ Session.Subjectless now (content store)) ∧
    ∀ c, content store = some c →
      ((∃ fault, Claims.parse c = .error fault) ∨
        ∃ claims, Claims.parse c = .ok claims ∧ ∀ n, claims.exp ≠ .number n) →
      ∀ policy, content (after policy).store = none := by
  intro after
  have session : ∀ policy,
      (after policy).session = (Session.restore policy now (content store)).1 :=
    fun policy => session_bootstrap_works keeps h policy now
  refine ⟨fun policy => ⟨?_, fun empty => ?_, fun c stored => ⟨fun who unexpired read => ?_,
    fun expired => ?_, fun fault unexpired unread => ?_⟩⟩, ?_, store_ne_iff keeps h, ?_⟩
  · rw [session]
    exact Session.phase_restore_iff
  · show content ((fresh ⟨policy⟩ store).bootstrap slot now).store = none
    rw [content_bootstrap keeps h, empty]
    rfl
  · exact content_of_ok keeps h stored unexpired read policy
  · exact content_of_expired keeps h stored expired policy
  · exact content_of_error keeps h stored unexpired unread policy
  · rw [session, session]
    exact (Session.session_restore .clear now _).symm
  · rintro c stored (⟨fault, broken⟩ | ⟨claims, parsed, no_number⟩) policy
    · exact content_of_expired keeps h stored (isExpired_of_fault broken now) policy
    · exact content_of_expired keeps h stored (isExpired_of_no_number parsed no_number now) policy

/-- A credential that says its subject is alice. -/
def aliceCredential : String :=
  credentialOf (.record [("sub", .text "alice"), ("exp", .int 9999999999)])

/-- It stays where it is under one policy and goes under the other, and nobody is signed in. -/
theorem bootstrap_decided_alice :
    let store := Memory.Heap.empty.run [.seeded aliceCredential]
    let after := fun policy => (fresh ⟨policy⟩ store).bootstrap (.memory 0) 0
    (after .retain).store.load 0 = some aliceCredential ∧ (after .clear).store.load 0 = none ∧
      (after .retain).session = (after .clear).session := by
  intro store after
  have works : store.Works 0 := Memory.Heap.works_of_lt (by decide)
  obtain ⟨each, session, -⟩ := bootstrap_decided (Slot.memory_keeps 0) works 0
  have stored : store.load 0 = some aliceCredential := by decide +kernel
  have unexpired : isExpired aliceCredential 0 = false := by decide +kernel
  have nobody : (identify aliceCredential).toOption = none := by decide +kernel
  obtain ⟨fault, unread⟩ : ∃ fault, identify aliceCredential = .error fault := by
    cases hc : identify aliceCredential with
    | error fault => exact ⟨fault, rfl⟩
    | ok who => rw [hc] at nobody; cases nobody
  exact ⟨((each .retain).2.2 _ stored).2.2 _ unexpired unread,
    ((each .clear).2.2 _ stored).2.2 _ unexpired unread, session⟩

end Owner

end CarCatalog
