import CarCatalog.Proofs.App.Account
import CarCatalog.Proofs.App.Rows
import CarCatalog.Proofs.Session.Reload

/-!
# Which credential a request carries

A request is sent with the token that the storage holds by then; the session is not asked.  As long
as the token is the application's own (`App.OwnsToken`) that is the session's credential, or one that
cannot be read and was left there.  Another tab can make it someone else's until the session changes
again (`foreign_credential_sent`).

    (t.request credential).authorization = credential.map Api.bearer       (authorization_request)
    start.OwnsToken events → (start.run events).account.Kept               (kept_run)
-/

namespace CarCatalog

/-- The storage works, and what it holds agrees with the session. -/
def Account.Kept (a : Account) : Prop :=
  a.owner.Agrees (fun s => s.condition = .works) (fun s => s.read tokenKey)

namespace App

/-- What changes behind the back of the application leaves the token as it is, in a storage that
works. -/
def LeavesToken (a : App) : Event → Prop
  | .world storage _ => storage.condition = .works ∧ storage.read tokenKey = a.account.credential
  | _ => True

/-- After these events the token is the application's own: the storage has worked and nobody else
has changed the token since the start, or since a change of the session over a storage that worked. -/
inductive OwnsToken (start : App) : List Event → Prop
  | start (works : start.account.storage.condition = .works) : OwnsToken start []
  | left {events : List Event} {e : Event} (owns : OwnsToken start events)
    (leaves : (start.run events).LeavesToken e) : OwnsToken start (events ++ [e])
  | renewed {events : List Event} {e : Event}
    (works : (start.run events).account.storage.condition = .works)
    (changed : ((start.run events).step e).account.session ≠ (start.run events).account.session) :
    OwnsToken start (events ++ [e])

end App

/-! ## Lemmas -/

theorem Api.bearer_inj {c d : String} : bearer c = bearer d ↔ c = d := by
  refine ⟨fun h => ?_, congrArg bearer⟩
  have chars := congrArg String.toList h
  rw [bearer, bearer, String.toList_append, String.toList_append] at chars
  exact String.ext (List.append_cancel_left chars)

theorem Task.authorization_request (t : Task) (credential : Option String) :
    (t.request credential).authorization = credential.map Api.bearer := by
  cases t <;> rfl

namespace App

/-- A request takes its header from the storage. -/
theorem authorization_send {a b : App} {request : Api.Request}
    (sent : a.send? = some (request, b)) :
    request.authorization = a.account.credential.map Api.bearer := by
  unfold send? at sent
  split at sent
  · cases sent
  · cases sent
    exact Task.authorization_request _ _

theorem kept_step {a : App} (h : a.account.Kept) {e : Event} (leaves : a.LeavesToken e) :
    (a.step e).account.Kept := by
  obtain ⟨storage, now, rfl⟩ | ⟨steps, run⟩ := a.owner_step e
  · obtain ⟨works, same⟩ := leaves
    refine ⟨works, ?_⟩
    show a.account.session.Agrees (storage.read tokenKey)
    rw [same]
    exact h.agrees
  · rw [Account.Kept, run]
    exact Owner.agrees_run Slot.browser_keeps h steps

/-- Over a storage that works a session that changes leaves there what agrees with it. -/
theorem kept_of_changed {a : App} (works : a.account.storage.condition = .works) {e : Event}
    (changed : (a.step e).account.session ≠ a.account.session) : (a.step e).account.Kept := by
  obtain ⟨storage, now, rfl⟩ | ⟨steps, run⟩ := a.owner_step e
  · exact absurd rfl changed
  · have session : (a.step e).account.session = (a.account.owner.run .browser steps).session :=
      congrArg Owner.session run
    rw [session] at changed
    rw [Account.Kept, run]
    exact Owner.agrees_of_changed_run Slot.browser_keeps works changed

theorem run_concat (a : App) (events : List Event) (e : Event) :
    a.run (events ++ [e]) = (a.run events).step e := by
  rw [run, List.foldl_append, run]
  rfl

theorem kept_run {start : App} (loads : start.account.session.loading = true) {events : List Event}
    (owns : start.OwnsToken events) : (start.run events).account.Kept := by
  induction owns with
  | start works =>
    refine ⟨works, fun (settled : start.account.session.loading = false) => ?_⟩
    rw [loads] at settled
    cases settled
  | left _ leaves ih =>
    rw [run_concat]
    exact kept_step ih leaves
  | renewed works changed =>
    rw [run_concat]
    exact kept_of_changed works changed

theorem reached_session_step {a : App} (h : a.account.session.Reached) (e : Event) :
    (a.step e).account.session.Reached := by
  obtain ⟨storage, now, rfl⟩ | ⟨steps, run⟩ := a.owner_step e
  · exact h
  · have session : (a.step e).account.session = (a.account.owner.run .browser steps).session :=
      congrArg Owner.session run
    rw [session]
    exact Owner.reached_run .browser h steps

theorem reached_session_run {a : App} (h : a.account.session.Reached) (events : List Event) :
    (a.run events).account.session.Reached := by
  induction events generalizing a with
  | nil => exact h
  | cons e es ih => exact ih (reached_session_step h e)

/-! ## Top theorem -/

/-- **The credential of a request.**  In any run, over a storage in any condition and whoever writes
there: a request carries the credential that the storage holds as it is sent, and none if none can be
read.  While the token is the application's own, that is the credential of a session that has loaded,
which is that of the user shown; without one, a request carries no credential but one that cannot be
read. -/
theorem authorization_of_stored (policy : MalformedPolicy) (storage : Storage) (now : Binary64)
    (path : String) (events : List Event) (request : Api.Request) (after : App)
    (sent : ((App.start (.fresh policy storage now) path).run events).send? =
      some (request, after)) :
    let start := App.start (.fresh policy storage now) path
    let account := (start.run events).account
    (∀ c, request.authorization = some (Api.bearer c) ↔ account.storage.read tokenKey = some c) ∧
    (request.authorization = none ↔ account.storage.read tokenKey = none) ∧
    (start.OwnsToken events → account.session.loading = false →
      (∀ c, account.session.credential = some c →
        request.authorization = some (Api.bearer c) ∧
          ∃ who, identify c = .ok who ∧ account.session.identity = some who) ∧
      (account.session.credential = none → ∀ header, request.authorization = some header →
        ∃ c fault, header = Api.bearer c ∧ identify c = .error fault)) := by
  intro start account
  have header : request.authorization = (account.storage.read tokenKey).map Api.bearer :=
    authorization_send sent
  refine ⟨fun c => ?_, ?_, fun owns settled => ?_⟩
  · rw [header, Option.map_eq_some_iff]
    simp only [Api.bearer_inj, exists_eq_right]
  · rw [header, Option.map_eq_none_iff]
  · have kept : account.Kept := kept_run rfl owns
    have sound := (reached_session_run (a := start) .bootstrapping events).sound
    obtain ⟨held, unread⟩ := kept.agrees settled
    refine ⟨fun c hc => ⟨?_, sound.identified c hc⟩, fun anonymous h hh => ?_⟩
    · have stored : account.storage.read tokenKey = some c := held c hc
      rw [header, stored]
      rfl
    · rw [header] at hh
      obtain ⟨c, stored, rfl⟩ := Option.map_eq_some_iff.mp hh
      obtain ⟨fault, hc⟩ := unread anonymous c stored
      exact ⟨c, fault, rfl, hc⟩

/-- The editor that an administrator comes back to asks for the brands in their name. -/
theorem authorization_of_stored_brands :
    ∃ request after, (editorVisit.run [.bootstrap, .refresh]).send? = some (request, after) ∧
      editorVisit.OwnsToken [.bootstrap, .refresh] ∧
      request.authorization = some (Api.bearer adminCredential) := by
  have asks : (editorVisit.run [.bootstrap, .refresh]).send?.isSome := by decide +kernel
  have settled : (editorVisit.run [.bootstrap, .refresh]).account.session.loading = false := by
    decide +kernel
  have signed : (editorVisit.run [.bootstrap, .refresh]).account.session.credential =
      some adminCredential := by
    decide +kernel
  have owns : editorVisit.OwnsToken ([] ++ [.bootstrap] ++ [.refresh]) :=
    .left (.left (.start rfl) trivial) trivial
  have carried := authorization_of_stored .retain ⟨.works, [(tokenKey, adminCredential)]⟩
    (.ofNat 0) "/car-spec" [.bootstrap, .refresh]
  -- the application is a variable from here on, so that nothing runs it once more
  dsimp only at carried
  unfold editorVisit at asks settled signed owns ⊢
  generalize App.start (.fresh .retain ⟨.works, [(tokenKey, adminCredential)]⟩ (.ofNat 0))
    "/car-spec" = start at *
  generalize start.run [.bootstrap, .refresh] = a at *
  obtain ⟨⟨request, after⟩, sent⟩ := Option.isSome_iff_exists.mp asks
  obtain ⟨-, -, own⟩ := carried request after sent
  exact ⟨request, after, sent, owns, ((own owns settled).1 _ signed).1⟩

/-! ## Two runs on the credential of another -/

/-- A credential of user 7, who is no administrator. -/
def userCredential : String :=
  credentialOf (.record [("sub", .int 7), ("exp", .int 9999999999), ("role", .text "User")])

/-- A credential whose subject is no number. -/
def namelessCredential : String :=
  credentialOf (.record [("sub", .text "x"), ("exp", .int 9999999999)])

/-- The header of the next request. -/
def nextAuthorization? (a : App) : Option (Option String) := a.send?.map (·.1.authorization)

/-- User 7 signs in at another tab while an administrator's editor is about to ask for the brands. -/
def takenOver : List Event :=
  [.bootstrap, .refresh, .world ⟨.works, [(tokenKey, userCredential)]⟩ (.ofNat 0)]

/-- A visit to the sign-in page over a credential that cannot be read. -/
def loginVisit : App :=
  App.start (.fresh .retain ⟨.works, [(tokenKey, namelessCredential)]⟩ (.ofNat 0)) "/login"

def signingIn : List Event :=
  [.bootstrap, .refresh, .press (.login (.username "anna")), .press (.login (.password "secret")),
    .press (.login .submit)]

/-- **Foreign credentials.**  After a sign-in at another tab the editor is still the administrator's,
and asks for the brands in the name of user 7.  A credential that cannot be read stays in its place:
nobody is signed in, and the request to sign in carries it. -/
theorem foreign_credential_sent :
    (editorVisit.run takenOver).account.session.phase = .authenticated ∧
    (editorVisit.run takenOver).account.session.credential = some adminCredential ∧
    (editorVisit.run takenOver).nextAuthorization? = some (some (Api.bearer userCredential)) ∧
    Api.bearer userCredential ≠ Api.bearer adminCredential ∧
    (loginVisit.run signingIn).account.session.phase = .anonymous ∧
    (loginVisit.run signingIn).account.session.credential = none ∧
    (loginVisit.run signingIn).nextAuthorization? =
      some (some (Api.bearer namelessCredential)) := by
  decide +kernel

end App

end CarCatalog
