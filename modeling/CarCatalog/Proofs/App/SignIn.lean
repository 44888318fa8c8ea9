import CarCatalog.Proofs.App.Account
import CarCatalog.Proofs.App.Owned
import CarCatalog.Proofs.App.Rows
import CarCatalog.Proofs.App.Shown

/-!
# Signing in

The sign-in form is busy while its one sign-in is without an answer (`Stage.Locked`).  Only a submit that
is not made in the meantime, of texts the form takes, asks for a sign-in (`Stage.Submits`); and whatever the
answer, the form is free again.

    c.Owned → c.Locked → c.Turn e c' → c'.Locked                                     (locked_turn)
    c.Turn e c' → c.Submits e credentials, or c' has no more sign-ins than c         (signIns_turn)
    a.SignsIn f reply (a.step (.answer i reply))                                   (signsIn_answer)
-/

namespace CarCatalog

/-- A sign-in of the page of a number. -/
def Task.signsIn (n : Nat) : Task → Bool
  | .signIn page _ => page == n
  | _ => false

/-- The form of the mounted page is busy while one sign-in of that page is without an answer, and there is
never another. -/
def Stage.Locked (c : Stage) : Prop :=
  ∀ f, c.screen = .login f →
    (c.tasks.filter (Task.signsIn c.number)).length = if f.busy then 1 else 0

/-- A submit of texts that the form takes, and that is not busy. -/
def Stage.Submits (c : Stage) (e : App.Event) (credentials : SignIn) : Prop :=
  e = .press (.login .submit) ∧ ∃ f, c.screen = .login f ∧ f.busy = false ∧
    Form.signIn f.username f.password = .ok credentials

/-- A reply that brings a token: a success whose body reads as one. -/
def Api.Reply.Brings (reply : Api.Reply) (token : Token) : Prop :=
  ∃ status body, reply = .arrived status body ∧ 200 ≤ status ∧ status ≤ 299 ∧
    (Json.parse body).bind Wire.ofJson? = some token

/-- What the application makes of the answer to a sign-in of its form. -/
inductive App.SignsIn (a : App) (f : LoginForm) (reply : Api.Reply) (b : App) : Prop
  /-- A token that can be read signs in and is stored as it is. -/
  | admitted {token : Token} {who : Identity} (brought : reply.Brings token)
    (read : identify token.access = .ok who)
    (session : b.account.session = ⟨some who, some token.access, false⟩)
    (stored : a.account.storage.condition = .works → b.account.storage.token = some token.access)
    (form : b.screen = .login { f with password := "", busy := false })
  /-- After any other answer the account is as it was, and the form says something and can be submitted
  again. -/
  | refused {message : String} (other : ¬∃ token who, reply.Brings token ∧ identify token.access = .ok who)
    (account : b.account = a.account) (said : message ≠ "")
    (form : b.screen = .login { f with info := message, busy := false })
    (shown : b.account.session.loginGate.isAllowed = true →
      Node.el "p" "login-message" [.text message] ∈ Node.nodes b.view)
    (again : ∀ credentials, Form.signIn f.username f.password = .ok credentials →
      b.stage.Submits (.press (.login .submit)) credentials)

/-! ## Lemmas -/

/-! ### The tasks -/

/-- Of the pages only that of the sign-in form asks for a sign-in. -/
theorem Screen.Becomes.signsIn {n : Nat} {s : Screen} {step : Screen × List Task}
    (h : s.Becomes n step) (other : s.kind ≠ .login) (k : Nat) :
    ∀ t ∈ step.2, t.signsIn k = false := by
  intro t ht
  have fits := (h.asked t ht).fits
  cases t with
  | signIn page credentials =>
    rw [h.kind] at fits
    exact absurd (of_decide_eq_true fits) other
  | _ => rfl

/-- What a page asks for when it is built is no sign-in. -/
theorem signsIn_build (n : Nat) (kind : ScreenKind) (k : Nat) :
    ∀ t ∈ (kind.build n).2, t.signsIn k = false := by
  cases kind <;> simp [ScreenKind.build, UsersPage.reload, UsersPage.reloadOverview,
    EditorPage.reload, BrowserPage.reload, MyCarsPage.reload, Task.signsIn]

theorem signsIn_panelTasks (page panel : Nat) (user : Int64) (k : Nat) :
    ∀ t ∈ UsersPage.panelTasks page panel user, t.signsIn k = false := by
  simp [UsersPage.panelTasks, Task.signsIn]

/-- No answer leads to a sign-in. -/
theorem Screen.Answers.signsIn {n : Nat} {reply : Api.Reply} {s : Screen} {t : Task}
    {step : Screen × List Task} (h : s.Answers n reply t step) (k : Nat) :
    ∀ t ∈ step.2, t.signsIn k = false := by
  by_cases login : s.kind = .login
  · cases h with
    | signIn => exact List.forall_mem_nil _
    | succeeded _ h => cases h <;> cases login
    | refused => exact List.forall_mem_nil _
    | _ => cases login
  · exact (Screen.becomes_of_answers h).signsIn login k

/-! ### Turns -/

namespace Stage

variable {c c' : Stage} {e : App.Event}

/-- What the form makes of a message: it sends nothing, or is submitted. -/
theorem submits_or_none (f : LoginForm) (m : LoginForm.Msg) (hs : c.screen = .login f) :
    ((f.update m).2 = none ∧ (f.update m).1.busy = f.busy) ∨
      ∃ credentials, c.Submits (.press (.login m)) credentials ∧
        f.update m = ({ f with busy := true, info := "" }, some credentials) := by
  cases m with
  | username | password => exact .inl ⟨rfl, rfl⟩
  | submit =>
    rw [LoginForm.update]
    split
    · exact .inl ⟨rfl, rfl⟩
    · next free =>
      split
      · exact .inl ⟨rfl, rfl⟩
      · next credentials taken =>
        exact .inr ⟨credentials, ⟨rfl, f, hs, Bool.eq_false_iff.mpr free, taken⟩, rfl⟩

/-- Only a submit asks for a sign-in. -/
theorem signIns_turn (turn : c.Turn e c') (none : ¬∃ credentials, c.Submits e credentials) (n : Nat) :
    (c'.tasks.filter (Task.signsIn n)).Sublist (c.tasks.filter (Task.signsIn n)) := by
  have same : ∀ {tasks more : List Task}, tasks.Sublist c.tasks →
      (∀ k, ∀ t ∈ more, t.signsIn k = false) →
        ((tasks ++ more).filter (Task.signsIn n)).Sublist (c.tasks.filter (Task.signsIn n)) := by
    intro tasks more sub quiet
    rw [filter_append_of_none (quiet n)]
    exact sub.filter _
  have all := List.Sublist.refl c.tasks
  have erased : ∀ i, (c.tasks.eraseIdx i).Sublist c.tasks := List.eraseIdx_sublist c.tasks
  have nothing : ∀ k, ∀ t ∈ ([] : List Task), t.signsIn k = false := fun _ => List.forall_mem_nil _
  cases turn with
  | idle => exact .refl _
  | pressed h =>
    by_cases login : c.screen.kind = .login
    · generalize hs : c.screen = s at h login
      cases h with
      | login f m =>
        rcases submits_or_none f m hs with ⟨sends, -⟩ | ⟨credentials, submits, -⟩
        · rw [sends]
          exact same all nothing
        · exact absurd ⟨credentials, submits⟩ none
      | _ => cases login
    · exact same all ((Screen.becomes_of_presses h).signsIn login)
  | rebuilt h =>
    have login : c.screen.kind ≠ .login := by
      generalize c.screen = s at h
      cases h <;> nofun
    exact same all ((Screen.becomes_of_rebuilds h).signsIn login)
  | mounted e kind => exact same all (signsIn_build _ kind)
  | received h =>
    cases h with
    | answered _ _ h => exact same (erased _) h.signsIn
    | stray _ _ _ panel =>
      rcases panel with rfl | ⟨panel, user, rfl⟩
      · exact same (erased _) nothing
      · exact same (erased _) (signsIn_panelTasks _ panel user)
    | crashed => exact (erased _).filter _

/-- A submit that is sent makes the form busy. -/
theorem locked_turn (owned : c.Owned) (locked : c.Locked) (turn : c.Turn e c') : c'.Locked := by
  cases turn with
  | idle => exact locked
  | pressed h =>
    intro f' hf'
    generalize hs : c.screen = s at h
    cases h with
    | login f m =>
      have before := locked f hs
      rcases submits_or_none f m hs with ⟨sends, busy⟩ | ⟨credentials, ⟨-, g, hg, free, -⟩, sends⟩
      · cases hf'
        rw [sends, busy, show (none : Option SignIn).toList.map (Task.signIn c.number) = [] from rfl,
          List.append_nil]
        exact before
      · cases hs.symm.trans hg
        rw [sends] at hf' ⊢
        cases hf'
        rw [free] at before
        simp [Task.signsIn, List.filter_append, before]
    | _ => cases hf'
  | rebuilt h =>
    intro f' hf'
    generalize c.screen = s at h
    cases h <;> cases hf'
  | mounted e kind =>
    intro f hf
    -- nothing is asked for under the new number yet
    have none : c.tasks.filter (Task.signsIn (c.number + 1)) = [] := by
      refine List.filter_eq_nil_iff.mpr fun t ht => ?_
      have bounded := (owned t ht).bounded
      cases t with
      | signIn page credentials =>
        have before : page ≠ c.number + 1 := Nat.ne_of_lt (Nat.lt_succ_of_le bounded)
        simpa [Task.signsIn] using before
      | _ => nofun
    have blank : f = .blank := by cases kind <;> cases hf; rfl
    rw [filter_append_of_none (signsIn_build _ kind _), blank, none]
    rfl
  | @received i reply _ h =>
    cases h with
    | @answered t s more ht page h =>
      intro f' hf'
      have more_none := Screen.Answers.signsIn h c.number
      generalize hs : c.screen = screen at h
      rw [filter_append_of_none more_none]
      cases h with
      | signIn f credentials result =>
        cases hf'
        have before := locked f hs
        have mine : (Task.signIn c.number credentials).signsIn c.number = true := beq_self_eq_true _
        rw [length_filter_eraseIdx ht, if_pos mine] at before
        have none_left : ((c.tasks.eraseIdx i).filter (Task.signsIn c.number)).length = 0 := by
          split at before <;> omega
        have free : (f.answered result).busy = false := by cases result <;> rfl
        rw [free]
        exact none_left
      | succeeded _ h => cases h <;> cases hf'
      | refused _ _ h => cases h <;> cases hf'
      | _ => cases hf'
    | @stray t more ht stray _ panel =>
      intro f hf
      have before := locked f hf
      -- a sign-in of the mounted page would have been answered there
      have other : t.signsIn c.number = false := by
        cases t with
        | signIn page credentials =>
          refine beq_eq_false_iff_ne.mpr fun page => ?_
          rw [show c.screen = .login f from hf] at stray
          cases stray page
        | _ => rfl
      have more_none : ∀ u ∈ more, u.signsIn c.number = false := by
        rcases panel with rfl | ⟨panel, user, rfl⟩
        · exact List.forall_mem_nil _
        · exact signsIn_panelTasks _ panel user _
      rw [length_filter_eraseIdx ht, other] at before
      rw [filter_append_of_none more_none]
      exact before
    | @crashed t handle ht reads _ =>
      intro f hf
      have before := locked f hf
      have other : t.signsIn c.number = false := by
        cases t with
        | signIn => cases reads
        | _ => rfl
      rw [length_filter_eraseIdx ht, other] at before
      exact before

theorem locked_run (policy : MalformedPolicy) (storage : Storage) (now : Binary64) (path : String)
    (events : List App.Event) :
    ((App.start (.fresh policy storage now) path).run events).stage.Locked := by
  have blank := App.screen_start policy storage now path
  generalize hs : App.start (.fresh policy storage now) path = start at blank
  have owned : start.stage.Owned := hs ▸ fun _ ht => (by cases ht)
  have nothing : start.stage.tasks = [] := hs ▸ rfl
  have locked : start.stage.Locked := by
    intro f hf
    rw [nothing]
    rcases blank with h | h
    · cases hf.symm.trans h
    · cases hf.symm.trans h
      rfl
  exact (App.stage_run (P := fun c => c.Owned ∧ c.Locked)
    (fun h turn => ⟨owned_turn h.1 turn, locked_turn h.1 h.2 turn⟩) ⟨owned, locked⟩ events).2

end Stage

/-! ### Answers -/

theorem Api.outcome_signIn_iff {credentials : SignIn} {reply : Api.Reply} {token : Token} :
    (Api.signIn credentials).outcome reply = .ok token ↔ reply.Brings token := by
  unfold Api.Call.outcome
  constructor
  · intro h
    split at h
    · cases h
    · next status body =>
      split at h
      · next success =>
        obtain ⟨lo, hi⟩ := Bool.and_eq_true_iff.mp success
        split at h
        · next value read =>
          cases h
          exact ⟨status, body, rfl, of_decide_eq_true lo, of_decide_eq_true hi, read⟩
        · cases h
      · cases h
  · rintro ⟨status, body, rfl, lo, hi, read⟩
    have success : Api.Call.isSuccess status = true :=
      Bool.and_eq_true_iff.mpr ⟨decide_eq_true lo, decide_eq_true hi⟩
    have read : (Api.signIn credentials).read body = some token := read
    simp only [success, read, if_true]

theorem Api.Failure.signInMessage_ne (f : Api.Failure) : f.signInMessage ≠ "" := by
  have said : ∀ {start rest : String}, start ≠ "" → start ++ rest ≠ "" := fun nonempty h =>
    nonempty (String.append_eq_empty_iff.mp h).1
  unfold signInMessage
  split
  · decide
  · decide
  · cases f with
    | unavailable => decide
    | status code =>
      show "server responded with status " ++ toString code.toNat ≠ ""
      exact said (by decide)
    | _ => exact said (by decide)

namespace Account

variable {a : Account}

theorem commit_keep (a : Account) : a.commit (a.session, .keep) = a := by
  unfold commit Storage.write
  split <;> rfl

theorem signIn_of_ok {token : Token} {who : Identity} (h : identify token.access = .ok who) :
    a.signIn (.ok token) =
      (.ok (), a.commit (⟨some who, some token.access, false⟩, .save token.access)) := by
  have login : a.login token.access =
      (.ok who, a.commit (⟨some who, some token.access, false⟩, .save token.access)) := by
    rw [Account.login, Session.login_of_ok h]
  rw [signIn, login]

/-- Without a token that can be read nothing changes, and something is said. -/
theorem signIn_refused {outcome : Except Api.Failure Token}
    (h : ¬∃ token who, outcome = .ok token ∧ identify token.access = .ok who) :
    ∃ message, message ≠ "" ∧ a.signIn outcome = (.error message, a) := by
  cases outcome with
  | error f => exact ⟨_, f.signInMessage_ne, rfl⟩
  | ok token =>
    cases hi : identify token.access with
    | ok who => exact absurd ⟨token, who, rfl, hi⟩ h
    | error fault =>
      have login : a.login token.access = (.error fault, a) := by
        rw [Account.login, Session.login_of_error hi]
        exact congrArg (Prod.mk _) a.commit_keep
      have said : (LoginError.rejected fault).formMessage ≠ "" := by
        rw [LoginError.formMessage]
        decide
      exact ⟨_, said, by rw [signIn, login]⟩

end Account

/-! ### The page -/

/-- What the form says is in it. -/
theorem LoginForm.shows_info {f : LoginForm} (said : f.info ≠ "") :
    Node.el "p" "login-message" [.text f.info] ∈ Node.nodes [f.view.map Msg.login] := by
  have notice : Node.notice "login-message" f.info =
      [(Node.el "p" "login-message" [.text f.info] : Node Msg)] := by
    simp [Node.notice, Node.shownIf, said]
  have shown : Node.el "p" "login-message" [.text f.info] ∈ Node.nodes [f.view] := by
    refine Node.mem_nodes_inside (.head _) (Node.mem_nodes_inside (.head _)
      (Node.mem_nodes_of_mem (List.mem_append_right _ ?_)))
    rw [notice]
    exact .head _
  rw [show [f.view.map Msg.login] = Node.mapAll Msg.login [f.view] from rfl, Node.nodes_mapAll]
  exact List.mem_map_of_mem shown

namespace App

variable {a : App} {f : LoginForm}

/-- The form is the page of the sign-in path, and is shown while the gate there allows it. -/
theorem view_of_login (placed : a.Placed) (hs : a.screen = .login f)
    (allowed : a.account.session.loginGate.isAllowed = true) : a.view = [f.view.map Msg.login] := by
  have kind : a.screen.kind = .login := by rw [hs]; rfl
  have route : Route.ofPath a.path = .login := by
    rcases placed with blank | page
    · cases kind.symm.trans blank
    · rw [kind] at page
      cases route : Route.ofPath a.path with
      | login => rfl
      | part p => rw [route] at page; cases p <;> cases page
      | _ => rw [route] at page; cases page
  unfold view
  rw [route]
  dsimp only
  rw [loginPage, if_pos allowed, hs]
  rfl

theorem tasks_of_submits {e : Event} {credentials : SignIn} (h : a.stage.Submits e credentials) :
    (a.step e).tasks = a.tasks ++ [.signIn a.number credentials] := by
  obtain ⟨rfl, f, hs, free, taken⟩ := h
  have sends : f.update .submit = ({ f with busy := true, info := "" }, some credentials) := by
    simp [LoginForm.update, free, taken]
  have hs : a.screen = .login f := hs
  simp only [step, press, hs, sends]
  exact tasks_put a _ _

theorem step_signIn {i : Nat} {credentials : SignIn}
    (waits : a.waiting[i]? = some (.signIn a.number credentials)) (hs : a.screen = .login f)
    (reply : Api.Reply) :
    let signedIn := a.account.signIn ((Api.signIn credentials).outcome reply)
    a.step (.answer i reply) = { a with
      waiting := a.waiting.eraseIdx i
      account := signedIn.2
      screen := .login (f.answered signedIn.1) } := by
  intro signedIn
  rw [step, waits]
  simp only [receive, screenAt, if_pos, hs]
  rfl

/-- A sign-in of the mounted page is one of its form, which is busy. -/
theorem busy_of_waiting {i : Nat} {credentials : SignIn} (owned : a.stage.Owned)
    (locked : a.stage.Locked) (waits : a.waiting[i]? = some (.signIn a.number credentials)) :
    ∃ f, a.screen = .login f ∧ f.busy = true := by
  have mem : .signIn a.number credentials ∈ a.stage.tasks :=
    List.mem_of_getElem? (tasks_getElem? waits)
  have kind : a.screen.kind = .login := of_decide_eq_true ((owned _ mem).fits rfl)
  cases hs : a.screen with
  | login f =>
    refine ⟨f, rfl, Bool.of_not_eq_false fun free => ?_⟩
    have none : (a.stage.tasks.filter (Task.signsIn a.number)).length = 0 := by
      have none := locked f hs
      rwa [free] at none
    have asked : .signIn a.number credentials ∈ a.stage.tasks.filter (Task.signsIn a.number) :=
      List.mem_filter.mpr ⟨mem, beq_self_eq_true _⟩
    rw [List.eq_nil_of_length_eq_zero none] at asked
    cases asked
  | _ => rw [hs] at kind; cases kind

theorem signsIn_answer {i : Nat} {credentials : SignIn} (placed : a.Placed)
    (waits : a.waiting[i]? = some (.signIn a.number credentials)) (hs : a.screen = .login f)
    (reply : Api.Reply) : a.SignsIn f reply (a.step (.answer i reply)) := by
  have after := step_signIn waits hs reply
  by_cases reads : ∃ token who, reply.Brings token ∧ identify token.access = .ok who
  · obtain ⟨token, who, brought, read⟩ := reads
    rw [Api.outcome_signIn_iff.mpr brought, Account.signIn_of_ok read] at after
    refine .admitted brought read ?_ (fun works => ?_) ?_
    · rw [after]
      rfl
    · rw [after]
      show (a.account.storage.write tokenKey (.save token.access)).token = some token.access
      rw [Storage.token, ← Storage.read_of_works ((Storage.condition_write _ _ _).trans works),
        Storage.read_write works]
      rfl
    · rw [after]
      rfl
  · have refused : ¬∃ token who, (Api.signIn credentials).outcome reply = .ok token ∧
        identify token.access = .ok who := by
      simpa only [Api.outcome_signIn_iff] using reads
    obtain ⟨message, said, h⟩ := Account.signIn_refused (a := a.account) refused
    rw [h] at after
    have account : (a.step (.answer i reply)).account = a.account := by rw [after]
    have form : (a.step (.answer i reply)).screen =
        .login { f with info := message, busy := false } := by rw [after]; rfl
    refine .refused reads account said form (fun allowed => ?_) fun credentials taken => ?_
    · rw [view_of_login (placed_step placed _) form allowed]
      exact LoginForm.shows_info said
    · exact ⟨rfl, _, form, rfl, taken⟩

/-! ## Top theorem -/

/-- **Signing in**, on every run.  The form is busy exactly while its one sign-in is without an answer.  A
sign-in is asked for by a submit of texts that the form takes while it is not busy, and by nothing else.
The answer signs in if it brings a token that can be read; after any other the account is as it was, and
the form says something and can be submitted again. -/
theorem signs_in_of_submit (policy : MalformedPolicy) (storage : Storage) (now : Binary64)
    (path : String) (events : List Event) :
    let a := (start (.fresh policy storage now) path).run events
    a.stage.Locked ∧
    (∀ e credentials, a.stage.Submits e credentials →
      (a.step e).tasks = a.tasks ++ [.signIn a.number credentials]) ∧
    (∀ e, (¬∃ credentials, a.stage.Submits e credentials) → ∀ n,
      ((a.step e).tasks.filter (Task.signsIn n)).Sublist (a.tasks.filter (Task.signsIn n))) ∧
    ∀ i credentials reply, a.waiting[i]? = some (.signIn a.number credentials) →
      ∃ f, a.screen = .login f ∧ f.busy = true ∧ a.SignsIn f reply (a.step (.answer i reply)) := by
  intro a
  have owned : a.stage.Owned := Stage.owned_run _ path events
  have locked : a.stage.Locked := Stage.locked_run policy storage now path events
  refine ⟨locked, fun e credentials submits => tasks_of_submits submits,
    fun e none => Stage.signIns_turn (turn_step a e) none, fun i credentials reply waits => ?_⟩
  obtain ⟨f, hs, busy⟩ := busy_of_waiting owned locked waits
  have placed : a.Placed := placed_run (placed_start _ path) events
  exact ⟨f, hs, busy, signsIn_answer placed waits hs reply⟩

/-- The sign-in page of a browser without a token. -/
def anonymousVisit : App := start (.fresh .retain ⟨.works, []⟩ (.ofNat 0)) "/login"

def enteringCredentials : List Event :=
  [.bootstrap, .refresh, .press (.login (.username "anna")), .press (.login (.password "secret")),
    .press (.login .submit), .refresh, .send]

def adminToken : Token := ⟨adminCredential, "bearer"⟩

/-- The token of an administrator is brought, and stored. -/
theorem signs_in_of_submit_admin :
    let a := anonymousVisit.run enteringCredentials
    let b := a.step (.answer 0 (.arrived 200 (Wire.toJson adminToken).toBytes))
    a.waiting[0]? = some (.signIn a.number ⟨"anna", "secret"⟩) ∧
      b.account.session.identity = some ⟨3, some .admin⟩ ∧
      b.account.storage.token = some adminCredential := by
  intro a b
  have waits : a.waiting[0]? = some (.signIn a.number ⟨"anna", "secret"⟩) := by decide +kernel
  have works : a.account.storage.condition = .works := by decide +kernel
  have reads : (Json.parse (Wire.toJson adminToken).toBytes).bind Wire.ofJson? = some adminToken := by
    decide +kernel
  have admin : identify adminToken.access = .ok ⟨3, some .admin⟩ :=
    identify_of_toOption (by decide +kernel)
  obtain ⟨f, -, -, signsIn⟩ :
      ∃ f, a.screen = .login f ∧ f.busy = true ∧
        a.SignsIn f (.arrived 200 (Wire.toJson adminToken).toBytes) b :=
    (signs_in_of_submit .retain ⟨.works, []⟩ (.ofNat 0) "/login" enteringCredentials).2.2.2 0
      ⟨"anna", "secret"⟩ _ waits
  clear_value b a
  cases signsIn with
  | admitted brought read session stored =>
    obtain ⟨status, body, same, -, -, reads'⟩ := brought
    obtain ⟨-, rfl⟩ := Api.Reply.arrived.inj same
    cases reads.symm.trans reads'
    cases admin.symm.trans read
    exact ⟨waits, congrArg Session.identity session, stored works⟩
  | refused other =>
    exact absurd ⟨adminToken, _, ⟨200, _, rfl, by decide, by decide, reads⟩, admin⟩ other

end App

end CarCatalog
