import CarCatalog.Proofs.App.Change

/-!
# The mounted page belongs to the path

Navigation mounts the page of the path it leads to, or none; between two navigations nothing changes
the kind of the page.  So what is mounted is always the page of the path, or blank (`App.Placed`).

    (a.receive t reply).Stays a                               (stays_receive)
    a.Placed → (a.step e).Placed                              (placed_step)
-/

namespace CarCatalog

/-- The page that is meant for a route. -/
def Route.page : Route → ScreenKind
  | .login => .login
  | .part p => p.screen
  | _ => .blank

namespace App

/-- The path, and which page is mounted, are what they were. -/
structure Stays (a b : App) : Prop where
  path : b.path = a.path
  kind : b.screen.kind = a.screen.kind

/-- The page of the path is mounted, or none. -/
def Placed (a : App) : Prop :=
  a.screen.kind = .blank ∨ a.screen.kind = (Route.ofPath a.path).page

/-! ## Lemmas -/

theorem Stays.placed {a b : App} (h : Stays a b) (placed : a.Placed) : b.Placed := by
  rw [Placed, h.kind, h.path]
  exact placed

theorem Stays.trans {a b c : App} (h : Stays a b) (h' : Stays b c) : Stays a c :=
  ⟨h'.path.trans h.path, h'.kind.trans h.kind⟩

/-- The page that a task works for keeps its kind, if it is still mounted. -/
theorem stays_at {a b : App} {page : Nat} {s : Screen} (mounted : a.screenAt page = s)
    (blank : s ≠ .blank) (path : b.path = a.path) (kind : b.screen.kind = s.kind) : Stays a b := by
  obtain ⟨-, hs⟩ := screenAt_eq mounted blank
  exact ⟨path, by rw [kind, hs]⟩

theorem stays_press (a : App) (msg : Msg) : Stays a (a.press msg) := by
  unfold press
  split
  · exact ⟨rfl, rfl⟩
  · next m f hs => exact ⟨rfl, by rw [hs]; rfl⟩
  · next m p hs => exact ⟨rfl, by rw [hs]; rfl⟩
  · next m p hs => exact ⟨rfl, by rw [hs]; rfl⟩
  · next m p hs => exact ⟨rfl, by rw [hs]; rfl⟩
  · next m p hs => exact ⟨rfl, by rw [hs]; rfl⟩
  · exact ⟨rfl, rfl⟩

theorem stays_rebuild (a : App) : Stays a a.rebuild := by
  unfold rebuild
  split
  · next p hs => exact ⟨rfl, by rw [hs]; rfl⟩
  · next p hs => exact ⟨rfl, by rw [hs]; rfl⟩
  · exact ⟨rfl, rfl⟩

theorem stays_succeed (a : App) (page : Nat) (action : Action) :
    Stays a (a.succeed page action) := by
  unfold succeed
  split
  case h_3 form user payload p mounted =>
    split
    · exact stays_at mounted nofun rfl rfl
    · exact ⟨rfl, rfl⟩
  -- the page is gone, and does not matter to the action
  case h_5 | h_7 | h_11 | h_13 => exact ⟨rfl, rfl⟩
  all_goals next mounted => exact stays_at mounted nofun rfl rfl

theorem stays_complain (a : App) (page : Nat) (action : Action) (message : String) :
    Stays a (a.complain page action message) := by
  unfold complain
  split
  case h_10 => exact ⟨rfl, rfl⟩
  all_goals next mounted => exact stays_at mounted nofun rfl rfl

/-- An answer is written to the page that asked, and otherwise dropped. -/
theorem stays_receive (a : App) (t : Task) (reply : Api.Reply) : Stays a (a.receive t reply) := by
  have nothing {α : Type} (outcome : Except Api.Failure α) : Stays a (a.receiveNothing outcome) :=
    ⟨rfl, rfl⟩
  unfold receive
  cases t with
  | signIn page credentials =>
    dsimp only
    split
    · next mounted => exact stays_at mounted nofun rfl rfl
    · exact ⟨rfl, rfl⟩
  | users page query =>
    dsimp only
    split
    · next mounted => exact stays_at mounted nofun rfl rfl
    · exact nothing _
  | overview page =>
    dsimp only
    split
    · next mounted => exact stays_at mounted nofun rfl rfl
    · exact nothing _
  | rows page level query =>
    dsimp only
    split
    · next mounted => exact stays_at mounted nofun rfl rfl
    · next mounted => exact stays_at mounted nofun rfl rfl
    · exact nothing _
  | cars page query =>
    dsimp only
    split
    · next mounted => exact stays_at mounted nofun rfl rfl
    · exact nothing _
  | heldRoles page panel user =>
    dsimp only
    split
    · next mounted => exact stays_at mounted nofun rfl rfl
    · exact nothing _
  | allRoles page panel =>
    dsimp only
    split
    · next mounted => exact stays_at mounted nofun rfl rfl
    · exact nothing _
  | spec page form id =>
    dsimp only
    split
    · next mounted => exact stays_at mounted nofun rfl rfl
    · exact nothing _
  | act page action =>
    dsimp only
    generalize (a.account.receiveDone (action.call.outcome reply)).1 = account
    have noticed : Stays a { a with account } := ⟨rfl, rfl⟩
    split
    · exact noticed.trans (stays_succeed _ page action)
    · exact noticed.trans (stays_complain _ page action _)

/-! ## Navigation -/

theorem kind_build (number : Nat) (kind : ScreenKind) : (kind.build number).1.kind = kind := by
  cases kind <;> rfl

theorem kind_mount (a : App) (kind : ScreenKind) : (a.mount kind).screen.kind = kind :=
  kind_build (a.number + 1) kind

theorem path_mount (a : App) (kind : ScreenKind) : (a.mount kind).path = a.path := rfl

/-- A session is shown the page of a route, or none. -/
theorem screen_eq_or (r : Route) (s : Session) : r.screen s = .blank ∨ r.screen s = r.page := by
  cases r with
  | part p =>
    rw [Route.screen, Route.page]
    split
    · exact .inr rfl
    · exact .inl rfl
  | login => exact .inr rfl
  | home => exact .inl rfl
  | unknown => exact .inl rfl

theorem placed_mount (a : App) (s : Session) :
    (a.mount ((Route.ofPath a.path).screen s)).Placed := by
  rw [Placed, kind_mount, path_mount]
  exact screen_eq_or _ s

theorem placed_visit {a : App} (h : a.Placed) (path : String) : (a.visit path).Placed := by
  unfold visit
  split
  · exact h
  · exact placed_mount { a with path } a.account.session

theorem placed_refresh {a : App} (h : a.Placed) : a.refresh.Placed := by
  unfold refresh
  dsimp only
  split
  · exact placed_visit h _
  · next here =>
    rw [Decidable.not_not.mp here]
    split
    · exact (stays_rebuild a).placed h
    · exact placed_mount a a.account.session

/-! ## Runs -/

theorem placed_start (account : Account) (path : String) : (start account path).Placed := by
  unfold start Placed
  dsimp only
  rw [kind_build]
  exact screen_eq_or _ account.session

theorem placed_step {a : App} (h : a.Placed) (e : Event) : (a.step e).Placed := by
  cases e with
  | bootstrap => exact h
  | press msg =>
    rw [step]
    exact (stays_press a msg).placed h
  | visit path =>
    rw [step]
    exact placed_visit h _
  | send =>
    have stays : Stays a (a.step .send) := by
      rw [step, send?]
      split
      · next sent =>
        split at sent
        · cases sent
        · cases sent
          exact ⟨rfl, rfl⟩
      · exact ⟨rfl, rfl⟩
    exact stays.placed h
  | answer i reply =>
    rw [step]
    split
    · next t _ =>
      exact (stays_receive { a with waiting := a.waiting.eraseIdx i } t reply).placed h
    · exact h
  | refresh =>
    rw [step]
    exact placed_refresh h
  | world storage now => exact h

theorem placed_run {a : App} (h : a.Placed) (events : List Event) : (a.run events).Placed := by
  induction events generalizing a with
  | nil => exact h
  | cons e es ih => exact ih (placed_step h e)

end App

end CarCatalog
