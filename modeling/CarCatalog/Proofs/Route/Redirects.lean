import CarCatalog.App.Route

/-!
# Redirects come to an end

A gate on the way to a path's page may send the user to another path (`Redirects`), whose gates may
send them on (`Leads`).  In any session, also in one that no step leads to, the gates of a route do
not contradict each other, and a path is at most two redirects away from one that shows its page.

    Redirects s path next ↔ redirect? s path = some next                  (redirects_iff)
    Leads s n path stop → distance s (ofPath path) = n + distance s (ofPath stop)
                                                                          (distance_of_leads)
-/

namespace CarCatalog

/-! ## Gates by phase -/

/-- Everyone may see the section they land on. -/
theorem permits_landingOf (role : Option Role) : (landingOf role).permits role = true := by
  unfold landingOf
  split <;> rfl

namespace Session

theorem phase_eq_bootstrapping_iff {s : Session} : s.phase = .bootstrapping ↔ s.loading = true := by
  cases hl : s.loading <;> cases ha : s.isAuthenticated <;> simp [phase, hl, ha]

theorem phase_eq_anonymous_iff {s : Session} :
    s.phase = .anonymous ↔ s.loading = false ∧ s.isAuthenticated = false := by
  cases hl : s.loading <;> cases ha : s.isAuthenticated <;> simp [phase, hl, ha]

theorem phase_eq_authenticated_iff {s : Session} :
    s.phase = .authenticated ↔ s.loading = false ∧ s.isAuthenticated = true := by
  cases hl : s.loading <;> cases ha : s.isAuthenticated <;> simp [phase, hl, ha]

theorem layoutGate_eq (s : Session) :
    s.layoutGate = match s.phase with
      | .bootstrapping => .loading
      | .anonymous => .toLogin
      | .authenticated => .render (menuOf s.role) := by
  cases hl : s.loading <;> cases ha : s.isAuthenticated <;> simp [layoutGate, phase, hl, ha]

theorem loginGate_eq (s : Session) :
    s.loginGate = match s.phase with
      | .bootstrapping => .loading
      | .anonymous => .allow
      | .authenticated => .redirect homePath := by
  cases hl : s.loading <;> cases ha : s.isAuthenticated <;> simp [loginGate, phase, hl, ha]

theorem indexGate_eq (s : Session) :
    s.indexGate = match s.phase with
      | .bootstrapping => .loading
      | .anonymous => .redirect loginPath
      | .authenticated => .redirect (landingOf s.role).path := by
  rw [indexGate, layoutGate_eq]
  cases s.phase <;> rfl

theorem sectionGate_eq (s : Session) (part : Section) :
    s.sectionGate part = match s.phase with
      | .bootstrapping => .loading
      | .anonymous => .redirect loginPath
      | .authenticated =>
        if part.permits s.role then .allow else .redirect (landingOf s.role).path := by
  rw [sectionGate, layoutGate_eq]
  cases s.phase <;> rfl

end Session

namespace Route

/-- The paths that lead somewhere. -/
def paths : List String := homePath :: loginPath :: Section.all.map Section.path

/-- One of the gates of a path sends the user to the next one. -/
def Redirects (s : Session) (path next : String) : Prop :=
  ∃ gate ∈ (ofPath path).gates s, gate.target? = some next

/-- So many redirects lead from a path to another. -/
inductive Leads (s : Session) : Nat → String → String → Prop
  | here (path : String) : Leads s 0 path path
  | on {n : Nat} {path next stop : String} (redirects : Redirects s path next)
    (leads : Leads s n next stop) : Leads s (n + 1) path stop

/-- How many redirects a route is away from a page that is shown. -/
def distance (s : Session) (r : Route) : Nat :=
  match s.phase, r with
  | .bootstrapping, _ | _, .unknown | .anonymous, .login => 0
  | .anonymous, _ | .authenticated, .home => 1
  | .authenticated, .login => 2
  | .authenticated, .part p => if p.permits s.role then 0 else 1

/-! ## Lemmas -/

theorem ofPath_loginPath : ofPath loginPath = .login := by decide

theorem ofPath_homePath : ofPath homePath = .home := by decide

theorem ofPath_path (part : Section) : ofPath part.path = .part part := by
  cases part <;> decide

/-- The gates of every route in every phase. -/
theorem gates_eq (r : Route) (s : Session) :
    r.gates s = match s.phase, r with
      | _, .unknown => []
      | .bootstrapping, .login => [.loading]
      | .bootstrapping, _ => [.loading, .loading]
      | .anonymous, .login => [.allow]
      | .anonymous, _ => [.redirect loginPath, .redirect loginPath]
      | .authenticated, .login => [.redirect homePath]
      | .authenticated, .home => [.allow, .redirect (landingOf s.role).path]
      | .authenticated, .part p =>
        [.allow, if p.permits s.role then .allow else .redirect (landingOf s.role).path] := by
  cases r with
  | login =>
    rw [gates, Session.loginGate_eq]
    cases s.phase <;> rfl
  | home =>
    rw [gates, Session.layoutGate_eq, Session.indexGate_eq]
    cases s.phase <;> rfl
  | part p =>
    rw [gates, Session.layoutGate_eq, Session.sectionGate_eq]
    cases s.phase <;> rfl
  | unknown => cases s.phase <;> rfl

/-- The gates of a route agree: one that sends the user on sends them where the first such does. -/
theorem redirects_iff {s : Session} {path next : String} :
    Redirects s path next ↔ redirect? s path = some next := by
  unfold Redirects redirect?
  rw [gates_eq]
  cases s.phase <;> cases ofPath path <;> simp [ViewGate.target?, List.findSome?_cons]
  split <;> simp

theorem redirect?_eq (s : Session) (path : String) :
    redirect? s path = match s.phase, ofPath path with
      | .bootstrapping, _ | _, .unknown | .anonymous, .login => none
      | .anonymous, _ => some loginPath
      | .authenticated, .login => some homePath
      | .authenticated, .home => some (landingOf s.role).path
      | .authenticated, .part p =>
        if p.permits s.role then none else some (landingOf s.role).path := by
  rw [redirect?, gates_eq]
  cases s.phase <;> cases ofPath path <;> simp [ViewGate.target?, List.findSome?_cons]
  next part => cases part.permits s.role <;> simp

theorem path_mem_paths (part : Section) : part.path ∈ paths := by
  cases part <;> decide

theorem distance_landing {s : Session} (h : s.phase = .authenticated) :
    distance s (ofPath (landingOf s.role).path) = 0 := by
  rw [ofPath_path]
  simp [distance, h, permits_landingOf]

/-- A redirect goes one step nearer to the end, and to a path that leads somewhere. -/
theorem distance_of_redirects {s : Session} {path next : String} (h : Redirects s path next) :
    distance s (ofPath path) = distance s (ofPath next) + 1 ∧ next ∈ paths := by
  rw [redirects_iff, redirect?_eq] at h
  cases hs : s.phase with
  | bootstrapping => simp [hs] at h
  | anonymous =>
    cases hp : ofPath path <;> rw [hs, hp] at h <;> cases h <;>
      exact ⟨by simp [distance, hs, ofPath_loginPath], by decide⟩
  | authenticated =>
    cases hp : ofPath path with
    | login =>
      rw [hs, hp] at h
      cases h
      exact ⟨by simp [distance, hs, ofPath_homePath], by decide⟩
    | home =>
      rw [hs, hp] at h
      cases h
      rw [distance_landing hs]
      exact ⟨by simp [distance, hs], path_mem_paths _⟩
    | part p =>
      simp only [hs, hp] at h
      split at h
      · cases h
      · next refused =>
        cases h
        rw [distance_landing hs]
        exact ⟨by simp [distance, hs, refused], path_mem_paths _⟩
    | unknown => simp [hs, hp] at h

/-- Where no redirect is left, the gates of a session that has loaded allow. -/
theorem gates_of_rest {s : Session} {path : String} (settled : s.loading = false)
    (h : ∀ next, ¬Redirects s path next) : ∀ gate ∈ (ofPath path).gates s, gate = .allow := by
  simp only [redirects_iff, redirect?_eq] at h
  rw [gates_eq]
  cases hs : s.phase with
  | bootstrapping => simp [Session.phase_eq_bootstrapping_iff.mp hs] at settled
  | anonymous => cases hp : ofPath path <;> simp [hs, hp] at h ⊢
  | authenticated => cases hp : ofPath path <;> simp [hs, hp] at h ⊢; exact h

theorem eq_loginPath_or_of_mem_paths {path : String} (h : path ∈ paths) :
    path = loginPath ∨ ofPath path = .home ∨ ∃ part, ofPath path = .part part := by
  rcases List.mem_cons.mp h with rfl | h
  · exact .inr (.inl ofPath_homePath)
  · rcases List.mem_cons.mp h with rfl | h
    · exact .inl rfl
    · obtain ⟨part, -, rfl⟩ := List.mem_map.mp h
      exact .inr (.inr ⟨part, ofPath_path part⟩)

/-- One who is not signed in is allowed at the sign-in page only, and only they are. -/
theorem eq_loginPath_iff_of_allowed {s : Session} {path : String} (settled : s.loading = false)
    (routed : path ∈ paths) (allowed : ∀ gate ∈ (ofPath path).gates s, gate = .allow) :
    path = loginPath ↔ s.isAuthenticated = false := by
  rw [gates_eq] at allowed
  constructor
  · rintro rfl
    rw [ofPath_loginPath] at allowed
    cases hs : s.phase with
    | bootstrapping => simp [hs] at allowed
    | anonymous => exact (Session.phase_eq_anonymous_iff.mp hs).2
    | authenticated => simp [hs] at allowed
  · intro anonymous
    rw [Session.phase_eq_anonymous_iff.mpr ⟨settled, anonymous⟩] at allowed
    rcases eq_loginPath_or_of_mem_paths routed with h | h | ⟨part, h⟩
    · exact h
    · simp [h] at allowed
    · simp [h] at allowed

theorem distance_le (s : Session) (r : Route) : distance s r ≤ 2 := by
  unfold distance
  cases s.phase <;> cases r <;> simp
  split <;> omega

theorem distance_of_leads {s : Session} {n : Nat} {path stop : String} (h : Leads s n path stop) :
    distance s (ofPath path) = n + distance s (ofPath stop) := by
  induction h with
  | here path => omega
  | on redirects _ ih =>
    have nearer := (distance_of_redirects redirects).1
    omega

theorem mem_paths_of_leads {s : Session} {n : Nat} {path stop : String} (h : Leads s n path stop)
    (routed : path ∈ paths) : stop ∈ paths := by
  induction h with
  | here path => exact routed
  | on redirects _ ih => exact ih (distance_of_redirects redirects).2

/-- Following redirects far enough, one stands where they end. -/
theorem leads_follow {s : Session} {k : Nat} {path : String} (h : distance s (ofPath path) ≤ k) :
    ∃ n, Leads s n path (follow s k path) ∧ ∀ next, ¬Redirects s (follow s k path) next := by
  induction k generalizing path with
  | zero =>
    refine ⟨0, .here path, fun next redirects => ?_⟩
    have nearer := (distance_of_redirects redirects).1
    simp only [follow] at nearer
    omega
  | succ k ih =>
    cases hr : redirect? s path with
    | none =>
      refine ⟨0, ?_, fun next redirects => ?_⟩
      · rw [follow, hr]
        exact .here path
      · rw [follow, hr, redirects_iff, hr] at redirects
        cases redirects
    | some next =>
      have redirects := redirects_iff.mpr hr
      have nearer := (distance_of_redirects redirects).1
      have near : distance s (ofPath next) ≤ k := by omega
      obtain ⟨n, leads, rest⟩ := ih near
      rw [follow, hr]
      exact ⟨n + 1, .on redirects leads, rest⟩

/-! ## Top theorem -/

/-- **Redirects end.**  In every session: the gates of a path that leads somewhere never send the user
to two different paths; while the session loads they send them nowhere; at most two redirects follow
one another, and where a session that has loaded is left in the end all gates allow, which is at the
sign-in page if and only if it is not signed in.  The application, which follows up to three, ends up
there. -/
theorem redirects_end (s : Session) (path : String) (routed : path ∈ paths) :
    (∀ next other, Redirects s path next → Redirects s path other → next = other) ∧
    (s.loading = true → ∀ next, ¬Redirects s path next) ∧
    (∀ n stop, Leads s n path stop → n ≤ 2) ∧
    (s.loading = false → ∀ n stop, Leads s n path stop → (∀ next, ¬Redirects s stop next) →
      stop ∈ paths ∧ (∀ gate ∈ (ofPath stop).gates s, gate = .allow) ∧
        (stop = loginPath ↔ s.isAuthenticated = false)) ∧
    ∃ n, Leads s n path (follow s 3 path) ∧ ∀ next, ¬Redirects s (follow s 3 path) next := by
  refine ⟨fun next other h h' => ?_, fun loading next h => ?_, fun n stop leads => ?_,
    fun settled n stop leads rest => ?_, ?_⟩
  · rw [redirects_iff] at h h'
    exact Option.some.inj (h.symm.trans h')
  · rw [redirects_iff, redirect?_eq, Session.phase_eq_bootstrapping_iff.mpr loading] at h
    cases h
  · have far := distance_of_leads leads
    have near := distance_le s (ofPath path)
    omega
  · have listed := mem_paths_of_leads leads routed
    have allowed := gates_of_rest settled rest
    exact ⟨listed, allowed, eq_loginPath_iff_of_allowed settled listed allowed⟩
  · have near := distance_le s (ofPath path)
    exact leads_follow (by omega)

/-- A user with a plain role comes to the sign-in page, and is sent home and from there to the
catalog. -/
theorem redirects_end_signed_in :
    let s : Session := ⟨some ⟨5, some .user⟩, some "credential", false⟩
    loginPath ∈ paths ∧ s.loading = false ∧ Leads s 2 loginPath Section.catalog.path ∧
      (∀ gate ∈ (ofPath Section.catalog.path).gates s, gate = .allow) ∧
      ∀ stop, ¬Leads s 3 loginPath stop := by
  intro s
  have routed : loginPath ∈ paths := by decide
  have home : Redirects s loginPath homePath := redirects_iff.mpr (by decide)
  have landing : Redirects s homePath Section.catalog.path := redirects_iff.mpr (by decide)
  have leads : Leads s 2 loginPath Section.catalog.path := .on home (.on landing (.here _))
  have rest : ∀ next, ¬Redirects s Section.catalog.path next := by
    intro next h
    rw [redirects_iff, redirect?_eq] at h
    cases h
  obtain ⟨-, -, short, settled, -⟩ := redirects_end s loginPath routed
  refine ⟨routed, rfl, leads, (settled rfl 2 _ leads rest).2.1, fun stop longer => ?_⟩
  exact absurd (short 3 stop longer) (by decide)

end Route

end CarCatalog
