import CarCatalog.Proofs.App.Crash
import CarCatalog.Proofs.Paging.Deletions

/-!
# Deleting rows on a page

The users page, the editor and the page of one's own cars show a page of a list and delete its rows.
A `Hosted` application runs against a server that keeps one such list.  Its requests for the list are
served in the order they were sent; whatever else happens may happen in between.

Each step is one of the abstract view and its list (`step_of_hosted`), so a settled application is
settled again once all answers have arrived (`settled_of_deletions`), as long as clicks that might
empty the last page spare one of its rows.  `emptied_page` is a run where they do not.
-/

namespace CarCatalog

def Loadable.map {α β : Type} (f : α → β) : Loadable α → Loadable β
  | .loading => .loading
  | .failed message => .failed message
  | .ready value => .ready (f value)

/-- The list of a page: its pager, and the ids of the rows. -/
def Screen.paged? : Screen → Option (Pager × Loadable (Page Int64))
  | .users p => some (p.pager, p.users.map (·.map (·.id)))
  | .editor p => some (p.pager, p.rows.map (·.map (·.id)))
  | .browser p => some (p.pager, p.rows.map (·.map (·.id)))
  | .myCars p => some (p.pager, p.cars.map (·.map (·.id)))
  | _ => none

/-- What a task of the page of a number asks of its list. -/
def Task.listRequest? (n : Nat) : Task → Option ListRequest
  | .users page query | .rows page _ query | .cars page query =>
    if page = n then some (.load query) else none
  | .act page (.deleteUser id remaining) | .act page (.deleteRow _ id remaining)
  | .act page (.removeMyCar id remaining) => if page = n then some (.delete id remaining) else none
  | _ => none

/-- The page of rows that a reply to a task brings. -/
def Task.rows? (t : Task) (reply : Api.Reply) : Option (Page Int64) :=
  match t with
  | .users _ query => ((Api.listUsers query).outcome reply).toOption.map (·.map (·.id))
  | .rows _ level query => ((Api.loadRows level query).outcome reply).toOption.map (·.map (·.id))
  | .cars _ query => ((Api.listMyCars query).outcome reply).toOption.map (·.map (·.id))
  | _ => none

/-- A reply lets a task's action succeed. -/
def Task.Accepted (t : Task) (reply : Api.Reply) : Prop :=
  ∃ page action, t = .act page action ∧ action.call.outcome reply = .ok ()

/-- The button that deletes the row of an id. -/
def Screen.deletion? (id : Int64) : Screen → Option Msg
  | .users _ => some (.users (.delete id))
  | .editor _ => some (.editor (.delete id))
  | .myCars _ => some (.myCars (.remove id))
  | _ => none

/-- What the mounted page has asked of its list and not been answered, in that order. -/
def Stage.requests (c : Stage) : List ListRequest := c.tasks.filterMap (Task.listRequest? c.number)

/-- The view of the mounted page on the list of a server. -/
def Stage.listed? (c : Stage) (items : List Int64) : Option Listed :=
  c.screen.paged?.map fun v => ⟨v.1, v.2, c.requests, items⟩

/-- A server that keeps a list of items with distinct ids replies to a task: with a page of it, or
removing the item of an id, which may be missing. -/
inductive Replies (items : List Int64) (t : Task) (reply : Api.Reply) :
    ListRequest → List Int64 → Prop
  | page {q : PageQuery} {page : Page Int64} (rows : t.rows? reply = some page)
    (serves : Paging.Serves items q page) : Replies items t reply (.load q) items
  | removed {id : Int64} {remaining : Nat} (accepted : t.Accepted reply) :
    Replies items t reply (.delete id remaining) (items.erase id)
  | missing {id : Int64} {remaining : Nat} (refused : ¬ t.Accepted reply) (absent : id ∉ items) :
    Replies items t reply (.delete id remaining) items

/-- The application and the list that the server keeps. -/
structure Hosted where
  app : App
  items : List Int64

namespace Hosted

def listed? (h : Hosted) : Option Listed := h.app.stage.listed? h.items

/-- What happens: a row is deleted by its button, the first request of all is answered, or something
that has nothing to do with the list. -/
inductive Step (h : Hosted) : Hosted → Prop
  | clicked {l : Listed} {id : Int64} {msg : Msg} (listed : h.listed? = some l)
    (button : h.app.screen.deletion? id = some msg) (shown : id ∈ l.rows.items)
    (spares : l.Spares id) : Step h ⟨h.app.step (.press msg), h.items⟩
  | answered {i : Nat} {t : Task} {r : ListRequest} {reply : Api.Reply} {items : List Int64}
    (waits : h.app.waiting[i]? = some t) (asks : t.listRequest? h.app.number = some r)
    (first : ∀ u ∈ h.app.waiting.take i, u.listRequest? h.app.number = none)
    (replies : Replies h.items t reply r items) : Step h ⟨h.app.step (.answer i reply), items⟩
  | other {e : App.Event} (same : (h.app.step e).stage.listed? h.items = h.listed?) :
    Step h ⟨h.app.step e, h.items⟩

inductive Steps (h : Hosted) : Hosted → Prop
  | none : Steps h h
  | step {h' h'' : Hosted} (before : Steps h h') (last : h'.Step h'') : Steps h h''

/-- A page of the list is shown, and nothing is under way. -/
def Settled (h : Hosted) : Prop := ∃ l, h.listed? = some l ∧ l.Settled

end Hosted

/-! ## Lemmas -/

/-- The first request is taken out. -/
theorem filterMap_eraseIdx {α β : Type} {f : α → Option β} {l : List α} {i : Nat} {x : α} {y : β}
    (hx : l[i]? = some x) (hy : f x = some y) (first : ∀ u ∈ l.take i, f u = none) :
    l.filterMap f = y :: (l.eraseIdx i).filterMap f := by
  induction l generalizing i with
  | nil => cases hx
  | cons a l ih =>
    cases i with
    | zero =>
      cases hx
      rw [List.filterMap_cons_some hy, List.eraseIdx_zero, List.tail_cons]
    | succ i =>
      have none : f a = none := first a (.head _)
      rw [List.filterMap_cons_none none, List.eraseIdx_cons_succ, List.filterMap_cons_none none]
      exact ih hx fun u hu => first u (.tail _ hu)

theorem Loadable.items_ids {α : Type} (key : α → Int64) (p : Loadable (Page α)) :
    (p.map (·.map key)).items.length = p.items.length := by
  cases p with
  | ready page => exact List.length_map key
  | _ => rfl

/-- A button that is clicked asks for the deletion. -/
theorem App.listed_press {a : App} {items : List Int64} {l : Listed} {id : Int64} {msg : Msg}
    (listed : a.stage.listed? items = some l) (button : a.screen.deletion? id = some msg) :
    (a.press msg).stage.listed? items = some { l with
      requests := l.requests ++ [.delete id (l.rows.items.length - 1)] } := by
  obtain ⟨v, paged, rfl⟩ := Option.map_eq_some_iff.mp listed
  have paged : a.screen.paged? = some v := paged
  have asked : ∀ {π : Type} {screen : π → Screen} {p : π} {t : Task},
      (screen p).paged? = some v →
      t.listRequest? a.number = some (.delete id (v.2.items.length - 1)) →
        (a.put screen (p, [t])).stage.listed? items = some ⟨v.1, v.2,
          a.stage.requests ++ [.delete id (v.2.items.length - 1)], items⟩ := by
    intro π screen p t paged asks
    rw [stage_put]
    simp only [Stage.listed?, paged, Option.map_some, Stage.requests, List.filterMap_append]
    rw [show a.stage.number = a.number from rfl, List.filterMap_cons_some asks, List.filterMap_nil]
  cases hs : a.screen with
  | users | editor | myCars =>
    rw [hs] at button paged
    cases button
    cases paged
    simp only [press, hs]
    exact asked rfl (by simp [Task.listRequest?, Loadable.items_ids])
  | _ => rw [hs] at button; cases button

/-! ### Answers -/

/-- A task that asks something of the list belongs to the page. -/
theorem Task.page_of_listRequest {n : Nat} {t : Task} {r : ListRequest}
    (asks : t.listRequest? n = some r) : t.page = n := by
  cases t with
  | users | rows | cars => exact (Option.ite_none_right_eq_some.mp asks).1
  | act page action =>
    cases action with
    | deleteUser | deleteRow | removeMyCar => exact (Option.ite_none_right_eq_some.mp asks).1
    | _ => cases asks
  | _ => cases asks

/-- All it may read is the page. -/
theorem Task.reads_of_listRequest {n : Nat} {t : Task} {r : ListRequest} {reply : Api.Reply}
    {handle : Handle} (asks : t.listRequest? n = some r) (h : t.reads reply = some handle) :
    handle = .page t.page := by
  cases t with
  | act page action =>
    simp only [reads] at h
    split at h
    · cases action with
      | deleteUser | deleteRow | removeMyCar => exact (Option.some.inj h).symm
      | _ => cases asks
    · cases h
  | _ => cases h

theorem Except.exists_of_toOption_map {ε α β : Type} {x : Except ε α} {f : α → β} {y : β}
    (h : x.toOption.map f = some y) : ∃ a, x = .ok a ∧ f a = y := by
  obtain ⟨a, ha, hf⟩ := Option.map_eq_some_iff.mp h
  exact ⟨a, Except.eq_ok_of_toOption ha, hf⟩

/-- Whether or not the editor closes a form, its list is loaded again. -/
theorem EditorPage.listed_deleted (n : Nat) (p : EditorPage) (id : Int64) (remaining : Nat) :
    (p.deleted n id remaining).2 =
        [.rows n p.trail.level (p.pager.settle remaining).query] ∧
      (Screen.editor (p.deleted n id remaining).1).paged? =
        some (p.pager.settle remaining, .loading) := by
  unfold deleted
  split <;> exact ⟨rfl, rfl⟩

namespace Stage

variable {c c' : Stage} {items items' : List Int64} {v : Pager × Loadable (Page Int64)} {i : Nat}
  {t : Task} {r : ListRequest} {reply : Api.Reply}

section

variable {pager : Pager} {rows : Loadable (Page Int64)} {more : List ListRequest}

/-- A load brings the page that it asked for. -/
theorem step_of_load {α : Type} {key : α → Int64} {outcome : Except Api.Failure (Page α)}
    {q : PageQuery} (replies : Replies items t reply (.load q) items')
    (h : t.rows? reply = outcome.toOption.map (·.map key)) :
    (⟨pager, rows, .load q :: more, items⟩ : Listed).Step
      ⟨pager.follow outcome, (Loadable.ofOutcome outcome).map (·.map key), more ++ [], items'⟩ := by
  cases replies with
  | page brought serves =>
    obtain ⟨page, rfl, rfl⟩ := Except.exists_of_toOption_map (h.symm.trans brought)
    have first : (⟨pager, rows, .load q :: more, items⟩ : Listed).requests = .load q :: more := rfl
    rw [List.append_nil]
    exact .loaded first serves

/-- A deletion that succeeds is followed by a load of the page where the pager then stands. -/
theorem step_of_deletion {id : Int64} {remaining n : Nat} {reload : Task}
    (accepted : t.Accepted reply) (replies : Replies items t reply (.delete id remaining) items')
    (reloads : reload.listRequest? n = some (.load (pager.settle remaining).query)) :
    (⟨pager, rows, .delete id remaining :: more, items⟩ : Listed).Step
      ⟨pager.settle remaining, .loading, more ++ [reload].filterMap (Task.listRequest? n),
        items'⟩ := by
  rw [List.filterMap_cons_some reloads, List.filterMap_nil]
  cases replies with
  | removed => exact .deleted rfl
  | missing refused => exact absurd accepted refused

theorem step_of_refusal {id : Int64} {remaining : Nat} (refused : ¬ t.Accepted reply)
    (replies : Replies items t reply (.delete id remaining) items') :
    (⟨pager, rows, .delete id remaining :: more, items⟩ : Listed).Step
      ⟨pager, rows, more ++ [], items'⟩ := by
  cases replies with
  | removed accepted => exact absurd accepted refused
  | missing _ absent =>
    rw [List.append_nil]
    exact .refused rfl absent

end

/-- The page takes the answer to a request of its list. -/
theorem step_of_answers {s : Screen} {step : Screen × List Task} {n : Nat}
    {more : List ListRequest} (paged : s.paged? = some v) (asks : t.listRequest? n = some r)
    (replies : Replies items t reply r items') (h : s.Answers n reply t step) :
    ∃ w, step.1.paged? = some w ∧ (⟨v.1, v.2, r :: more, items⟩ : Listed).Step
      ⟨w.1, w.2, more ++ step.2.filterMap (Task.listRequest? n), items'⟩ := by
  cases h with
  | users _ _ _ ho | cars _ _ _ ho | editorRows _ _ _ _ ho | browserRows _ _ _ _ ho =>
    cases paged
    cases (Option.ite_none_right_eq_some.mp asks).2
    exact ⟨_, rfl, step_of_load replies (ho ▸ rfl)⟩
  | @succeeded _ action _ accepted h =>
    have accepted : (Task.act n action).Accepted reply := ⟨n, action, rfl, accepted⟩
    cases h with
    | userDeleted | carRemoved =>
      cases paged
      cases (Option.ite_none_right_eq_some.mp asks).2
      exact ⟨_, rfl, step_of_deletion accepted replies (if_pos rfl)⟩
    | rowDeleted p level id remaining =>
      cases paged
      cases (Option.ite_none_right_eq_some.mp asks).2
      obtain ⟨trail, pager⟩ := p.listed_deleted n id remaining
      refine ⟨_, pager, ?_⟩
      rw [trail]
      exact step_of_deletion accepted replies (if_pos rfl)
    | _ => cases asks
  | @refused _ _ action f refused h =>
    have refused : ¬ (Task.act n action).Accepted reply := by
      rintro ⟨_, _, same, accepted⟩
      cases same
      cases refused.symm.trans accepted
    cases h with
    | deleteUser | deleteRow | removeMyCar =>
      cases paged
      cases (Option.ite_none_right_eq_some.mp asks).2
      exact ⟨_, rfl, step_of_refusal refused replies⟩
    | _ => cases asks
  | _ => cases asks

/-- The answer to the first request of the list is a step of the list. -/
theorem step_of_receives (owned : c.Owned) (paged : c.screen.paged? = some v)
    (ht : c.tasks[i]? = some t) (asks : t.listRequest? c.number = some r)
    (first : ∀ u ∈ c.tasks.take i, u.listRequest? c.number = none)
    (replies : Replies items t reply r items') (h : c.Receives i reply c') :
    ∃ l, c'.listed? items' = some l ∧ (⟨v.1, v.2, c.requests, items⟩ : Listed).Step l := by
  have page := Task.page_of_listRequest asks
  have fits := (owned t (List.mem_of_getElem? ht)).fits page
  cases h with
  | answered ht' _ h =>
    cases ht.symm.trans ht'
    obtain ⟨w, paged', step⟩ := step_of_answers paged asks replies h
    refine ⟨_, ?_, (filterMap_eraseIdx ht asks first).symm ▸ step⟩
    simp only [listed?, paged', Option.map_some, requests, List.filterMap_append]
  | stray ht' stray =>
    cases ht.symm.trans ht'
    rw [stray page] at fits
    cases fits
  | crashed ht' reads lost =>
    cases ht.symm.trans ht'
    cases Task.reads_of_listRequest asks reads
    rw [(lost page.symm).2] at fits
    cases fits

end Stage

namespace Hosted

/-- Every step is one of the view and its list. -/
theorem step_of_hosted {h h' : Hosted} (owned : h.app.stage.Owned) {l : Listed}
    (listed : h.listed? = some l) (step : h.Step h') : ∃ l', h'.listed? = some l' ∧ l.Step l' := by
  cases step with
  | clicked listed' button shown spares =>
    cases listed.symm.trans listed'
    exact ⟨_, App.listed_press listed button, .clicked shown spares⟩
  | @answered i t r reply items waits asks first replies =>
    obtain ⟨v, paged, rfl⟩ := Option.map_eq_some_iff.mp listed
    have first : ∀ u ∈ h.app.stage.tasks.take i, u.listRequest? h.app.stage.number = none := by
      intro u hu
      have lt : i ≤ h.app.waiting.length :=
        Nat.le_of_lt (List.getElem?_eq_some_iff.mp waits).1
      exact first u (by rwa [App.stage, App.tasks, List.take_append_of_le_length lt] at hu)
    exact Stage.step_of_receives owned paged (App.tasks_getElem? waits) asks first replies
      (App.receives_answer waits reply)
  | other same => exact ⟨l, same.trans listed, .idle⟩

theorem owned_step {h h' : Hosted} (owned : h.app.stage.Owned) (step : h.Step h') :
    h'.app.stage.Owned := by
  cases step with
  | clicked => exact Stage.owned_turn owned (App.turn_step _ _)
  | answered => exact Stage.owned_turn owned (App.turn_step _ _)
  | other => exact Stage.owned_turn owned (App.turn_step _ _)

theorem steps_of_hosted {h h' : Hosted} (owned : h.app.stage.Owned) {l : Listed}
    (listed : h.listed? = some l) (steps : h.Steps h') :
    h'.app.stage.Owned ∧ ∃ l', h'.listed? = some l' ∧ l.Steps l' := by
  induction steps with
  | none => exact ⟨owned, l, listed, .none⟩
  | step _ last ih =>
    obtain ⟨owned, l', listed, steps⟩ := ih
    obtain ⟨l'', listed, step⟩ := step_of_hosted owned listed last
    exact ⟨owned_step owned last, l'', listed, .step steps step⟩

/-! ## Top theorem -/

/-- **Deletions settle.**  A page of a list is shown and nothing is under way; rows are deleted, also
while answers to earlier deletions are awaited, but not the last one to spare of the last page.  Once
all answers have arrived the page that is shown is one of what is left of the list, and it is empty
only if nothing is left. -/
theorem settled_of_deletions (policy : MalformedPolicy) (storage : Storage) (now : Binary64)
    (path : String) (events : List App.Event) (items : List Int64) (h : Hosted) :
    let start : Hosted := ⟨(App.start (.fresh policy storage now) path).run events, items⟩
    start.Settled → start.Steps h → h.app.stage.requests = [] →
      ∃ l, h.listed? = some l ∧ l.Settled ∧ 1 ≤ l.pager.page ∧ l.pager.page ≤ l.pager.totalPages ∧
        (l.rows.items = [] → h.items = []) := by
  intro start settled steps idle
  obtain ⟨l, listed, settled⟩ := settled
  have owned := Stage.owned_run (.fresh policy storage now) path events
  obtain ⟨-, l', listed', steps⟩ := steps_of_hosted owned listed steps
  obtain ⟨v, -, rfl⟩ := Option.map_eq_some_iff.mp listed'
  have settled' := Listed.settled_of_steps settled steps idle
  obtain ⟨page, -, shows⟩ := settled'.shows
  exact ⟨_, listed', settled', UInt32.le_iff_toNat_le.mpr shows.positive, settled'.range,
    Listed.items_eq_nil_of_settled settled'⟩

/-! ## Two runs of the editor -/

/-- The answer to a deletion. -/
def deleted : Api.Reply := .arrived 204 []

/-- A page of nameless brands. -/
def brandsPage (ids : List Int64) (page : UInt32) : Api.Reply :=
  .arrived 200 (Wire.toJson (⟨(Paging.slice ids 10 page.toNat).map fun id => ⟨id, "", 3⟩,
    ⟨page, 10, .ofNat ids.length, .ofNat (Paging.pageCount ids 10)⟩⟩ : Page Brand)).toBytes

/-- The only brand is deleted, and the list is empty. -/
theorem settled_of_deletions_opening :
    let a := App.editorVisit.run App.opening
    let b := a.run [.press (.editor (.delete 1)), .send, .answer 0 deleted, .send,
      .answer 0 (brandsPage [] 1)]
    Settled ⟨a, [1]⟩ ∧ ∃ l, listed? ⟨b, []⟩ = some l ∧ l.Settled := by
  intro a b
  -- the row and its button, the deletion and the load that follows it when each is waited for
  obtain ⟨shown, button, asked, reloaded, idle⟩ :
      listed? ⟨a, [1]⟩ = some ⟨⟨1, 10, some "name", some ⟨1, 10, 1, 1⟩⟩,
        .ready ⟨[1], ⟨1, 10, 1, 1⟩⟩, [], [1]⟩ ∧
      a.screen.deletion? 1 = some (.editor (.delete 1)) ∧
      (let c := a.run [.press (.editor (.delete 1)), .send];
        c.waiting[0]? = some (.act 1 (.deleteRow .brands 1 0)) ∧ c.number = 1) ∧
      (let c := a.run [.press (.editor (.delete 1)), .send, .answer 0 deleted, .send];
        c.waiting[0]? = some (.rows 1 .brands ⟨1, 10, some "name"⟩) ∧ c.number = 1) ∧
      b.stage.requests = [] := by
    decide +kernel
  have accepted : (Task.act 1 (.deleteRow .brands 1 0)).Accepted deleted :=
    ⟨_, _, rfl, Except.eq_ok_of_toOption (by decide +kernel)⟩
  have brought : (Task.rows 1 .brands ⟨1, 10, some "name"⟩).rows? (brandsPage [] 1) =
      some ⟨[], ⟨1, 10, 0, 0⟩⟩ := by
    decide +kernel
  have settles := settled_of_deletions .retain ⟨.works, [(tokenKey, adminCredential)]⟩ (.ofNat 0)
    "/car-spec" App.opening [1] ⟨b, []⟩
  -- the application is a variable from here on, so that nothing runs it once more
  dsimp only [b] at settles idle ⊢
  rw [show App.start (.fresh .retain ⟨.works, [(tokenKey, adminCredential)]⟩ (.ofNat 0))
    "/car-spec" = App.editorVisit from rfl] at settles
  change Settled ⟨a, [1]⟩ → Steps ⟨a, [1]⟩ _ → _ at settles
  clear_value a
  have settled : Settled ⟨a, [1]⟩ :=
    ⟨_, shown, by decide, rfl, ⟨_, rfl, ⟨by decide, rfl, rfl, rfl⟩, rfl, by decide⟩, by decide⟩
  have serves : Paging.Serves [] ⟨1, 10, some "name"⟩ ⟨[], ⟨1, 10, 0, 0⟩⟩ :=
    ⟨rfl, rfl, rfl, rfl⟩
  have empties : Replies [1] (.act 1 (.deleteRow .brands 1 0)) deleted (.delete 1 0) [] := by
    rw [show ([] : List Int64) = [1].erase 1 by decide]
    exact .removed accepted
  have sent : ∀ (c : App) (items : List Int64), Step ⟨c, items⟩ ⟨c.step .send, items⟩ := by
    intro c items
    refine .other ?_
    rw [App.stage_send]
    rfl
  have clicked : Step ⟨a, [1]⟩ ⟨a.step (.press (.editor (.delete 1))), [1]⟩ :=
    .clicked shown button (by decide) (.inl rfl)
  have removed : Step ⟨a.run [.press (.editor (.delete 1)), .send], [1]⟩
      ⟨a.run [.press (.editor (.delete 1)), .send, .answer 0 deleted], []⟩ := by
    refine .answered asked.1 ?_ nofun empties
    rw [asked.2]
    rfl
  have loaded : Step ⟨a.run [.press (.editor (.delete 1)), .send, .answer 0 deleted, .send], []⟩
      ⟨a.run [.press (.editor (.delete 1)), .send, .answer 0 deleted, .send,
        .answer 0 (brandsPage [] 1)], []⟩ := by
    refine .answered reloaded.1 ?_ nofun (.page brought serves)
    rw [reloaded.2]
    rfl
  obtain ⟨l, listed, settled', -⟩ := settles settled
    (.step (.step (.step (.step (.step .none clicked) (sent _ _)) removed) (sent _ _)) loaded) idle
  exact ⟨settled, l, listed, settled'⟩

/-- The brands with the ids from 1 on. -/
def ids (n : Nat) : List Int64 := (List.range n).map fun i => .ofNat (i + 1)

/-- The second page of twelve brands is turned to. -/
def turning : List App.Event :=
  [.bootstrap, .refresh, .send, .answer 0 (brandsPage (ids 12) 1), .press (.editor .next), .send,
    .answer 0 (brandsPage (ids 12) 2)]

/-- Both brands there are deleted, the second before the first deletion is answered. -/
def emptying : List App.Event :=
  [.press (.editor (.delete 11)), .send, .press (.editor (.delete 12)), .send,
    .answer 0 deleted, .send, .answer 0 deleted, .send,
    .answer 0 (brandsPage (ids 10) 2), .answer 0 (brandsPage (ids 10) 2)]

/-- **An emptied page.**  Both deletions expect one brand to remain.  In the end all answers have
arrived, the list has ten brands on one page, and the empty second page is shown. -/
theorem emptied_page :
    let a := App.editorVisit.run turning
    let b := a.run emptying
    let pager (info : PageMeta) : Pager := ⟨2, 10, some "name", some info⟩
    a.screen.paged? = some (pager ⟨2, 10, 12, 2⟩, .ready ⟨[11, 12], ⟨2, 10, 12, 2⟩⟩) ∧
    a.stage.requests = [] ∧
    .editor (.delete 11) ∈ a.offers ∧
    .editor (.delete 12) ∈ (a.run [.press (.editor (.delete 11)), .send]).offers ∧
    b.screen.paged? = some (pager ⟨2, 10, 10, 1⟩, .ready ⟨[], ⟨2, 10, 10, 1⟩⟩) ∧
    b.stage.requests = [] := by
  decide +kernel

end Hosted

end CarCatalog
