import CarCatalog.Proofs.Session.Bootstrap
import CarCatalog.Session.Tabs

/-!
# Tabs that share a slot

A tab reads the slot once, while it loads.  From then on what the others do is lost on it
(`Tab.after` looks at nothing but the tab's own commands), while what it writes itself is there for
the tabs that load later.

    (t.run commands).tabs[i]? = (t.run (commands.filter (·.isOf i))).tabs[i]?
                                                  for a tab i that has loaded    (tab_run_filter)
    t.Writes command held → (t.step command).stored = held                     (stored_of_writes)
    (t.step (.bootstrap i now)).tabs[i]? = the tab restored from t.stored
                                                  for a tab i that loads          (tab_bootstrap)

A tab is an owner whose handle is a copy of the one handle there is (`OnHeap`).
-/

namespace CarCatalog

namespace Tabs

def run (t : Tabs) (commands : List Command) : Tabs := commands.foldl step t

/-- The commands that are steps of one tab's session. -/
def Command.isOf (i : Nat) : Command → Bool
  | .bootstrap j _ | .login j _ | .logout j => j == i
  | _ => false

/-- A command that writes to the slot, and what the slot holds after it. -/
inductive Writes (t : Tabs) : Command → Option String → Prop
  | signedIn {i : Nat} {tab : Tab} {c : String} {who : Identity} (there : t.tabs[i]? = some tab)
    (read : identify c = .ok who) : Writes t (.login i c) (some c)
  | signedOut {i : Nat} {tab : Tab} (there : t.tabs[i]? = some tab) : Writes t (.logout i) none
  | expired {i : Nat} {tab : Tab} {now : Int64} {c : String} (there : t.tabs[i]? = some tab)
    (loads : tab.session.loading = true) (stored : t.stored = some c)
    (expired : isExpired c now = true) : Writes t (.bootstrap i now) none
  | unreadable {i : Nat} {tab : Tab} {now : Int64} {c : String} {fault : Fault}
    (there : t.tabs[i]? = some tab) (loads : tab.session.loading = true)
    (stored : t.stored = some c) (unexpired : isExpired c now = false)
    (unread : identify c = .error fault) (policy : tab.policy = .clear) :
    Writes t (.bootstrap i now) none
  | saved {c : String} : Writes t (.save c) (some c)
  | cleared : Writes t .clear none

/-- No command of a run writes. -/
def Silent : Tabs → List Command → Prop
  | _, [] => True
  | t, command :: rest => (∀ held, ¬t.Writes command held) ∧ Silent (t.step command) rest

/-! ## Steps of one tab -/

theorem stored_put (t : Tabs) (i : Nat) (s : Session) (w : Write) :
    (t.put i s w).stored = w.apply t.stored :=
  Entries.get?_write t.entries t.key w

theorem tab_put {t : Tabs} {i : Nat} {tab : Tab} (h : t.tabs[i]? = some tab) (s : Session)
    (w : Write) : (t.put i s w).tabs[i]? = some { tab with session := s } := by
  show (t.tabs.modify i _)[i]? = _
  rw [List.getElem?_modify, h]
  show some (if i = i then _ else _) = _
  rw [if_pos rfl]

theorem tab_put_of_ne {i j : Nat} (h : j ≠ i) (t : Tabs) (s : Session) (w : Write) :
    (t.put j s w).tabs[i]? = t.tabs[i]? := by
  show (t.tabs.modify j _)[i]? = _
  rw [List.getElem?_modify]
  cases t.tabs[i]? with
  | none => rfl
  | some tab =>
    show some (if j = i then _ else _) = _
    rw [if_neg h]

/-- What stays when a tab keeps its session. -/
theorem put_same {t : Tabs} {i : Nat} {tab : Tab} (h : t.tabs[i]? = some tab) :
    t.put i tab.session .keep = t := by
  have tabs : t.tabs.modify i (fun tab' => { tab' with session := tab.session }) = t.tabs := by
    refine List.ext_getElem? fun j => ?_
    rw [List.getElem?_modify]
    by_cases hj : i = j
    · subst hj
      rw [h]
      show some (if i = i then _ else _) = _
      rw [if_pos rfl]
    · cases t.tabs[j]? with
      | none => rfl
      | some other =>
        show some (if i = j then _ else _) = _
        rw [if_neg hj]
  rw [put, tabs]
  rfl

theorem step_bootstrap {t : Tabs} {i : Nat} {tab : Tab} (h : t.tabs[i]? = some tab) (now : Int64) :
    t.step (.bootstrap i now) =
      t.put i (tab.session.bootstrap tab.policy now t.stored).1
        (tab.session.bootstrap tab.policy now t.stored).2 := by
  rw [step, h]

theorem step_login {t : Tabs} {i : Nat} {tab : Tab} (h : t.tabs[i]? = some tab) (c : String) :
    t.step (.login i c) = t.put i (tab.session.login c).2.1 (tab.session.login c).2.2 := by
  rw [step, h]

theorem step_logout {t : Tabs} {i : Nat} {tab : Tab} (h : t.tabs[i]? = some tab) :
    t.step (.logout i) = t.put i tab.session.logout.1 tab.session.logout.2 := by
  rw [step, h]

theorem step_bootstrap_of_settled {t : Tabs} {i : Nat} {tab : Tab} (h : t.tabs[i]? = some tab)
    (settled : tab.session.loading = false) (now : Int64) : t.step (.bootstrap i now) = t := by
  have same : tab.session.bootstrap tab.policy now t.stored = (tab.session, .keep) := by
    rw [Session.bootstrap, settled]
    rfl
  rw [step_bootstrap h, same]
  exact put_same h

theorem step_login_of_error {c : String} {fault : Fault} (unread : identify c = .error fault)
    (t : Tabs) (i : Nat) : t.step (.login i c) = t := by
  cases h : t.tabs[i]? with
  | none => rw [step, h]
  | some tab =>
    rw [step_login h, Session.login_of_error unread]
    exact put_same h

/-! ## Tabs that have loaded -/

end Tabs

/-- What a command makes of a tab that has loaded: it is told by the command alone. -/
def Tab.after (i : Nat) (tab : Tab) : Tabs.Command → Tab
  | .login j c => if j = i then { tab with session := (tab.session.login c).2.1 } else tab
  | .logout j => if j = i then { tab with session := tab.session.logout.1 } else tab
  | _ => tab

theorem Tab.after_of_other {i : Nat} {command : Tabs.Command} (h : command.isOf i = false)
    (tab : Tab) : tab.after i command = tab := by
  cases command with
  | login j c => exact if_neg (by simpa [Tabs.Command.isOf] using h)
  | logout j => exact if_neg (by simpa [Tabs.Command.isOf] using h)
  | _ => rfl

theorem Tab.loading_after {tab : Tab} (settled : tab.session.loading = false) (i : Nat)
    (command : Tabs.Command) : (tab.after i command).session.loading = false := by
  cases command with
  | login j c =>
    rw [Tab.after]
    split
    · cases hc : identify c with
      | ok who => rw [Session.login_of_ok hc]
      | error _ => rw [Session.login_of_error hc]; exact settled
    · exact settled
  | logout j =>
    rw [Tab.after]
    split <;> exact settled
  | _ => exact settled

namespace Tabs

/-- One step: neither the slot nor the other tabs have a say. -/
theorem tab_step {t : Tabs} {i : Nat} {tab : Tab} (h : t.tabs[i]? = some tab)
    (settled : tab.session.loading = false) {command : Command}
    (stays : ∀ policy, command ≠ .reload i policy) :
    (t.step command).tabs[i]? = some (tab.after i command) := by
  cases command with
  | add policy =>
    show (t.tabs ++ [_])[i]? = _
    rw [List.getElem?_append_left (List.getElem?_eq_some_iff.mp h).1]
    exact h
  | reload j policy =>
    have other : j ≠ i := by
      rintro rfl
      exact stays policy rfl
    show (t.tabs.modify j _)[i]? = _
    rw [List.getElem?_modify, h]
    show some (if j = i then _ else _) = _
    rw [if_neg other]
    rfl
  | bootstrap j now =>
    show _ = some tab
    by_cases hj : j = i
    · subst hj
      rw [step_bootstrap_of_settled h settled, h]
    · cases hother : t.tabs[j]? with
      | none => rw [step, hother]; exact h
      | some other => rw [step_bootstrap hother, tab_put_of_ne hj, h]
  | login j c =>
    by_cases hj : j = i
    · subst hj
      rw [step_login h, tab_put h, Tab.after, if_pos rfl]
    · rw [Tab.after, if_neg hj]
      cases hother : t.tabs[j]? with
      | none => rw [step, hother]; exact h
      | some other => rw [step_login hother, tab_put_of_ne hj, h]
  | logout j =>
    by_cases hj : j = i
    · subst hj
      rw [step_logout h, tab_put h, Tab.after, if_pos rfl]
    · rw [Tab.after, if_neg hj]
      cases hother : t.tabs[j]? with
      | none => rw [step, hother]; exact h
      | some other => rw [step_logout hother, tab_put_of_ne hj, h]
  | save c => exact h
  | clear => exact h

theorem tab_run {t : Tabs} {i : Nat} {tab : Tab} (h : t.tabs[i]? = some tab)
    (settled : tab.session.loading = false) {commands : List Command}
    (stays : ∀ policy, .reload i policy ∉ commands) :
    (t.run commands).tabs[i]? = some (commands.foldl (Tab.after i) tab) := by
  induction commands generalizing t tab with
  | nil => exact h
  | cons command rest ih =>
    have first := tab_step h settled fun policy eq => stays policy (eq ▸ List.mem_cons_self)
    exact ih first (tab.loading_after settled i command) fun policy hp =>
      stays policy (List.mem_cons_of_mem _ hp)

/-- A tab that has loaded goes its own way. -/
theorem tab_run_filter {t : Tabs} {i : Nat} {tab : Tab} (h : t.tabs[i]? = some tab)
    (settled : tab.session.loading = false) {commands : List Command}
    (stays : ∀ policy, .reload i policy ∉ commands) :
    (t.run commands).tabs[i]? = (t.run (commands.filter (·.isOf i))).tabs[i]? := by
  have stays' : ∀ policy, .reload i policy ∉ commands.filter (·.isOf i) := by
    intro policy hp
    exact stays policy (List.mem_filter.mp hp).1
  -- both runs fold `Tab.after`, which passes over the commands that were left out
  have own : (fun tab (command : Command) =>
      if command.isOf i = true then tab.after i command else tab) = Tab.after i := by
    funext tab command
    split
    · rfl
    · next h => exact (Tab.after_of_other (by simpa using h) tab).symm
  rw [tab_run h settled stays, tab_run h settled stays', List.foldl_filter, own]

/-! ## Writes -/

theorem stored_of_writes {t : Tabs} {command : Command} {held : Option String}
    (h : t.Writes command held) : (t.step command).stored = held := by
  cases h with
  | signedIn there read =>
    rw [step_login there, stored_put, Session.login_of_ok read]
    rfl
  | signedOut there =>
    rw [step_logout there, stored_put]
    rfl
  | expired there loads stored expired =>
    rw [step_bootstrap there, stored_put, Session.bootstrap, if_pos loads, stored,
      Session.restore_of_expired expired]
    rfl
  | unreadable there loads stored unexpired unread policy =>
    rw [step_bootstrap there, stored_put, Session.bootstrap, if_pos loads, stored,
      Session.restore_of_error unexpired unread, policy]
    rfl
  | saved => exact Entries.get?_write t.entries t.key (.save _)
  | cleared => exact Entries.get?_write t.entries t.key .clear

/-- A loading tab that keeps what is stored. -/
theorem keeps_of_silent {t : Tabs} {i : Nat} {tab : Tab} {now : Int64}
    (there : t.tabs[i]? = some tab) (loads : tab.session.loading = true)
    (silent : ∀ held, ¬t.Writes (.bootstrap i now) held) :
    (Session.restore tab.policy now t.stored).2 = .keep := by
  cases hs : t.stored with
  | none => rfl
  | some c =>
    cases he : isExpired c now with
    | true => exact absurd (.expired there loads hs he) (silent none)
    | false =>
      cases hc : identify c with
      | ok who => rw [Session.restore_of_ok he hc]
      | error fault =>
        rw [Session.restore_of_error he hc]
        refine if_neg fun policy => ?_
        exact silent none (.unreadable there loads hs he hc policy)

/-- A command that does not write leaves the slot alone. -/
theorem entries_of_silent {t : Tabs} {command : Command} (silent : ∀ held, ¬t.Writes command held) :
    (t.step command).entries = t.entries := by
  cases command with
  | add _ => rfl
  | reload _ _ => rfl
  | bootstrap i now =>
    cases there : t.tabs[i]? with
    | none => rw [step, there]
    | some tab =>
      by_cases loads : tab.session.loading = true
      · rw [step_bootstrap there, Session.bootstrap, if_pos loads]
        show t.entries.write t.key (Session.restore tab.policy now t.stored).2 = _
        rw [keeps_of_silent there loads silent]
        rfl
      · rw [step_bootstrap_of_settled there (by simpa using loads)]
  | login i c =>
    cases hc : identify c with
    | error fault => rw [step_login_of_error hc]
    | ok who =>
      cases there : t.tabs[i]? with
      | none => rw [step, there]
      | some tab => exact absurd (.signedIn there hc) (silent (some c))
  | logout i =>
    cases there : t.tabs[i]? with
    | none => rw [step, there]
    | some tab => exact absurd (.signedOut there) (silent none)
  | save c => exact absurd .saved (silent (some c))
  | clear => exact absurd .cleared (silent none)

theorem key_step (t : Tabs) (command : Command) : (t.step command).key = t.key := by
  cases command with
  | bootstrap i _ => rw [step]; cases t.tabs[i]? <;> rfl
  | login i _ => rw [step]; cases t.tabs[i]? <;> rfl
  | logout i => rw [step]; cases t.tabs[i]? <;> rfl
  | _ => rfl

theorem stored_of_silent {t : Tabs} {command : Command} (silent : ∀ held, ¬t.Writes command held) :
    (t.step command).stored = t.stored := by
  rw [stored, entries_of_silent silent, key_step]
  rfl

/-- The last command that wrote has the say over the slot. -/
theorem last_write (t : Tabs) (commands : List Command) :
    (∃ before command after held, commands = before ++ command :: after ∧
      (t.run before).Writes command held ∧ Silent ((t.run before).step command) after ∧
      (t.run commands).stored = held) ∨
    Silent t commands ∧ (t.run commands).stored = t.stored := by
  -- a write in the rest comes after the first command, which counts only if there is none
  induction commands generalizing t with
  | nil => exact .inr ⟨trivial, rfl⟩
  | cons command rest ih =>
    rcases ih (t.step command) with ⟨before, later, after, held, hrest, writes, silent, hheld⟩ |
      ⟨silent, hsame⟩
    · exact .inl ⟨command :: before, later, after, held, by rw [hrest]; rfl, writes, silent, hheld⟩
    · by_cases writes : ∃ held, t.Writes command held
      · obtain ⟨held, writes⟩ := writes
        have stored : (t.run (command :: rest)).stored = held :=
          hsame.trans (stored_of_writes writes)
        exact .inl ⟨[], command, rest, held, rfl, writes, silent, stored⟩
      · have kept : ∀ held, ¬t.Writes command held := fun held h => writes ⟨held, h⟩
        exact .inr ⟨⟨kept, silent⟩, hsame.trans (stored_of_silent kept)⟩

/-! ## Tabs that load -/

theorem tab_bootstrap {t : Tabs} {i : Nat} {tab : Tab} (h : t.tabs[i]? = some tab)
    (loads : tab.session.loading = true) (now : Int64) :
    (t.step (.bootstrap i now)).tabs[i]? =
      some { tab with session := (Session.restore tab.policy now t.stored).1 } := by
  rw [step_bootstrap h, tab_put h, Session.bootstrap, if_pos loads]

theorem tab_opened (t : Tabs) (policy : MalformedPolicy) (now : Int64) :
    ((t.step (.add policy)).step (.bootstrap t.tabs.length now)).tabs[t.tabs.length]? =
      some ⟨policy, (Session.restore policy now t.stored).1⟩ := by
  have fresh : (t.step (.add policy)).tabs[t.tabs.length]? = some (.fresh policy) :=
    List.getElem?_concat_length
  rw [tab_bootstrap fresh rfl]
  rfl

/-! ## Tabs as owners -/

/-- The tabs over a heap: each has a handle of its own, a copy of the first one, and so all of them
are on one map. -/
structure OnHeap (t : Tabs) (h : Memory.Heap) (first : Nat) (handles : List Nat) : Prop where
  length : handles.length = t.tabs.length
  shared : ∃ m, m < h.maps.length ∧ h.map m = t.entries ∧
    ∀ on ∈ first :: handles, h.handle? on = some ⟨t.key, m⟩

/-- A step of a tab's session as a command. -/
def Command.ofStep (i : Nat) : Owner.Step → Command
  | .bootstrap now => .bootstrap i now
  | .login c => .login i c
  | .logout => .logout i

theorem onHeap_create (h : Memory.Heap) (key : String) (entries : Entries) :
    OnHeap ⟨key, entries, []⟩ (h.create key entries) h.handles.length [] := by
  refine ⟨rfl, h.maps.length, ?_, ?_, fun on hon => ?_⟩
  · show h.maps.length < (h.maps ++ [entries]).length
    simp
  · show ((h.maps ++ [entries])[h.maps.length]?).getD [] = entries
    rw [List.getElem?_concat_length]
    rfl
  · rw [List.mem_singleton.mp hon]
    exact List.getElem?_concat_length

namespace OnHeap

variable {t : Tabs} {h : Memory.Heap} {first on : Nat} {handles : List Nat}

theorem load (rep : t.OnHeap h first handles) (member : on ∈ handles) : h.load on = t.stored := by
  obtain ⟨m, -, map, handle⟩ := rep.shared
  rw [Memory.Heap.load, handle on (List.mem_cons_of_mem _ member), Option.bind_some, map]
  rfl

theorem put (rep : t.OnHeap h first handles) (member : on ∈ handles) (i : Nat) (s : Session)
    (w : Write) : (t.put i s w).OnHeap ((Slot.memory on).write w h) first handles := by
  obtain ⟨m, lt, map, handle⟩ := rep.shared
  have length : handles.length = (t.put i s w).tabs.length := by
    rw [rep.length]
    exact (List.length_modify _ _ _).symm
  have written : (h.write on w).map m = t.entries.write t.key w := by
    rw [← map]
    simp [Memory.Heap.write, handle on (List.mem_cons_of_mem _ member), Memory.Heap.map,
      List.getElem?_eq_getElem lt]
  have others : ∀ o ∈ first :: handles, (h.write on w).handle? o = some ⟨t.key, m⟩ := by
    intro o ho
    rw [Memory.Heap.handle?, Memory.Heap.handles_write]
    exact handle o ho
  have lt' : m < (h.write on w).maps.length := by
    rw [Memory.Heap.length_maps_write]
    exact lt
  cases w with
  | keep => exact ⟨length, m, lt, map, handle⟩
  | save c => exact ⟨length, m, lt', written, others⟩
  | clear => exact ⟨length, m, lt', written, others⟩

/-- A further tab is one on a copy of the first handle. -/
theorem add (rep : t.OnHeap h first handles) (policy : MalformedPolicy) :
    (t.step (.add policy)).OnHeap (h.copy first) first (handles ++ [h.handles.length]) := by
  obtain ⟨m, lt, map, handle⟩ := rep.shared
  rw [Memory.Heap.copy_eq (handle first List.mem_cons_self)]
  refine ⟨?_, m, lt, map, fun o ho => ?_⟩
  · show (handles ++ [_]).length = (t.tabs ++ [_]).length
    rw [List.length_append, List.length_append, rep.length]
    rfl
  · show (h.handles ++ [_])[o]? = some ⟨t.key, m⟩
    rw [← List.cons_append] at ho
    rcases List.mem_append.mp ho with old | new
    · have there := handle o old
      rw [Memory.Heap.handle?] at there
      rw [List.getElem?_append_left (List.getElem?_eq_some_iff.mp there).1, there]
    · rw [List.mem_singleton.mp new, List.getElem?_concat_length]

/-- What a tab does is what an owner does over its handle. -/
theorem step {i : Nat} {tab : Tab} (rep : t.OnHeap h first handles) (there : t.tabs[i]? = some tab)
    (its : handles[i]? = some on) (s : Owner.Step) :
    let o := Owner.step (.memory on) ⟨⟨tab.policy⟩, tab.session, h⟩ s
    (t.step (.ofStep i s)).tabs[i]? = some ⟨tab.policy, o.session⟩ ∧
      (t.step (.ofStep i s)).OnHeap o.store first handles := by
  have member := List.mem_of_getElem? its
  cases s with
  | bootstrap now =>
    show (t.step (.bootstrap i now)).tabs[i]? = some ⟨tab.policy,
        (Owner.bootstrap (.memory on) now ⟨⟨tab.policy⟩, tab.session, h⟩).session⟩ ∧
      (t.step (.bootstrap i now)).OnHeap
        (Owner.bootstrap (.memory on) now ⟨⟨tab.policy⟩, tab.session, h⟩).store first handles
    by_cases loads : tab.session.loading = true
    · rw [Owner.bootstrap, if_pos loads, step_bootstrap there, tab_put there, ← rep.load member]
      exact ⟨rfl, rep.put member _ _ _⟩
    · rw [Owner.bootstrap, if_neg loads, step_bootstrap_of_settled there (by simpa using loads)]
      exact ⟨there, rep⟩
  | login c =>
    show (t.step (.login i c)).tabs[i]? = _ ∧ (t.step (.login i c)).OnHeap _ _ _
    rw [step_login there, tab_put there]
    exact ⟨rfl, rep.put member _ _ _⟩
  | logout =>
    show (t.step (.logout i)).tabs[i]? = _ ∧ (t.step (.logout i)).OnHeap _ _ _
    rw [step_logout there, tab_put there]
    exact ⟨rfl, rep.put member _ _ _⟩

end OnHeap

/-! ## Top theorem -/

/-- **Tabs.**  A tab that has loaded goes on as it would without the others, as long as it is not
opened anew; the slot holds what the last write left there; and a tab that is opened then is signed
in by that or not at all.  A login that fails and a bootstrap of a tab that has loaded do nothing
whatever. -/
theorem run_shared (t : Tabs) (commands : List Command) :
    (∀ i tab, t.tabs[i]? = some tab → tab.session.loading = false →
      (∀ policy, .reload i policy ∉ commands) →
      (t.run commands).tabs[i]? = (t.run (commands.filter (·.isOf i))).tabs[i]?) ∧
    ((∃ before command after held, commands = before ++ command :: after ∧
        (t.run before).Writes command held ∧ Silent ((t.run before).step command) after ∧
        (t.run commands).stored = held) ∨
      Silent t commands ∧ (t.run commands).stored = t.stored) ∧
    (∀ i c fault, identify c = .error fault → (t.run commands).step (.login i c) = t.run commands) ∧
    (∀ i tab now, (t.run commands).tabs[i]? = some tab → tab.session.loading = false →
      (t.run commands).step (.bootstrap i now) = t.run commands) ∧
    ∀ policy now,
      let last := t.run commands
      ∃ s, ((last.step (.add policy)).step (.bootstrap last.tabs.length now)).tabs[
          last.tabs.length]? = some ⟨policy, s⟩ ∧
        (s.phase = .authenticated ↔
          ∃ c, last.stored = some c ∧ isExpired c now = false ∧ ∃ who, identify c = .ok who) ∧
        ∀ c who, last.stored = some c → isExpired c now = false → identify c = .ok who →
          s = ⟨some who, some c, false⟩ := by
  refine ⟨fun i tab h settled stays => tab_run_filter h settled stays, last_write t commands,
    fun i c fault unread => step_login_of_error unread _ i,
    fun i tab now h settled => step_bootstrap_of_settled h settled now, fun policy now => ?_⟩
  refine ⟨_, tab_opened _ policy now, Session.phase_restore_iff,
    fun c who held unexpired read => ?_⟩
  rw [held, Session.restore_of_ok unexpired read]

/-- Two tabs of an administrator, one of which signs out. -/
theorem run_shared_logout :
    let admin : Session := ⟨some ⟨3, some .admin⟩, some adminCredential, false⟩
    let t : Tabs := ⟨tokenKey, [(tokenKey, adminCredential)], [⟨.retain, admin⟩, ⟨.retain, admin⟩]⟩
    let left := t.step (.logout 1)
    left.tabs[0]? = some ⟨.retain, admin⟩ ∧ left.stored = none ∧
      ∀ policy now, ∃ s, ((left.step (.add policy)).step (.bootstrap 2 now)).tabs[2]? =
        some ⟨policy, s⟩ ∧ s.phase ≠ .authenticated := by
  intro admin t left
  obtain ⟨own, -, -, -, opened⟩ := run_shared t [.logout 1]
  have empty : left.stored = none := by decide
  refine ⟨own 0 _ rfl rfl fun policy h => (by cases List.mem_singleton.mp h), empty,
    fun policy now => ?_⟩
  obtain ⟨s, there, signed, -⟩ := opened policy now
  refine ⟨s, there, fun phase => ?_⟩
  obtain ⟨c, stored, -⟩ := signed.mp phase
  rw [show (t.run [.logout 1]).stored = none from empty] at stored
  cases stored

end Tabs

end CarCatalog
