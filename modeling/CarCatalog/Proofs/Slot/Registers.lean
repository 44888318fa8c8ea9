import CarCatalog.Proofs.Slot.History
import CarCatalog.Proofs.Slot.Memory
import Mathlib.Data.List.Induction

/-!
# Handles in memory as registers

For all that its maps and keys allow, a heap is no more than its history: the handles akin are one register,
which holds what was left last through any of them, under the one key that all of them have, and nothing is
under any other key.

    h.handle? on = some c → h.get? on key = if key = c.key then past.text on else none         (Tells.get?_eq)
    Tells past h → Tells (past.record command) (h.step command)                          (Tells.step)
-/

namespace CarCatalog

theorem Entries.get?_write_of_ne (es : Entries) {k j : String} (other : j ≠ k) (w : Write) :
    (es.write k w).get? j = es.get? j := by
  cases w with
  | keep => rfl
  | save c => rw [write, get?_put, if_neg other]
  | clear => rw [write, get?_remove, if_neg other]

namespace Memory

/-! ## Histories of commands -/

/-- The handle that a command writes through. -/
def Command.through? : Command → Option Nat
  | .save on _ => some on
  | .clear on => some on
  | _ => none

namespace History

/-- Nothing is left through a handle that was not made. -/
def write {n : Nat} (past : History n) (on : Nat) (left : Option String) : Σ m, History m :=
  if h : on < n then ⟨n, past.written ⟨on, h⟩ left⟩ else ⟨n, past⟩

/-- What a command adds; there is no copy of a handle that was not made. -/
def record {n : Nat} (past : History n) : Command → Σ m, History m
  | .create _ => ⟨n + 1, past.made⟩
  | .seeded c => ⟨n + 1, past.made.written (Fin.last n) (some c)⟩
  | .copy on => if h : on < n then ⟨n + 1, past.copied ⟨on, h⟩⟩ else ⟨n, past⟩
  | .save on c => past.write on (some c)
  | .clear on => past.write on none
  | .load _ => ⟨n, past⟩
  | .get _ _ => ⟨n, past⟩

/-- The history of commands from the start. -/
def of (commands : List Command) : Σ n, History n :=
  commands.foldl (fun past command => past.2.record command) ⟨0, .start⟩

/-- A text changes by what is written through a handle akin, and by nothing else. -/
theorem text_record {n : Nat} (past : History n) {command : Command} {on : Nat} (lt : on < n)
    (apart : ∀ through, command.through? = some through → ¬past.Kin through on) :
    (past.record command).2.text on = past.text on := by
  have written : ∀ {through : Nat} (left : Option String), ¬past.Kin through on →
      (past.write through left).2.text on = past.text on := by
    intro through left apart
    rw [write]
    by_cases there : through < n
    · rw [dif_pos there, text_written, if_neg apart]
    · rw [dif_neg there]
  cases command with
  | create key => exact past.text_made on
  | seeded c =>
    -- the text is that of the new handle, to which none is akin yet
    have strangers : ¬past.made.Kin (Fin.last n) on := fun kin => by
      have same : past.root n = past.root on := kin_iff.mp kin
      have below := past.root_lt lt
      rw [← same, past.root_of_le (Nat.le_refl n)] at below
      exact Nat.lt_irrefl n below
    exact (past.made.text_written _ _ on).trans ((if_neg strangers).trans (past.text_made on))
  | copy source =>
    rw [record]
    by_cases there : source < n
    · rw [dif_pos there, text_copied, if_neg (Nat.ne_of_lt lt)]
    · rw [dif_neg there]
  | save through c => exact written (some c) (apart through rfl)
  | clear through => exact written none (apart through rfl)
  | load _ => rfl
  | get _ _ => rfl

end History

/-! ## Heaps -/

theorem getElem?_concat {α : Type} (xs : List α) (x : α) (i : Nat) :
    (xs ++ [x])[i]? = if i = xs.length then some x else xs[i]? := by
  split
  · next last => rw [last, List.getElem?_concat_length]
  · next other =>
    rcases Nat.lt_or_gt_of_ne other with old | beyond
    · exact List.getElem?_append_left old
    · rw [List.getElem?_eq_none (Nat.le_of_lt beyond), List.getElem?_eq_none (by simp; omega)]

namespace Heap

/-- Whatever is done next, the same is read through both handles. -/
def Shares (h : Heap) (a b : Nat) : Prop :=
  ∀ more, (h.run more).load a = (h.run more).load b ∧
    ∀ key, (h.run more).get? a key = (h.run more).get? b key

theorem handle?_create (h : Heap) (key : String) (entries : Entries) (on : Nat) :
    (h.create key entries).handle? on =
      if on = h.handles.length then some ⟨key, h.maps.length⟩ else h.handle? on :=
  getElem?_concat h.handles _ on

theorem map_create (h : Heap) (key : String) (entries : Entries) (i : Nat) :
    (h.create key entries).map i = if i = h.maps.length then entries else h.map i := by
  show ((h.maps ++ [entries])[i]?).getD [] = if i = h.maps.length then _ else (h.maps[i]?).getD []
  rw [getElem?_concat]
  split <;> rfl

theorem handle?_copy {h : Heap} {source : Nat} (there : source < h.handles.length) (on : Nat) :
    (h.copy source).handle? on = h.handle? (if on = h.handles.length then source else on) := by
  have made : h.handle? source = some h.handles[source] := List.getElem?_eq_getElem there
  rw [copy_eq made, apply_ite h.handle?, made]
  exact getElem?_concat h.handles _ on

theorem map_write {h : Heap} {on : Nat} {c : Handle} (made : h.handle? on = some c)
    (map : c.map < h.maps.length) (w : Write) (i : Nat) :
    (h.write on w).map i = if i = c.map then (h.map i).write c.key w else h.map i := by
  rw [write, made]
  show ((h.maps.modify c.map _)[i]?).getD [] =
    if i = c.map then ((h.maps[i]?).getD []).write c.key w else (h.maps[i]?).getD []
  split
  · next own =>
    rw [own, List.getElem?_modify_eq, List.getElem?_eq_getElem map]
    rfl
  · next other => rw [List.getElem?_modify_ne _ _ (Ne.symm other)]

theorem write_of_le {h : Heap} {on : Nat} (missing : h.handles.length ≤ on) (w : Write) :
    h.write on w = h := by
  rw [write, handle?, List.getElem?_eq_none missing]

theorem copy_of_le {h : Heap} {on : Nat} (missing : h.handles.length ≤ on) : h.copy on = h := by
  rw [copy, handle?, List.getElem?_eq_none missing]

/-- A slot with a text is an empty one through which it was saved. -/
theorem create_put (h : Heap) (key c : String) :
    h.create key (Entries.put [] key c) = (h.create key []).write h.handles.length (.save c) := by
  have made : (h.create key []).handle? h.handles.length = some ⟨key, h.maps.length⟩ := by
    rw [handle?_create, if_pos rfl]
  rw [write, made]
  show Heap.mk _ _ = Heap.mk ((h.maps ++ [[]]).modify h.maps.length _) _
  rw [List.modify_eq_take_cons_drop (by simp)]
  simp [create, Entries.write]

/-- Handles are only ever added. -/
theorem handle?_step {h : Heap} {on : Nat} {c : Handle} (made : h.handle? on = some c)
    (command : Command) : (h.step command).handle? on = some c := by
  have old : on < h.handles.length := (List.getElem?_eq_some_iff.mp made).1
  have created : ∀ key entries, (h.create key entries).handle? on = some c := fun key entries => by
    rw [handle?_create, if_neg (Nat.ne_of_lt old), made]
  have written : ∀ other w, (h.write other w).handle? on = some c := fun other w => by
    rw [handle?, handles_write]
    exact made
  cases command with
  | create key => exact created key []
  | seeded _ => exact created tokenKey _
  | copy source =>
    show (h.copy source).handle? on = some c
    rcases Nat.lt_or_ge source h.handles.length with there | missing
    · rw [handle?_copy there, if_neg (Nat.ne_of_lt old), made]
    · rw [copy_of_le missing, made]
  | save other _ => exact written other _
  | clear other => exact written other _
  | load _ => exact made
  | get _ _ => exact made

theorem handle?_run {h : Heap} {on : Nat} {c : Handle} (made : h.handle? on = some c)
    (commands : List Command) : (h.run commands).handle? on = some c := by
  induction commands generalizing h with
  | nil => exact made
  | cons command commands ih => exact ih (handle?_step made command)

end Heap

/-! ## Refinement -/

/-- A history tells of a heap: a handle is as the one it comes from, two that do not come from one are on two
maps, and a map holds the text of its handles under their key alone. -/
structure Tells {n : Nat} (past : History n) (h : Heap) : Prop where
  length : h.handles.length = n
  works : ∀ on < h.handles.length, h.Works on
  handle?_root : ∀ on, h.handle? (past.root on) = h.handle? on
  root_eq : ∀ a b c d, h.handle? a = some c → h.handle? b = some d → c.map = d.map →
    past.root a = past.root b
  get?_map : ∀ on c, h.handle? on = some c → ∀ key,
    (h.map c.map).get? key = if key = c.key then past.text on else none

namespace Tells

variable {n : Nat} {past : History n} {h : Heap}

theorem start : Tells .start .empty where
  length := rfl
  works _ lt := absurd lt (Nat.not_lt_zero _)
  handle?_root _ := rfl
  root_eq _ _ _ _ made := by cases made
  get?_map _ _ made := by cases made

theorem handle?_of_lt (tells : Tells past h) {on : Nat} (lt : on < n) : ∃ c, h.handle? on = some c :=
  ⟨_, List.getElem?_eq_getElem (tells.length.symm ▸ lt)⟩

theorem map_lt (tells : Tells past h) {on : Nat} {c : Handle} (made : h.handle? on = some c) :
    c.map < h.maps.length := by
  obtain ⟨d, there, lt⟩ := tells.works on (List.getElem?_eq_some_iff.mp made).1
  rwa [Option.some.inj (made.symm.trans there)]

theorem handle?_of_kin (tells : Tells past h) {a b : Nat} (kin : past.Kin a b) :
    h.handle? a = h.handle? b := by
  rw [← tells.handle?_root a, ← tells.handle?_root b, History.kin_iff.mp kin]

theorem get?_eq (tells : Tells past h) {on : Nat} {c : Handle} (made : h.handle? on = some c)
    (key : String) : h.get? on key = if key = c.key then past.text on else none := by
  rw [Heap.get?, made]
  exact tells.get?_map on c made key

theorem load_eq (tells : Tells past h) {on : Nat} {c : Handle} (made : h.handle? on = some c) :
    h.load on = past.text on := by
  rw [Heap.load, made]
  show (h.map c.map).get? c.key = _
  rw [tells.get?_map on c made, if_pos rfl]

theorem made (tells : Tells past h) (key : String) : Tells past.made (h.create key []) := by
  have handle : ∀ on, (h.create key []).handle? on =
      if on = n then some ⟨key, h.maps.length⟩ else h.handle? on :=
    fun on => tells.length ▸ h.handle?_create key [] on
  have old : ∀ {on c}, on ≠ n → (h.create key []).handle? on = some c → h.handle? on = some c :=
    fun other there => by rwa [handle, if_neg other] at there
  have new : ∀ c, (h.create key []).handle? n = some c → c = ⟨key, h.maps.length⟩ := fun c there => by
    rw [handle, if_pos rfl] at there
    exact (Option.some.inj there).symm
  refine {
    length := ?length
    works := Heap.works_step tells.works (.create key)
    handle?_root := ?root
    root_eq := ?apart
    get?_map := ?text }
  case length =>
    show (h.handles ++ [_]).length = n + 1
    rw [List.length_append, tells.length]
    rfl
  case root =>
    intro on
    show (h.create key []).handle? (past.root on) = _
    by_cases last : on = n
    · rw [last, past.root_of_le (Nat.le_refl n)]
    · rw [handle, handle, if_neg last, if_neg (past.root_ne last), tells.handle?_root]
  case apart =>
    intro a b c d ha hb same
    show past.root a = past.root b
    -- the new handle alone is on the new map
    by_cases lastA : a = n <;> by_cases lastB : b = n
    · rw [lastA, lastB]
    · have below := tells.map_lt (old lastB hb)
      rw [← same, new c (lastA ▸ ha)] at below
      exact absurd below (Nat.lt_irrefl _)
    · have below := tells.map_lt (old lastA ha)
      rw [same, new d (lastB ▸ hb)] at below
      exact absurd below (Nat.lt_irrefl _)
    · exact tells.root_eq a b c d (old lastA ha) (old lastB hb) same
  case text =>
    intro on c there k
    rw [Heap.map_create, History.text_made]
    by_cases last : on = n
    · rw [new c (last ▸ there), if_pos rfl, past.text_of_le (Nat.le_of_eq last.symm), ite_self]
      rfl
    · have there := old last there
      rw [if_neg (Nat.ne_of_lt (tells.map_lt there)), tells.get?_map on c there]

theorem copied (tells : Tells past h) (source : Fin n) : Tells (past.copied source) (h.copy source) := by
  obtain ⟨c, made⟩ := tells.handle?_of_lt source.isLt
  have there : source.val < h.handles.length := tells.length.symm ▸ source.isLt
  -- the new handle is as its source in all
  have handle : ∀ on, (h.copy source).handle? on = h.handle? (if on = n then source else on) :=
    fun on => tells.length ▸ Heap.handle?_copy there on
  have maps : (h.copy source).maps = h.maps := by rw [Heap.copy_eq made]
  refine {
    length := ?length
    works := Heap.works_step tells.works (.copy source)
    handle?_root := ?root
    root_eq := ?apart
    get?_map := ?text }
  case length =>
    rw [Heap.copy_eq made]
    show (h.handles ++ [c]).length = n + 1
    rw [List.length_append, tells.length]
    rfl
  case root =>
    intro on
    have other : (if on = n then source.val else on) ≠ n := by
      split
      · exact Nat.ne_of_lt source.isLt
      · assumption
    rw [handle, handle, History.root, if_neg (past.root_ne other), tells.handle?_root]
  case apart =>
    intro a b d e ha hb same
    rw [handle] at ha hb
    exact tells.root_eq _ _ d e ha hb same
  case text =>
    intro on d there' k
    rw [handle] at there'
    rw [Heap.map, maps, History.text_copied]
    exact tells.get?_map _ d there' k

/-- A write changes the one map of the handle and its kin, under the key of them all. -/
theorem written (tells : Tells past h) (through : Fin n) {w : Write} {left : Option String}
    (leaves : ∀ held, w.apply held = left) :
    Tells (past.written through left) (h.write through w) := by
  obtain ⟨c, made⟩ := tells.handle?_of_lt through.isLt
  have handle : ∀ on, (h.write through w).handle? on = h.handle? on := fun on => by
    rw [Heap.handle?, Heap.handles_write]
    rfl
  refine {
    length := ?length
    works := ?works
    handle?_root := ?root
    root_eq := ?apart
    get?_map := ?text }
  case length => rw [Heap.handles_write, tells.length]
  case works =>
    intro on lt
    rw [Heap.handles_write] at lt
    exact Heap.works_write (tells.works on lt) through w
  case root =>
    intro on
    rw [handle, handle]
    exact tells.handle?_root on
  case apart =>
    intro a b d e ha hb same
    exact tells.root_eq a b d e (handle a ▸ ha) (handle b ▸ hb) same
  case text =>
    intro on d there' k
    rw [handle] at there'
    rw [Heap.map_write made (tells.map_lt made), History.text_written]
    -- a handle is on the map that was written exactly if it is akin, and then has the key it was written under
    by_cases kin : past.Kin through on
    · have same : c = d := Option.some.inj (made.symm.trans ((tells.handle?_of_kin kin).trans there'))
      subst same
      rw [if_pos rfl, if_pos kin]
      by_cases own : k = c.key
      · rw [own, if_pos rfl, Entries.get?_write, leaves]
      · rw [if_neg own, Entries.get?_write_of_ne _ own, tells.get?_map on c there', if_neg own]
    · have apart : d.map ≠ c.map := fun same =>
        kin (History.kin_iff.mpr (tells.root_eq _ _ c d made there' same.symm))
      rw [if_neg apart, if_neg kin]
      exact tells.get?_map on d there' k

theorem write (tells : Tells past h) (on : Nat) {w : Write} {left : Option String}
    (leaves : ∀ held, w.apply held = left) : Tells (past.write on left).2 (h.write on w) := by
  rw [History.write]
  by_cases lt : on < n
  · rw [dif_pos lt]
    exact tells.written ⟨on, lt⟩ leaves
  · rw [dif_neg lt, Heap.write_of_le (by rw [tells.length]; omega)]
    exact tells

theorem step (tells : Tells past h) (command : Command) :
    Tells (past.record command).2 (h.step command) := by
  cases command with
  | create key => exact tells.made key
  | seeded c =>
    show Tells (past.made.written (Fin.last n) (some c)) (h.create tokenKey (Entries.put [] tokenKey c))
    rw [Heap.create_put, tells.length]
    exact (tells.made tokenKey).written (Fin.last n) fun _ => rfl
  | copy on =>
    show Tells (past.record (.copy on)).2 (h.copy on)
    rw [History.record]
    by_cases lt : on < n
    · rw [dif_pos lt]
      exact tells.copied ⟨on, lt⟩
    · rw [dif_neg lt, Heap.copy_of_le (by rw [tells.length]; omega)]
      exact tells
  | save on c => exact tells.write on fun _ => rfl
  | clear on => exact tells.write on fun _ => rfl
  | load _ => exact tells
  | get _ _ => exact tells

theorem run (commands : List Command) : Tells (History.of commands).2 (Heap.empty.run commands) := by
  induction commands using List.reverseRecOn with
  | nil => exact start
  | append_singleton commands command ih =>
    rw [History.of, Heap.run, List.foldl_append, List.foldl_append]
    exact ih.step command

/-- What is done to other registers is not seen. -/
theorem unseen (tells : Tells past h) {command : Command} {on : Nat} (lt : on < n)
    (apart : ∀ through, command.through? = some through → ¬past.Kin through on) :
    (h.step command).load on = h.load on ∧
      ∀ key, (h.step command).get? on key = h.get? on key := by
  obtain ⟨c, made⟩ := tells.handle?_of_lt lt
  have still := Heap.handle?_step made command
  have text := past.text_record lt apart
  refine ⟨?_, fun key => ?_⟩
  · rw [(tells.step command).load_eq still, tells.load_eq made, text]
  · rw [(tells.step command).get?_eq still, tells.get?_eq made, text]

theorem shares_of_kin (tells : Tells past h) {a b : Nat} (lt : a < n) (kin : past.Kin a b) :
    h.Shares a b := by
  intro more
  obtain ⟨c, made⟩ := tells.handle?_of_lt lt
  have one := Heap.handle?_run made more
  have other := Heap.handle?_run ((tells.handle?_of_kin kin).symm.trans made) more
  refine ⟨?_, fun key => ?_⟩
  · rw [Heap.load, Heap.load, one, other]
  · rw [Heap.get?, Heap.get?, one, other]

theorem kin_of_shares (tells : Tells past h) {a b : Nat} (ltA : a < n) (ltB : b < n)
    (shares : h.Shares a b) : past.Kin a b := by
  refine Decidable.byContradiction fun apart => ?_
  obtain ⟨c, made⟩ := tells.handle?_of_lt ltA
  -- otherwise the second would hold already whatever is saved through the first
  have held : ∀ text, h.load b = some text := fun text => by
    have saved : (h.step (.save a text)).load a = some text :=
      Heap.load_write ⟨c, made, tells.map_lt made⟩ (.save text)
    have unmoved : (h.step (.save a text)).load b = h.load b :=
      (tells.unseen ltB fun through same => by cases same; exact apart).1
    calc h.load b = (h.step (.save a text)).load b := unmoved.symm
      _ = (h.step (.save a text)).load a := (shares [.save a text]).1.symm
      _ = some text := saved
  have both := (held "a").symm.trans (held "b")
  exact absurd both (by decide)

end Tells

/-! ## Top theorem -/

/-- **Handles are registers.**  Whatever was done, two handles share what they hold exactly if both come by
copying from one handle; then they have one key.  Through a handle the text is read that was left last through
any of those, none if nothing was or the last took it away, and it is found under their key and nothing under
another.  And what is done otherwise than by writing through one of them changes nothing of this. -/
theorem run_registers (commands : List Command) :
    let h := Heap.empty.run commands
    let past := (History.of commands).2
    h.handles.length = (History.of commands).1 ∧
    (∀ a b, a < h.handles.length → b < h.handles.length → (h.Shares a b ↔ past.Kin a b)) ∧
    (∀ a b c d, h.handle? a = some c → h.handle? b = some d → past.Kin a b → c.key = d.key) ∧
    (∀ on c, h.handle? on = some c → h.load on = past.text on ∧
      ∀ key, h.get? on key = if key = c.key then h.load on else none) ∧
    ∀ command on, on < h.handles.length →
      (∀ through, command.through? = some through → ¬past.Kin through on) →
      (h.step command).load on = h.load on ∧ ∀ key, (h.step command).get? on key = h.get? on key := by
  intro h past
  have tells : Tells past h := .run commands
  have length : h.handles.length = (History.of commands).1 := tells.length
  refine ⟨length, fun a b ltA ltB => ?_, fun a b c d ha hb kin => ?_, fun on c made => ?_,
    fun command on lt apart => tells.unseen (length ▸ lt) apart⟩
  · rw [length] at ltA ltB
    exact ⟨tells.kin_of_shares ltA ltB, tells.shares_of_kin ltA⟩
  · rw [Option.some.inj (ha.symm.trans ((tells.handle?_of_kin kin).trans hb))]
  · refine ⟨tells.load_eq made, fun key => ?_⟩
    rw [tells.get?_eq made, tells.load_eq made]

/-- Two registers: one under a key of its own, saved through a copy of a copy, and one that was seeded and then
cleared. -/
theorem run_registers_two :
    let h := Heap.empty.run
      [.create "cars", .copy 0, .seeded "left", .copy 1, .copy 2, .save 3 "kept", .clear 4]
    h.Shares 0 3 ∧ ¬h.Shares 0 2 ∧ h.load 0 = some "kept" ∧ h.get? 1 tokenKey = none ∧ h.load 2 = none := by
  intro h
  obtain ⟨-, shares, -, reads, -⟩ := run_registers
    [.create "cars", .copy 0, .seeded "left", .copy 1, .copy 2, .save 3 "kept", .clear 4]
  refine ⟨(shares 0 3 (by decide) (by decide)).mpr (by decide),
    fun shared => absurd ((shares 0 2 (by decide) (by decide)).mp shared) (by decide), ?_, ?_, ?_⟩
  · exact ((reads 0 ⟨"cars", 0⟩ rfl).1).trans (by decide)
  · exact ((reads 1 ⟨"cars", 0⟩ rfl).2 tokenKey).trans (if_neg (by decide))
  · exact ((reads 2 ⟨tokenKey, 1⟩ rfl).1).trans (by decide)

end Memory

end CarCatalog
