import CarCatalog.Slot.Basic

/-!
# Slots that work

A slot works (`Slot.Keeps`) if reading gives back what was written last and changes nothing.  A
handle in memory does, and a copy of it holds the same.

    h.Works on → (h.write on w).load on = w.apply (h.load on)        (load_write)
    h.Works on → (h.copy on).load h.handles.length = h.load on       (load_copy)
-/

namespace CarCatalog

/-- In the states that work, reading gives the content, and a write changes it as it should. -/
structure Slot.Keeps {σ : Type} (slot : Slot σ) (works : σ → Prop) (content : σ → Option String) :
    Prop where
  load : ∀ st, works st → slot.load st = (content st, st)
  works_write : ∀ st w, works st → works (slot.write w st)
  content_write : ∀ st w, works st → content (slot.write w st) = w.apply (content st)

namespace Memory.Heap

/-- A handle that was created, on a map that was. -/
def Works (h : Heap) (on : Nat) : Prop := ∃ c, h.handle? on = some c ∧ c.map < h.maps.length

def run (h : Heap) (commands : List Command) : Heap := commands.foldl step h

/-! ## Lemmas -/

/-- Maps and handles are only ever added. -/
theorem Works.mono {h h' : Heap} {on : Nat} (works : h.Works on) {more : List Handle}
    (handles : h'.handles = h.handles ++ more) (maps : h.maps.length ≤ h'.maps.length) :
    h'.Works on := by
  obtain ⟨c, hc, hm⟩ := works
  have hlt : on < h.handles.length := (List.getElem?_eq_some_iff.1 hc).1
  refine ⟨c, ?_, by omega⟩
  rw [handle?, handles, List.getElem?_append_left hlt]
  exact hc

theorem handles_write (h : Heap) (on : Nat) (w : Write) : (h.write on w).handles = h.handles := by
  unfold write
  cases h.handle? on <;> rfl

theorem length_maps_write (h : Heap) (on : Nat) (w : Write) :
    (h.write on w).maps.length = h.maps.length := by
  unfold write
  cases h.handle? on with
  | none => rfl
  | some c => simp

theorem works_write {h : Heap} {on : Nat} (works : h.Works on) (other : Nat) (w : Write) :
    (h.write other w).Works on :=
  works.mono (by rw [handles_write, List.append_nil])
    (Nat.le_of_eq (length_maps_write h other w).symm)

theorem load_write {h : Heap} {on : Nat} (works : h.Works on) (w : Write) :
    (h.write on w).load on = w.apply (h.load on) := by
  obtain ⟨c, hc, hm⟩ := works
  have hmap : (h.write on w).map c.map = (h.map c.map).write c.key w := by
    simp [write, hc, map, List.getElem?_eq_getElem hm]
  have hhandle : (h.write on w).handle? on = some c := by rw [handle?, handles_write]; exact hc
  rw [load, hhandle, load, hc, Option.bind_some, Option.bind_some, hmap, Entries.get?_write]

theorem copy_eq {h : Heap} {on : Nat} {c : Handle} (hc : h.handle? on = some c) :
    h.copy on = { h with handles := h.handles ++ [c] } := by
  rw [copy, hc]

theorem works_copy {h : Heap} {on : Nat} (works : h.Works on) :
    (h.copy on).Works h.handles.length := by
  obtain ⟨c, hc, hm⟩ := works
  rw [copy_eq hc]
  exact ⟨c, by simp [handle?], hm⟩

theorem load_copy {h : Heap} {on : Nat} (works : h.Works on) :
    (h.copy on).load h.handles.length = h.load on := by
  obtain ⟨c, hc, -⟩ := works
  have hnew : (h.copy on).handle? h.handles.length = some c := by rw [copy_eq hc]; simp [handle?]
  rw [load, hnew, load, hc, copy_eq hc]
  rfl

theorem works_create (h : Heap) (key : String) (entries : Entries) :
    (h.create key entries).Works h.handles.length :=
  ⟨⟨key, h.maps.length⟩, by simp [create, handle?], by simp [create]⟩

/-- Every handle that a command creates works, and those that work go on to. -/
theorem works_step {h : Heap} (works : ∀ on < h.handles.length, h.Works on) (command : Command) :
    ∀ on < (h.step command).handles.length, (h.step command).Works on := by
  have created : ∀ key entries, ∀ on < (h.create key entries).handles.length,
      (h.create key entries).Works on := by
    intro key entries on hon
    have hle : on < h.handles.length + 1 := by simpa [create] using hon
    rcases Nat.lt_or_eq_of_le (Nat.le_of_lt_succ hle) with hlt | rfl
    · have handles : (h.create key entries).handles = h.handles ++ [⟨key, h.maps.length⟩] := rfl
      exact (works on hlt).mono handles (by simp [create])
    · exact works_create h key entries
  have written : ∀ other w, ∀ on < (h.write other w).handles.length, (h.write other w).Works on :=
    fun other w on hon => works_write (works on (handles_write h other w ▸ hon)) other w
  cases command with
  | create key => exact created key []
  | seeded c => exact created tokenKey _
  | copy source =>
    show ∀ on < (h.copy source).handles.length, (h.copy source).Works on
    cases hc : h.handle? source with
    | none => rw [copy, hc]; exact works
    | some c =>
      intro on hon
      rw [copy_eq hc] at hon
      have hle : on < h.handles.length + 1 := by simpa using hon
      rcases Nat.lt_or_eq_of_le (Nat.le_of_lt_succ hle) with hlt | rfl
      · exact (works on hlt).mono (by rw [copy_eq hc]) (Nat.le_of_eq (by rw [copy_eq hc]))
      · exact works_copy (works source (List.getElem?_eq_some_iff.1 hc).1)
  | save other c => exact written other (.save c)
  | clear other => exact written other .clear
  | load _ => exact works
  | get _ _ => exact works

theorem works_run {h : Heap} (works : ∀ on < h.handles.length, h.Works on)
    (commands : List Command) :
    ∀ on < (h.run commands).handles.length, (h.run commands).Works on := by
  induction commands generalizing h with
  | nil => exact works
  | cons command commands ih => exact ih (works_step works command)

/-- Every handle there is works. -/
theorem works_of_lt {commands : List Command} {on : Nat}
    (hon : on < (empty.run commands).handles.length) : (empty.run commands).Works on :=
  works_run (fun _ h => absurd h (Nat.not_lt_zero _)) commands on hon

end Memory.Heap

theorem Slot.memory_keeps (on : Nat) :
    (Slot.memory on).Keeps (fun h => h.Works on) (fun h => h.load on) where
  load _ _ := rfl
  works_write h w works := by
    cases w with
    | keep => exact works
    | save _ => exact Memory.Heap.works_write works on _
    | clear => exact Memory.Heap.works_write works on _
  content_write h w works := by
    cases w with
    | keep => rfl
    | save c => exact Memory.Heap.load_write works (.save c)
    | clear => exact Memory.Heap.load_write works .clear

end CarCatalog
