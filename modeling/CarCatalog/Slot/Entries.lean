import CarCatalog.Session.Basic

/-!
# Maps of named texts

`Entries` is a map from keys to texts, one text a key.

    (es.put k v).get? j = if j = k then some v else es.get? j      (get?_put)
    (es.remove k).get? j = if j = k then none else es.get? j       (get?_remove)
-/

namespace CarCatalog

abbrev Entries := List (String × String)

namespace Entries

def get? (es : Entries) (key : String) : Option String := (es.find? (·.1 == key)).map (·.2)

def remove (es : Entries) (key : String) : Entries := es.filter (·.1 != key)

def put (es : Entries) (key value : String) : Entries := (key, value) :: es.remove key

/-- A session step's write, to one key. -/
def write (es : Entries) (key : String) : Write → Entries
  | .keep => es
  | .save credential => es.put key credential
  | .clear => es.remove key

/-! ## Lemmas -/

theorem get?_cons (e : String × String) (es : Entries) (j : String) :
    get? (e :: es) j = if e.1 = j then some e.2 else get? es j := by
  by_cases h : e.1 = j <;> simp [get?, h]

theorem get?_remove (es : Entries) (k j : String) :
    (es.remove k).get? j = if j = k then none else es.get? j := by
  induction es with
  | nil => simp [remove, get?]
  | cons e es ih =>
    by_cases he : e.1 = k
    · have : remove (e :: es) k = remove es k := by simp [remove, he]
      rw [this, ih, get?_cons]
      by_cases hj : j = k
      · simp [hj]
      · simp [hj, show ¬e.1 = j from fun h => hj (h ▸ he)]
    · have : remove (e :: es) k = e :: remove es k := by simp [remove, he]
      rw [this, get?_cons, get?_cons, ih]
      by_cases hj : e.1 = j
      · simp [hj, show ¬j = k from fun h => he (hj.trans h)]
      · simp [hj]

theorem get?_put (es : Entries) (k v j : String) :
    (es.put k v).get? j = if j = k then some v else es.get? j := by
  rw [put, get?_cons, get?_remove]
  by_cases h : j = k
  · simp [h]
  · simp [h, show ¬k = j from fun e => h e.symm]

theorem get?_write (es : Entries) (k : String) (w : Write) :
    (es.write k w).get? k = w.apply (es.get? k) := by
  cases w with
  | keep => rfl
  | save c => simp [write, get?_put, Write.apply]
  | clear => simp [write, get?_remove, Write.apply]

end Entries

end CarCatalog
