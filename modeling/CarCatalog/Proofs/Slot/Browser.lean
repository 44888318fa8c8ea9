import CarCatalog.Proofs.Session.Sound
import CarCatalog.Proofs.Slot.Memory

/-!
# The browser's storage as a slot

While the local storage works, it is a slot that works; in any other condition a write leaves it as
it is.

    s.condition = .works → (s.write tokenKey w).read tokenKey = w.apply (s.read tokenKey)
                                                                            (read_write)
-/

namespace CarCatalog

namespace Storage

theorem condition_write (s : Storage) (key : String) (w : Write) :
    (s.write key w).condition = s.condition := by
  unfold write
  split <;> rfl

theorem read_of_works {s : Storage} (works : s.condition = .works) (key : String) :
    s.read key = s.entries.get? key := by
  rw [read, works]
  rfl

theorem read_write {s : Storage} (works : s.condition = .works) (key : String) (w : Write) :
    (s.write key w).read key = w.apply (s.read key) := by
  rw [read_of_works works, read_of_works ((condition_write s key w).trans works), write, works]
  exact Entries.get?_write s.entries key w

end Storage

theorem Slot.browser_keeps :
    Slot.browser.Keeps (fun s => s.condition = .works) (fun s => s.read tokenKey) where
  load _ _ := rfl
  works_write s w works := by
    rw [Account.write_browser, Storage.condition_write]
    exact works
  content_write s w works := by
    rw [Account.write_browser]
    exact Storage.read_write works tokenKey w

end CarCatalog
