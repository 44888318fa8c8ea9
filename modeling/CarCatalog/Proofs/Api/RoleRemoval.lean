import CarCatalog.Proofs.Api.Url

/-!
# Removing a role of a user

The name of a role, percent-encoded, is the last segment of a path.  The encoding keeps out of it whatever
could end the segment, but it writes dots as they are: a role named `.` or `..` is no segment to whoever
follows the path.

    resolved (removeRole user role).url = Path.userRoles user ++ "/" ++ encode role
      if role is neither `.` nor `..`                                            (resolved_removeRole)
    resolved (removeRole user "..").url = Path.user user ++ "/"                     (resolved_removeRole_up)
-/

namespace CarCatalog

open Text

namespace Api

/-! ## The path of a user's roles -/

def rolesSteps (user : Int64) : List String := userSteps user "roles"

theorem isSegment_rolesSteps (user : Int64) : ∀ s ∈ rolesSteps user, Url.IsSegment s :=
  isSegment_userSteps user (by decide)

theorem not_isDots_rolesSteps (user : Int64) : ∀ s ∈ rolesSteps user, Url.isDots s = false :=
  List.forall_mem_cons.mpr ⟨by decide, List.forall_mem_cons.mpr
    ⟨isDots_toString user.toInt, List.forall_mem_singleton.mpr (by decide)⟩⟩

theorem pathOf_rolesSteps (user : Int64) (segment : String) :
    pathOf (rolesSteps user ++ [segment]) = Path.userRoles user ++ "/" ++ segment := by
  rw [← String.toList_inj]
  show _ = ("/users/" ++ toString user.toInt ++ "/roles" ++ "/" ++ segment).toList
  simp [pathOf, rolesSteps, userSteps]

theorem removeRole_path (user : Int64) (role : String) :
    Path.removeRole user role = pathOf (rolesSteps user ++ [Percent.encode role]) := by
  rw [pathOf_rolesSteps, ← String.toList_inj]
  show ("/users/" ++ toString user.toInt ++ "/roles/" ++ Percent.encode role).toList =
    ("/users/" ++ toString user.toInt ++ "/roles" ++ "/" ++ Percent.encode role).toList
  simp

/-! ## Where the request goes -/

variable (user : Int64) (credential : Option String)

theorem resolved_removeRole_eq (role : String) :
    Url.resolved ((removeRole user role).request credential).url =
      pathOf (Url.removeDots (rolesSteps user ++ [Percent.encode role])) := by
  show Url.resolved (url (Path.removeRole user role)) = _
  rw [removeRole_path, Url.resolved_url]
  · simp
  · exact List.forall_mem_append.mpr ⟨isSegment_rolesSteps user,
      List.forall_mem_singleton.mpr (isSegment_encode role)⟩

theorem resolved_removeRole {role : String} (plain : Url.isDots role = false) :
    Url.resolved ((removeRole user role).request credential).url =
      Path.userRoles user ++ "/" ++ Percent.encode role := by
  have last : Url.isDots (Percent.encode role) = false := (isDots_encode role).trans plain
  rw [resolved_removeRole_eq, Url.removeDots_of_plain, pathOf_rolesSteps]
  exact List.forall_mem_append.mpr ⟨not_isDots_rolesSteps user, List.forall_mem_singleton.mpr last⟩

theorem resolved_removeRole_here :
    Url.resolved ((removeRole user ".").request credential).url = Path.userRoles user ++ "/" := by
  have written : Percent.encode "." = "." := by decide +kernel
  rw [resolved_removeRole_eq, written, Url.removeDots_concat (not_isDots_rolesSteps user) (by decide)]
  show pathOf (rolesSteps user ++ [""]) = _
  rw [pathOf_rolesSteps, String.append_empty]

theorem resolved_removeRole_up :
    Url.resolved ((removeRole user "..").request credential).url = Path.user user ++ "/" := by
  have written : Percent.encode ".." = ".." := by decide +kernel
  rw [resolved_removeRole_eq, written, Url.removeDots_concat (not_isDots_rolesSteps user) (by decide)]
  show pathOf ["users", toString user.toInt, ""] = "/users/" ++ toString user.toInt ++ "/"
  rw [← String.toList_inj]
  simp [pathOf]

theorem userRoles_segment_inj {user user' : Int64} {s s' : String} (h : '/' ∉ s.toList)
    (h' : '/' ∉ s'.toList)
    (same : Path.userRoles user ++ "/" ++ s = Path.userRoles user' ++ "/" ++ s') :
    user = user' ∧ s = s' := by
  have free : ∀ (u : Int64) {t : String}, '/' ∉ t.toList → ∀ r ∈ rolesSteps u ++ [t], '/' ∉ r.toList := by
    intro u t ht
    refine List.forall_mem_append.mpr ⟨fun r hr hs => ?_, List.forall_mem_singleton.mpr ht⟩
    exact (isSegment_rolesSteps u r hr '/' hs).1 rfl
  rw [← pathOf_rolesSteps, ← pathOf_rolesSteps] at same
  have steps := pathOf_inj (free user h) (free user' h') same
  simp only [rolesSteps, userSteps, List.cons_append, List.nil_append, List.cons.injEq, and_true, true_and] at steps
  exact ⟨toString_inj steps.1, steps.2⟩

/-! ## Top theorem -/

/-- **Where the removal of a role goes.**  Unless the role's name is one dot or two, to one segment under the
path of the user's roles, which decodes to the name; removals of two roles, or from two users, go to two
places.  For one dot the request goes to the roles of the user, and for two to the user. -/
theorem removeRole_goes :
    (∀ role, ((removeRole user role).request credential).method = .delete) ∧
    (∀ role, Url.isDots role = false → ∃ segment, '/' ∉ segment.toList ∧
      Url.resolved ((removeRole user role).request credential).url =
        Path.userRoles user ++ "/" ++ segment ∧
      Percent.decode segment.toList = some role) ∧
    (∀ user' role role', Url.isDots role = false → Url.isDots role' = false →
      Url.resolved ((removeRole user role).request credential).url =
        Url.resolved ((removeRole user' role').request credential).url →
      user = user' ∧ role = role') ∧
    Url.resolved ((removeRole user ".").request credential).url = Path.userRoles user ++ "/" ∧
    Url.resolved ((removeRole user "..").request credential).url = Path.user user ++ "/" := by
  have free : ∀ role, '/' ∉ (Percent.encode role).toList := fun role =>
    Percent.notMem_encode (by decide) role
  refine ⟨fun _ => rfl, fun role plain => ?_, fun user' role role' plain plain' same => ?_,
    resolved_removeRole_here user credential, resolved_removeRole_up user credential⟩
  · exact ⟨Percent.encode role, free role, resolved_removeRole user credential plain,
      Percent.decode_encode role⟩
  · rw [resolved_removeRole user credential plain, resolved_removeRole user' credential plain'] at same
    obtain ⟨sameUser, sameName⟩ := userRoles_segment_inj (free role) (free role') same
    exact ⟨sameUser, Percent.encode_inj sameName⟩

/-- **A role that is not removed.**  The removal of a role named `..` from user 7 goes to the user. -/
theorem removeRole_goes_up :
    let sent := (removeRole 7 "..").request none
    sent.url = "http://localhost:8000/users/7/roles/.." ∧ Url.resolved sent.url = "/users/7/" ∧
      ∀ segment, Url.resolved sent.url ≠ Path.userRoles 7 ++ "/" ++ segment := by
  intro sent
  have address : sent.url = "http://localhost:8000/users/7/roles/.." := by decide +kernel
  have resolved : Url.resolved sent.url = "/users/7/" := by decide +kernel
  refine ⟨address, resolved, fun segment h => ?_⟩
  rw [resolved] at h
  have other : Path.userRoles 7 = "/users/7/roles" := by decide +kernel
  have chars := congrArg String.toList h
  rw [other] at chars
  simp at chars

end Api

end CarCatalog
