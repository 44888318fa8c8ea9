import CarCatalog.Proofs.Form
import CarCatalog.Proofs.Wire.RoundTrip
import CarCatalog.Screen.Users

/-!
# What the form of a user changes

The form of a user has two texts, and either may be left as it is: a name by leaving nothing but white space,
a password by leaving nothing at all.  Only what is filled in is judged, and only that is sent.

    password = "" ∨ 6 ≤ password.length → userUpdate username password = .ok (asked username password)
                                                                                       (judges_userUpdate)
    userUpdate username password = (newUser username password).map asUpdate      if both are filled in
                                                                                       (userUpdate_eq_newUser)
-/

namespace CarCatalog

theorem UserUpdate.toJson_eq (update : UserUpdate) : Wire.toJson update =
    .record (memberIfAny "username" update.username ++ memberIfAny "password" update.password) := rfl

namespace Form

/-- A text, unless nothing is in it. -/
def filled (text : String) : Option String := if text.isEmpty then none else some text

theorem filled_of_ne {text : String} (h : text ≠ "") : filled text = some text :=
  if_neg (mt String.isEmpty_iff.mp h)

/-- What the texts of the form ask to change. -/
def asked (username passwordText : String) : UserUpdate :=
  ⟨filled (Text.trim username), filled passwordText⟩

/-- A new name and a new password, as a change. -/
def asUpdate (user : NewUser) : UserUpdate := ⟨some user.username, some user.password⟩

/-- The members that say what the texts of the form ask to change: the trimmed name and the password as it
was typed, each if there is one, and nothing else.  None of them is empty, or null. -/
structure Changes (username passwordText : String) (members : List (String × Json)) : Prop where
  username : ∀ j, ("username", j) ∈ members ↔
    Text.trim username ≠ "" ∧ j = .text (Text.trim username)
  password : ∀ j, ("password", j) ∈ members ↔ passwordText ≠ "" ∧ j = .text passwordText
  names : ∀ m ∈ members, m.1 = "username" ∨ m.1 = "password"
  once : (members.map Prod.fst).Nodup
  texts : ∀ m ∈ members, ∃ s, s ≠ "" ∧ m.2 = .text s

/-! ## The validation -/

theorem judges_password (text : String) : Judges (password text) (passwordLeast ≤ text.length) text :=
  ⟨fun long => if_neg (Nat.not_lt.mpr long), fun short => ⟨_, if_pos (Nat.not_le.mp short)⟩⟩

theorem judges_userUpdate (username passwordText : String) :
    Judges (userUpdate username passwordText)
      (passwordText = "" ∨ passwordLeast ≤ passwordText.length) (asked username passwordText) := by
  by_cases empty : passwordText = ""
  · subst empty
    exact ⟨fun _ => rfl, fun bad => absurd (.inl rfl) bad⟩
  · have given : ¬passwordText.isEmpty = true := mt String.isEmpty_iff.mp empty
    have judged := ((judges_password passwordText).map some).last (UserUpdate.mk (filled (Text.trim username)))
    unfold userUpdate asked
    dsimp only
    rw [if_neg given, filled_of_ne empty]
    exact ⟨fun fine => judged.accepts (fine.resolve_left empty), fun bad =>
      judged.refuses fun long => bad (.inr long)⟩

/-- Where both are filled in, the rules are those of a new user. -/
theorem userUpdate_eq_newUser {username passwordText : String} (name : Text.trim username ≠ "")
    (given : passwordText ≠ "") :
    userUpdate username passwordText = (newUser username passwordText).map asUpdate := by
  have named : required .username username = .ok (Text.trim username) :=
    (judges_required .username username).accepts name
  have nameFilled : ¬(Text.trim username).isEmpty = true := mt String.isEmpty_iff.mp name
  have passwordFilled : ¬passwordText.isEmpty = true := mt String.isEmpty_iff.mp given
  unfold userUpdate newUser
  dsimp only
  rw [named, if_neg nameFilled, if_neg passwordFilled]
  cases password passwordText <;> rfl

/-! ## The body -/

theorem mem_memberIfAny_filled {name text : String} {m : String × Json} :
    m ∈ memberIfAny name (filled text) ↔ text ≠ "" ∧ m = (name, .text text) := by
  by_cases empty : text = ""
  · subst empty
    simp [memberIfAny, filled]
  · rw [filled_of_ne empty]
    show m ∈ [(name, Json.text text)] ↔ _
    rw [List.mem_singleton]
    exact ⟨fun h => ⟨empty, h⟩, fun h => h.2⟩

def askedMembers (username passwordText : String) : List (String × Json) :=
  memberIfAny "username" (filled (Text.trim username)) ++ memberIfAny "password" (filled passwordText)

theorem mem_askedMembers {username passwordText : String} {m : String × Json} :
    m ∈ askedMembers username passwordText ↔
      (Text.trim username ≠ "" ∧ m = ("username", .text (Text.trim username))) ∨
        (passwordText ≠ "" ∧ m = ("password", .text passwordText)) := by
  rw [askedMembers, List.mem_append, mem_memberIfAny_filled, mem_memberIfAny_filled]

theorem changes_askedMembers (username passwordText : String) :
    Changes username passwordText (askedMembers username passwordText) where
  username j := by
    rw [mem_askedMembers]
    simp
  password j := by
    rw [mem_askedMembers]
    simp
  names m hm := by
    rcases mem_askedMembers.mp hm with ⟨-, rfl⟩ | ⟨-, rfl⟩
    · exact .inl rfl
    · exact .inr rfl
  once := by
    have names := (Wire.names_memberIfAny_sublist "username" (filled (Text.trim username))).append
      (Wire.names_memberIfAny_sublist "password" (filled passwordText))
    rw [askedMembers, List.map_append]
    exact List.Nodup.sublist names (by decide)
  texts m hm := by
    rcases mem_askedMembers.mp hm with ⟨given, rfl⟩ | ⟨given, rfl⟩
    · exact ⟨_, given, rfl⟩
    · exact ⟨_, given, rfl⟩

theorem toJson_asked (username passwordText : String) :
    Wire.toJson (asked username passwordText) = .record (askedMembers username passwordText) := by
  rw [UserUpdate.toJson_eq, asked, askedMembers]

end Form

/-- An update is empty just where nothing is written of it. -/
theorem UserUpdate.isEmpty_iff (update : UserUpdate) :
    update.isEmpty = true ↔ Wire.toJson update = .object [] := by
  have left_out : ∀ (name : String) (value : Option String),
      memberIfAny name value = [] ↔ value.isNone = true := by
    intro name value
    cases value <;> simp [memberIfAny]
  rw [update.toJson_eq, Json.record, Json.object.injEq, List.map_eq_nil_iff, List.append_eq_nil_iff, left_out, left_out, isEmpty,
    Bool.and_eq_true]

/-! ## Submitting -/

namespace UsersPage

/-- A submit asks for what the texts of the form ask to change, if that is anything. -/
theorem submit_cases (n : Nat) (p : UsersPage) (f : UserForm) :
    (p.updateForm n f .submit).2 = [] ∨
      ∃ update, Form.userUpdate f.username f.password = .ok update ∧ update.isEmpty = false ∧
        (p.updateForm n f .submit).2 = [.act n (.updateUser p.form.number f.user.id update)] := by
  unfold updateForm UserForm.submit
  cases judged : Form.userUpdate f.username f.password with
  | error e => exact .inl rfl
  | ok update =>
    cases empty : update.isEmpty with
    | true =>
      left
      simp [empty]
    | false =>
      right
      exact ⟨update, rfl, empty, by simp [empty]⟩

end UsersPage

namespace Form

theorem asked_of_accepted {username passwordText : String} {update : UserUpdate}
    (accepted : userUpdate username passwordText = .ok update) : update = asked username passwordText := by
  have judged := judges_userUpdate username passwordText
  by_cases fine : passwordText = "" ∨ passwordLeast ≤ passwordText.length
  · rw [judged.accepts fine] at accepted
    exact (Except.ok.inj accepted).symm
  · obtain ⟨e, he⟩ := judged.refuses fine
    rw [he] at accepted
    cases accepted

theorem refused_iff (username passwordText : String) :
    (∃ e, userUpdate username passwordText = .error e) ↔
      passwordText ≠ "" ∧ passwordText.length < 6 := by
  have judged := judges_userUpdate username passwordText
  have bad : ¬(passwordText = "" ∨ passwordLeast ≤ passwordText.length) ↔
      passwordText ≠ "" ∧ passwordText.length < 6 := by
    rw [not_or, Nat.not_le]
    rfl
  rw [← bad]
  constructor
  · rintro ⟨e, he⟩ fine
    rw [judged.accepts fine] at he
    cases he
  · exact judged.refuses

theorem body_updateUser {username passwordText : String} {update : UserUpdate}
    (accepted : userUpdate username passwordText = .ok update) (user : Int64) (credential : Option String) :
    ((Api.updateUser user update).request credential).body =
      some (.record (askedMembers username passwordText)) := by
  rw [← toJson_asked, ← asked_of_accepted accepted]
  rfl

/-! ## Top theorem -/

/-- **What is left blank stays.**  The form of a user is refused just for a password of one to five characters.
What it sends otherwise has the trimmed name if there is one and the password as typed if there is one, each
once, and nothing else; this is nothing just where the update counts as empty, and then it is not sent.  Where
both are filled in, the form accepts, refuses and gives what that of a new user does. -/
theorem userUpdate_changes :
    (∀ username passwordText, (∃ e, userUpdate username passwordText = .error e) ↔
      passwordText ≠ "" ∧ passwordText.length < 6) ∧
    (∀ username passwordText update, userUpdate username passwordText = .ok update →
      ∀ user credential, (∃ members, Changes username passwordText members ∧
        ((Api.updateUser user update).request credential).body = some (.record members)) ∧
        (update.isEmpty = true ↔
          ((Api.updateUser user update).request credential).body = some (.object []))) ∧
    (∀ username passwordText, Text.trim username ≠ "" → passwordText ≠ "" →
      userUpdate username passwordText = (newUser username passwordText).map asUpdate) ∧
    (∀ (n : Nat) (p : UsersPage) (f : UserForm), (p.updateForm n f .submit).2 = [] ∨
      ∃ t members, (p.updateForm n f .submit).2 = [t] ∧ members ≠ [] ∧
        Changes f.username f.password members ∧ ∀ credential, t.request credential =
          ⟨.put, Api.Path.user f.user.id, credential.map Api.bearer, some (.record members)⟩) := by
  refine ⟨refused_iff, fun username passwordText update accepted user credential => ⟨?_, ?_⟩,
    fun username passwordText => userUpdate_eq_newUser, fun n p f => ?_⟩
  · exact ⟨askedMembers username passwordText, changes_askedMembers username passwordText,
      body_updateUser accepted user credential⟩
  · have body : ((Api.updateUser user update).request credential).body = some (Wire.toJson update) := rfl
    rw [body, Option.some.injEq, update.isEmpty_iff]
  · rcases p.submit_cases n f with none | ⟨update, accepted, some_left, sent⟩
    · exact .inl none
    · right
      refine ⟨_, askedMembers f.username f.password, sent, fun nothing => ?_,
        changes_askedMembers f.username f.password, fun credential => ?_⟩
      · have empty : update.isEmpty = true := by
          rw [update.isEmpty_iff, asked_of_accepted accepted, toJson_asked, nothing]
          rfl
        rw [empty] at some_left
        cases some_left
      · rw [← toJson_asked, ← asked_of_accepted accepted]
        rfl

end Form

end CarCatalog
