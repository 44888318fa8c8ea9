import CarCatalog.Gate
import CarCatalog.Proofs.Credential
import CarCatalog.Proofs.Session.Sound
import CarCatalog.Proofs.Wire.RoundTrip

/-!
# Sessions are read back

A role is written as its label, and what is read is the role of that label.  So an unknown role with
the label of a known one would come back as the known one.  No such role is ever made: each way to a
role goes through its label.

    Session.ofJson? s.toJson = some s.relabel          (ofJson?_toJson)
    s.relabel = s ↔ s.Genuine                          (relabel_eq_iff)
    s.Reached → s.Genuine                              (genuine_of_reached)
-/

namespace CarCatalog

/-! ## Roles -/

namespace Role

/-- Not an unknown role with the label of a known one. -/
def Genuine (r : Role) : Prop := r ∉ [unknown "Admin", unknown "CarSpec", unknown "User"]

/-- The role of the same label. -/
def relabel (r : Role) : Role := ofLabel r.label

theorem relabel_eq_iff (r : Role) : r.relabel = r ↔ r.Genuine := by
  cases r with
  | unknown label =>
    unfold relabel ofLabel Role.label Genuine
    by_cases admin : label = "Admin"
    · simp [admin]
    · by_cases carSpec : label = "CarSpec"
      · simp [carSpec]
      · by_cases user : label = "User" <;> simp [admin, carSpec, user]
  | _ => simp [relabel, ofLabel, Role.label, Genuine]

theorem genuine_ofLabel (label : String) : (ofLabel label).Genuine := by
  rw [← relabel_eq_iff, relabel, label_ofLabel]

theorem genuine_of_ofJson? {j : Json} {r : Role} (h : ofJson? j = some r) : r.Genuine := by
  obtain ⟨label, -, rfl⟩ := Option.map_eq_some_iff.mp h
  exact genuine_ofLabel label

theorem ofJson?_toJson (r : Role) : ofJson? r.toJson = some r.relabel := rfl

theorem toJson_ne_null (r : Role) : r.toJson ≠ .null := Json.noConfusion

theorem writable (r : Role) : r.toJson.Writable := Json.writable_text _

end Role

theorem Claims.genuine_of_roleOf {claims : Claims} {r : Role} (h : claims.roleOf = some r) :
    r.Genuine := by
  unfold roleOf at h
  split at h
  · split at h
    · cases h
    · cases h
      exact Role.genuine_ofLabel _
  · cases h

/-- A field that may be left out gives nothing that was not read. -/
theorem Field.of_optional {α : Type} {read : Json → Option α} {f : Field} {a : α}
    (h : f.optional read = some (some a)) : ∃ j, read j = some a := by
  cases f with
  | found j =>
    change j.option? read = some (some a) at h
    unfold Json.option? at h
    split at h
    · cases h
    · obtain ⟨a', ha, same⟩ := Option.map_eq_some_iff.mp h
      cases same
      exact ⟨_, ha⟩
  | absent => cases h
  | beyond => cases h

/-! ## Identities -/

namespace Identity

def Genuine (who : Identity) : Prop := ∀ r, who.role = some r → r.Genuine

def relabel (who : Identity) : Identity := { who with role := who.role.map Role.relabel }

theorem relabel_eq_iff (who : Identity) : who.relabel = who ↔ who.Genuine := by
  obtain ⟨id, role⟩ := who
  cases role with
  | none => simp [relabel, Genuine]
  | some r =>
    have same := Role.relabel_eq_iff r
    simpa [relabel, Genuine] using same

theorem genuine_of_identify {c : String} {who : Identity} (h : identify c = .ok who) :
    who.Genuine := by
  obtain ⟨claims, -, -, role⟩ := identify_eq_ok_iff.mp h
  intro r hr
  exact Claims.genuine_of_roleOf (role.trans hr)

theorem genuine_of_ofJson? {j : Json} {who : Identity} (h : ofJson? j = some who) :
    who.Genuine := by
  obtain ⟨field, -, h⟩ := Option.bind_eq_some_iff.mp h
  obtain ⟨id, -, h⟩ := Option.bind_eq_some_iff.mp h
  obtain ⟨role, read, h⟩ := Option.bind_eq_some_iff.mp h
  cases h
  intro r hr
  obtain rfl : role = some r := hr
  obtain ⟨j', hj⟩ := Field.of_optional read
  exact Role.genuine_of_ofJson? hj

theorem ofJson?_toJson (who : Identity) : ofJson? who.toJson = some who.relabel := by
  have id : (Json.int who.id.toInt).int64? = some who.id := Wire.Faithful.ofJson?_toJson who.id
  have role := Json.option?_ofOption Role.ofJson?_toJson Role.toJson_ne_null who.role
  have once : ["id", "role"].Nodup := by decide
  rw [ofJson?, toJson, Json.fields_record once]
  · simp [Json.recordField, Field.required, Field.optional, id, role, relabel]
  · exact .refl _

theorem toJson_ne_null (who : Identity) : who.toJson ≠ .null := Json.noConfusion

theorem writable (who : Identity) : who.toJson.Writable := by
  refine Json.writable_record ?_
  simp [Json.writable_int, Json.writable_ofOption Role.writable]

end Identity

/-! ## Sessions -/

namespace Session

def Genuine (s : Session) : Prop := ∀ who, s.identity = some who → who.Genuine

def relabel (s : Session) : Session := { s with identity := s.identity.map Identity.relabel }

theorem relabel_eq_iff (s : Session) : s.relabel = s ↔ s.Genuine := by
  obtain ⟨identity, credential, loading⟩ := s
  cases identity with
  | none => simp [relabel, Genuine]
  | some who =>
    have same := Identity.relabel_eq_iff who
    simpa [relabel, Genuine] using same

theorem genuine_of_reached {s : Session} (h : s.Reached) : s.Genuine := by
  intro who hw
  cases h with
  | bootstrapping => cases hw
  | anonymous => cases hw
  | signedIn identified =>
    cases hw
    exact Identity.genuine_of_identify identified

theorem genuine_of_ofJson? {j : Json} {s : Session} (h : ofJson? j = some s) : s.Genuine := by
  obtain ⟨field, -, h⟩ := Option.bind_eq_some_iff.mp h
  obtain ⟨identity, read, h⟩ := Option.bind_eq_some_iff.mp h
  obtain ⟨credential, -, h⟩ := Option.bind_eq_some_iff.mp h
  obtain ⟨loading, -, h⟩ := Option.bind_eq_some_iff.mp h
  cases h
  intro who hw
  obtain rfl : identity = some who := hw
  obtain ⟨j', hj⟩ := Field.of_optional read
  exact Identity.genuine_of_ofJson? hj

theorem ofJson?_toJson (s : Session) : ofJson? s.toJson = some s.relabel := by
  have identity :=
    Json.option?_ofOption Identity.ofJson?_toJson Identity.toJson_ne_null s.identity
  have credential : (Json.ofOption Json.text s.credential).option? Json.text? =
      some s.credential := Field.get?_found_ofOption s.credential
  have once : ["identity", "credential", "loading"].Nodup := by decide
  rw [ofJson?, toJson, Json.fields_record once]
  · simp [Json.recordField, Field.required, Field.optional, identity, credential, Json.bool?,
      relabel]
  · exact .refl _

theorem writable (s : Session) : s.toJson.Writable := by
  refine Json.writable_record ?_
  simp [Json.writable_ofOption Identity.writable, Json.writable_ofOption Json.writable_text,
    Json.Writable]

/-- Sessions with a genuine role are read back, and no others. -/
theorem read?_write_iff (s : Session) : Wire.read? (Wire.write s) = some s ↔ s.Genuine := by
  have parsed : Wire.read? (Wire.write s) = some s.relabel := by
    have text : Json.parse (Wire.write s) = some s.toJson := Json.parse_toBytes (writable s)
    rw [Wire.read?, text]
    exact ofJson?_toJson s
  rw [parsed, Option.some.injEq, relabel_eq_iff]

/-- A forged role turns into the one it names. -/
example :
    let forged : Session := ⟨some ⟨7, some (.unknown "Admin")⟩, some "c", false⟩
    Wire.read? (Wire.write forged) = some (⟨some ⟨7, some .admin⟩, some "c", false⟩ : Session) := by
  decide +kernel

/-! ## Top theorem -/

/-- The sessions there are: those that steps over a slot lead to, and those read from a text. -/
inductive Obtained : Session → Prop
  | run {σ : Type} (slot : Slot σ) (config : SessionConfig) (store : σ)
    (steps : List Owner.Step) : Obtained ((Owner.fresh config store).run slot steps).session
  | read (bs : Bytes) (s : Session) (reads : Wire.read? bs = some s) : Obtained s

/-- All that is decided of a session. -/
structure Decisions where
  layout : LayoutGate
  view : Section → ViewGate
  index : ViewGate
  login : ViewGate
  canModify : Int64 → Bool

def decisions (s : Session) : Decisions where
  layout := s.layoutGate
  view := s.sectionGate
  index := s.indexGate
  login := s.loginGate
  canModify author := s.identity.any (·.canModify author)

/-- **Roles are their labels.**  No label, credential or text gives an unknown role with the label
of a known one.  So every session there is comes back from its written form as it was, and is
decided on as before. -/
theorem read_back_as_it_was :
    (∀ label : String, (Role.ofLabel label).Genuine) ∧
    (∀ (c : String) (who : Identity), identify c = .ok who → who.Genuine) ∧
    (∀ (bs : Bytes) (r : Role), Wire.read? bs = some r → r.Genuine) ∧
    (∀ (bs : Bytes) (who : Identity), Wire.read? bs = some who → who.Genuine) ∧
    (∀ (bs : Bytes) (s : Session), Wire.read? bs = some s → s.Genuine) ∧
    ∀ s : Session, s.Obtained →
      ∃ s' : Session, Wire.read? (Wire.write s) = some s' ∧ s' = s ∧
        s'.decisions = s.decisions := by
  have of_text : ∀ (bs : Bytes) (s : Session), Wire.read? bs = some s → s.Genuine := by
    intro bs s h
    obtain ⟨j, -, hj⟩ := Option.bind_eq_some_iff.mp h
    exact genuine_of_ofJson? hj
  refine ⟨Role.genuine_ofLabel, fun c who h => Identity.genuine_of_identify h,
    fun bs r h => ?_, fun bs who h => ?_, of_text, fun s obtained => ?_⟩
  · obtain ⟨j, -, hj⟩ := Option.bind_eq_some_iff.mp h
    exact Role.genuine_of_ofJson? hj
  · obtain ⟨j, -, hj⟩ := Option.bind_eq_some_iff.mp h
    exact Identity.genuine_of_ofJson? hj
  · have genuine : s.Genuine := by
      cases obtained with
      | run slot config store steps =>
        exact genuine_of_reached (Owner.reached_run slot .bootstrapping steps)
      | read bs s reads => exact of_text bs s reads
    exact ⟨s, (read?_write_iff s).mpr genuine, rfl, rfl⟩

end Session

end CarCatalog
