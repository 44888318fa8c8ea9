import CarCatalog.Paging.Basic
import CarCatalog.Proofs.Json.Writer
import CarCatalog.Wire.Cars
import CarCatalog.Wire.People

/-!
# Bodies are read back

A record is written with each of its fields once, so what is read of it is what was written
(`fields_record`).  A type is faithful if every value is read back from its written form and that
form is one that can be printed; records, lists and pages of faithful types are faithful.

    Wire.read? (Wire.write v) = some v          (read?_write)

A text that is read as `v` is thus rewritten to `Wire.write v`, which is rewritten to itself.
-/

namespace CarCatalog

/-! ## Texts -/

namespace Wire

/-- The text of a value. -/
def write {α : Type} [Wire α] (v : α) : Bytes := (toJson v).toBytes

/-- The value that a text has. -/
def read? {α : Type} [Wire α] (bs : Bytes) : Option α := (Json.parse bs).bind ofJson?

/-- A text as it is written once it has been read. -/
def rewrite? (α : Type) [Wire α] (bs : Bytes) : Option Bytes := (read? (α := α) bs).map write

/-- Every value is read back from what is written, and what is written is a text. -/
class Faithful (α : Type) [Wire α] : Prop where
  ofJson?_toJson (v : α) : ofJson? (toJson v) = some v
  writable (v : α) : (toJson v).Writable

/-- No value is written as null, which stands for no value. -/
class Present (α : Type) [Wire α] : Prop where
  toJson_ne_null (v : α) : toJson v ≠ .null

end Wire

/-! ## Records -/

namespace Json

/-- The field of a name among members that name none twice. -/
def recordField (members : List (String × Json)) (name : String) : Field :=
  match members with
  | [] => .absent
  | m :: ms => if m.1 = name then .found m.2 else recordField ms name

theorem filter_name_of_notMem {members : List (String × Json)} {name : String}
    (h : name ∉ members.map (·.1)) :
    (members.map fun m => (some m.1, m.2)).filter (fun m => m.1 == some name) = [] := by
  rw [List.filter_eq_nil_iff]
  intro m hm same
  obtain ⟨m', hm', rfl⟩ := List.mem_map.mp hm
  have : m'.1 = name := by simpa using same
  exact h (this ▸ List.mem_map_of_mem hm')

theorem memberField_record {members : List (String × Json)} (nodup : (members.map (·.1)).Nodup)
    (name : String) :
    memberField (members.map fun m => (some m.1, m.2)) name = some (recordField members name) := by
  induction members with
  | nil => rfl
  | cons m ms ih =>
    rw [List.map_cons, List.nodup_cons] at nodup
    obtain ⟨once, nodup⟩ := nodup
    by_cases same : m.1 = name
    · have others := filter_name_of_notMem (same ▸ once)
      have first : (some m.1 == some name) = true := by simp [same]
      simp only [recordField, if_pos same, memberField, List.map_cons, List.filter_cons, first,
        if_true, others]
    · have first : (some m.1 == some name) = false := by simp [same]
      have skip : memberField ((m :: ms).map fun m => (some m.1, m.2)) name =
          memberField (ms.map fun m => (some m.1, m.2)) name := by
        simp only [memberField, List.map_cons, List.filter_cons, first]
        rfl
      rw [skip, ih nodup, recordField, if_neg same]

/-- What is read of a record is what was written of it. -/
theorem fields_record {members : List (String × Json)} {names : List String}
    (nodup : names.Nodup) (sub : (members.map (·.1)).Sublist names) :
    (record members).fields names = some (recordField members) := by
  have once := sub.nodup nodup
  have named : (members.map fun m => (some m.1, m.2)).all (·.1.isSome) = true := by
    simp
  have found : names.all (fun n =>
      (memberField (members.map fun m => (some m.1, m.2)) n).isSome) = true := by
    rw [List.all_eq_true]
    intro n _
    rw [memberField_record once]
    rfl
  rw [record, fields, if_pos (by rw [named, found]; rfl)]
  congr 1
  funext name
  rw [memberField_record once]
  rfl

/-! ## Values of fields -/

theorem option?_ofOption {α β : Type} {read : Json → Option β} {write : α → Json} {f : α → β}
    (reads : ∀ v, read (write v) = some (f v)) (present : ∀ v, write v ≠ .null) (v : Option α) :
    (ofOption write v).option? read = some (v.map f) := by
  cases v with
  | none => rfl
  | some v =>
    have some_value : (write v).option? read = (read (write v)).map some := by
      unfold option?
      split
      · next null => exact absurd null (present v)
      · rfl
    rw [ofOption, some_value, reads]
    rfl

theorem list?_list {α : Type} {read : Json → Option α} {write : α → Json}
    (faithful : ∀ v, read (write v) = some v) (vs : List α) :
    (list write vs).list? read = some vs := by
  show (vs.map write).mapM read = some vs
  induction vs with
  | nil => rfl
  | cons v vs ih =>
    rw [List.map_cons, List.mapM_cons, faithful, ih]
    rfl

theorem itemsWritable_map {α : Type} {write : α → Json} (h : ∀ v, (write v).Writable)
    (vs : List α) : ItemsWritable (vs.map write) := by
  induction vs with
  | nil => exact trivial
  | cons v vs ih => exact ⟨h v, ih⟩

theorem writable_ofOption {α : Type} {write : α → Json} (h : ∀ v, (write v).Writable)
    (v : Option α) : (ofOption write v).Writable := by
  cases v with
  | none => exact trivial
  | some v => exact h v

end Json

open Wire

namespace Field

variable {α : Type} [Wire α] [Faithful α]

@[simp] theorem get_found_toJson (v : α) : (found (toJson v)).get = some v :=
  Faithful.ofJson?_toJson v

@[simp] theorem getD_found_toJson (v default : α) : (found (toJson v)).getD default = some v :=
  Faithful.ofJson?_toJson v

@[simp] theorem get?_found_ofOption [Present α] (v : Option α) :
    (found (.ofOption toJson v)).get? = some v := by
  have reads := Json.option?_ofOption (f := id) Faithful.ofJson?_toJson
    Present.toJson_ne_null v
  rwa [Option.map_id] at reads

@[simp] theorem get?_found_toJson [Present α] (v : α) : (found (toJson v)).get? = some (some v) :=
  get?_found_ofOption (some v)

omit [Faithful α] in
@[simp] theorem get?_absent : (absent.get? : Option (Option α)) = some none := rfl

end Field

namespace Wire

/-- A record is faithful if it is read field by field from the members that are written. -/
theorem faithful_record {α : Type} [Wire α] {names : List String}
    {read : (String → Field) → Option α} {members : α → List (String × Json)}
    (reads : ∀ j, ofJson? j = (j.fields names).bind read)
    (writes : ∀ v : α, toJson v = .record (members v)) (nodup : names.Nodup)
    (sub : ∀ v, ((members v).map (·.1)).Sublist names)
    (found : ∀ v, read (Json.recordField (members v)) = some v)
    (writable : ∀ v, ∀ m ∈ members v, m.2.Writable) : Faithful α where
  ofJson?_toJson v := by
    rw [reads, writes, Json.fields_record nodup (sub v), Option.bind_some, found]
  writable v := by
    rw [writes]
    exact Json.writable_record (writable v)

/-! ## Words, texts and lists -/

instance : Faithful Int64 where
  ofJson?_toJson v := by
    show (Numeral.ofInt v.toInt).toInt?.bind CarCatalog.int64? = some v
    rw [Numeral.toInt?_ofInt, Option.bind_some]
    exact int64?_eq_some.mpr rfl
  writable v := Json.writable_int _

instance : Faithful Int32 where
  ofJson?_toJson v := by
    show (Numeral.ofInt v.toInt).toInt?.bind CarCatalog.int32? = some v
    rw [Numeral.toInt?_ofInt, Option.bind_some]
    exact int32?_eq_some.mpr rfl
  writable v := Json.writable_int _

instance : Faithful UInt64 where
  ofJson?_toJson v := by
    show (Numeral.ofInt v.toNat).toInt?.bind CarCatalog.uint64? = some v
    rw [Numeral.toInt?_ofInt, Option.bind_some]
    exact uint64?_eq_some.mpr rfl
  writable v := Json.writable_int _

instance : Faithful UInt32 where
  ofJson?_toJson v := by
    show (Numeral.ofInt v.toNat).toInt?.bind CarCatalog.uint32? = some v
    rw [Numeral.toInt?_ofInt, Option.bind_some]
    exact uint32?_eq_some.mpr rfl
  writable v := Json.writable_int _

instance : Faithful String where
  ofJson?_toJson _ := rfl
  writable := Json.writable_text

instance : Present String where
  toJson_ne_null _ := Json.noConfusion

instance : Faithful Bool where
  ofJson?_toJson _ := rfl
  writable _ := trivial

instance {α : Type} [Wire α] [Faithful α] : Faithful (List α) where
  ofJson?_toJson := Json.list?_list Faithful.ofJson?_toJson
  writable := Json.itemsWritable_map Faithful.writable

/-! ## Members -/

variable {α : Type} [Wire α] [Faithful α]

@[simp] theorem writable_member (name : String) (v : α) : (member name v).2.Writable :=
  Faithful.writable v

@[simp] theorem writable_memberOrNull (name : String) (v : Option α) :
    (memberOrNull name v).2.Writable :=
  Json.writable_ofOption Faithful.writable v

theorem writable_of_mem_memberIfAny {name : String} {v : Option α} {m : String × Json}
    (h : m ∈ memberIfAny name v) : m.2.Writable := by
  cases v with
  | none => cases h
  | some v =>
    obtain rfl : m = member name v := List.mem_singleton.mp h
    exact writable_member name v

omit [Faithful α] in
theorem names_memberIfAny_sublist (name : String) (v : Option α) :
    ((memberIfAny name v).map (·.1)).Sublist [name] := by
  cases v with
  | none => exact List.nil_sublist _
  | some v => exact List.Sublist.refl _

/-! ## People -/

instance : Faithful SignIn :=
  faithful_record (fun _ => rfl) (fun _ => rfl) (by decide) (fun _ => .refl _)
    (fun v => by simp [Json.recordField, member]) (fun v => by simp)

instance : Faithful Token :=
  faithful_record (fun _ => rfl) (fun _ => rfl) (by decide) (fun _ => .refl _)
    (fun v => by simp [Json.recordField, member]) (fun v => by simp)

instance : Faithful User :=
  faithful_record (fun _ => rfl) (fun _ => rfl) (by decide) (fun _ => .refl _)
    (fun v => by simp [Json.recordField, member]) (fun v => by simp)

instance : Faithful NewUser :=
  faithful_record (fun _ => rfl) (fun _ => rfl) (by decide) (fun _ => .refl _)
    (fun v => by simp [Json.recordField, member]) (fun v => by simp)

/-- Fields without a value are left out. -/
instance : Faithful UserUpdate :=
  faithful_record (fun _ => rfl) (fun _ => rfl) (by decide)
    (fun v => by
      simpa using (names_memberIfAny_sublist "username" v.username).append
        (names_memberIfAny_sublist "password" v.password))
    (fun ⟨username, password⟩ => by
      cases username <;> cases password <;> simp [Json.recordField, memberIfAny, member])
    (fun _ m hm => (List.mem_append.mp hm).elim writable_of_mem_memberIfAny
      writable_of_mem_memberIfAny)

instance : Faithful Permission :=
  faithful_record (fun _ => rfl) (fun _ => rfl) (by decide) (fun _ => .refl _)
    (fun v => by simp [Json.recordField, member, memberOrNull]) (fun v => by simp)

instance : Faithful RoleRecord :=
  faithful_record (fun _ => rfl) (fun _ => rfl) (by decide) (fun _ => .refl _)
    (fun v => by simp [Json.recordField, member, memberOrNull]) (fun v => by simp)

/-! ## Cars -/

instance : Faithful Brand :=
  faithful_record (fun _ => rfl) (fun _ => rfl) (by decide) (fun _ => .refl _)
    (fun v => by simp [Json.recordField, member]) (fun v => by simp)

instance : Faithful Model :=
  faithful_record (fun _ => rfl) (fun _ => rfl) (by decide) (fun _ => .refl _)
    (fun v => by simp [Json.recordField, member]) (fun v => by simp)

instance : Faithful Submodel :=
  faithful_record (fun _ => rfl) (fun _ => rfl) (by decide) (fun _ => .refl _)
    (fun v => by simp [Json.recordField, member]) (fun v => by simp)

instance : Faithful Generation :=
  faithful_record (fun _ => rfl) (fun _ => rfl) (by decide) (fun _ => .refl _)
    (fun v => by simp [Json.recordField, member]) (fun v => by simp)

instance : Faithful CarSpec :=
  faithful_record (fun _ => rfl) (fun _ => rfl) (by decide) (fun _ => .refl _)
    (fun v => by simp [Json.recordField, member]) (fun v => by simp)

instance : Faithful NewName :=
  faithful_record (fun _ => rfl) (fun _ => rfl) (by decide) (fun _ => .refl _)
    (fun v => by simp [Json.recordField, member]) (fun v => by simp)

instance : Faithful NewGeneration :=
  faithful_record (fun _ => rfl) (fun _ => rfl) (by decide) (fun _ => .refl _)
    (fun v => by simp [Json.recordField, member]) (fun v => by simp)

instance : Faithful NewSpec :=
  faithful_record (fun _ => rfl) (fun _ => rfl) (by decide) (fun _ => .refl _)
    (fun v => by simp [Json.recordField, member]) (fun v => by simp)

instance : Faithful SavedCar :=
  faithful_record (fun _ => rfl) (fun _ => rfl) (by decide) (fun _ => .refl _)
    (fun v => by simp [Json.recordField, member]) (fun v => by simp)

/-! ## Pages -/

instance : Faithful PageMeta :=
  faithful_record (fun _ => rfl) (fun _ => rfl) (by decide) (fun _ => .refl _)
    (fun v => by simp [Json.recordField, member]) (fun v => by simp)

instance : Faithful (Page α) :=
  faithful_record (fun _ => rfl) (fun _ => rfl) (by decide) (fun _ => .refl _)
    (fun v => by simp [Json.recordField, member]) (fun v => by simp)

/-! ## Top theorem -/

/-- The types of the bodies that are sent and received. -/
inductive Travels : (α : Type) → [Wire α] → Prop
  | signIn : Travels SignIn
  | token : Travels Token
  | user : Travels User
  | newUser : Travels NewUser
  | userUpdate : Travels UserUpdate
  | permission : Travels Permission
  | role : Travels RoleRecord
  | brand : Travels Brand
  | model : Travels Model
  | submodel : Travels Submodel
  | generation : Travels Generation
  | spec : Travels CarSpec
  | newName : Travels NewName
  | newGeneration : Travels NewGeneration
  | newSpec : Travels NewSpec
  | savedCar : Travels SavedCar
  | pageInfo : Travels PageMeta
  | list {α : Type} [Wire α] (items : Travels α) : Travels (List α)
  | page {α : Type} [Wire α] (items : Travels α) : Travels (Page α)

theorem Travels.faithful {α : Type} [Wire α] (travels : Travels α) : Faithful α := by
  induction travels with
  | list _ ih => exact inferInstance
  | page _ ih => exact inferInstance
  | _ => exact inferInstance

/-- A value is read back from what is written of it.  A text that is read, with fields in another
order, left out or of other names, or as an array, is rewritten to the text of its value, and that
one stays as it is. -/
theorem read?_write {α : Type} [Wire α] (travels : Travels α) :
    (∀ v : α, read? (write v) = some v) ∧
    ∀ (bs : Bytes) (v : α), read? bs = some v →
      rewrite? α bs = some (write v) ∧ rewrite? α (write v) = some (write v) := by
  have faithful := travels.faithful
  have back : ∀ v : α, read? (write v) = some v := by
    intro v
    unfold read? write
    rw [Json.parse_toBytes (Faithful.writable v), Option.bind_some, Faithful.ofJson?_toJson]
  refine ⟨back, fun bs v h => ⟨?_, ?_⟩⟩
  · rw [rewrite?, h, Option.map_some]
  · rw [rewrite?, back, Option.map_some]

/-- A page that stands in arrays, its role with a permission whose description is left out. -/
theorem read?_write_roles :
    let page : Page RoleRecord :=
      ⟨[⟨2, "Editor", none, [⟨7, "read", none⟩]⟩], ⟨1, 10, 1, 1⟩⟩
    let text := Text.toUtf8
      "[[[2, \"Editor\", null, [\x7b\"name\": \"read\", \"since\": [], \"id\": 7\x7d]]], [1, 10, 1, 1]]"
    Travels (Page RoleRecord) ∧ read? (write page) = some page ∧ read? text = some page ∧
      text ≠ write page ∧ rewrite? (Page RoleRecord) text = some (write page) ∧
      rewrite? (Page RoleRecord) (write page) = some (write page) := by
  intro page text
  have travels : Travels (Page RoleRecord) := .page .role
  obtain ⟨back, stable⟩ := read?_write travels
  have reads : read? text = some page := by decide +kernel
  exact ⟨travels, back page, reads, by decide +kernel, stable text page reads⟩

end Wire

end CarCatalog
