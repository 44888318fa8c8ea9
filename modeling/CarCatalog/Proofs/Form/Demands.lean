import CarCatalog.Proofs.Form
import CarCatalog.Proofs.Text.Written

/-!
# What a form asks, and what it says

A form asks a list of demands of its texts: field by field as they stand in the form, and of a field one
rule after the other.  It accepts the texts that meet all of them, and gives the trimmed texts and the
numbers that are written; of any others it names the first demand that is not met.

    Answers x demands meant → (∀ v, meant v → Answers (f v) demands' (meant' v)) →
      Answers (x >>= f) (demands ++ demands') (∃ v, meant v ∧ meant' v ·)            (Answers.bind)
-/

namespace CarCatalog

open Text

/-- An integer of 32 bits is what a text writes, apart from white space around it. -/
def Text.Denotes (text : String) (i : Int32) : Prop :=
  ∃ core, Trims text core ∧ WritesInt core.toList i.toInt

namespace Form

/-- What is asked of a field, with the field's key and what is said if it is not met. -/
structure Demand where
  key : String
  message : String
  met : Prop

/-- The first of a list of demands that is not met. -/
inductive FirstUnmet : List Demand → Demand → Prop
  | here {d : Demand} {ds : List Demand} (unmet : ¬d.met) : FirstUnmet (d :: ds) d
  | later {d e : Demand} {ds : List Demand} (met : d.met) (rest : FirstUnmet ds e) :
    FirstUnmet (d :: ds) e

/-- A validation accepts just when all demands are met, gives what it is meant to, and otherwise says
what the first demand says that is not met. -/
structure Answers {α : Type} (x : Except FormError α) (demands : List Demand) (meant : α → Prop) :
    Prop where
  accepts_iff : (∃ v, x = .ok v) ↔ ∀ d ∈ demands, d.met
  gives : ∀ v, x = .ok v → meant v
  names : ∀ e, x = .error e →
    ∃ d, FirstUnmet demands d ∧ e.field.key = d.key ∧ e.message = d.message

/-- A text of at least one and at most so many characters, white space at its ends not counted. -/
def textDemands (key label : String) (limit : Nat) (text : String) : List Demand := [
  ⟨key, label ++ " is required", ∃ core, Trims text core ∧ 1 ≤ core.length⟩,
  ⟨key, label ++ s!" must be at most {limit} characters",
    ∃ core, Trims text core ∧ core.length ≤ limit⟩]

def yearDemands (key label text : String) : List Demand := [
  ⟨key, label ++ " must be a number", ∃ i, Denotes text i⟩,
  ⟨key, label ++ " must be between 1900 and 2100",
    ∃ i, Denotes text i ∧ 1900 ≤ i.toInt ∧ i.toInt ≤ 2100⟩]

def amountDemands (key label text : String) : List Demand := [
  ⟨key, label ++ " must be a number", ∃ i, Denotes text i⟩,
  ⟨key, label ++ " is required", ∃ i, Denotes text i ∧ 1 ≤ i.toInt⟩]

def generationDemands (name yearStart yearEnd : String) : List Demand :=
  textDemands "name" "Name" 100 name ++ (yearDemands "year_start" "Start year" yearStart ++
    yearDemands "year_end" "End year" yearEnd)

def specDemands (f : SpecFields) : List Demand :=
  textDemands "name" "Name" 100 f.name ++ (textDemands "engine" "Engine" 100 f.engine ++
    (amountDemands "horsepower" "Horsepower" f.horsepower ++
      (amountDemands "torque" "Torque" f.torque ++
        (textDemands "fuel_type" "Fuel type" 50 f.fuelType ++ yearDemands "year" "Year" f.year))))

/-- The generation that the texts of a form describe. -/
structure SaysGeneration (name yearStart yearEnd : String) (g : NewGeneration) : Prop where
  name : Trims name g.name
  yearStart : Denotes yearStart g.yearStart
  yearEnd : Denotes yearEnd g.yearEnd

structure SaysSpec (f : SpecFields) (s : NewSpec) : Prop where
  name : Trims f.name s.name
  engine : Trims f.engine s.engine
  horsepower : Denotes f.horsepower s.horsepower
  torque : Denotes f.torque s.torque
  fuelType : Trims f.fuelType s.fuelType
  year : Denotes f.year s.year

/-! ## Lemmas -/

theorem FirstUnmet.not_met {ds : List Demand} {e : Demand} (h : FirstUnmet ds e) :
    ¬∀ d ∈ ds, d.met := by
  intro all
  induction h with
  | here unmet => exact unmet (all _ (.head _))
  | later _ _ ih => exact ih fun d hd => all d (.tail _ hd)

theorem FirstUnmet.append_left {ds ds' : List Demand} {e : Demand} (h : FirstUnmet ds e) :
    FirstUnmet (ds ++ ds') e := by
  induction h with
  | here unmet => exact .here unmet
  | later met _ ih => exact .later met ih

theorem FirstUnmet.append_right {ds ds' : List Demand} {e : Demand} (met : ∀ d ∈ ds, d.met)
    (h : FirstUnmet ds' e) : FirstUnmet (ds ++ ds') e := by
  induction ds with
  | nil => exact h
  | cons d ds ih => exact .later (met d (.head _)) (ih fun d hd => met d (.tail _ hd))

namespace Answers

variable {α β : Type} {x : Except FormError α} {demands demands' : List Demand} {meant : α → Prop}

theorem of_ok {v : α} (met : ∀ d ∈ demands, d.met) (said : meant v) :
    Answers (.ok v) demands meant where
  accepts_iff := ⟨fun _ => met, fun _ => ⟨v, rfl⟩⟩
  gives w h := by
    cases h
    exact said
  names e h := by cases h

theorem of_error {e : FormError} {d : Demand} (first : FirstUnmet demands d)
    (key : e.field.key = d.key) (message : e.message = d.message) :
    Answers (.error e : Except FormError α) demands meant where
  accepts_iff := ⟨fun ⟨v, h⟩ => (by cases h), fun met => absurd met first.not_met⟩
  gives v h := by cases h
  names e' h := by
    cases h
    exact ⟨d, first, key, message⟩

theorem mono (hx : Answers x demands meant) {meant' : α → Prop} (h : ∀ v, meant v → meant' v) :
    Answers x demands meant' :=
  ⟨hx.accepts_iff, fun v hv => h v (hx.gives v hv), hx.names⟩

theorem bind {f : α → Except FormError β} {meant' : α → β → Prop} (hx : Answers x demands meant)
    (hf : ∀ v, meant v → Answers (f v) demands' (meant' v)) :
    Answers (x >>= f) (demands ++ demands') (fun w => ∃ v, meant v ∧ meant' v w) := by
  cases x with
  | error e =>
    obtain ⟨d, first, key, message⟩ := hx.names e rfl
    exact of_error first.append_left key message
  | ok v =>
    have said := hx.gives v rfl
    have met := hx.accepts_iff.mp ⟨v, rfl⟩
    cases hw : f v with
    | error e =>
      obtain ⟨d, first, key, message⟩ := (hf v said).names e hw
      rw [show (Except.ok v >>= f) = .error e from hw]
      exact of_error (first.append_right met) key message
    | ok w =>
      rw [show (Except.ok v >>= f) = .ok w from hw]
      have met' := (hf v said).accepts_iff.mp ⟨w, hw⟩
      exact of_ok (List.forall_mem_append.mpr ⟨met, met'⟩) ⟨v, said, (hf v said).gives w hw⟩

/-- What is read last. -/
theorem last (hx : Answers x demands meant) (g : α → β) :
    Answers (x >>= fun a => pure (g a)) demands (fun w => ∃ v, meant v ∧ g v = w) := by
  have h : Answers (x >>= fun a => pure (g a)) (demands ++ []) (fun w => ∃ v, meant v ∧ g v = w) :=
    hx.bind fun v _ => of_ok (List.forall_mem_nil _) rfl
  rwa [List.append_nil] at h

/-- A check of what was read, which gives it back. -/
theorem check {f : α → Except FormError α} (hx : Answers x demands meant)
    (hf : ∀ v, meant v → Answers (f v) demands' (v = ·)) :
    Answers (x >>= f) (demands ++ demands') meant := by
  refine (hx.bind hf).mono ?_
  rintro _ ⟨v, said, rfl⟩
  exact said

end Answers

/-! ### Single fields -/

variable {text : String} {i : Int32}

theorem denotes_iff : Denotes text i ↔ Reads text i := by
  constructor
  · rintro ⟨core, trims, writes⟩
    rw [Reads, trims_iff.mp trims, readInt32, readInt_iff.mpr writes]
    exact int32?_eq_some.mpr rfl
  · intro h
    obtain ⟨j, read, hj⟩ := Option.bind_eq_some_iff.mp h
    refine ⟨trim text, trims_iff.mpr rfl, ?_⟩
    rw [int32?_eq_some.mp hj]
    exact readInt_iff.mp read

theorem Denotes.unique {j : Int32} (h : Denotes text i) (h' : Denotes text j) : i = j :=
  Option.some.inj ((denotes_iff.mp h).symm.trans (denotes_iff.mp h'))

theorem message_eq (field : FormField) (rule : FormRule) :
    (⟨field, rule⟩ : FormError).message = field.label ++ (" " ++ rule.demand) :=
  String.append_assoc

theorem Trims.unique {core other : String} (h : Trims text core) (h' : Trims text other) :
    core = other :=
  (trims_iff.mp h).symm.trans (trims_iff.mp h')

theorem answers_required (field : FormField) (text : String) :
    Answers (required field text)
      [⟨field.key, field.label ++ " is required", ∃ core, Trims text core ∧ 1 ≤ core.length⟩]
      (Trims text ·) := by
  have trims : Trims text (trim text) := trims_iff.mpr rfl
  have length_eq : (trim text).length = 0 ↔ (trim text).isEmpty = true := by
    rw [String.length_eq_zero_iff, String.isEmpty_iff]
  unfold required
  dsimp only
  split
  · next empty =>
    refine .of_error (.here ?_) rfl (message_eq _ _)
    rintro ⟨core, h, nonempty⟩
    rw [Trims.unique h trims, length_eq.mpr empty] at nonempty
    exact absurd nonempty (by decide)
  · next nonempty =>
    have some_left : 1 ≤ (trim text).length := Nat.one_le_iff_ne_zero.mpr (mt length_eq.mp nonempty)
    exact .of_ok (List.forall_mem_singleton.mpr ⟨_, trims, some_left⟩) trims

theorem demand_atMost (limit : Nat) :
    " " ++ (FormRule.atMost limit).demand = s!" must be at most {limit} characters" := by
  show " " ++ ("must be at most " ++ toString limit ++ " characters") = _
  rw [← String.append_assoc, ← String.append_assoc]
  rfl

theorem answers_bounded (field : FormField) (limit : Nat) (text : String) :
    Answers (bounded field limit text) (textDemands field.key field.label limit text)
      (Trims text ·) := by
  refine (answers_required field text).check fun core trims => ?_
  split
  · next long =>
    refine .of_error (.here ?_) rfl ((message_eq _ _).trans (by rw [demand_atMost]))
    rintro ⟨other, h, short⟩
    rw [Trims.unique h trims] at short
    exact absurd long (Nat.not_lt.mpr short)
  · next short =>
    exact .of_ok (List.forall_mem_singleton.mpr ⟨core, trims, Nat.not_lt.mp short⟩) rfl

/-- Reading a number, and then asking one thing of it. -/
theorem answers_number (field : FormField) (rule : FormRule) (text : String) (fine : Int32 → Prop)
    {f : Int32 → Except FormError Int32} (accepts : ∀ i, fine i → f i = .ok i)
    (refuses : ∀ i, ¬fine i → f i = .error ⟨field, rule⟩) :
    Answers (integer field text >>= f)
      [⟨field.key, field.label ++ " must be a number", ∃ i, Denotes text i⟩,
        ⟨field.key, field.label ++ (" " ++ rule.demand), ∃ i, Denotes text i ∧ fine i⟩]
      (Denotes text ·) := by
  unfold integer
  cases read : readInt32 (trim text) with
  | none =>
    refine .of_error (.here ?_) rfl (message_eq _ _)
    rintro ⟨i, h⟩
    have reads := denotes_iff.mp h
    rw [Reads, read] at reads
    cases reads
  | some i =>
    have denotes : Denotes text i := denotes_iff.mpr read
    show Answers (f i) _ _
    by_cases h : fine i
    · rw [accepts i h]
      exact .of_ok (List.forall_mem_cons.mpr ⟨⟨i, denotes⟩,
        List.forall_mem_singleton.mpr ⟨i, denotes, h⟩⟩) denotes
    · rw [refuses i h]
      refine .of_error (.later ⟨i, denotes⟩ (.here ?_)) rfl (message_eq _ _)
      rintro ⟨j, denotes', h'⟩
      rw [Denotes.unique denotes' denotes] at h'
      exact h h'

theorem answers_year (field : FormField) (text : String) :
    Answers (year field text) (yearDemands field.key field.label text) (Denotes text ·) := by
  have within : ∀ i : Int32,
      (decide (firstYear ≤ i.toInt) && decide (i.toInt ≤ lastYear)) = true ↔ IsYear i := fun i => by
    rw [Bool.and_eq_true, decide_eq_true_eq, decide_eq_true_eq]
    exact Iff.rfl
  exact answers_number field (.between firstYear lastYear) text IsYear
    (fun i h => if_pos ((within i).mpr h)) fun i h => if_neg (mt (within i).mp h)

theorem answers_amount (field : FormField) (text : String) :
    Answers (atLeastOne field text) (amountDemands field.key field.label text)
      (Denotes text ·) :=
  answers_number field .required text (fun i => 1 ≤ i.toInt)
    (fun _ h => if_neg (Int.not_lt.mpr h)) fun _ h => if_pos (Int.not_le.mp h)

/-! ### Whole forms -/

theorem answers_newGeneration (name yearStart yearEnd : String) :
    Answers (newGeneration name yearStart yearEnd) (generationDemands name yearStart yearEnd)
      (SaysGeneration name yearStart yearEnd) := by
  have fields := (answers_bounded .name nameLimit name).bind fun n _ =>
    (answers_year .yearStart yearStart).bind fun first _ =>
      (answers_year .yearEnd yearEnd).last (NewGeneration.mk n first)
  refine Answers.mono fields ?_
  rintro _ ⟨n, name, first, yearStart, last, yearEnd, rfl⟩
  exact ⟨name, yearStart, yearEnd⟩

theorem answers_newSpec (f : SpecFields) : Answers (newSpec f) (specDemands f) (SaysSpec f) := by
  have fields := (answers_bounded .name nameLimit f.name).bind fun name _ =>
    (answers_bounded .engine nameLimit f.engine).bind fun engine _ =>
      (answers_amount .horsepower f.horsepower).bind fun horsepower _ =>
        (answers_amount .torque f.torque).bind fun torque _ =>
          (answers_bounded .fuelType fuelTypeLimit f.fuelType).bind fun fuelType _ =>
            (answers_year .year f.year).last (NewSpec.mk name engine horsepower torque fuelType)
  refine Answers.mono fields ?_
  rintro _ ⟨_, name, _, engine, _, horsepower, _, torque, _, fuelType, _, year, rfl⟩
  exact ⟨name, engine, horsepower, torque, fuelType, year⟩

/-! ## Top theorem -/

/-- **What a form accepts.**  The forms of a generation and of a spec accept the texts that meet all their
demands, and give the trimmed texts and the numbers that the texts write; of other texts they name the
field and say the message of the first demand that is not met. -/
theorem forms_answer :
    (∀ name yearStart yearEnd, Answers (newGeneration name yearStart yearEnd)
      (generationDemands name yearStart yearEnd) (SaysGeneration name yearStart yearEnd)) ∧
    ∀ f, Answers (newSpec f) (specDemands f) (SaysSpec f) :=
  ⟨answers_newGeneration, answers_newSpec⟩

end Form

end CarCatalog
