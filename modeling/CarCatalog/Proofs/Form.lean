import CarCatalog.Form

/-!
# What a form accepts

A form asks field by field and stops at the first one that is refused, so it accepts just when every
field is fine, and then gives what every field gives (`Judges.bind`).

    IsText limit text → bounded field limit text = .ok (Text.trim text)        (judges_bounded)
    text reads as i → IsYear i → year field text = .ok i                       (judges_year)
    text reads as i → 1 ≤ i → atLeastOne field text = .ok i                    (judges_atLeastOne)

and each is an error otherwise.
-/

namespace CarCatalog.Form

/-- Something is left of a text without the white space at its ends, and not too much. -/
def IsText (limit : Nat) (text : String) : Prop :=
  Text.trim text ≠ "" ∧ (Text.trim text).length ≤ limit

def IsYear (i : Int32) : Prop := 1900 ≤ i.toInt ∧ i.toInt ≤ 2100

/-- A text that stands for an integer of 32 bits. -/
def Reads (text : String) (i : Int32) : Prop := Text.readInt32 (Text.trim text) = some i

/-- What is fine gives a value, and anything else an error. -/
structure Judges {α : Type} (x : Except FormError α) (fine : Prop) (v : α) : Prop where
  accepts : fine → x = .ok v
  refuses : ¬fine → ∃ e, x = .error e

instance (limit : Nat) (text : String) : Decidable (IsText limit text) :=
  inferInstanceAs (Decidable (_ ∧ _))

instance (i : Int32) : Decidable (IsYear i) := inferInstanceAs (Decidable (_ ∧ _))

/-! ## Judging one after the other -/

section

variable {α β : Type} {x : Except FormError α} {f : α → Except FormError β} {P Q : Prop} {v : α}
  {w : β}

theorem Judges.bind (hx : Judges x P v) (hf : Judges (f v) Q w) : Judges (x >>= f) (P ∧ Q) w := by
  refine ⟨fun ⟨p, q⟩ => ?_, fun not_both => ?_⟩
  · rw [hx.accepts p]
    exact hf.accepts q
  · by_cases p : P
    · rw [hx.accepts p]
      exact hf.refuses fun q => not_both ⟨p, q⟩
    · obtain ⟨e, he⟩ := hx.refuses p
      exact ⟨e, by rw [he]; rfl⟩

theorem Judges.map (hx : Judges x P v) (g : α → β) : Judges (x.map g) P (g v) := by
  refine ⟨fun p => by rw [hx.accepts p]; rfl, fun not_p => ?_⟩
  obtain ⟨e, he⟩ := hx.refuses not_p
  exact ⟨e, by rw [he]; rfl⟩

/-- What is read last. -/
theorem Judges.last (hx : Judges x P v) (g : α → β) : Judges (x >>= fun a => pure (g a)) P (g v) := by
  rw [bind_pure_comp]
  exact hx.map g

end

/-! ## Single fields -/

variable {text : String} {i : Int32}

theorem judges_required (field : FormField) (text : String) :
    Judges (required field text) (Text.trim text ≠ "") (Text.trim text) := by
  unfold required
  dsimp only
  refine ⟨fun nonempty => if_neg ?_, fun empty => ⟨_, if_pos ?_⟩⟩
  · rwa [String.isEmpty_iff]
  · rw [String.isEmpty_iff]
    exact Decidable.not_not.mp empty

theorem judges_bounded (field : FormField) (limit : Nat) (text : String) :
    Judges (bounded field limit text) (IsText limit text) (Text.trim text) := by
  refine (judges_required field text).bind ⟨fun short => ?_, fun long => ⟨_, if_pos ?_⟩⟩
  · exact if_neg (Nat.not_lt.mpr short)
  · exact Nat.not_le.mp long

/-- A number that is printed reads as itself, negative ones too. -/
theorem reads_toString (i : Int32) : Reads (toString i.toInt) i :=
  Text.readInt32_trim_toString i

theorem integer_of_reads (h : Reads text i) (field : FormField) : integer field text = .ok i := by
  rw [integer, h]

theorem judges_year (h : Reads text i) (field : FormField) :
    Judges (year field text) (IsYear i) i := by
  rw [year, integer_of_reads h]
  show Judges (if firstYear ≤ i.toInt && i.toInt ≤ lastYear then .ok i else .error _) _ _
  have within : (decide (firstYear ≤ i.toInt) && decide (i.toInt ≤ lastYear)) = true ↔ IsYear i := by
    rw [Bool.and_eq_true, decide_eq_true_eq, decide_eq_true_eq]
    exact Iff.rfl
  exact ⟨fun fine => if_pos (within.mpr fine), fun other => ⟨_, if_neg (mt within.mp other)⟩⟩

theorem judges_atLeastOne (h : Reads text i) (field : FormField) :
    Judges (atLeastOne field text) (1 ≤ i.toInt) i := by
  rw [atLeastOne, integer_of_reads h]
  refine ⟨fun some_given => if_neg (Int.not_lt.mpr some_given), fun none_given => ⟨_, if_pos ?_⟩⟩
  exact Int.not_le.mp none_given

/-! ## Whole forms -/

theorem judges_newName (name : String) :
    Judges (newName name) (IsText nameLimit name) ⟨Text.trim name⟩ :=
  (judges_bounded .name nameLimit name).last _

theorem judges_newGeneration {yearStart yearEnd : String} {first last : Int32} (name : String)
    (hfirst : Reads yearStart first) (hlast : Reads yearEnd last) :
    Judges (newGeneration name yearStart yearEnd)
      (IsText nameLimit name ∧ IsYear first ∧ IsYear last) ⟨Text.trim name, first, last⟩ :=
  (judges_bounded .name nameLimit name).bind <|
    (judges_year hfirst .yearStart).bind <|
      (judges_year hlast .yearEnd).last _

theorem judges_newSpec {f : SpecFields} {horsepower torque built : Int32}
    (hhorsepower : Reads f.horsepower horsepower) (htorque : Reads f.torque torque)
    (hyear : Reads f.year built) :
    Judges (newSpec f)
      (IsText nameLimit f.name ∧ IsText nameLimit f.engine ∧ 1 ≤ horsepower.toInt ∧
        1 ≤ torque.toInt ∧ IsText fuelTypeLimit f.fuelType ∧ IsYear built)
      ⟨Text.trim f.name, Text.trim f.engine, horsepower, torque, Text.trim f.fuelType, built⟩ :=
  (judges_bounded .name nameLimit f.name).bind <|
    (judges_bounded .engine nameLimit f.engine).bind <|
      (judges_atLeastOne hhorsepower .horsepower).bind <|
        (judges_atLeastOne htorque .torque).bind <|
          (judges_bounded .fuelType fuelTypeLimit f.fuelType).bind <|
            (judges_year hyear .year).last _

end CarCatalog.Form
