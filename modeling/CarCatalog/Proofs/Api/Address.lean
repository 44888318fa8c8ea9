import CarCatalog.App.Sitting
import CarCatalog.Proofs.App.Clicks

/-!
# Addresses of the catalog

A path is made of steps, and its steps can be told from it, since none of them has a slash.  Every
list of the catalog has its own path (`Level.collection`), and every record the path of its list
followed by its id (`Level.record`).

    l.record id = l'.record id' → l = l' ∧ id = id'                              (record_inj)

Whatever is asked of a level goes there: its rows are got from the collection, a new record is
posted to it, and a record is put and deleted under its own path (`requests_of_level`).
-/

namespace CarCatalog

namespace Api

/-- The path of some steps, each behind a slash. -/
def pathOf (steps : List String) : String := steps.foldr (fun step rest => "/" ++ step ++ rest) ""

end Api

namespace Level

/-- The way to a list: the record it belongs to, if there is one, and its own name. -/
def steps : Level → List String
  | .brands => ["brands"]
  | .models brand => ["brands", toString brand.toInt, "models"]
  | .submodels model => ["models", toString model.toInt, "submodels"]
  | .generations submodel => ["submodels", toString submodel.toInt, "generations"]
  | .specs generation => ["generations", toString generation.toInt, "specs"]

def collection : Level → String
  | .brands => Api.Path.brands
  | .models brand => Api.Path.models brand
  | .submodels model => Api.Path.submodels model
  | .generations submodel => Api.Path.generations submodel
  | .specs generation => Api.Path.specs generation

def record (l : Level) (id : Int64) : String := l.collection ++ "/" ++ toString id.toInt

/-- What is sent to save a record of the level: a new one is posted to the list, and one that has an id
is put in its place. -/
def saveRequest (l : Level) (id : Option Int64) (body : Json) (credential : Option String) :
    Api.Request where
  method := if id.isSome then .put else .post
  path := (id.map l.record).getD l.collection
  authorization := credential.map Api.bearer
  body := some body

end Level

/-- When its turn has come a task sends one request, that of the credential stored by then. -/
def Task.Sends (t : Task) (request : Option String → Api.Request) : Prop :=
  ∀ (s : Sitting) (rest : List Task), s.app.queue = t :: rest →
    s.send.requests = s.requests ++ [request s.app.account.credential]

/-! ## Paths -/

theorem Api.pathOf_append (steps steps' : List String) :
    pathOf (steps ++ steps') = pathOf steps ++ pathOf steps' := by
  induction steps with
  | nil => exact (String.empty_append).symm
  | cons step steps ih =>
    show "/" ++ step ++ pathOf (steps ++ steps') = "/" ++ step ++ pathOf steps ++ pathOf steps'
    rw [ih, ← String.append_assoc]

theorem Api.toList_pathOf (steps : List String) :
    (pathOf steps).toList = ['/'].intercalate ([] :: steps.map String.toList) := by
  induction steps with
  | nil => rfl
  | cons step steps ih =>
    rw [List.map_cons, List.intercalate_cons_cons, List.nil_append]
    show ("/" ++ step ++ pathOf steps).toList = _
    rw [String.toList_append, String.toList_append, ih]
    cases steps with
    | nil => simp [List.intercalate]
    | cons next rest => simp [List.intercalate_cons_cons]

/-- The steps of a path stand between its slashes. -/
theorem Api.splitOn_pathOf {steps : List String} (h : ∀ s ∈ steps, '/' ∉ s.toList) :
    List.splitOn '/' (pathOf steps).toList = [] :: steps.map String.toList := by
  rw [toList_pathOf]
  refine List.splitOn_intercalate '/' ?_ (List.cons_ne_nil _ _)
  intro l hl
  rcases List.mem_cons.mp hl with rfl | hl
  · exact List.not_mem_nil
  · obtain ⟨s, hs, rfl⟩ := List.mem_map.mp hl
    exact h s hs

/-- The steps of a path can be told from it. -/
theorem Api.pathOf_inj {steps steps' : List String} (h : ∀ s ∈ steps, '/' ∉ s.toList)
    (h' : ∀ s ∈ steps', '/' ∉ s.toList) (same : pathOf steps = pathOf steps') : steps = steps' := by
  have lists := splitOn_pathOf h
  rw [same, splitOn_pathOf h', List.cons.injEq] at lists
  exact (List.map_inj_right fun _ _ => String.toList_inj.mp).mp lists.2.symm

/-! ## Ids -/

theorem Text.toString_inj {i j : Int64} (h : toString i.toInt = toString j.toInt) : i = j := by
  have read := readInt_toString i.toInt
  rw [h, readInt_toString, Option.some.injEq] at read
  exact (Int64.toInt_inj.mp read).symm

theorem Text.digit_of_mem_toString {i : Int} {c : Char} (h : c ∈ (toString i).toList) :
    c = '-' ∨ isDigit c = true := by
  cases i with
  | ofNat n =>
    rw [toList_toString_ofNat] at h
    exact .inr (isDigit_of_mem_toDigits h)
  | negSucc n =>
    rw [toList_toString_negSucc] at h
    rcases List.mem_cons.mp h with h | h
    · exact .inl h
    · exact .inr (isDigit_of_mem_toDigits h)

theorem Text.notMem_toString {c : Char} (minus : c ≠ '-') (digit : isDigit c = false) (i : Int) :
    c ∉ (toString i).toList := by
  intro h
  rcases digit_of_mem_toString h with h | h
  · exact minus h
  · rw [h] at digit
    cases digit

theorem Text.slash_notMem_toString (i : Int) : '/' ∉ (toString i).toList :=
  notMem_toString (by decide) (by decide) i

/-! ## Records -/

namespace Level

/-- The names of the lists. -/
def listNames : List String := ["brands", "models", "submodels", "generations", "specs"]

/-- A step is the name of a list, or an id. -/
theorem steps_cases (l : Level) : ∀ s ∈ l.steps, s ∈ listNames ∨ ∃ id : Int64, s = toString id.toInt := by
  -- a list below a record: two names around the record's id
  have nested : ∀ {outer inner : String} (i : Int64), outer ∈ listNames → inner ∈ listNames →
      ∀ s ∈ [outer, toString i.toInt, inner], s ∈ listNames ∨ ∃ id : Int64, s = toString id.toInt := by
    intro outer inner i houter hinner
    exact List.forall_mem_cons.mpr ⟨.inl houter, List.forall_mem_cons.mpr
      ⟨.inr ⟨i, rfl⟩, List.forall_mem_singleton.mpr (.inl hinner)⟩⟩
  cases l with
  | brands => exact List.forall_mem_singleton.mpr (.inl (by decide))
  | models b => exact nested b (by decide) (by decide)
  | submodels m => exact nested m (by decide) (by decide)
  | generations s => exact nested s (by decide) (by decide)
  | specs g => exact nested g (by decide) (by decide)

theorem slash_notMem_steps (l : Level) : ∀ s ∈ l.steps, '/' ∉ s.toList := by
  have names : ∀ s ∈ listNames, '/' ∉ s.toList := by decide
  intro s hs
  rcases steps_cases l s hs with h | ⟨id, rfl⟩
  · exact names s h
  · exact Text.slash_notMem_toString id.toInt

theorem collection_eq (l : Level) : l.collection = Api.pathOf l.steps := by
  rw [← String.toList_inj]
  cases l with
  | brands => rfl
  | models b =>
    show ("/brands/" ++ toString b.toInt ++ "/models").toList = _
    simp [Api.pathOf, steps]
  | submodels m =>
    show ("/models/" ++ toString m.toInt ++ "/submodels").toList = _
    simp [Api.pathOf, steps]
  | generations s =>
    show ("/submodels/" ++ toString s.toInt ++ "/generations").toList = _
    simp [Api.pathOf, steps]
  | specs g =>
    show ("/generations/" ++ toString g.toInt ++ "/specs").toList = _
    simp [Api.pathOf, steps]

theorem record_eq (l : Level) (id : Int64) :
    l.record id = Api.pathOf (l.steps ++ [toString id.toInt]) := by
  rw [Api.pathOf_append, record, collection_eq, String.append_assoc]
  show _ = Api.pathOf l.steps ++ ("/" ++ toString id.toInt ++ "")
  rw [String.append_empty]

theorem steps_inj {l l' : Level} {s s' : String} (h : l.steps ++ [s] = l'.steps ++ [s']) :
    l = l' ∧ s = s' := by
  obtain ⟨hl, hs⟩ := List.append_inj' h rfl
  refine ⟨?_, List.singleton_inj.mp hs⟩
  cases l <;> cases l' <;>
    simp only [steps, List.cons.injEq, reduceCtorEq, String.reduceEq, and_false, and_true,
      true_and] at hl
  · rfl
  all_goals rw [Text.toString_inj hl]

/-- The path of a record is that of no other record at any level. -/
theorem record_inj {l l' : Level} {id id' : Int64} (h : l.record id = l'.record id') :
    l = l' ∧ id = id' := by
  have free : ∀ (k : Level) (i : Int64), ∀ s ∈ k.steps ++ [toString i.toInt], '/' ∉ s.toList := by
    intro k i s hs
    rcases List.mem_append.mp hs with hs | hs
    · exact k.slash_notMem_steps s hs
    · rw [List.mem_singleton.mp hs]
      exact Text.slash_notMem_toString i.toInt
  rw [record_eq, record_eq] at h
  obtain ⟨level, text⟩ := steps_inj (Api.pathOf_inj (free l id) (free l' id') h)
  exact ⟨level, Text.toString_inj text⟩

end Level

/-! ## Requests -/

namespace Api

/-- The service knows a record by the path of its list and its id. -/
theorem path_deleteRow (l : Level) (id : Int64) : (deleteRow l id).path = l.record id := by
  rw [← String.toList_inj]
  cases l with
  | brands =>
    show ("/brands/" ++ toString id.toInt).toList = ("/brands" ++ "/" ++ toString id.toInt).toList
    simp
  | models b =>
    show ("/brands/" ++ toString b.toInt ++ "/models/" ++ toString id.toInt).toList =
      ("/brands/" ++ toString b.toInt ++ "/models" ++ "/" ++ toString id.toInt).toList
    simp
  | submodels m =>
    show ("/models/" ++ toString m.toInt ++ "/submodels/" ++ toString id.toInt).toList =
      ("/models/" ++ toString m.toInt ++ "/submodels" ++ "/" ++ toString id.toInt).toList
    simp
  | generations s =>
    show ("/submodels/" ++ toString s.toInt ++ "/generations/" ++ toString id.toInt).toList =
      ("/submodels/" ++ toString s.toInt ++ "/generations" ++ "/" ++ toString id.toInt).toList
    simp
  | specs g =>
    show ("/generations/" ++ toString g.toInt ++ "/specs/" ++ toString id.toInt).toList =
      ("/generations/" ++ toString g.toInt ++ "/specs" ++ "/" ++ toString id.toInt).toList
    simp

theorem request_loadRows (l : Level) (q : PageQuery) (credential : Option String) :
    (loadRows l q).request credential =
      ⟨.get, withQuery l.collection q, credential.map bearer, none⟩ := by
  cases l <;> rfl

theorem request_deleteRow (l : Level) (id : Int64) (credential : Option String) :
    (deleteRow l id).request credential = ⟨.delete, l.record id, credential.map bearer, none⟩ := by
  rw [← path_deleteRow]
  cases l <;> rfl

theorem request_saveName {l : Level} (h : l.takesNameOnly = true) (id : Option Int64)
    (payload : NewName) (credential : Option String) :
    (saveName l id payload).request credential =
      l.saveRequest id (Wire.toJson payload) credential := by
  cases id with
  | none =>
    cases l with
    | generations _ | specs _ => cases h
    | _ => rfl
  | some id =>
    simp only [Level.saveRequest, Option.map_some, Option.getD_some, ← path_deleteRow]
    cases l with
    | generations _ | specs _ => cases h
    | _ => rfl

theorem request_saveGeneration (submodel : Int64) (id : Option Int64) (payload : NewGeneration)
    (credential : Option String) :
    (saveGeneration submodel id payload).request credential =
      (Level.generations submodel).saveRequest id (Wire.toJson payload) credential := by
  cases id with
  | none => rfl
  | some id =>
    simp only [Level.saveRequest, Option.map_some, Option.getD_some, ← path_deleteRow]
    rfl

theorem request_saveSpec (generation : Int64) (id : Option Int64) (payload : NewSpec)
    (credential : Option String) :
    (saveSpec generation id payload).request credential =
      (Level.specs generation).saveRequest id (Wire.toJson payload) credential := by
  cases id with
  | none => rfl
  | some id =>
    simp only [Level.saveRequest, Option.map_some, Option.getD_some, ← path_deleteRow]
    rfl

end Api

/-- The form saves to the level it was built for. -/
theorem RecordForm.request_saving {f : RecordForm} {s : Saving} (h : f.saving = .ok s) :
    ∃ body, s.call.request = f.level.saveRequest f.id body := by
  unfold RecordForm.saving at h
  split at h
  · next parent hl =>
    obtain ⟨payload, -, rfl⟩ := Except.map_eq_ok h
    rw [hl]
    exact ⟨_, funext (Api.request_saveGeneration parent f.id payload)⟩
  · next parent hl =>
    obtain ⟨payload, -, rfl⟩ := Except.map_eq_ok h
    rw [hl]
    exact ⟨_, funext (Api.request_saveSpec parent f.id payload)⟩
  · next generations specs =>
    obtain ⟨payload, -, rfl⟩ := Except.map_eq_ok h
    have named : f.level.takesNameOnly = true := by
      cases hl : f.level with
      | generations parent => exact absurd hl (generations parent)
      | specs parent => exact absurd hl (specs parent)
      | _ => rfl
    exact ⟨_, funext (Api.request_saveName named f.id payload)⟩

theorem Sitting.requests_answer (s : Sitting) (i : Nat) :
    (s.answer i).requests = s.requests := by
  unfold Sitting.answer
  split <;> rfl

theorem Task.sends (t : Task) : t.Sends t.request := by
  intro s rest hq
  have sent : s.app.send? = some (t.request s.app.account.credential,
      { s.app with queue := rest, waiting := s.app.waiting ++ [t] }) := by
    simp [App.send?, hq]
  unfold Sitting.send
  rw [sent]
  dsimp only
  split
  · rfl
  · exact Sitting.requests_answer _ _

/-! ## Top theorem -/

/-- **One address for each list.**  Loading its rows gets the list's path with the query, deleting one
of them deletes the record's path, and a form of the level that is submitted and accepted posts to the
list's path, or puts to the path of the record it edits; each sends that one request.  No two records
of the catalog, at whichever levels, share a path. -/
theorem requests_of_level (l : Level) :
    (∀ page q, (Task.rows page l q).Sends fun credential =>
      ⟨.get, Api.withQuery l.collection q, credential.map Api.bearer, none⟩) ∧
    (∀ page id remaining, (Task.act page (.deleteRow l id remaining)).Sends fun credential =>
      ⟨.delete, l.record id, credential.map Api.bearer, none⟩) ∧
    (∀ (a : App) (p : EditorPage) (s : Saving), a.screen = .editor p → p.form.level = l →
      p.form.saving = .ok s →
      let save := Task.act a.number (.saveRecord p.formNumber s)
      (a.press (.editor (.form .submit))).queue = a.queue ++ [save] ∧
        ∃ body, save.Sends (l.saveRequest p.form.id body)) ∧
    (∀ (l' : Level) (id id' : Int64), l.record id = l'.record id' → l = l' ∧ id = id') := by
  refine ⟨fun page q => ?_, fun page id remaining => ?_, fun a p s hs hl saves => ?_,
    fun _ _ _ => Level.record_inj⟩
  · have request : (Task.rows page l q).request = _ := funext (Api.request_loadRows l q)
    exact request ▸ Task.sends _
  · have request : (Task.act page (.deleteRow l id remaining)).request = _ :=
      funext (Api.request_deleteRow l id)
    exact request ▸ Task.sends _
  · obtain ⟨body, request⟩ := RecordForm.request_saving saves
    constructor
    · rw [App.press_editor hs]
      simp only [App.put, EditorPage.update, EditorPage.updateForm, RecordForm.submit, saves,
        Option.toList_some, List.map_cons, List.map_nil]
    · exact ⟨body, hl ▸ request ▸ Task.sends _⟩

/-- The form of a generation, with the values of its row, is submitted. -/
theorem requests_of_level_generation :
    let row : Row := ⟨7, "Mk8", "Mk8 (2020-2024)", none, some (2020, 2024), 1⟩
    let p : EditorPage := { EditorPage.blank with form := .new (.generations 4) (some row) }
    let a : App :=
      ⟨.fresh .retain ⟨.works, []⟩ (.ofNat 0), "/car-spec", .editor p, 1, [], [], false⟩
    let save := Task.act 1 (.saveRecord 0 (.generation 4 (some 7) ⟨"Mk8", 2020, 2024⟩))
    (a.press (.editor (.form .submit))).queue = [save] ∧
      (∃ body, save.Sends ((Level.generations 4).saveRequest (some 7) body)) ∧
      (Level.generations 4).record 7 = "/submodels/4/generations/7" := by
  intro row p a save
  have saves : p.form.saving = .ok (.generation 4 (some 7) ⟨"Mk8", 2020, 2024⟩) :=
    Except.eq_ok_of_toOption (by decide +kernel)
  obtain ⟨queued, sends⟩ := (requests_of_level (.generations 4)).2.2.1 a p _ rfl rfl saves
  exact ⟨queued, sends, by decide +kernel⟩

end CarCatalog
