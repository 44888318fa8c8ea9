import CarCatalog.Section
import CarCatalog.View.Parts

/-!
# What a tree shows

Questions to a tree: which pages it holds (`pages`), what the rows of its tables are (`tableRows`),
what can be clicked in it (`clicks`), what its handlers can mean (`Fires`), and which nodes it has
(`nodes`).  All of them gather something from its nodes, so they are answered part by part; and
renaming the messages of a tree changes nothing in the answers but the messages.

    pages (mapAll f view) = pages view                                            (pages_mapAll)
    clicks view = (elementsAll view).filterMap fun e => e.on.click.map (e.inner, ·)
                                                                            (clicks_eq_elements)
    clicks (mapAll f view) = (clicks view).map (Prod.map id f)                    (clicks_mapAll)
    Fires (mapAll f view) m ↔ ∃ m', Fires view m' ∧ f m' = m                      (fires_mapAll)

Most parts of a page are `Plain`: they hold neither a page nor the rows of a table.
-/

namespace CarCatalog

/-- The class of the root of a section's page. -/
@[simp] def Section.pageClass : Section → String
  | .users => "page page--admin"
  | .carSpecs => "page page--car-spec"
  | .catalog => "page page--catalog"
  | .myCars => "page page--my-cars"

@[simp] def Section.ofPageClass? (className : String) : Option Section :=
  [.users, .carSpecs, .catalog, .myCars].find? fun part => part.pageClass == className

variable {α β γ : Type}

/-- Whether a handler, as it fires, can mean a message. -/
def Handlers.Means (h : Handlers α) (m : α) : Prop :=
  h.click = some m ∨ h.submit = some m ∨ ∃ typed value, h.input = some typed ∧ typed value = m

namespace Node

mutual

/-- What is picked from the nodes of a tree, in document order. -/
def gather (pick : Node α → List β) : Node α → List β
  | .text content => pick (.text content)
  | .element tag attributes on children =>
    pick (.element tag attributes on children) ++ gatherAll pick children

def gatherAll (pick : Node α → List β) : List (Node α) → List β
  | [] => []
  | x :: xs => x.gather pick ++ gatherAll pick xs

end

/-- The section whose page has its root here. -/
def page : Node α → List Section
  | .text _ => []
  | .element _ attributes _ _ =>
    match attributes.lookup "class" with
    | some (.text className) => (Section.ofPageClass? className).toList
    | _ => []

/-- The rows of the table whose body this is. -/
def body : Node α → List (Node α)
  | .text _ => []
  | .element tag _ _ children => if tag = "tbody" then children else []

/-- The text of an element that can be clicked, and what a click means. -/
def click : Node α → List (String × α)
  | .text _ => []
  | .element _ _ on children => on.click.toList.map fun m => (innerAll children, m)

def handler : Node α → List (Handlers α)
  | .text _ => []
  | .element _ _ on _ => [on]

abbrev pages (view : List (Node α)) : List Section := gatherAll page view

abbrev tableRows (view : List (Node α)) : List (Node α) := gatherAll body view

abbrev clicks (view : List (Node α)) : List (String × α) := gatherAll click view

/-- The nodes of a tree, those inside others too. -/
abbrev nodes (view : List (Node α)) : List (Node α) := gatherAll (fun n => [n]) view

/-- Some handler of a tree can mean a message. -/
def Fires (view : List (Node α)) (m : α) : Prop := ∃ h ∈ gatherAll handler view, h.Means m

/-- What is seen of a text. -/
def seen (content : String) : String := if isSeen content then content else ""

/-- Neither a page nor the rows of a table are inside. -/
def Plain (view : List (Node α)) : Prop := pages view = [] ∧ tableRows view = []

/-! ## Lemmas -/

/-! ### Part by part -/

section Gather

variable (pick : Node α → List β)

@[simp] theorem gatherAll_nil : gatherAll pick [] = [] := rfl

@[simp] theorem gatherAll_append (xs ys : List (Node α)) :
    gatherAll pick (xs ++ ys) = gatherAll pick xs ++ gatherAll pick ys := by
  induction xs with
  | nil => rfl
  | cons x xs ih => rw [List.cons_append, gatherAll, gatherAll, ih, List.append_assoc]

@[simp] theorem gatherAll_text (content : String) (xs : List (Node α)) :
    gatherAll pick (.text content :: xs) = pick (.text content) ++ gatherAll pick xs := rfl

@[simp] theorem gatherAll_element (tag : String) (attributes : List (String × Attribute))
    (on : Handlers α) (children xs : List (Node α)) :
    gatherAll pick (.element tag attributes on children :: xs) =
      pick (.element tag attributes on children) ++ gatherAll pick children ++ gatherAll pick xs :=
  rfl

end Gather

@[simp] theorem page_text (content : String) : page (.text content : Node α) = [] := rfl

@[simp] theorem page_class (tag className : String) (attributes : List (String × Attribute))
    (on : Handlers α) (children : List (Node α)) :
    page (.element tag (("class", .text className) :: attributes) on children) =
      (Section.ofPageClass? className).toList := rfl

@[simp] theorem body_text (content : String) : body (.text content : Node α) = [] := rfl

@[simp] theorem body_element (tag : String) (attributes : List (String × Attribute))
    (on : Handlers α) (children : List (Node α)) :
    body (.element tag attributes on children) = if tag = "tbody" then children else [] := rfl

@[simp] theorem click_text (content : String) : click (.text content : Node α) = [] := rfl

@[simp] theorem click_element (tag : String) (attributes : List (String × Attribute))
    (on : Handlers α) (children : List (Node α)) :
    click (.element tag attributes on children) =
      on.click.toList.map fun m => (innerAll children, m) := rfl

@[simp] theorem handler_element (tag : String) (attributes : List (String × Attribute))
    (on : Handlers α) (children : List (Node α)) :
    handler (.element tag attributes on children) = [on] := rfl

@[simp] theorem pages_el (tag className : String) (children xs : List (Node α)) :
    pages (el tag className children :: xs) =
      (Section.ofPageClass? className).toList ++ pages children ++ pages xs := rfl

@[simp] theorem pages_plain (tag : String) (children xs : List (Node α)) :
    pages (plain tag children :: xs) = pages children ++ pages xs := rfl

@[simp] theorem pages_button (className label : String) (click : α) (xs : List (Node α)) :
    pages (button className label click :: xs) =
      (Section.ofPageClass? className).toList ++ pages xs := by
  simp [button]

@[simp] theorem tableRows_el (tag className : String) (children xs : List (Node α)) :
    tableRows (el tag className children :: xs) =
      (if tag = "tbody" then children else []) ++ tableRows children ++ tableRows xs := rfl

@[simp] theorem tableRows_plain (tag : String) (children xs : List (Node α)) :
    tableRows (plain tag children :: xs) =
      (if tag = "tbody" then children else []) ++ tableRows children ++ tableRows xs := rfl

@[simp] theorem tableRows_button (className label : String) (click : α) (xs : List (Node α)) :
    tableRows (button className label click :: xs) = tableRows xs := by
  simp [button]

@[simp] theorem clicks_el (tag className : String) (children xs : List (Node α)) :
    clicks (el tag className children :: xs) = clicks children ++ clicks xs := rfl

@[simp] theorem clicks_plain (tag : String) (children xs : List (Node α)) :
    clicks (plain tag children :: xs) = clicks children ++ clicks xs := rfl

@[simp] theorem clicks_button (className label : String) (click : α) (xs : List (Node α)) :
    clicks (button className label click :: xs) = (seen label, click) :: clicks xs := by
  simp [button, innerAll, inner, seen]

mutual

/-- What can be clicked is what is found among the elements. -/
theorem gather_click :
    ∀ n : Node α, n.gather click = n.elements.filterMap fun e => e.on.click.map fun m => (e.inner, m)
  | .text _ => rfl
  | .element tag attributes on children => by
    rw [gather, click_element, show gatherAll click children = _ from clicks_eq_elements children,
      elements, List.filterMap_cons]
    cases on.click <;> rfl

theorem clicks_eq_elements : ∀ view : List (Node α),
    clicks view = (elementsAll view).filterMap fun e => e.on.click.map fun m => (e.inner, m)
  | [] => rfl
  | x :: xs => by
    rw [elementsAll, List.filterMap_append, ← gather_click x, ← clicks_eq_elements xs]
    rfl

end

/-! ### Plain parts -/

@[simp] theorem plain_nil : Plain ([] : List (Node α)) := ⟨rfl, rfl⟩

@[simp] theorem plain_append {xs ys : List (Node α)} : Plain (xs ++ ys) ↔ Plain xs ∧ Plain ys := by
  simp only [Plain, gatherAll_append, List.append_eq_nil_iff]
  exact and_and_and_comm

theorem plain_cons {x : Node α} {xs : List (Node α)} : Plain (x :: xs) ↔ Plain [x] ∧ Plain xs :=
  @plain_append _ [x] xs

@[simp] theorem plain_text {content : String} {xs : List (Node α)} :
    Plain (.text content :: xs) ↔ Plain xs := Iff.rfl

theorem plain_list {f : γ → Node α} {xs : List γ} :
    Plain (xs.map f) ↔ ∀ x ∈ xs, Plain [f x] := by
  induction xs with
  | nil => simp
  | cons x xs ih => rw [List.map_cons, plain_cons, ih, List.forall_mem_cons]

theorem plain_element {tag : String} (other : tag ≠ "tbody")
    {attributes : List (String × Attribute)} {on : Handlers α} {children xs : List (Node α)} :
    Plain (.element tag attributes on children :: xs) ↔
      page (.element tag attributes on children) = [] ∧ Plain children ∧ Plain xs := by
  simp only [Plain, gatherAll_element, body_element, if_neg other, List.append_eq_nil_iff,
    List.nil_append]
  constructor
  · rintro ⟨⟨⟨root, pages⟩, more⟩, rows, others⟩
    exact ⟨root, ⟨pages, rows⟩, more, others⟩
  · rintro ⟨root, ⟨pages, rows⟩, more, others⟩
    exact ⟨⟨⟨root, pages⟩, more⟩, rows, others⟩

@[simp] theorem plain_class {tag : String} (other : tag ≠ "tbody") {className : String}
    {attributes : List (String × Attribute)} {on : Handlers α} {children xs : List (Node α)} :
    Plain (.element tag (("class", .text className) :: attributes) on children :: xs) ↔
      Section.ofPageClass? className = none ∧ Plain children ∧ Plain xs := by
  rw [plain_element other, page_class, Option.toList_eq_nil_iff]

@[simp] theorem plain_el {tag : String} (other : tag ≠ "tbody") {className : String}
    {children xs : List (Node α)} :
    Plain (el tag className children :: xs) ↔
      Section.ofPageClass? className = none ∧ Plain children ∧ Plain xs :=
  plain_class other

@[simp] theorem plain_plain {tag : String} (other : tag ≠ "tbody") {children xs : List (Node α)} :
    Plain (plain tag children :: xs) ↔ Plain children ∧ Plain xs := by
  rw [plain, plain_element other]
  exact and_iff_right rfl

@[simp] theorem plain_button {className label : String} {click : α} {xs : List (Node α)} :
    Plain (button className label click :: xs) ↔
      Section.ofPageClass? className = none ∧ Plain xs := by
  simp [button]

@[simp] theorem plain_switch {className label : String} {disabled : Bool} {click : α}
    {xs : List (Node α)} :
    Plain (switch className label disabled click :: xs) ↔
      Section.ofPageClass? className = none ∧ Plain xs := by
  simp [switch]

@[simp] theorem plain_sideButton {className label : String} {click : α} {xs : List (Node α)} :
    Plain (sideButton className label click :: xs) ↔
      Section.ofPageClass? className = none ∧ Plain xs := by
  simp [sideButton]

@[simp] theorem plain_submitButton {className label : String} {xs : List (Node α)} :
    Plain (submitButton className label :: xs) ↔
      Section.ofPageClass? className = none ∧ Plain xs := by
  simp [submitButton]

@[simp] theorem plain_form {className : String} {submit : α} {children xs : List (Node α)} :
    Plain (form className submit children :: xs) ↔
      Section.ofPageClass? className = none ∧ Plain children ∧ Plain xs :=
  plain_class (by decide)

@[simp] theorem plain_field {className placeholder value : String}
    {attributes : List (String × Attribute)} {typed : String → α} {xs : List (Node α)} :
    Plain (field className attributes placeholder value typed :: xs) ↔
      Section.ofPageClass? className = none ∧ Plain xs := by
  rw [field, List.cons_append, plain_class (by decide)]
  exact and_congr_right fun _ => and_iff_right plain_nil

@[simp] theorem plain_shownIf {condition : Bool} {part : Node α} :
    Plain (shownIf condition part) ↔ condition = true → Plain [part] := by
  cases condition <;> simp [shownIf]

@[simp] theorem plain_notice {className message : String}
    (other : Section.ofPageClass? className = none) :
    Plain (notice className message : List (Node α)) :=
  plain_shownIf.mpr fun _ => (plain_el (by decide)).mpr ⟨other, plain_nil, plain_nil⟩

/-! ### Renaming of messages -/

theorem mapAll_eq_map (f : α → β) (view : List (Node α)) : mapAll f view = view.map (map f) := by
  induction view with
  | nil => rfl
  | cons x xs ih => rw [mapAll, ih, List.map_cons]

mutual

theorem inner_map (f : α → β) : ∀ n : Node α, (n.map f).inner = n.inner
  | .text _ => rfl
  | .element _ _ _ children => innerAll_mapAll f children

theorem innerAll_mapAll (f : α → β) :
    ∀ view : List (Node α), innerAll (mapAll f view) = innerAll view
  | [] => rfl
  | x :: xs => by rw [mapAll, innerAll, innerAll, inner_map f x, innerAll_mapAll f xs]

end

mutual

theorem gather_map (pick : Node β → List γ) (f : α → β) :
    ∀ n : Node α, (n.map f).gather pick = n.gather fun m => pick (m.map f)
  | .text _ => rfl
  | .element _ _ _ children => by
    rw [map, gather, gather, gatherAll_mapAll pick f children, map]

theorem gatherAll_mapAll (pick : Node β → List γ) (f : α → β) :
    ∀ view : List (Node α),
      gatherAll pick (mapAll f view) = gatherAll (fun m => pick (m.map f)) view
  | [] => rfl
  | x :: xs => by rw [mapAll, gatherAll, gatherAll, gather_map pick f x, gatherAll_mapAll pick f xs]

end

mutual

theorem gather_comp (pick : Node α → List β) (g : β → γ) :
    ∀ n : Node α, n.gather (fun m => (pick m).map g) = (n.gather pick).map g
  | .text _ => rfl
  | .element _ _ _ children => by
    rw [gather, gather, gatherAll_comp pick g children, List.map_append]

theorem gatherAll_comp (pick : Node α → List β) (g : β → γ) :
    ∀ view : List (Node α), gatherAll (fun m => (pick m).map g) view = (gatherAll pick view).map g
  | [] => rfl
  | x :: xs => by
    rw [gatherAll, gatherAll, gather_comp pick g x, gatherAll_comp pick g xs, List.map_append]

end

theorem page_map (f : α → β) (n : Node α) : (n.map f).page = n.page := by
  cases n <;> rfl

theorem body_map (f : α → β) (n : Node α) : (n.map f).body = n.body.map (map f) := by
  cases n with
  | text _ => rfl
  | element tag _ _ children =>
    rw [map, body_element, body_element, mapAll_eq_map]
    split <;> rfl

theorem click_map (f : α → β) (n : Node α) : (n.map f).click = n.click.map (Prod.map id f) := by
  cases n with
  | text _ => rfl
  | element tag _ on children =>
    rw [map, click_element, click_element, innerAll_mapAll]
    cases h : on.click <;> simp [Handlers.map, h]

theorem handler_map (f : α → β) (n : Node α) :
    (n.map f).handler = n.handler.map (Handlers.map f) := by
  cases n <;> rfl

theorem pages_mapAll (f : α → β) (view : List (Node α)) : pages (mapAll f view) = pages view := by
  simp only [pages, gatherAll_mapAll, page_map]

theorem tableRows_mapAll (f : α → β) (view : List (Node α)) :
    tableRows (mapAll f view) = (tableRows view).map (map f) := by
  simp only [tableRows, gatherAll_mapAll, body_map, gatherAll_comp]

theorem clicks_mapAll (f : α → β) (view : List (Node α)) :
    clicks (mapAll f view) = (clicks view).map (Prod.map id f) := by
  simp only [clicks, gatherAll_mapAll, click_map, gatherAll_comp]

/-- What a part of a tree has, the tree has. -/
theorem mem_nodes_of_part {view : List (Node α)} {x n : Node α} (part : x ∈ view) (h : n ∈ nodes [x]) :
    n ∈ nodes view := by
  obtain ⟨before, after, rfl⟩ := List.append_of_mem part
  rw [nodes, gatherAll_append, show x :: after = [x] ++ after from rfl, gatherAll_append]
  exact List.mem_append_right _ (List.mem_append_left _ h)

theorem mem_nodes_of_mem {view : List (Node α)} {n : Node α} (h : n ∈ view) : n ∈ nodes view := by
  refine mem_nodes_of_part h ?_
  cases n <;> exact .head _

/-- What an element of a tree has inside. -/
theorem mem_nodes_inside {view children : List (Node α)} {tag : String}
    {attributes : List (String × Attribute)} {on : Handlers α} {n : Node α}
    (inside : .element tag attributes on children ∈ view) (h : n ∈ nodes children) :
    n ∈ nodes view :=
  mem_nodes_of_part inside (.tail _ (List.mem_append_left _ h))

theorem nodes_mapAll (f : α → β) (view : List (Node α)) :
    nodes (mapAll f view) = (nodes view).map (map f) := by
  rw [nodes, gatherAll_mapAll, ← gatherAll_comp]
  rfl

theorem plain_mapAll (f : α → β) (view : List (Node α)) : Plain (mapAll f view) ↔ Plain view := by
  rw [Plain, Plain, pages_mapAll, tableRows_mapAll, List.map_eq_nil_iff]

end Node

@[simp] theorem Handlers.not_means_none (m : α) : ¬(Handlers.none : Handlers α).Means m := by
  simp [Means, Handlers.none]

@[simp] theorem Handlers.means_click (click m : α) :
    (⟨some click, .none, .none⟩ : Handlers α).Means m ↔ click = m := by
  simp [Means]

theorem Handlers.means_map {f : α → β} {h : Handlers α} {m : β} :
    (h.map f).Means m ↔ ∃ m', h.Means m' ∧ f m' = m := by
  unfold Means map
  constructor
  · rintro (click | submit | ⟨typed, value, input, rfl⟩)
    · obtain ⟨m', hm', rfl⟩ := Option.map_eq_some_iff.mp click
      exact ⟨m', .inl hm', rfl⟩
    · obtain ⟨m', hm', rfl⟩ := Option.map_eq_some_iff.mp submit
      exact ⟨m', .inr (.inl hm'), rfl⟩
    · obtain ⟨typed', hm', rfl⟩ := Option.map_eq_some_iff.mp input
      exact ⟨typed' value, .inr (.inr ⟨typed', value, hm', rfl⟩), rfl⟩
  · rintro ⟨m', click | submit | ⟨typed, value, input, rfl⟩, rfl⟩
    · exact .inl (by rw [click]; rfl)
    · exact .inr (.inl (by rw [submit]; rfl))
    · exact .inr (.inr ⟨fun value => f (typed value), value, by rw [input]; rfl, rfl⟩)

/-! ### Handlers -/

namespace Node

@[simp] theorem not_fires_nil (m : α) : ¬Fires [] m := by
  simp [Fires]

@[simp] theorem fires_append {xs ys : List (Node α)} {m : α} :
    Fires (xs ++ ys) m ↔ Fires xs m ∨ Fires ys m := by
  simp only [Fires, gatherAll_append, List.mem_append, or_and_right, exists_or]

theorem fires_cons {x : Node α} {xs : List (Node α)} {m : α} :
    Fires (x :: xs) m ↔ Fires [x] m ∨ Fires xs m := @fires_append _ [x] xs m

@[simp] theorem fires_text {content : String} {xs : List (Node α)} {m : α} :
    Fires (.text content :: xs) m ↔ Fires xs m := Iff.rfl

@[simp] theorem fires_element {tag : String} {attributes : List (String × Attribute)}
    {on : Handlers α} {children xs : List (Node α)} {m : α} :
    Fires (.element tag attributes on children :: xs) m ↔
      on.Means m ∨ Fires children m ∨ Fires xs m := by
  simp only [Fires, gatherAll_element, handler_element, List.append_assoc, List.mem_append,
    List.mem_singleton, or_and_right, exists_or, exists_eq_left]

theorem fires_list {f : γ → Node α} {xs : List γ} {m : α} :
    Fires (xs.map f) m ↔ ∃ x ∈ xs, Fires [f x] m := by
  induction xs with
  | nil => simp
  | cons x xs ih =>
    rw [List.map_cons, fires_cons, ih]
    simp only [List.mem_cons, or_and_right, exists_or, exists_eq_left]

@[simp] theorem fires_el {tag className : String} {children xs : List (Node α)} {m : α} :
    Fires (el tag className children :: xs) m ↔ Fires children m ∨ Fires xs m := by
  simp [el]

@[simp] theorem fires_plain {tag : String} {children xs : List (Node α)} {m : α} :
    Fires (plain tag children :: xs) m ↔ Fires children m ∨ Fires xs m := by
  simp [plain]

@[simp] theorem fires_button {className label : String} {click : α} {xs : List (Node α)} {m : α} :
    Fires (button className label click :: xs) m ↔ click = m ∨ Fires xs m := by
  simp [button]

@[simp] theorem fires_switch {className label : String} {disabled : Bool} {click : α}
    {xs : List (Node α)} {m : α} :
    Fires (switch className label disabled click :: xs) m ↔ click = m ∨ Fires xs m := by
  simp [switch]

@[simp] theorem fires_shownIf {condition : Bool} {part : Node α} {m : α} :
    Fires (shownIf condition part) m ↔ condition = true ∧ Fires [part] m := by
  cases condition <;> simp [shownIf]

@[simp] theorem not_fires_notice {className message : String} {m : α} :
    ¬Fires (notice className message) m := by
  simp [notice]

mutual

theorem gather_handler : ∀ n : Node α, n.gather handler = n.elements.map Element.on
  | .text _ => rfl
  | .element tag attributes on children => by
    rw [gather, handler_element, handlers_eq_elements children, elements, List.map_cons]
    rfl

theorem handlers_eq_elements : ∀ view : List (Node α),
    gatherAll handler view = (elementsAll view).map Element.on
  | [] => rfl
  | x :: xs => by
    rw [elementsAll, List.map_append, ← gather_handler x, ← handlers_eq_elements xs]
    rfl

end

/-- What an element means when it is clicked can fire. -/
theorem fires_of_click {view : List (Node α)} {e : Element α} {m : α} (he : e ∈ elementsAll view)
    (click : e.on.click = some m) : Fires view m := by
  refine ⟨e.on, ?_, .inl click⟩
  rw [handlers_eq_elements]
  exact List.mem_map_of_mem he

theorem fires_mapAll (f : α → β) (view : List (Node α)) {m : β} :
    Fires (mapAll f view) m ↔ ∃ m', Fires view m' ∧ f m' = m := by
  simp only [Fires, gatherAll_mapAll, handler_map, gatherAll_comp, List.mem_map]
  constructor
  · rintro ⟨_, ⟨h, hh, rfl⟩, means⟩
    obtain ⟨m', hm', rfl⟩ := Handlers.means_map.mp means
    exact ⟨m', ⟨h, hh, hm'⟩, rfl⟩
  · rintro ⟨m', ⟨h, hh, hm'⟩, rfl⟩
    exact ⟨_, ⟨h, hh, rfl⟩, Handlers.means_map.mpr ⟨m', hm', rfl⟩⟩

end Node

end CarCatalog
