import CarCatalog.Json.Basic

/-!
# Element trees

A view is a tree of elements and texts.  An element may carry handlers: what a click or a submit
means, and what a typed value means.  `Node.elements` lists the elements in document order, each
with its whole inner text; finding and firing a handler is a question to that list.
-/

namespace CarCatalog

/-- An attribute: a text, a bare name, or a property that only a running page shows. -/
inductive Attribute
  | text (value : String)
  | flag
  | property (value : String)
  deriving DecidableEq, Repr

structure Handlers (α : Type) where
  click : Option α
  submit : Option α
  input : Option (String → α)

def Handlers.none {α : Type} : Handlers α := ⟨.none, .none, .none⟩

inductive Node (α : Type) where
  | text (content : String)
  | element (tag : String) (attributes : List (String × Attribute)) (on : Handlers α)
      (children : List (Node α))

/-- An element without its children, but with the text inside it. -/
structure Element (α : Type) where
  tag : String
  attributes : List (String × Attribute)
  on : Handlers α
  inner : String

namespace Handlers

variable {α β : Type}

def map (f : α → β) (h : Handlers α) : Handlers β :=
  ⟨h.click.map f, h.submit.map f, h.input.map fun g value => f (g value)⟩

end Handlers

namespace Node

variable {α β : Type}

mutual

def map (f : α → β) : Node α → Node β
  | .text content => .text content
  | .element tag attributes on children => .element tag attributes (on.map f) (mapAll f children)

def mapAll (f : α → β) : List (Node α) → List (Node β)
  | [] => []
  | x :: xs => x.map f :: mapAll f xs

end

/-- A text that is empty or a single space is not seen. -/
def isSeen (content : String) : Bool := content != "" && content != " "

mutual

def inner : Node α → String
  | .text content => if isSeen content then content else ""
  | .element _ _ _ children => innerAll children

def innerAll : List (Node α) → String
  | [] => ""
  | x :: xs => x.inner ++ innerAll xs

end

mutual

/-- The elements of a tree in document order. -/
def elements : Node α → List (Element α)
  | .text _ => []
  | .element tag attributes on children =>
    ⟨tag, attributes, on, innerAll children⟩ :: elementsAll children

def elementsAll : List (Node α) → List (Element α)
  | [] => []
  | x :: xs => x.elements ++ elementsAll xs

end

/-! ## Building -/

/-- An element of a class. -/
def el (tag className : String) (children : List (Node α)) : Node α :=
  .element tag [("class", .text className)] .none children

def plain (tag : String) (children : List (Node α)) : Node α := .element tag [] .none children

def button (className label : String) (click : α) : Node α :=
  .element "button" [("class", .text className)] ⟨some click, none, none⟩ [.text label]

/-- A button that can be disabled. -/
def switch (className label : String) (disabled : Bool) (click : α) : Node α :=
  .element "button" (("class", .text className) :: if disabled then [("disabled", .flag)] else [])
    ⟨some click, none, none⟩ [.text label]

/-- A button inside a form that does not submit it. -/
def sideButton (className label : String) (click : α) : Node α :=
  .element "button" [("class", .text className), ("type", .text "button")] ⟨some click, none, none⟩
    [.text label]

def submitButton (className label : String) : Node α :=
  .element "button" [("class", .text className), ("type", .text "submit")] .none [.text label]

def form (className : String) (submit : α) (children : List (Node α)) : Node α :=
  .element "form" [("class", .text className)] ⟨none, some submit, none⟩ children

/-- A field for text, with further attributes, its hint and its value. -/
def field (className : String) (attributes : List (String × Attribute)) (placeholder value : String)
    (typed : String → α) : Node α :=
  .element "input"
    (("class", .text className) :: attributes ++
      [("placeholder", .text placeholder), ("value", .property value)])
    ⟨none, none, some typed⟩ []

/-- A part that is there only while a condition holds. -/
def shownIf (condition : Bool) (part : Node α) : List (Node α) := if condition then [part] else []

/-- A message, if there is one. -/
def notice (className message : String) : List (Node α) :=
  shownIf (!message.isEmpty) (el "p" className [.text message])

end Node

namespace Element

variable {α : Type}

def attribute? (e : Element α) (name : String) : Option Attribute :=
  (e.attributes.find? (·.1 == name)).map (·.2)

def isDisabled (e : Element α) : Bool := (e.attribute? "disabled").isSome

end Element

/-! ## As JSON -/

namespace Node

variable {α : Type}

/-- The attributes as they are shown; properties only of a running page. -/
def attributesJson (running : Bool) (attributes : List (String × Attribute)) : Json :=
  .record (attributes.filterMap fun a =>
    match a.2 with
    | .text value => some (a.1, .text value)
    | .flag => some (a.1, .bool true)
    | .property value => if running then some (a.1, .text value) else none)

mutual

/-- A text, or tag, attributes and children; nothing for a text that is not seen. -/
def toJson (running : Bool) : Node α → List Json
  | .text content => if isSeen content then [.text content] else []
  | .element tag attributes _ children =>
    [.array [.text tag, attributesJson running attributes, .array (toJsonAll running children)]]

def toJsonAll (running : Bool) : List (Node α) → List Json
  | [] => []
  | x :: xs => x.toJson running ++ toJsonAll running xs

end

end Node

end CarCatalog
