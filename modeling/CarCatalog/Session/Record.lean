import CarCatalog.Json.Record
import CarCatalog.Session.Basic

/-!
# Sessions as JSON
-/

namespace CarCatalog

def Role.ofJson? (j : Json) : Option Role := j.text?.map .ofLabel

def Role.toJson (r : Role) : Json := .text r.label

def Identity.ofJson? (j : Json) : Option Identity := do
  let field ← j.fields ["id", "role"]
  return {
    id := ← (field "id").required Json.int64?
    role := ← (field "role").optional Role.ofJson? }

def Identity.toJson (who : Identity) : Json :=
  .record [("id", .int who.id.toInt), ("role", .ofOption Role.toJson who.role)]

def Session.ofJson? (j : Json) : Option Session := do
  let field ← j.fields ["identity", "credential", "loading"]
  return {
    identity := ← (field "identity").optional Identity.ofJson?
    credential := ← (field "credential").optional Json.text?
    loading := ← (field "loading").required Json.bool? }

def Session.toJson (s : Session) : Json :=
  .record [
    ("identity", .ofOption Identity.toJson s.identity),
    ("credential", .ofOption Json.text s.credential),
    ("loading", .bool s.loading)]

def MalformedPolicy.name : MalformedPolicy → String
  | .retain => "retain"
  | .clear => "clear"

def MalformedPolicy.ofName? (name : String) : Option MalformedPolicy :=
  [MalformedPolicy.retain, .clear].find? (·.name == name)

/-- A policy is its name, or an object with the name as its one key and the value null. -/
def MalformedPolicy.ofJson? : Json → Option MalformedPolicy
  | .string (some s) => ofName? s
  | .object [(some k, .null)] => ofName? k
  | _ => none

def MalformedPolicy.toJson (p : MalformedPolicy) : Json := .text p.name

/-- The settings of a session; malformed credentials are retained unless they say otherwise. -/
structure SessionConfig where
  malformed : MalformedPolicy
  deriving DecidableEq, Repr

def SessionConfig.default : SessionConfig := ⟨.retain⟩

def SessionConfig.ofJson? (j : Json) : Option SessionConfig := do
  let field ← j.fields ["malformed"]
  return { malformed := ← (field "malformed").orElse .retain MalformedPolicy.ofJson? }

def SessionConfig.toJson (c : SessionConfig) : Json := .record [("malformed", c.malformed.toJson)]

end CarCatalog
