import CarCatalog.Base64
import CarCatalog.Identity
import CarCatalog.Json.Reader
import CarCatalog.Json.Record
import CarCatalog.Text.Integer

/-!
# Credentials

A credential is a text of segments between dots.  Its second segment is base64 of a JSON object with
the claims `sub`, `exp` and `role`; nothing else of it is looked at, and no signature is checked.

    identify c = the subject and role of Claims.parse c
    isExpired c now ↔ c has no readable expiry, or 1000 * exp < now as doubles
-/

namespace CarCatalog

/-- Why a credential is not accepted. -/
inductive Fault
  | missingPayload
  | base64
  | json
  | invalidSubject
  | missingExpiry
  deriving DecidableEq, Repr

def Fault.message : Fault → String
  | .missingPayload => "credential has no payload segment"
  | .base64 => "payload is not valid base64"
  | .json => "payload is not a JSON object"
  | .invalidSubject => "subject claim is missing or not an integer"
  | .missingExpiry => "expiry claim is missing or not a number"

/-- The claims as they stand in the payload; null for one that is absent. -/
structure Claims where
  sub : Json
  exp : Json
  role : Json

/-! ## Reading -/

/-- The text between the first dot and the next one or the end. -/
def payload? (credential : String) : Option (List Char) :=
  match credential.toList.dropWhile (· != '.') with
  | [] => none
  | _ :: rest => some (rest.takeWhile (· != '.'))

/-- A claim may hold any value that is clean and, within its payload, nests at most 127 levels. -/
def Claims.value? (j : Json) : Option Json :=
  if j.isClean && j.depth < 127 then some j else none

def Claims.ofJson? (j : Json) : Option Claims := do
  let field ← j.fields ["sub", "exp", "role"]
  return {
    sub := ← (field "sub").orElse .null Claims.value?
    exp := ← (field "exp").orElse .null Claims.value?
    role := ← (field "role").orElse .null Claims.value? }

def Claims.parse (credential : String) : Except Fault Claims :=
  match payload? credential with
  | none => .error .missingPayload
  | some segment =>
    match Base64.decode? segment with
    | none => .error .base64
    | some bytes =>
      match (Json.parse bytes).bind Claims.ofJson? with
      | none => .error .json
      | some claims => .ok claims

/-! ## Claims -/

/-- The subject: an integer of 64 bits, as a number or as text with white space around it. -/
def Claims.subject (c : Claims) : Except Fault Int64 :=
  let id := match c.sub with
    | .number n =>
      match n.toNumber? with
      | some (.int i) => int64? i
      | some (.real x) => x.toInt64?
      | none => none
    | .string (some s) => Text.readInt64 (Text.trim s)
    | _ => none
  match id with
  | some id => .ok id
  | none => .error .invalidSubject

/-- The role: a text that is not empty. -/
def Claims.roleOf (c : Claims) : Option Role :=
  match c.role with
  | .string (some s) => if s.isEmpty then none else some (.ofLabel s)
  | _ => none

/-- The expiry in seconds. -/
def Claims.expiry (c : Claims) : Except Fault Binary64 :=
  match c.exp with
  | .number n =>
    match n.toNumber? with
    | some x => .ok x.toBinary64
    | none => .error .missingExpiry
  | _ => .error .missingExpiry

/-- Who a credential speaks for. -/
def identify (credential : String) : Except Fault Identity := do
  let claims ← Claims.parse credential
  return { id := ← claims.subject, role := claims.roleOf }

/-- Whether a credential is past its expiry at a time in milliseconds; an unreadable one is. -/
def isExpired (credential : String) (now : Int64) : Bool :=
  match Claims.parse credential >>= Claims.expiry with
  | .ok exp => (exp.mul (.ofNat 1000)).lt (.ofInt now.toInt)
  | .error _ => true

end CarCatalog
