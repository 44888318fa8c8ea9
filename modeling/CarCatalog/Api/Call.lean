import CarCatalog.Api.Address
import CarCatalog.Json.Reader
import CarCatalog.Json.Writer
import CarCatalog.Paging.Basic

/-!
# Calls to the service

A `Call α` is what is asked and how the answer's body is read as an `α`.  A `Request` is a call on
its way, with the credential it carries; a `Reply` is what comes back.
-/

namespace CarCatalog.Api

inductive Method
  | get
  | post
  | put
  | delete
  deriving DecidableEq, Repr

def Method.name : Method → String
  | .get => "GET"
  | .post => "POST"
  | .put => "PUT"
  | .delete => "DELETE"

structure Request where
  method : Method
  path : String
  authorization : Option String
  body : Option Json

def Request.url (r : Request) : String := Api.url r.path

inductive Reply
  | arrived (status : UInt16) (body : Bytes)
  | lost (reason : String)
  deriving DecidableEq, Repr

/-- Why a call failed. -/
inductive Failure
  | transport (reason : String)
  | status (code : UInt16)
  | decode (reason : String)
  | unavailable
  deriving DecidableEq, Repr

namespace Failure

def message : Failure → String
  | .transport reason => "request failed: " ++ reason
  | .status code => s!"server responded with status {code.toNat}"
  | .decode reason => "invalid body: " ++ reason
  | .unavailable => "not available on server"

def isUnauthorized (f : Failure) : Bool := f == .status 401

/-- What the sign-in form says of a failure. -/
def signInMessage : Failure → String
  | .status 401 | .status 403 => "Invalid credentials"
  | f => f.message

end Failure

structure Call (α : Type) where
  method : Method
  path : String
  body : Option Json
  read : Bytes → Option α

def bearer (credential : String) : String := "Bearer " ++ credential

namespace Call

variable {α β : Type}

def request (c : Call α) (credential : Option String) : Request where
  method := c.method
  path := c.path
  authorization := credential.map bearer
  body := c.body

def isSuccess (status : UInt16) : Bool := 200 ≤ status && status ≤ 299

/-- What a reply means for the call. -/
def outcome (c : Call α) : Reply → Except Failure α
  | .lost reason => .error (.transport reason)
  | .arrived status body =>
    if isSuccess status then
      match c.read body with
      | some a => .ok a
      | none => .error (.decode "body does not match")
    else .error (.status status)

def map (f : α → β) (c : Call α) : Call β := { c with read := fun body => (c.read body).map f }

/-- The call with its answer read and dropped. -/
def void (c : Call α) : Call Unit := c.map fun _ => ()

/-- A call whose answer is a JSON body. -/
def json [Wire α] (method : Method) (path : String) (body : Option Json) : Call α where
  method := method
  path := path
  body := body
  read bytes := (Json.parse bytes).bind Wire.ofJson?

/-- A call whose answer's body is not looked at. -/
def plain (method : Method) (path : String) : Call Unit where
  method := method
  path := path
  body := none
  read _ := some ()

end Call

end CarCatalog.Api
