import CarCatalog.Credential

/-!
# Sessions

A session is opened by `bootstrap` from what its slot holds, and changed by `login` and `logout`.
A step does not touch the slot: it says by a `Write` what is to become of it.
-/

namespace CarCatalog

/-- What becomes of a stored credential that has not expired and still cannot be read. -/
inductive MalformedPolicy
  | retain
  | clear
  deriving DecidableEq, Repr

structure Session where
  identity : Option Identity
  credential : Option String
  loading : Bool
  deriving DecidableEq, Repr

inductive Phase
  | bootstrapping
  | authenticated
  | anonymous
  deriving DecidableEq, Repr

/-- What a step does to the slot. -/
inductive Write
  | keep
  | save (credential : String)
  | clear
  deriving DecidableEq, Repr

/-- The content of a working slot after a write. -/
def Write.apply : Write → Option String → Option String
  | .keep, stored => stored
  | .save c, _ => some c
  | .clear, _ => none

namespace Session

def bootstrapping : Session := ⟨none, none, true⟩

def anonymous : Session := ⟨none, none, false⟩

def isAuthenticated (s : Session) : Bool := s.credential.isSome && s.identity.isSome

def phase (s : Session) : Phase :=
  if s.loading then .bootstrapping else if s.isAuthenticated then .authenticated else .anonymous

def role (s : Session) : Option Role := s.identity.bind Identity.role

/-! ## Steps -/

/-- What a stored credential makes of a session that is still loading. -/
def restore (policy : MalformedPolicy) (now : Int64) : Option String → Session × Write
  | none => (anonymous, .keep)
  | some c =>
    if isExpired c now then (anonymous, .clear)
    else
      match identify c with
      | .ok who => (⟨some who, some c, false⟩, .keep)
      | .error _ => (anonymous, if policy = .clear then .clear else .keep)

def bootstrap (policy : MalformedPolicy) (now : Int64) (stored : Option String) (s : Session) :
    Session × Write :=
  if s.loading then restore policy now stored else (s, .keep)

/-- A credential that cannot be read changes nothing. -/
def login (credential : String) (s : Session) : Except Fault Identity × Session × Write :=
  match identify credential with
  | .ok who => (.ok who, ⟨some who, some credential, false⟩, .save credential)
  | .error fault => (.error fault, s, .keep)

def logout (s : Session) : Session × Write :=
  ({ s with identity := none, credential := none }, .clear)

end Session

end CarCatalog
