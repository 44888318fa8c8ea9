import CarCatalog.Slot.Memory

/-!
# The browser's local storage

Storage may be missing, refused, or fail on writing or on every call.  A failed read finds nothing
and a failed write changes nothing; neither is reported.
-/

namespace CarCatalog

inductive StorageCondition
  | works
  | noWindow
  | disabled
  | denied
  | readOnly
  | throws
  deriving DecidableEq, Repr

def StorageCondition.canRead : StorageCondition → Bool
  | .works | .readOnly => true
  | _ => false

def StorageCondition.canWrite : StorageCondition → Bool
  | .works => true
  | _ => false

structure Storage where
  condition : StorageCondition
  entries : Entries
  deriving DecidableEq, Repr

namespace Storage

def read (s : Storage) (key : String) : Option String :=
  if s.condition.canRead then s.entries.get? key else none

def write (s : Storage) (key : String) (w : Write) : Storage :=
  if s.condition.canWrite then { s with entries := s.entries.write key w } else s

/-- The stored token, past the failures of reading. -/
def token (s : Storage) : Option String := s.entries.get? tokenKey

end Storage

end CarCatalog
