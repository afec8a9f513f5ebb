import RepairDesk.Error
import RepairDesk.Text.Blank

namespace RepairDesk

/-- The part a caller plays. -/
inductive Role where
  | customer
  | technician
  | admin
  deriving DecidableEq, Repr

namespace Role

def all : List Role := [.customer, .technician, .admin]

def code : Role → String
  | .customer => "CUSTOMER"
  | .technician => "TECHNICIAN"
  | .admin => "ADMIN"

def display : Role → String
  | .customer => "Customer"
  | .technician => "Technician"
  | .admin => "Admin"

def ofCode? (s : String) : Option Role :=
  all.find? (·.code == s)

/-- Reads a role: blanks trimmed, ASCII letters upper-cased, then one of the three codes. -/
def parse (s : String) : Except WorkflowError Role :=
  let wanted := Text.upperAscii (Text.trimBlank s)
  match ofCode? wanted with
  | some r => .ok r
  | none => .error (.validation ("unknown role: " ++ wanted))

end Role

/-- The caller of an operation. -/
structure Actor where
  id : Uuid
  role : Role
  deriving DecidableEq

end RepairDesk
