import RepairDesk.Identifier.Uuid
import RepairDesk.Calendar.Instant

namespace RepairDesk

/-- The kind of account. -/
inductive PaymentKind where
  | bankTransfer
  | eWallet
  deriving DecidableEq, Repr

namespace PaymentKind

def all : List PaymentKind := [.bankTransfer, .eWallet]

def code : PaymentKind → String
  | .bankTransfer => "BANK_TRANSFER"
  | .eWallet => "E_WALLET"

end PaymentKind

/-- An account customers can pay a repair order into. -/
structure PaymentMethod where
  id : Uuid
  name : String
  kind : PaymentKind
  provider : String
  accountNumber : String
  accountName : String
  version : Int
  createdAt : Instant
  updatedAt : Instant
  deriving DecidableEq

end RepairDesk
