import RepairDesk.Text.Blank

namespace RepairDesk

/-- The settings of the service. -/
structure Config where
  databaseUrl : Option String := none
  bindAddr : String := "0.0.0.0:3000"
  dbMaxConnections : Nat := 10
  eventSinkUrl : Option String := none
  auditQueueCapacity : Nat := 1024
  outboxPollIntervalMs : Nat := 1000
  outboxBatchSize : Nat := 50
  deriving DecidableEq

namespace Config

def readUnsigned (bits : Nat) (s : String) : Option Nat :=
  let digits := match s.toList with
    | '+' :: rest => rest
    | cs => cs
  if digits.isEmpty || !digits.all Char.isDigit then none
  else
    let n := digits.foldl (fun acc c => 10 * acc + (c.toNat - '0'.toNat)) 0
    if n < Nat.pow 2 bits then some n else none

def numberOr (lookup : String → Option String) (key : String) (bits default : Nat) : Nat :=
  match lookup key with
  | some raw => (readUnsigned bits (Text.trimBlank raw)).getD default
  | none => default

def nonBlank (lookup : String → Option String) (key : String) : Option String :=
  (lookup key).filter fun v => !(Text.trimBlank v).isEmpty

/-- The settings from a lookup of variables. -/
def ofLookup (lookup : String → Option String) : Config :=
  let d : Config := {}
  { databaseUrl := nonBlank lookup "APP_DATABASE_URL"
    bindAddr := (nonBlank lookup "APP_BIND_ADDR").getD d.bindAddr
    dbMaxConnections := numberOr lookup "APP_DB_MAX_CONNECTIONS" 32 d.dbMaxConnections
    eventSinkUrl := nonBlank lookup "EVENT_SINK_URL"
    auditQueueCapacity := max 1 (numberOr lookup "AUDIT_QUEUE_CAPACITY" 64 d.auditQueueCapacity)
    outboxPollIntervalMs :=
      max 1 (numberOr lookup "OUTBOX_POLL_INTERVAL_MS" 64 d.outboxPollIntervalMs)
    outboxBatchSize := max 1 (numberOr lookup "OUTBOX_BATCH_SIZE" 64 d.outboxBatchSize) }

end Config

end RepairDesk
