import AgentPlatform.Base.Ranking
import Mathlib.Data.String.Basic

/-! # Approval records

The record and the operations that every approval store offers. -/

namespace AgentPlatform.State

/-- A valid UTC instant, to the microsecond. -/
structure Datetime where
  year : Nat
  month : Nat
  day : Nat
  hour : Nat
  minute : Nat
  second : Nat
  microsecond : Nat
  yearRange : 1 ≤ year ∧ year ≤ 9999
  monthRange : 1 ≤ month ∧ month ≤ 12
  dayRange : 1 ≤ day ∧ day ≤ 31
  hourRange : hour ≤ 23
  minuteRange : minute ≤ 59
  secondRange : second ≤ 59
  microsecondRange : microsecond ≤ 999999
deriving DecidableEq, Repr

/-- The decimal digits of a number, filled with zeros to a width. -/
def decimal : Nat → Nat → List Char
  | 0, _ => []
  | width + 1, number => decimal width (number / 10) ++ [Nat.digitChar (number % 10)]

/-- `isoformat()` of a UTC instant: the fraction is left out exactly when it is zero. -/
def Datetime.isoformat (instant : Datetime) : String :=
  String.ofList (decimal 4 instant.year ++ '-' :: decimal 2 instant.month ++ '-' :: decimal 2 instant.day ++
    'T' :: decimal 2 instant.hour ++ ':' :: decimal 2 instant.minute ++ ':' :: decimal 2 instant.second ++
    (if instant.microsecond = 0 then [] else '.' :: decimal 6 instant.microsecond) ++ "+00:00".toList)

/-- The parts of an instant, from the most significant. -/
def Datetime.parts (instant : Datetime) : List Nat :=
  [instant.year, instant.month, instant.day, instant.hour, instant.minute, instant.second,
    instant.microsecond]

structure Uuid where
  digits : List (Fin 16)
  length : digits.length = 32
deriving DecidableEq

def hexDigit (digit : Fin 16) : Char := Nat.digitChar digit

/-- `str(uuid)`. -/
def Uuid.text (uuid : Uuid) : String :=
  let hex := uuid.digits.map hexDigit
  String.ofList (hex.take 8 ++ '-' :: (hex.drop 8).take 4 ++ '-' :: (hex.drop 12).take 4 ++
    '-' :: (hex.drop 16).take 4 ++ '-' :: hex.drop 20)

inductive Status where
  | pending
  | approved
  | rejected
deriving DecidableEq, Repr

inductive Decision where
  | approved
  | rejected
deriving DecidableEq, Repr

def Decision.status : Decision → Status
  | .approved => .approved
  | .rejected => .rejected

structure ApprovalRecord where
  approvalId : String
  requestId : String
  requester : String
  tenant : String
  querySha256 : String
  status : Status
  reviewer : Option String
  reason : Option String
  createdAt : Datetime
  decidedAt : Option Datetime
deriving DecidableEq, Repr

/-- What the stores use of other libraries: the hash of a query, and the texts of instants that a
    validated model writes and reads. -/
structure Externals where
  sha256 : String → String
  dumpDatetime : Datetime → String
  parseDatetime : String → Option Datetime
  sha256_length : ∀ query, (sha256 query).length = 64
  parse_isoformat : ∀ instant, parseDatetime instant.isoformat = some instant
  parse_dump : ∀ instant, parseDatetime (dumpDatetime instant) = some instant

/-- `uuid4` and the clock are inputs of the call. -/
def buildPendingRecord (externals : Externals) (requestId requester query tenant : String) (uuid4 : Uuid)
    (now : Datetime) : ApprovalRecord where
  approvalId := uuid4.text
  requestId := requestId
  requester := requester
  tenant := tenant
  querySha256 := externals.sha256 query
  status := .pending
  reviewer := none
  reason := none
  createdAt := now
  decidedAt := none

def ApprovalRecord.decide (record : ApprovalRecord) (decision : Decision) (reviewer reason : String)
    (now : Datetime) : ApprovalRecord :=
  { record with
    status := decision.status
    reviewer := some reviewer
    reason := some reason
    decidedAt := some now }

/-- A record as a store of texts keeps it. -/
structure StoredRecord where
  approvalId : String
  requestId : String
  requester : String
  tenant : String
  querySha256 : String
  status : Status
  reviewer : Option String
  reason : Option String
  createdAt : String
  decidedAt : Option String
deriving DecidableEq, Repr

/-- The instant of a field that may be absent. -/
def Externals.parseOptional (externals : Externals) : Option String → Option (Option Datetime)
  | none => some none
  | some text => (externals.parseDatetime text).map some

/-- `ApprovalRecord.model_validate`, where `none` is a validation error. -/
def StoredRecord.validate (externals : Externals) (stored : StoredRecord) : Option ApprovalRecord :=
  match externals.parseDatetime stored.createdAt, externals.parseOptional stored.decidedAt with
  | some createdAt, some decidedAt =>
    some
      { approvalId := stored.approvalId
        requestId := stored.requestId
        requester := stored.requester
        tenant := stored.tenant
        querySha256 := stored.querySha256
        status := stored.status
        reviewer := stored.reviewer
        reason := stored.reason
        createdAt := createdAt
        decidedAt := decidedAt }
  | _, _ => none

/-- A record with its creation instant as the given text. -/
def ApprovalRecord.stored (record : ApprovalRecord) (createdAt : String) : StoredRecord where
  approvalId := record.approvalId
  requestId := record.requestId
  requester := record.requester
  tenant := record.tenant
  querySha256 := record.querySha256
  status := record.status
  reviewer := record.reviewer
  reason := record.reason
  createdAt := createdAt
  decidedAt := record.decidedAt.map Datetime.isoformat

def StoredRecord.decide (stored : StoredRecord) (decision : Decision) (reviewer reason decidedAt : String) :
    StoredRecord :=
  { stored with
    status := decision.status
    reviewer := some reviewer
    reason := some reason
    decidedAt := some decidedAt }

theorem Externals.parseOptional_isoformat (externals : Externals) (instant : Option Datetime) :
    externals.parseOptional (instant.map Datetime.isoformat) = some instant := by
  cases instant with
  | none => rfl
  | some instant => rw [Option.map_some, parseOptional, externals.parse_isoformat, Option.map_some]

theorem StoredRecord.validate_stored (externals : Externals) (record : ApprovalRecord) {createdAt : String}
    (parsed : externals.parseDatetime createdAt = some record.createdAt) :
    (record.stored createdAt).validate externals = some record := by
  simp only [validate, ApprovalRecord.stored, parsed, externals.parseOptional_isoformat]

theorem StoredRecord.of_validate {externals : Externals} {stored : StoredRecord} {record : ApprovalRecord}
    (valid : stored.validate externals = some record) :
    ∃ createdAt decidedAt, externals.parseDatetime stored.createdAt = some createdAt ∧
      externals.parseOptional stored.decidedAt = some decidedAt ∧
      record = ⟨stored.approvalId, stored.requestId, stored.requester, stored.tenant, stored.querySha256,
        stored.status, stored.reviewer, stored.reason, createdAt, decidedAt⟩ := by
  simp only [validate] at valid
  split at valid
  · rename_i createdAt decidedAt parsedCreated parsedDecided
    exact ⟨createdAt, decidedAt, parsedCreated, parsedDecided, (Option.some.inj valid).symm⟩
  · cases valid

theorem StoredRecord.validate_decide {externals : Externals} {stored : StoredRecord} {record : ApprovalRecord}
    (valid : stored.validate externals = some record) (decision : Decision) (reviewer reason : String)
    (now : Datetime) :
    (stored.decide decision reviewer reason now.isoformat).validate externals =
      some (record.decide decision reviewer reason now) := by
  obtain ⟨createdAt, decidedAt, parsed, -, rfl⟩ := StoredRecord.of_validate valid
  simp only [validate, StoredRecord.decide, parsed, Externals.parseOptional, externals.parse_isoformat,
    Option.map_some, ApprovalRecord.decide]

theorem StoredRecord.validate_fields {externals : Externals} {stored : StoredRecord} {record : ApprovalRecord}
    (valid : stored.validate externals = some record) :
    record.approvalId = stored.approvalId ∧ record.tenant = stored.tenant ∧ record.status = stored.status := by
  obtain ⟨createdAt, decidedAt, -, -, rfl⟩ := StoredRecord.of_validate valid
  exact ⟨rfl, rfl, rfl⟩

/-- A call on a store, with the fresh identifier and the clock it reads. -/
inductive Operation where
  | createPending (requestId requester query tenant : String) (uuid4 : Uuid) (now : Datetime)
  | decide (approvalId : String) (decision : Decision) (reviewer reason tenant : String) (now : Datetime)
  | get (approvalId tenant : String)
  | listPending (tenant : String)
deriving DecidableEq

def Operation.tenant : Operation → String
  | .createPending _ _ _ tenant _ _ | .decide _ _ _ _ tenant _ | .get _ tenant | .listPending tenant => tenant

structure StoreCall where
  client : Nat
  operation : Operation
deriving DecidableEq

def StoreCall.isFor (tenant : String) (call : StoreCall) : Bool := call.operation.tenant = tenant

inductive StoreError where
  | valueError (message : String)
  | runtimeError (message : String)
  | driver
  | validation
deriving DecidableEq, Repr

def StoreError.undecidable : StoreError :=
  .valueError "Approval is missing, already decided, or belongs to another tenant"

inductive Answer where
  | created (record : ApprovalRecord)
  | decided (record : ApprovalRecord)
  | got (found : Option ApprovalRecord)
  | listed (records : List ApprovalRecord)
deriving DecidableEq

def Answer.records : Answer → List ApprovalRecord
  | .created record | .decided record => [record]
  | .got found => found.toList
  | .listed records => records

end AgentPlatform.State
