import AgentPlatform.Base.Sequence
import AgentPlatform.Base.Table
import AgentPlatform.State.Chronology

/-! # Approvals as a ledger

What the stores do for a client that makes one call after the other, without their identifiers and clocks: an approval
is known by the number of the call that created it. -/

namespace AgentPlatform.State

open Interleaving

structure Entry where
  requestId : String
  requester : String
  tenant : String
  querySha256 : String
  status : Status
  reviewer : Option String
  reason : Option String
deriving DecidableEq, Repr

def Entry.decide (entry : Entry) (decision : Decision) (reviewer reason : String) : Entry :=
  { entry with status := decision.status, reviewer := some reviewer, reason := some reason }

structure Ledger where
  calls : Nat
  entries : Table Nat Entry

/-- The identifier that a call created, or any other text. -/
inductive Reference where
  | created (number : Nat)
  | text (approvalId : String)
deriving DecidableEq, Repr

inductive Request where
  | createPending (requestId requester query tenant : String)
  | decide (reference : Reference) (decision : Decision) (reviewer reason tenant : String)
  | get (reference : Reference) (tenant : String)
  | listPending (tenant : String)
deriving DecidableEq, Repr

/-- What a call reports of numbered entries; `undecidable` is the `ValueError` of a decision. -/
inductive Report where
  | created (number : Nat) (entry : Entry)
  | decided (number : Nat) (entry : Entry)
  | undecidable
  | got (found : Option (Nat × Entry))
  | listed (pending : List (Nat × Entry))

namespace Ledger

def empty : Ledger := ⟨0, ∅⟩

/-- The entry that a reference names, if it is one of the tenant. -/
def find (ledger : Ledger) (tenant : String) : Reference → Option (Nat × Entry)
  | .created number => ((ledger.entries.get number).filter fun entry => entry.tenant = tenant).map (number, ·)
  | .text _ => none

def pending (ledger : Ledger) (tenant : String) : List (Nat × Entry) :=
  (ledger.entries.entries.map fun item => (item.1, item.2)).filter fun item =>
    item.2.tenant = tenant ∧ item.2.status = .pending

def next (ledger : Ledger) (entries : Table Nat Entry) : Ledger := ⟨ledger.calls + 1, entries⟩

def step (sha256 : String → String) (ledger : Ledger) : Request → Ledger × Report
  | .createPending requestId requester query tenant =>
    let entry := ⟨requestId, requester, tenant, sha256 query, .pending, none, none⟩
    (ledger.next (ledger.entries.set ledger.calls entry), .created ledger.calls entry)
  | .decide reference decision reviewer reason tenant =>
    match ledger.find tenant reference with
    | none => (ledger.next ledger.entries, .undecidable)
    | some (number, entry) =>
      if entry.status = .pending then
        let decided := entry.decide decision reviewer reason
        (ledger.next (ledger.entries.set number decided), .decided number decided)
      else (ledger.next ledger.entries, .undecidable)
  | .get reference tenant => (ledger.next ledger.entries, .got (ledger.find tenant reference))
  | .listPending tenant => (ledger.next ledger.entries, .listed (ledger.pending tenant))

@[simp] theorem calls_step (sha256 : String → String) (ledger : Ledger) (request : Request) :
    (ledger.step sha256 request).1.calls = ledger.calls + 1 := by
  cases request with
  | decide reference decision reviewer reason tenant =>
    simp only [step]
    split
    · rfl
    · split <;> rfl
  | _ => rfl

theorem each_within {sha256 : String → String} {Holds : Ledger → Request → Prop} {ledger : Ledger}
    {requests : List Request} {count : Nat} (enough : ledger.calls + requests.length ≤ count)
    (holds : Each (step sha256) Holds ledger requests) :
    Each (step sha256) (fun ledger request => ledger.calls < count ∧ Holds ledger request) ledger requests := by
  induction requests generalizing ledger with
  | nil => trivial
  | cons request requests ih =>
    rw [List.length_cons] at enough
    refine ⟨⟨by omega, holds.1⟩, ih ?_ holds.2⟩
    rw [calls_step]
    omega

theorem mem_pending {ledger : Ledger} {tenant : String} {number : Nat} {entry : Entry} :
    (number, entry) ∈ ledger.pending tenant ↔
      ledger.entries.get number = some entry ∧ entry.tenant = tenant ∧ entry.status = .pending := by
  rw [pending, List.mem_filter, decide_eq_true_eq, ← Table.mem_entries]
  constructor
  · rintro ⟨member, own⟩
    obtain ⟨⟨number', entry'⟩, listed, same⟩ := List.mem_map.mp member
    cases same
    exact ⟨listed, own⟩
  · rintro ⟨listed, own⟩
    exact ⟨List.mem_map.mpr ⟨_, listed, rfl⟩, own⟩

theorem nodup_pending (ledger : Ledger) (tenant : String) : ((ledger.pending tenant).map Prod.fst).Nodup := by
  have keys : ((ledger.entries.entries.map fun item => (item.1, item.2)).map Prod.fst).Nodup := by
    rw [List.map_map]
    exact ledger.entries.nodupKeys
  exact (List.filter_sublist.map Prod.fst).nodup keys

end Ledger

/-! ## The calls of a store -/

/-- The identifiers and instants that the calls of a client draw, by the number of the call. -/
structure Environment where
  uuid4 : Nat → Uuid
  clock : Nat → Datetime

variable (environment : Environment)

/-- The first calls draw identifiers that differ. -/
def Environment.Fresh (count : Nat) : Prop :=
  ∀ first < count, ∀ second < count, environment.uuid4 first = environment.uuid4 second → first = second

def Environment.text : Reference → String
  | .created number => (environment.uuid4 number).text
  | .text approvalId => approvalId

def Environment.operation (ledger : Ledger) : Request → Operation
  | .createPending requestId requester query tenant =>
    .createPending requestId requester query tenant (environment.uuid4 ledger.calls) (environment.clock ledger.calls)
  | .decide reference decision reviewer reason tenant =>
    .decide (environment.text reference) decision reviewer reason tenant (environment.clock ledger.calls)
  | .get reference tenant => .get (environment.text reference) tenant
  | .listPending tenant => .listPending tenant

/-- The calls of one client. -/
def Environment.call (client : Nat) (ledger : Ledger) (request : Request) : StoreCall :=
  ⟨client, environment.operation ledger request⟩

/-- A record is that of an entry, up to its identifier and instants. -/
structure Stands (number : Nat) (entry : Entry) (record : ApprovalRecord) : Prop where
  approvalId : record.approvalId = (environment.uuid4 number).text
  requestId : record.requestId = entry.requestId
  requester : record.requester = entry.requester
  tenant : record.tenant = entry.tenant
  querySha256 : record.querySha256 = entry.querySha256
  status : record.status = entry.status
  reviewer : record.reviewer = entry.reviewer
  reason : record.reason = entry.reason
  createdAt : record.createdAt = environment.clock number
  decidedAt : record.decidedAt.isSome = decide (entry.status ≠ .pending)

/-- The answer of a store is the report on the ledger; a list may have ties in any order. -/
inductive Reports : Except StoreError Answer → Report → Prop where
  | created {number : Nat} {entry : Entry} {record : ApprovalRecord} (stands : Stands environment number entry record) :
      Reports (.ok (.created record)) (.created number entry)
  | decided {number : Nat} {entry : Entry} {record : ApprovalRecord} (stands : Stands environment number entry record) :
      Reports (.ok (.decided record)) (.decided number entry)
  | undecidable : Reports (.error .undecidable) .undecidable
  | absent : Reports (.ok (.got none)) (.got none)
  | found {number : Nat} {entry : Entry} {record : ApprovalRecord} (stands : Stands environment number entry record) :
      Reports (.ok (.got (some record))) (.got (some (number, entry)))
  | listed {records : List ApprovalRecord} {pending ordered : List (Nat × Entry)} (permuted : ordered.Perm pending)
      (stand : List.Forall₂ (fun item record => Stands environment item.1 item.2 record) ordered records)
      (chronological : Chronological records) : Reports (.ok (.listed records)) (.listed pending)

end AgentPlatform.State
