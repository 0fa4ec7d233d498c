import AgentPlatform.State.Identifiers
import AgentPlatform.State.Ledger

/-! # Approvals as a register

What a store does to the records under their identifiers when a call runs alone, and that this is the ledger. -/

namespace AgentPlatform.State

open Interleaving

/-- The record that a text names, if it is one of the tenant. -/
def recordOf (resolve : String → Option String) (register : String → Option ApprovalRecord) (approvalId tenant : String) :
    Option ApprovalRecord :=
  ((resolve approvalId).bind register).filter fun record => record.tenant = tenant

/-- What a call answers, and the register after it. -/
inductive Behaves (externals : Externals) (resolve : String → Option String) (register : String → Option ApprovalRecord) :
    Operation → Except StoreError Answer → (String → Option ApprovalRecord) → Prop where
  | created {requestId requester query tenant : String} {uuid4 : Uuid} {now : Datetime} :
      Behaves externals resolve register (.createPending requestId requester query tenant uuid4 now)
        (.ok (.created (buildPendingRecord externals requestId requester query tenant uuid4 now)))
        (Function.update register uuid4.text
          (some (buildPendingRecord externals requestId requester query tenant uuid4 now)))
  | decided {approvalId reviewer reason tenant : String} {decision : Decision} {now decidedAt : Datetime}
      {old : ApprovalRecord} (found : recordOf resolve register approvalId tenant = some old)
      (pending : old.status = .pending) :
      Behaves externals resolve register (.decide approvalId decision reviewer reason tenant now)
        (.ok (.decided (old.decide decision reviewer reason decidedAt)))
        (Function.update register old.approvalId (some (old.decide decision reviewer reason decidedAt)))
  | refused {approvalId reviewer reason tenant : String} {decision : Decision} {now : Datetime}
      (closed : ∀ old, recordOf resolve register approvalId tenant = some old → old.status ≠ .pending) :
      Behaves externals resolve register (.decide approvalId decision reviewer reason tenant now) (.error .undecidable)
        register
  | got {approvalId tenant : String} :
      Behaves externals resolve register (.get approvalId tenant)
        (.ok (.got (recordOf resolve register approvalId tenant))) register
  | listed {tenant : String} {records : List ApprovalRecord} (distinct : records.Nodup)
      (members : ∀ record, record ∈ records ↔
        register record.approvalId = some record ∧ record.tenant = tenant ∧ record.status = .pending)
      (chronological : Chronological records) :
      Behaves externals resolve register (.listPending tenant) (.ok (.listed records)) register

/-- The register has the records of the ledger and no others. -/
structure Represents (environment : Environment) (ledger : Ledger) (register : String → Option ApprovalRecord) :
    Prop where
  recorded : ∀ number entry, ledger.entries.get number = some entry →
    ∃ record, register (environment.uuid4 number).text = some record ∧ Stands environment number entry record
  only : ∀ approvalId record, register approvalId = some record →
    ∃ number entry, approvalId = (environment.uuid4 number).text ∧ ledger.entries.get number = some entry
  past : ∀ number entry, ledger.entries.get number = some entry → number < ledger.calls

/-- The reference of a request, and its tenant. -/
def Request.named : Request → Option (Reference × String)
  | .decide reference _ _ _ tenant | .get reference tenant => some (reference, tenant)
  | .createPending .. | .listPending _ => none

/-- The identifier that a request refers to has been drawn. -/
def Drawn (ledger : Ledger) (request : Request) : Prop :=
  ∀ number tenant, request.named = some (.created number, tenant) → number < ledger.calls

/-- A text of the client's own names none of the tenant's records. -/
def Foreign (environment : Environment) (resolve : String → Option String) (ledger : Ledger) (request : Request) : Prop :=
  ∀ text tenant, request.named = some (.text text, tenant) → ∀ number entry,
    ledger.entries.get number = some entry → entry.tenant = tenant →
      resolve text ≠ some (environment.uuid4 number).text

section

variable {externals : Externals} {environment : Environment} {resolve : String → Option String} {ledger : Ledger}
  {register : String → Option ApprovalRecord}

theorem Environment.Fresh.eq_of_text {count first second : Nat} (fresh : environment.Fresh count) (known : first < count)
    (known' : second < count) (same : (environment.uuid4 first).text = (environment.uuid4 second).text) : first = second :=
  fresh first known second known' (Uuid.text_injective same)

theorem Represents.lt_succ (represents : Represents environment ledger register) {number : Nat} {entry : Entry}
    (found : ledger.entries.get number = some entry) : number < ledger.calls + 1 :=
  Nat.lt_succ_of_lt (represents.past number entry found)

theorem Represents.unused (represents : Represents environment ledger register)
    (fresh : environment.Fresh (ledger.calls + 1)) : register (environment.uuid4 ledger.calls).text = none := by
  cases found : register (environment.uuid4 ledger.calls).text with
  | none => rfl
  | some record =>
    obtain ⟨number, entry, same, known⟩ := represents.only _ record found
    have equal := fresh.eq_of_text (Nat.lt_succ_self _) (represents.lt_succ known) same
    exact absurd (represents.past number entry known) (by rw [← equal]; exact Nat.lt_irrefl _)

theorem Represents.empty : Represents environment .empty fun _ => none where
  recorded number entry found := by
    rw [Ledger.empty, Table.get_empty] at found
    cases found
  only approvalId record found := by cases found
  past number entry found := by
    rw [Ledger.empty, Table.get_empty] at found
    cases found

theorem Represents.same (represents : Represents environment ledger register) :
    Represents environment (ledger.next ledger.entries) register :=
  ⟨represents.recorded, represents.only, fun number entry found => (represents.past number entry found).trans
    (Nat.lt_succ_self _)⟩

theorem Represents.set (represents : Represents environment ledger register)
    (fresh : environment.Fresh (ledger.calls + 1)) {number : Nat} {entry : Entry} {record : ApprovalRecord}
    (known : number < ledger.calls + 1) (stands : Stands environment number entry record) :
    Represents environment (ledger.next (ledger.entries.set number entry))
      (Function.update register (environment.uuid4 number).text (some record)) where
  recorded other entry' found := by
    dsimp only [Ledger.next] at found
    rw [Table.get_set] at found
    by_cases same : other = number
    · rw [if_pos same] at found
      cases found
      rw [same, Function.update_self]
      exact ⟨record, rfl, stands⟩
    · rw [if_neg same] at found
      rw [Function.update_of_ne fun text => same (fresh.eq_of_text (represents.lt_succ found) known text)]
      exact represents.recorded other entry' found
  only approvalId record' found := by
    dsimp only [Ledger.next]
    by_cases same : approvalId = (environment.uuid4 number).text
    · exact ⟨number, entry, same, by rw [Table.get_set, if_pos rfl]⟩
    · rw [Function.update_of_ne same] at found
      obtain ⟨other, entry', named, stored⟩ := represents.only approvalId record' found
      have apart : other ≠ number := fun equal => same (by rw [named, equal])
      exact ⟨other, entry', named, by rw [Table.get_set, if_neg apart, stored]⟩
  past other entry' found := by
    dsimp only [Ledger.next] at found ⊢
    rw [Table.get_set] at found
    by_cases same : other = number
    · omega
    · rw [if_neg same] at found
      exact (represents.past other entry' found).trans (Nat.lt_succ_self _)

theorem Represents.find (represents : Represents environment ledger register)
    (fresh : environment.Fresh (ledger.calls + 1)) (named : ∀ uuid : Uuid, resolve uuid.text = some uuid.text) {reference : Reference} {tenant : String}
    (drawn : ∀ number, reference = .created number → number < ledger.calls)
    (foreign : ∀ text, reference = .text text → ∀ number entry, ledger.entries.get number = some entry →
      entry.tenant = tenant → resolve text ≠ some (environment.uuid4 number).text) :
    (ledger.find tenant reference = none ∧ recordOf resolve register (environment.text reference) tenant = none) ∨
      ∃ number entry record, ledger.find tenant reference = some (number, entry) ∧
        ledger.entries.get number = some entry ∧
        recordOf resolve register (environment.text reference) tenant = some record ∧
        Stands environment number entry record := by
  cases reference with
  | text text =>
    refine .inl ⟨rfl, Option.filter_eq_none_iff.mpr fun record found own => ?_⟩
    obtain ⟨approvalId, resolved, registered⟩ := Option.bind_eq_some_iff.mp found
    obtain ⟨number, entry, rfl, known⟩ := represents.only approvalId record registered
    obtain ⟨record', registered', stands⟩ := represents.recorded number entry known
    obtain rfl : record' = record := Option.some.inj (registered'.symm.trans registered)
    exact foreign text rfl number entry known (stands.tenant.symm.trans (of_decide_eq_true own)) resolved
  | created number =>
    rw [Ledger.find, recordOf, Environment.text, named, Option.bind_some]
    cases known : ledger.entries.get number with
    | none =>
      refine .inl ⟨rfl, Option.filter_eq_none_iff.mpr fun record registered => ?_⟩
      obtain ⟨other, entry, same, found⟩ := represents.only _ record registered
      have past := Nat.lt_succ_of_lt (drawn number rfl)
      rw [← fresh.eq_of_text past (represents.lt_succ found) same, known] at found
      cases found
    | some entry =>
      obtain ⟨record, registered, stands⟩ := represents.recorded number entry known
      rw [registered, Option.filter_some, Option.filter_some, stands.tenant]
      by_cases own : entry.tenant = tenant
      · refine .inr ⟨number, entry, record, ?_, known, ?_, stands⟩
        · simp [own]
        · simp [own]
      · exact .inl ⟨by simp [own], by simp [own]⟩

theorem stands_pending (externals : Externals) (environment : Environment) (number : Nat)
    (requestId requester query tenant : String) :
    Stands environment number ⟨requestId, requester, tenant, externals.sha256 query, .pending, none, none⟩
      (buildPendingRecord externals requestId requester query tenant (environment.uuid4 number)
        (environment.clock number)) :=
  ⟨rfl, rfl, rfl, rfl, rfl, rfl, rfl, rfl, rfl, rfl⟩

theorem Stands.decide {number : Nat} {entry : Entry} {record : ApprovalRecord}
    (stands : Stands environment number entry record) (decision : Decision) (reviewer reason : String)
    (decidedAt : Datetime) :
    Stands environment number (entry.decide decision reviewer reason)
      (record.decide decision reviewer reason decidedAt) := by
  refine ⟨stands.approvalId, stands.requestId, stands.requester, stands.tenant, stands.querySha256, rfl, rfl, rfl,
    stands.createdAt, ?_⟩
  cases decision with
  | approved => rfl
  | rejected => rfl

theorem exists_forall₂ {α β : Type} {Known : α → Prop} {Relates : α → β → Prop} {values : List β}
    (known : ∀ value ∈ values, ∃ item, Known item ∧ Relates item value) :
    ∃ items, (∀ item ∈ items, Known item) ∧ List.Forall₂ Relates items values := by
  induction values with
  | nil => exact ⟨[], fun _ member => absurd member List.not_mem_nil, .nil⟩
  | cons value values ih =>
    obtain ⟨item, here, relates⟩ := known value List.mem_cons_self
    obtain ⟨items, others, rest⟩ := ih fun other member => known other (List.mem_cons_of_mem _ member)
    exact ⟨item :: items, List.forall_mem_cons.mpr ⟨here, others⟩, .cons relates rest⟩

theorem exists_related {α β : Type} {Relates : α → β → Prop} {items : List α} {values : List β}
    (related : List.Forall₂ Relates items values) {item : α} (member : item ∈ items) :
    ∃ value ∈ values, Relates item value := by
  induction related with
  | nil => cases member
  | cons here rest ih =>
    rename_i first value items values
    rcases List.mem_cons.mp member with rfl | later
    · exact ⟨value, List.mem_cons_self, here⟩
    · obtain ⟨other, listed, relates⟩ := ih later
      exact ⟨other, List.mem_cons_of_mem _ listed, relates⟩

theorem nodup_of_forall₂ {α β : Type} {Relates : α → β → Prop} {items : List α} {values : List β}
    (related : List.Forall₂ Relates items values) (distinct : values.Nodup)
    (single : ∀ item, ∀ value ∈ values, ∀ other ∈ values, Relates item value → Relates item other → value = other) :
    items.Nodup := by
  induction related with
  | nil => exact List.nodup_nil
  | cons here rest ih =>
    rename_i item value items values
    obtain ⟨new, distinct⟩ := List.nodup_cons.mp distinct
    apply List.nodup_cons.mpr
    constructor
    · intro member
      obtain ⟨other, listed, relates⟩ := exists_related rest member
      have same := single item value List.mem_cons_self other (List.mem_cons_of_mem _ listed) here relates
      rw [same] at new
      exact new listed
    · exact ih distinct fun item value listed other listed' =>
        single item value (List.mem_cons_of_mem _ listed) other (List.mem_cons_of_mem _ listed')

theorem Represents.pending (represents : Represents environment ledger register)
    (fresh : environment.Fresh (ledger.calls + 1)) {tenant : String}
    {records : List ApprovalRecord} (distinct : records.Nodup)
    (members : ∀ record, record ∈ records ↔
      register record.approvalId = some record ∧ record.tenant = tenant ∧ record.status = .pending) :
    ∃ ordered, ordered.Perm (ledger.pending tenant) ∧
      List.Forall₂ (fun item record => Stands environment item.1 item.2 record) ordered records := by
  have entered : ∀ record ∈ records, ∃ item : Nat × Entry, item ∈ ledger.pending tenant ∧
      Stands environment item.1 item.2 record := by
    intro record member
    obtain ⟨registered, own, pending⟩ := (members record).mp member
    obtain ⟨number, entry, named, known⟩ := represents.only _ record registered
    obtain ⟨record', registered', stands⟩ := represents.recorded number entry known
    rw [← named, registered] at registered'
    obtain rfl : record = record' := Option.some.inj registered'
    exact ⟨(number, entry), Ledger.mem_pending.mpr ⟨known, stands.tenant.symm.trans own, stands.status.symm.trans pending⟩,
      stands⟩
  obtain ⟨ordered, listed, stand⟩ := exists_forall₂ entered
  -- a record is found under its identifier, which is that of its number
  have once : ordered.Nodup := by
    apply nodup_of_forall₂ stand distinct
    intro item record member record' member' stands stands'
    have registered := ((members record).mp member).1
    have registered' := ((members record').mp member').1
    rw [stands.approvalId] at registered
    rw [stands'.approvalId, registered] at registered'
    exact Option.some.inj registered'
  have all : ∀ item ∈ ledger.pending tenant, item ∈ ordered := by
    intro item member
    obtain ⟨number, entry⟩ := item
    obtain ⟨known, own, pending⟩ := Ledger.mem_pending.mp member
    obtain ⟨record, registered, stands⟩ := represents.recorded number entry known
    have present : record ∈ records :=
      (members record).mpr ⟨by rw [stands.approvalId, registered], stands.tenant.trans own, stands.status.trans pending⟩
    obtain ⟨⟨number', entry'⟩, listed', stands'⟩ := exists_related stand.flip present
    have known' := (Ledger.mem_pending.mp (listed _ listed')).1
    obtain rfl : number' = number := fresh.eq_of_text (represents.lt_succ known') (represents.lt_succ known)
      (stands'.approvalId.symm.trans stands.approvalId)
    obtain rfl : entry' = entry := Option.some.inj (known'.symm.trans known)
    exact listed'
  exact ⟨ordered, (List.perm_ext_iff_of_nodup once (.of_map _ (ledger.nodup_pending tenant))).mpr fun item =>
    ⟨listed item, all item⟩, stand⟩

/-- A step of the register is a step of the ledger. -/
theorem Represents.step (represents : Represents environment ledger register)
    (fresh : environment.Fresh (ledger.calls + 1)) (named : ∀ uuid : Uuid, resolve uuid.text = some uuid.text)
    {request : Request} (drawn : Drawn ledger request) (foreign : Foreign environment resolve ledger request) {answer : Except StoreError Answer}
    {register' : String → Option ApprovalRecord}
    (behaves : Behaves externals resolve register (environment.operation ledger request) answer register') :
    Reports environment answer (ledger.step externals.sha256 request).2 ∧
      Represents environment (ledger.step externals.sha256 request).1 register' := by
  cases request with
  | createPending requestId requester query tenant =>
    cases behaves
    have stands := stands_pending externals environment ledger.calls requestId requester query tenant
    exact ⟨.created stands, represents.set fresh (Nat.lt_succ_self _) stands⟩
  | decide reference decision reviewer reason tenant =>
    have meant := @Represents.find _ _ _ _ represents fresh named reference tenant
      (fun number same => drawn number tenant (by rw [same]; rfl)) fun text same => foreign text tenant (by rw [same]; rfl)
    rcases meant with ⟨missing, unfound⟩ | ⟨number, entry, record, found, known, recorded, stands⟩
    · cases behaves with
      | decided found pending =>
        rw [unfound] at found
        cases found
      | refused closed =>
        rw [Ledger.step, missing]
        exact ⟨.undecidable, represents.same⟩
    · cases behaves with
      | decided found' pending =>
        obtain rfl := Option.some.inj (recorded.symm.trans found')
        have decided := stands.decide decision reviewer reason
        rw [Ledger.step, found]
        dsimp only
        rw [if_pos (stands.status.symm.trans pending), stands.approvalId]
        exact ⟨.decided (decided _), represents.set fresh (represents.lt_succ known) (decided _)⟩
      | refused closed =>
        rw [Ledger.step, found]
        dsimp only
        rw [if_neg fun pending => closed record recorded (stands.status.trans pending)]
        exact ⟨.undecidable, represents.same⟩
  | get reference tenant =>
    have meant := @Represents.find _ _ _ _ represents fresh named reference tenant
      (fun number same => drawn number tenant (by rw [same]; rfl)) fun text same => foreign text tenant (by rw [same]; rfl)
    cases behaves
    rcases meant with ⟨missing, unfound⟩ | ⟨number, entry, record, found, known, recorded, stands⟩
    · rw [Ledger.step, missing, unfound]
      exact ⟨.absent, represents.same⟩
    · rw [Ledger.step, found, recorded]
      exact ⟨.found stands, represents.same⟩
  | listPending tenant =>
    cases behaves with
    | listed distinct members chronological =>
      obtain ⟨ordered, permuted, stand⟩ := represents.pending fresh distinct members
      exact ⟨.listed permuted stand chronological, represents.same⟩

/-- A store whose calls behave as on a register realizes the ledger. -/
theorem realizes_of_settles {σ κ χ : Type} {Reply : κ → Type} {backend : Backend σ κ χ Effect Reply}
    {program : StoreCall → Program κ Reply (Except StoreError Answer)} {Good : χ → Prop} (last : χ)
    {view : σ → String → Option ApprovalRecord} {Sound : σ → Prop} {Fit : Operation → Prop} {client : Nat}
    (settles : ∀ id state operation, Sound state → Fit operation →
      (∀ requestId requester query tenant uuid4 now,
        operation = .createPending requestId requester query tenant uuid4 now → view state uuid4.text = none) →
      Settles backend Good id (fun after answer =>
        Behaves externals resolve (view state) operation answer (view after) ∧ Sound after)
        (program ⟨client, operation⟩) state)
    (sound : Sound backend.init) (blank : view backend.init = fun _ => none)
    (named : ∀ uuid : Uuid, resolve uuid.text = some uuid.text) {requests : List Request}
    (fresh : environment.Fresh requests.length)
    (holds : Each (Ledger.step externals.sha256) (fun ledger request =>
      Fit (environment.operation ledger request) ∧ Drawn ledger request ∧ Foreign environment resolve ledger request)
      .empty requests) :
    Realizes backend program Good (Reports environment) 0 backend.init
      (operations (Ledger.step externals.sha256) (environment.call client) .empty requests)
      (outcomes (Ledger.step externals.sha256) .empty requests) := by
  have within := Ledger.each_within (Nat.le_of_eq (Nat.zero_add requests.length)) holds
  have simulates : ∀ state ledger request, Sound state ∧ Represents environment ledger (view state) →
      ledger.calls < requests.length ∧ Fit (environment.operation ledger request) ∧ Drawn ledger request ∧
        Foreign environment resolve ledger request →
      Simulates (Ledger.step externals.sha256) (environment.call client) backend program Good
        (fun state ledger => Sound state ∧ Represents environment ledger (view state)) (Reports environment) state ledger
        request := by
    intro state ledger request related holds id
    obtain ⟨sound, represents⟩ := related
    obtain ⟨below, fit, drawn, foreign⟩ := holds
    have freshHere : environment.Fresh (ledger.calls + 1) := fun first known second known' =>
      fresh first (by omega) second (by omega)
    have unused : ∀ requestId requester query tenant uuid4 now,
        environment.operation ledger request = .createPending requestId requester query tenant uuid4 now →
          view state uuid4.text = none := by
      intro requestId requester query tenant uuid4 now same
      cases request with
      | createPending =>
        cases same
        exact represents.unused freshHere
      | decide => cases same
      | get => cases same
      | listPending => cases same
    refine (settles id state _ sound fit unused).imp fun after answer kept => ?_
    obtain ⟨behaves, sound'⟩ := kept
    obtain ⟨reported, onward⟩ := represents.step freshHere named drawn foreign behaves
    exact ⟨reported, sound', onward⟩
  have related : Represents environment .empty (view backend.init) := by
    rw [blank]
    exact .empty
  exact realizes_of_simulates last simulates ⟨sound, related⟩ within

end

end AgentPlatform.State
