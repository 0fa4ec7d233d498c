import AgentPlatform.Base.Alone
import AgentPlatform.State.Instants
import AgentPlatform.State.SQLiteDecisions

/-! # The order of the texts of instants

The texts are compared character by character, the instants part by part. -/

namespace AgentPlatform.State

theorem append_lt_append_iff {α : Type} [LinearOrder α] {first second : List α} (aligned : first.length = second.length)
    (rest rest' : List α) : first ++ rest < second ++ rest' ↔ first < second ∨ first = second ∧ rest < rest' := by
  induction first generalizing second with
  | nil =>
    obtain rfl : second = [] := List.length_eq_zero_iff.mp aligned.symm
    simp
  | cons a first ih =>
    cases second with
    | nil => cases aligned
    | cons b second =>
      rw [List.cons_append, List.cons_append, List.cons_lt_cons_iff, List.cons_lt_cons_iff,
        ih (Nat.succ.inj aligned), List.cons.injEq]
      tauto

theorem digitChar_lt_iff {a b : Nat} (small : a < 10) (small' : b < 10) :
    Nat.digitChar a < Nat.digitChar b ↔ a < b := by
  have all : ∀ a b : Fin 10, Nat.digitChar a < Nat.digitChar b ↔ a < b := by decide
  exact all ⟨a, small⟩ ⟨b, small'⟩

theorem decimal_inj {width value value' : Nat} (fits : value < 10 ^ width) (fits' : value' < 10 ^ width) :
    decimal width value = decimal width value' ↔ value = value' := by
  constructor
  · intro same
    rw [← Nat.mod_eq_of_lt fits, ← Nat.mod_eq_of_lt fits', ← number_decimal, ← number_decimal, same]
  · rintro rfl
    rfl

theorem decimal_lt_iff {width value value' : Nat} (fits : value < 10 ^ width) (fits' : value' < 10 ^ width) :
    decimal width value < decimal width value' ↔ value < value' := by
  induction width generalizing value value' with
  | zero =>
    simp only [decimal, List.lt_irrefl, false_iff]
    omega
  | succ width ih =>
    rw [Nat.pow_succ] at fits fits'
    have high : value / 10 < 10 ^ width := Nat.div_lt_of_lt_mul (by omega)
    have high' : value' / 10 < 10 ^ width := Nat.div_lt_of_lt_mul (by omega)
    rw [decimal, decimal, append_lt_append_iff (by rw [length_decimal, length_decimal]), ih high high',
      decimal_inj high high', List.cons_lt_cons_iff, digitChar_lt_iff (by omega) (by omega)]
    simp only [List.lt_irrefl, and_false, or_false]
    omega

theorem decimal_append_lt_iff {width value value' : Nat} (fits : value < 10 ^ width) (fits' : value' < 10 ^ width)
    (rest rest' : List Char) :
    decimal width value ++ rest < decimal width value' ++ rest' ↔ value < value' ∨ value = value' ∧ rest < rest' := by
  rw [append_lt_append_iff (by rw [length_decimal, length_decimal]), decimal_lt_iff fits fits', decimal_inj fits fits']

theorem cons_lt_cons_self (c : Char) (rest rest' : List Char) : c :: rest < c :: rest' ↔ rest < rest' := by
  simp

def fraction (microsecond : Nat) : List Char :=
  (if microsecond = 0 then [] else '.' :: decimal 6 microsecond) ++ "+00:00".toList

/-- Without a fraction the sign of the offset stands where the point would, and comes before it. -/
theorem fraction_lt_iff {first second : Nat} (fits : first < 10 ^ 6) (fits' : second < 10 ^ 6) :
    fraction first < fraction second ↔ first < second := by
  rw [fraction, fraction]
  by_cases zero : first = 0
  · by_cases zero' : second = 0
    · subst zero zero'
      simp
    · subst zero
      rw [if_pos rfl, if_neg zero', List.nil_append, List.cons_append]
      exact ⟨fun _ => Nat.pos_of_ne_zero zero', fun _ => List.cons_lt_cons_iff.mpr (.inl (by decide))⟩
  · by_cases zero' : second = 0
    · subst zero'
      rw [if_neg zero, if_pos rfl, List.nil_append, List.cons_append]
      have before : ¬ '.' < '+' := by decide
      have apart : '.' ≠ '+' := by decide
      constructor
      · intro less
        rcases List.cons_lt_cons_iff.mp less with less | ⟨same, -⟩
        · exact absurd less before
        · exact absurd same apart
      · exact fun less => absurd less (Nat.not_lt_zero _)
    · rw [if_neg zero, if_neg zero', List.cons_append, List.cons_append, cons_lt_cons_self,
        decimal_append_lt_iff fits fits']
      simp only [List.lt_irrefl, and_false, or_false]

theorem Datetime.toList_isoformat (instant : Datetime) :
    instant.isoformat.toList = decimal 4 instant.year ++ '-' :: (decimal 2 instant.month ++
      '-' :: (decimal 2 instant.day ++ 'T' :: (decimal 2 instant.hour ++ ':' :: (decimal 2 instant.minute ++
        ':' :: (decimal 2 instant.second ++ fraction instant.microsecond))))) := by
  simp only [Datetime.isoformat, fraction, String.toList_ofList, List.append_assoc, List.cons_append]

theorem Datetime.isoformat_lt_iff (first second : Datetime) :
    first.isoformat < second.isoformat ↔ first.parts < second.parts := by
  have year := first.yearRange
  have year' := second.yearRange
  have month := first.monthRange
  have month' := second.monthRange
  have day := first.dayRange
  have day' := second.dayRange
  have hour := first.hourRange
  have hour' := second.hourRange
  have minute := first.minuteRange
  have minute' := second.minuteRange
  have seconds := first.secondRange
  have seconds' := second.secondRange
  have micro := first.microsecondRange
  have micro' := second.microsecondRange
  rw [String.lt_iff_toList_lt, Datetime.toList_isoformat, Datetime.toList_isoformat,
    decimal_append_lt_iff (by omega) (by omega), cons_lt_cons_self, decimal_append_lt_iff (by omega) (by omega),
    cons_lt_cons_self, decimal_append_lt_iff (by omega) (by omega), cons_lt_cons_self,
    decimal_append_lt_iff (by omega) (by omega), cons_lt_cons_self, decimal_append_lt_iff (by omega) (by omega),
    cons_lt_cons_self, decimal_append_lt_iff (by omega) (by omega), fraction_lt_iff (by omega) (by omega)]
  simp only [Datetime.parts, List.cons_lt_cons_iff, List.lt_irrefl, and_false, or_false]

theorem Datetime.isoformat_le_iff (first second : Datetime) :
    first.isoformat ≤ second.isoformat ↔ first.parts ≤ second.parts := by
  rw [← not_lt, ← not_lt, Datetime.isoformat_lt_iff]

def Chronological (records : List ApprovalRecord) : Prop :=
  records.Pairwise fun first second => first.createdAt.parts ≤ second.createdAt.parts

/-- The creation text is that of an instant. -/
def StoredRecord.Dated (row : StoredRecord) : Prop := ∃ instant : Datetime, row.createdAt = instant.isoformat

section

variable {externals : Externals}

theorem StoredRecord.Dated.createdAt_eq {row : StoredRecord} {record : ApprovalRecord} (dated : row.Dated)
    (valid : row.validate externals = some record) : row.createdAt = record.createdAt.isoformat := by
  obtain ⟨instant, text⟩ := dated
  obtain ⟨createdAt, decidedAt, parsed, -, rfl⟩ := StoredRecord.of_validate valid
  rw [text, externals.parse_isoformat] at parsed
  rw [text, Option.some.inj parsed]

theorem exists_of_mapM_validate {rows : List StoredRecord} {records : List ApprovalRecord}
    (valid : rows.mapM (StoredRecord.validate externals) = some records) {record : ApprovalRecord}
    (member : record ∈ records) : ∃ row ∈ rows, row.validate externals = some record := by
  induction rows generalizing records with
  | nil =>
    obtain rfl : [] = records := Option.some.inj valid
    cases member
  | cons row rows ih =>
    rw [List.mapM_cons] at valid
    obtain ⟨first, validFirst, valid⟩ := Option.bind_eq_some_iff.mp valid
    obtain ⟨others, validOthers, same⟩ := Option.bind_eq_some_iff.mp valid
    obtain rfl : first :: others = records := Option.some.inj same
    rcases List.mem_cons.mp member with rfl | later
    · exact ⟨row, List.mem_cons_self, validFirst⟩
    · obtain ⟨other, listed, validOther⟩ := ih validOthers later
      exact ⟨other, List.mem_cons_of_mem _ listed, validOther⟩

theorem chronological_of_mapM_validate {rows : List StoredRecord} {records : List ApprovalRecord}
    (sorted : rows.Pairwise fun first second => first.createdAt ≤ second.createdAt) (dated : ∀ row ∈ rows, row.Dated)
    (valid : rows.mapM (StoredRecord.validate externals) = some records) : Chronological records := by
  induction rows generalizing records with
  | nil =>
    obtain rfl : [] = records := Option.some.inj valid
    exact List.Pairwise.nil
  | cons row rows ih =>
    obtain ⟨below, sorted⟩ := List.pairwise_cons.mp sorted
    obtain ⟨datedRow, dated⟩ := List.forall_mem_cons.mp dated
    rw [List.mapM_cons] at valid
    obtain ⟨first, validFirst, valid⟩ := Option.bind_eq_some_iff.mp valid
    obtain ⟨others, validOthers, same⟩ := Option.bind_eq_some_iff.mp valid
    obtain rfl : first :: others = records := Option.some.inj same
    refine List.pairwise_cons.mpr ⟨fun record member => ?_, ih sorted dated validOthers⟩
    obtain ⟨other, listed, validOther⟩ := exists_of_mapM_validate validOthers member
    rw [← Datetime.isoformat_le_iff, ← datedRow.createdAt_eq validFirst,
      ← (dated other listed).createdAt_eq validOther]
    exact below other listed

end

namespace SQLite

open Interleaving Python

variable {externals : Externals}

def Database.Dated (database : Database) : Prop :=
  ∀ approvalId row, database.approvals.get approvalId = some row → row.Dated

def Command.Dated : Command → Prop
  | .insert row => row.Dated
  | _ => True

/-- Every listing answers a call for the tenant of its records, which are pending and in order. -/
def ListingsOrdered (log : List StoreObservation) : Prop :=
  ∀ id records, .responded id (.ok (.listed records)) ∈ log →
    ∃ client tenant, .invoked id ⟨client, .listPending tenant⟩ ∈ log ∧
      (∀ record ∈ records, record.tenant = tenant ∧ record.status = .pending) ∧ Chronological records

/-- Statements may fail, and other calls may do to the rows what they like. -/
def chronology : Discipline Database StoreCall Effect (Except StoreError Answer) where
  Invariant database log := database.Dated ∧ ListingsOrdered log
  Guarantee _ _ _ := True
  Allowed _ := True
  quiet _ _ := trivial

theorem ListingsOrdered.append {log out : List StoreObservation} (ordered : ListingsOrdered log)
    (unlisted : ∀ id records, .responded id (.ok (.listed records)) ∉ out) : ListingsOrdered (log ++ out) := by
  intro id records responded
  rcases List.mem_append.mp responded with responded | responded
  · obtain ⟨client, tenant, invoked, holds⟩ := ordered id records responded
    exact ⟨client, tenant, List.mem_append_left _ invoked, holds⟩
  · exact absurd responded (unlisted id records)

theorem execute_dated {database after : Database} {c : Command} {reply : Reply c} {out : List Effect}
    (dated : database.Dated) (fresh : c.Dated) (ran : execute externals database c = (after, reply, out)) :
    after.Dated := by
  have set {key : String} {row : StoredRecord} (datedRow : row.Dated) :
      Database.Dated { database with approvals := database.approvals.set key row } := by
    intro approvalId other found
    rw [Table.get_set] at found
    split at found
    · exact Option.some.inj found ▸ datedRow
    · exact dated approvalId other found
  cases c with
  | insert row =>
    simp only [execute] at ran
    split at ran
    · cases ran
      exact dated
    · cases ran
      exact set fresh
  | update decision reviewer reason decidedAt approvalId tenant =>
    simp only [execute] at ran
    split at ran
    · cases ran
      exact dated
    · rename_i row found
      split at ran
      · cases ran
        exact set (dated approvalId row found)
      · cases ran
        exact dated
  | _ =>
    cases ran
    exact dated

theorem exec_dated {id : Nat} {database after : Database} {outcome : Outcome} {c : Command} {reply : Reply c}
    {out : List Effect} (dated : database.Dated) (fresh : c.Dated)
    (ran : (backend externals).exec id database outcome c = some (after, reply, out)) : after.Dated := by
  cases outcome with
  | answered => exact execute_dated dated fresh (Option.some.inj ran)
  | failed =>
    simp only [backend, Option.map_eq_some_iff] at ran
    obtain ⟨_, _, same⟩ := ran
    cases same
    exact dated

/-! ## Proof outlines -/

/-- An outline of a call, of which only the invocation has to be remembered. -/
abbrev Dates (externals : Externals) (id : Nat) (call : StoreCall) (point : StoreProgram (Except StoreError Answer)) :
    Prop :=
  Outline chronology (backend externals) id (Seen [.invoked id call]) point

section

variable {id client : Nat} {call : StoreCall}

theorem dates_done {answer : Except StoreError Answer} (unlisted : ∀ records, answer ≠ .ok (.listed records)) :
    Dates externals id call (.done answer) := by
  refine .done (stable_seen id _) fun _ log invariant _ => ⟨invariant.1, invariant.2.append ?_⟩
  intro other records responded
  cases List.mem_singleton.mp responded
  exact unlisted records rfl

theorem dates_command {c : Command} {next : Reply c → StoreProgram (Except StoreError Answer)} (fresh : c.Dated)
    (onward : ∀ reply, Dates externals id call (next reply)) : Dates externals id call (.command c next) := by
  refine .command (fun _ => Seen [.invoked id call]) (stable_seen id _) ?_ onward
  intro database log outcome after reply out invariant seen ran _
  exact ⟨⟨exec_dated invariant.1 fresh ran, invariant.2.append (by simp)⟩, trivial,
    fun _ member => List.mem_append_left _ (seen member)⟩

theorem dates_get {approvalId tenant : String}
    {rest : Except StoreError (Option ApprovalRecord) → StoreProgram (Except StoreError Answer)}
    (onward : ∀ found, Dates externals id call (rest found)) :
    Dates externals id call ((get externals approvalId tenant).bind rest) := by
  refine dates_command trivial fun reply => ?_
  rcases reply with _ | _ | row
  · exact onward _
  · exact onward _
  · dsimp only
    split
    · exact onward _
    · exact onward _

theorem dates_createPending {requestId requester query tenant : String} {uuid4 : Uuid} {now : Datetime} :
    Dates externals id call (createPending externals client requestId requester query tenant uuid4 now) := by
  refine dates_command ⟨now, rfl⟩ fun reply => ?_
  cases reply with
  | none => exact dates_done (by simp)
  | some =>
    refine dates_get fun found => ?_
    rcases found with error | _ | record
    · exact dates_done (by simp)
    · exact dates_done (by simp)
    · exact dates_command trivial fun _ => dates_done (by simp)

theorem dates_decide {approvalId reviewer reason tenant : String} {decision : Decision} {now : Datetime} :
    Dates externals id call (decide externals client approvalId decision reviewer reason tenant now) := by
  refine dates_command trivial fun reply => ?_
  cases reply with
  | none => exact dates_done (by simp)
  | some rowcount =>
    dsimp only
    split
    · exact dates_done (by simp [StoreError.undecidable])
    · refine dates_get fun found => ?_
      rcases found with error | _ | record
      · exact dates_done (by simp)
      · exact dates_done (by simp)
      · exact dates_command trivial fun _ => dates_done (by simp)

theorem execute_selectPending {database after : Database} {tenant : String} {reply : Option (List StoredRecord)}
    {out : List Effect} (ran : execute externals database (.selectPending tenant) = (after, reply, out)) :
    after = database ∧ out = [] ∧ ∃ rows, reply = some rows ∧
      (rows.Pairwise fun first second => first.createdAt ≤ second.createdAt) ∧
      ∀ row, row ∈ rows ↔ row ∈ database.approvals.rows ∧ row.tenant = tenant ∧ row.status = .pending := by
  cases ran
  refine ⟨rfl, rfl, _, rfl, sortedBy_ordered _ _, fun row => ?_⟩
  rw [mem_sortedBy, List.mem_filter, decide_eq_true_eq]

theorem dates_listPending {tenant : String} :
    Dates externals id ⟨client, .listPending tenant⟩ (listPending externals tenant) := by
  refine .command (fun reply state log => (∀ rows, reply = some rows →
      (rows.Pairwise fun first second => first.createdAt ≤ second.createdAt) ∧
      ∀ row ∈ rows, row.Dated ∧ row.tenant = tenant ∧ row.status = .pending) ∧
    Seen [.invoked id ⟨client, .listPending tenant⟩] state log) (stable_seen id _) ?_ ?_
  · intro database log outcome after reply out invariant seen ran _
    have fresh : (Command.selectPending tenant).Dated := trivial
    refine ⟨⟨exec_dated invariant.1 fresh ran, invariant.2.append (by simp)⟩, trivial, fun rows given => ?_,
      fun _ member => List.mem_append_left _ (seen member)⟩
    cases outcome with
    | failed =>
      cases ran
      cases given
    | answered =>
      obtain ⟨-, -, rows', given', sorted, members⟩ := execute_selectPending (Option.some.inj ran)
      obtain rfl : rows' = rows := Option.some.inj (given'.symm.trans given)
      refine ⟨sorted, fun row member => ?_⟩
      obtain ⟨stored, own⟩ := (members row).mp member
      obtain ⟨approvalId, found⟩ := Table.mem_rows.mp stored
      exact ⟨invariant.1 approvalId row found, own⟩
  · refine fun reply => .given fun selected => ?_
    cases reply with
    | none => exact dates_done (by simp)
    | some rows =>
      obtain ⟨sorted, members⟩ := selected rows rfl
      dsimp only
      split
      · exact dates_done (by simp)
      · rename_i records valid
        refine .done (stable_seen id _) fun _ log invariant seen => ⟨invariant.1, fun other listed responded => ?_⟩
        rcases List.mem_append.mp responded with responded | responded
        · obtain ⟨client, tenant, invoked, holds⟩ := invariant.2 other listed responded
          exact ⟨client, tenant, List.mem_append_left _ invoked, holds⟩
        · cases List.mem_singleton.mp responded
          refine ⟨client, tenant, List.mem_append_left _ (seen (List.mem_singleton_self _)), fun record member => ?_,
            chronological_of_mapM_validate sorted (fun row member => (members row member).1) valid⟩
          obtain ⟨row, listed, validRow⟩ := exists_of_mapM_validate valid member
          obtain ⟨-, sameTenant, sameStatus⟩ := StoredRecord.validate_fields validRow
          obtain ⟨-, own, pending⟩ := members row listed
          exact ⟨sameTenant.trans own, sameStatus.trans pending⟩

end

theorem dates_governs (externals : Externals) : Governs chronology (backend externals) (program externals) where
  initial := ⟨fun approvalId row found => by simp [backend] at found, fun _ _ responded => by cases responded⟩
  invoke database log id call invariant fresh := by
    have invoked : Seen [.invoked id call] database (log ++ [.invoked id call]) := by simp [Seen]
    refine ⟨⟨invariant.1, invariant.2.append (by simp)⟩, _, invoked, ?_⟩
    obtain ⟨client, operation⟩ := call
    cases operation with
    | createPending => exact dates_createPending
    | decide => exact dates_decide
    | get =>
      refine dates_get fun found => dates_done ?_
      cases found <;> simp [Except.map]
    | listPending => exact dates_listPending

/-- Texts of instants are in the order of the instants, so that every listing of a run is. -/
theorem listPending_chronological {events : List (Event StoreCall Outcome)}
    {final : Interleaving.State Database Command Reply (Except StoreError Answer)} {log : List StoreObservation}
    (ran : (store externals).run events = some (final, log)) :
    (∀ first second : Datetime, first.isoformat < second.isoformat ↔ first.parts < second.parts) ∧
      ListingsOrdered log :=
  ⟨Datetime.isoformat_lt_iff, (run_invariant (dates_governs externals) ran fun _ _ _ => trivial).2⟩

/-! ## Two approvals within a microsecond -/

def afterNoon : Datetime := { noon with microsecond := 1, microsecondRange := Nat.le_of_ble_eq_true rfl }

theorem secondDigits_length : (List.replicate 32 (Fin.last 15)).length = 32 := rfl

def secondUuid : Uuid := ⟨List.replicate 32 (Fin.last 15), secondDigits_length⟩

/-- The later instant, whose text is the longer one, is stored first. -/
def closeCreations : List (Event StoreCall Outcome) :=
  serve 0 ⟨0, .createPending "r-1" "alice" "refund" "payments" firstUuid afterNoon⟩ (List.replicate 3 .answered)
      .answered ++
    serve 1 ⟨0, .createPending "r-2" "bob" "refund" "payments" secondUuid noon⟩ (List.replicate 3 .answered)
      .answered ++
    serve 2 ⟨0, .listPending "payments"⟩ [.answered] .answered

theorem listPending_closeCreations : ∃ final log, (store referenceExternals).run closeCreations = some (final, log) ∧
    .responded 2 (.ok (.listed [buildPendingRecord referenceExternals "r-2" "bob" "refund" "payments" secondUuid noon,
      buildPendingRecord referenceExternals "r-1" "alice" "refund" "payments" firstUuid afterNoon])) ∈ log ∧
    ListingsOrdered log := by
  obtain ⟨⟨final, log⟩, ran, listed⟩ := (Option.any_eq_true _ _).mp
    (show ((store referenceExternals).run closeCreations).any (fun (_, log) =>
      .responded 2 (.ok (.listed
        [buildPendingRecord referenceExternals "r-2" "bob" "refund" "payments" secondUuid noon,
          buildPendingRecord referenceExternals "r-1" "alice" "refund" "payments" firstUuid afterNoon])) ∈ log) = true by
        decide)
  exact ⟨final, log, ran, of_decide_eq_true listed, (listPending_chronological ran).2⟩

end SQLite

end AgentPlatform.State
