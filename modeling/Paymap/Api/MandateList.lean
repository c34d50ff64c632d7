import Paymap.Client.Domain
import Paymap.Lib.JsDate
import Paymap.Relayer.Tables
import Paymap.Token.Mock

set_option autoImplicit false

/-! # The list of a merchant's mandates

`GET /mandates` (`apps/api/src/routes/mandates.ts`) reads every mandate of the index on the chain. A row whose
mandate is not found there is answered with the status that was cached, `live: false`. Anything else that is
thrown on the way, by the read or by writing down one of the dates, is thrown again, and with it the whole list
fails. So the list degrades row by row as long as no read fails otherwise and no record has a time that is too
far away for a `Date`; the contract takes any `u64`.

The text of a `Date` is another notation for its milliseconds and is not spelled out, and the rows are those
that the query has found, in its order.
-/

namespace Paymap.Api.MandateList

open Registry (Address BytesN MandateStatus)
open Relayer (Time)

/-! ## Reading -/

inductive Thrown where
  | mandateReadError (errorName : String)
  /-- `toISOString` of an invalid date. -/
  | rangeError
  | other
deriving DecidableEq

/-- What comes of asking the contract for a mandate. -/
inductive Reading where
  | mandate (record : Registry.Mandate)
  | err (errorName : String)
  /-- The simulation has failed, or the RPC is not there. -/
  | failed
deriving DecidableEq

/-- `getMandate` of `contract-client`. -/
def getMandate : Reading → Except Thrown Client.Mandate
  | .mandate record => .ok (Client.toDomainMandate record)
  | .err errorName => .error (.mandateReadError errorName)
  | .failed => .error .other

/-! ## Writing -/

inductive AmountRuleResponse where
  | fixed (amountBaseUnits : String)
  | variable (maxPerChargeBaseUnits : String)
deriving DecidableEq

def amountRuleResponse : Client.AmountRule → AmountRuleResponse
  | .fixed amount => .fixed (toString amount)
  | .variableUpTo maxPerCharge => .variable (toString maxPerCharge)

structure MandateResponse where
  id : BytesN
  payer : Address
  merchant : Address
  asset : Address
  status : MandateStatus
  amountRule : AmountRuleResponse
  maxPerPeriodBaseUnits : String
  periodSeconds : String
  minIntervalSeconds : String
  startAt : ℤ
  expiresAt : ℤ
  maxSuccessfulCharges : ℤ
  successfulCharges : ℤ
  totalCollectedBaseUnits : String
  currentPeriodStart : ℤ
  currentPeriodCollectedBaseUnits : String
  lastChargedAt : Option ℤ
  createdAt : ℤ
deriving DecidableEq

/-- `new Date(Number(seconds) * 1000).toISOString()`. -/
def toISOString (seconds : ℤ) : Except Thrown ℤ := (Js.dateOfSeconds seconds).elim (.error .rangeError) .ok

def toMandateResponse (mandate : Client.Mandate) : Except Thrown MandateResponse := do
  let startAt ← toISOString mandate.startAt
  let expiresAt ← toISOString mandate.expiresAt
  let currentPeriodStart ← toISOString mandate.currentPeriodStart
  let lastChargedAt ← mandate.lastChargedAt.mapM toISOString
  let createdAt ← toISOString mandate.createdAt
  return {
    id := mandate.id
    payer := mandate.payer
    merchant := mandate.merchant
    asset := mandate.asset
    status := mandate.status
    amountRule := amountRuleResponse mandate.amountRule
    maxPerPeriodBaseUnits := toString mandate.maxPerPeriod
    periodSeconds := toString mandate.periodSeconds
    minIntervalSeconds := toString mandate.minIntervalSeconds
    startAt := startAt
    expiresAt := expiresAt
    maxSuccessfulCharges := mandate.maxSuccessfulCharges
    successfulCharges := mandate.successfulCharges
    totalCollectedBaseUnits := toString mandate.totalCollected
    currentPeriodStart := currentPeriodStart
    currentPeriodCollectedBaseUnits := toString mandate.currentPeriodCollected
    lastChargedAt := lastChargedAt
    createdAt := createdAt }

/-! ## The route -/

/-- A row of `MandateIndex`. -/
structure IndexRow where
  mandateId : String
  status : MandateStatus
  lastIndexedAt : Option Time
deriving DecidableEq

inductive ListEntry where
  | live (mandate : MandateResponse) (mandateId : String)
  | cached (mandateId : String) (cachedStatus : MandateStatus) (lastIndexedAt : Option Time)
deriving DecidableEq

inductive ListResponse where
  | ok (data : List ListEntry)
  /-- `500 INTERNAL_ERROR`. -/
  | internalError
deriving DecidableEq

def listEntry (read : String → Reading) (row : IndexRow) : Except Thrown ListEntry :=
  match getMandate (read row.mandateId) >>= toMandateResponse with
  | .ok response => .ok (.live response row.mandateId)
  | .error (.mandateReadError _) => .ok (.cached row.mandateId row.status row.lastIndexedAt)
  | .error thrown => .error thrown

/-- `GET /mandates`. `Promise.all` fails when one of the rows does. -/
def listMandates (read : String → Reading) (indexRows : List IndexRow) : ListResponse :=
  match indexRows.mapM (listEntry read) with
  | .ok data => .ok data
  | .error _ => .internalError

/-! ## What the list should be -/

/-- The answer has the values of the record. -/
structure MandateResponse.Denotes (response : MandateResponse) (record : Registry.Mandate) : Prop where
  id : response.id = record.id
  payer : response.payer = record.payer
  merchant : response.merchant = record.merchant
  asset : response.asset = record.asset
  status : response.status = record.status
  amountRule : response.amountRule = amountRuleResponse (Client.toDomainAmountRule record.amountRule)
  maxPerPeriod : response.maxPerPeriodBaseUnits = toString record.maxPerPeriod.val
  periodSeconds : response.periodSeconds = toString record.periodSeconds.val
  minIntervalSeconds : response.minIntervalSeconds = toString record.minIntervalSeconds.val
  startAt : response.startAt = record.startAt.val * 1000
  expiresAt : response.expiresAt = record.expiresAt.val * 1000
  maxSuccessfulCharges : response.maxSuccessfulCharges = record.maxSuccessfulCharges.val
  successfulCharges : response.successfulCharges = record.successfulCharges.val
  totalCollected : response.totalCollectedBaseUnits = toString record.totalCollected.val
  currentPeriodStart : response.currentPeriodStart = record.currentPeriodStart.val * 1000
  currentPeriodCollected :
    response.currentPeriodCollectedBaseUnits = toString record.currentPeriodCollected.val
  lastChargedAt : response.lastChargedAt = record.lastChargedAt.map fun t => t.val * 1000
  createdAt : response.createdAt = record.createdAt.val * 1000

/-- The entry of a row, after its mandate was read. -/
def ListEntry.Shows (entry : ListEntry) (row : IndexRow) : Reading → Prop
  | .mandate record => ∃ response, entry = .live response row.mandateId ∧ response.Denotes record
  | _ => entry = .cached row.mandateId row.status row.lastIndexedAt

/-- One entry for each row, in order. -/
def DegradesRowByRow (read : String → Reading) (indexRows : List IndexRow) : Prop :=
  ∃ data, listMandates read indexRows = .ok data ∧
    List.Forall₂ (fun row entry => ListEntry.Shows entry row (read row.mandateId)) indexRows data

/-! ## When it is -/

/-- The times of a record, all of which are answered. -/
def times (record : Registry.Mandate) : List U64 :=
  [record.startAt, record.expiresAt, record.currentPeriodStart, record.createdAt]
    ++ record.lastChargedAt.toList

/-- A reading that does not make the list fail. -/
def Reading.isListable : Reading → Bool
  | .mandate record => (times record).all fun t => t.val ≤ Js.lastSecond
  | .err _ => true
  | .failed => false

theorem toISOString_ok (t : U64) {ms : ℤ} :
    toISOString t.val = .ok ms ↔ t.val ≤ Js.lastSecond ∧ ms = t.val * 1000 := by
  obtain ⟨n, hn⟩ := Int.eq_ofNat_of_zero_le t.lo_le
  unfold toISOString
  rw [hn, Js.dateOfSeconds_natCast]
  by_cases hle : n ≤ Js.lastSecond
  · have hle' : (n : ℤ) ≤ Js.lastSecond := by exact_mod_cast hle
    rw [if_pos hle, Option.elim_some, Except.ok.injEq]
    exact ⟨fun h => ⟨hle', h.symm⟩, fun h => h.2.symm⟩
  · have hlt : ¬ (n : ℤ) ≤ Js.lastSecond := by exact_mod_cast hle
    rw [if_neg hle, Option.elim_none]
    exact ⟨fun h => (by cases h), fun h => absurd h.1 hlt⟩

theorem mapM_toISOString_ok (t : Option U64) {ms : Option ℤ} :
    (t.map MachineInt.val).mapM toISOString = .ok ms ↔
      (∀ u ∈ t, u.val ≤ Js.lastSecond) ∧ ms = t.map fun u => u.val * 1000 := by
  cases t with
  | none => simp [pure, Except.pure, eq_comm]
  | some u =>
      have hmap : ((some u).map MachineInt.val).mapM toISOString
          = (some <$> toISOString u.val : Except Thrown (Option ℤ)) := rfl
      rw [hmap]
      cases hms : toISOString u.val with
      | error e =>
          have hlate : ¬ u.val ≤ Js.lastSecond := fun hle => by
            rw [(toISOString_ok u).mpr ⟨hle, rfl⟩] at hms
            cases hms
          simp [Functor.map, Except.map, hlate]
      | ok x =>
          obtain ⟨hle, rfl⟩ := (toISOString_ok u).mp hms
          simp [Functor.map, Except.map, hle, eq_comm]

theorem isListable_mandate (record : Registry.Mandate) :
    (Reading.mandate record).isListable = true ↔
      record.startAt.val ≤ Js.lastSecond ∧ record.expiresAt.val ≤ Js.lastSecond ∧
      record.currentPeriodStart.val ≤ Js.lastSecond ∧
      (∀ t ∈ record.lastChargedAt, t.val ≤ Js.lastSecond) ∧
      record.createdAt.val ≤ Js.lastSecond := by
  simp only [Reading.isListable, times, List.all_append, List.all_cons, List.all_nil, Bool.and_true,
    Bool.and_eq_true, decide_eq_true_eq, List.all_eq_true, Option.mem_toList]
  tauto

/-- **A record is answered** exactly when all of its times have dates, and then with its values. -/
theorem toMandateResponse_ok (record : Registry.Mandate) {response : MandateResponse} :
    toMandateResponse (Client.toDomainMandate record) = .ok response ↔
      (Reading.mandate record).isListable = true ∧ response.Denotes record := by
  rw [isListable_mandate]
  simp only [toMandateResponse, Tx.bind_ok, Client.toDomainMandate, toISOString_ok,
    mapM_toISOString_ok, pure, Except.pure, Except.ok.injEq]
  constructor
  · rintro ⟨_, ⟨hstart, rfl⟩, _, ⟨hexpires, rfl⟩, _, ⟨hperiod, rfl⟩, _, ⟨hcharged, rfl⟩, _,
      ⟨hcreated, rfl⟩, rfl⟩
    exact ⟨⟨hstart, hexpires, hperiod, hcharged, hcreated⟩, by constructor <;> rfl⟩
  · rintro ⟨⟨hstart, hexpires, hperiod, hcharged, hcreated⟩, hdenotes⟩
    refine ⟨_, ⟨hstart, rfl⟩, _, ⟨hexpires, rfl⟩, _, ⟨hperiod, rfl⟩, _, ⟨hcharged, rfl⟩, _,
      ⟨hcreated, rfl⟩, ?_⟩
    cases response
    obtain ⟨rfl, rfl, rfl, rfl, rfl, rfl, rfl, rfl, rfl, rfl, rfl, rfl, rfl, rfl, rfl, rfl, rfl, rfl⟩ :=
      hdenotes
    rfl

theorem exists_denotes (record : Registry.Mandate) : ∃ response : MandateResponse, response.Denotes record :=
  ⟨⟨_, _, _, _, _, _, _, _, _, _, _, _, _, _, _, _, _, _⟩,
    ⟨rfl, rfl, rfl, rfl, rfl, rfl, rfl, rfl, rfl, rfl, rfl, rfl, rfl, rfl, rfl, rfl, rfl, rfl⟩⟩

/-- Nothing else is thrown on the way than that a date is invalid. -/
theorem toMandateResponse_error (record : Registry.Mandate) {thrown : Thrown}
    (h : toMandateResponse (Client.toDomainMandate record) = .error thrown) : thrown = .rangeError := by
  have hdate : ∀ {seconds : ℤ} {e : Thrown}, toISOString seconds = .error e → e = .rangeError := by
    intro seconds e he
    unfold toISOString at he
    cases hdate : Js.dateOfSeconds seconds with
    | none =>
        rw [hdate] at he
        cases he
        rfl
    | some ms =>
        rw [hdate] at he
        cases he
  have hdates : ∀ {seconds : Option ℤ} {e : Thrown}, seconds.mapM toISOString = .error e →
      e = .rangeError := by
    intro seconds e he
    cases seconds with
    | none => cases he
    | some t =>
        change (some <$> toISOString t : Except Thrown (Option ℤ)) = _ at he
        cases ht : toISOString t with
        | error e' =>
            rw [ht] at he
            cases he
            exact hdate ht
        | ok ms =>
            rw [ht] at he
            cases he
  simp only [toMandateResponse, Tx.bind_error] at h
  rcases h with h | ⟨_, -, h | ⟨_, -, h | ⟨_, -, h | ⟨_, -, h | ⟨_, -, h⟩⟩⟩⟩⟩
  · exact hdate h
  · exact hdate h
  · exact hdate h
  · exact hdates h
  · exact hdate h
  · cases h

/-- **The entry of a row** is what it should be exactly when its reading is listable. -/
theorem listEntry_ok (read : String → Reading) (row : IndexRow) :
    (∃ entry, listEntry read row = .ok entry ∧ entry.Shows row (read row.mandateId)) ↔
      (read row.mandateId).isListable = true := by
  unfold listEntry
  cases hread : read row.mandateId with
  | mandate record =>
      have hiff := @toMandateResponse_ok record
      show (∃ entry, (match toMandateResponse (Client.toDomainMandate record) with
        | .ok response => Except.ok (ListEntry.live response row.mandateId)
        | .error (.mandateReadError _) => .ok (.cached row.mandateId row.status row.lastIndexedAt)
        | .error thrown => .error thrown) = .ok entry ∧ _) ↔ _
      cases hresponse : toMandateResponse (Client.toDomainMandate record) with
      | ok response =>
          obtain ⟨hlistable, hdenotes⟩ := hiff.mp hresponse
          exact iff_of_true ⟨_, rfl, response, rfl, hdenotes⟩ hlistable
      | error thrown =>
          obtain rfl := toMandateResponse_error record hresponse
          refine iff_of_false ?_ fun hlistable => ?_
          · rintro ⟨entry, hentry, -⟩
            cases hentry
          · obtain ⟨response, hdenotes⟩ := exists_denotes record
            cases hresponse.symm.trans (hiff.mpr ⟨hlistable, hdenotes⟩)
  | err errorName => exact iff_of_true ⟨_, rfl, rfl⟩ rfl
  | failed =>
      refine iff_of_false ?_ (by decide)
      rintro ⟨entry, hentry, -⟩
      cases hentry

theorem listMandates_ok (read : String → Reading) (indexRows : List IndexRow) {data : List ListEntry} :
    listMandates read indexRows = .ok data ↔
      List.Forall₂ (fun row entry => listEntry read row = .ok entry) indexRows data := by
  rw [← Tx.mapM_ok]
  unfold listMandates
  cases indexRows.mapM (listEntry read) with
  | ok data' => simp
  | error e => simp

/-- One row is enough for the list to fail. -/
theorem DegradesRowByRow.isListable {read : String → Reading} {indexRows : List IndexRow}
    (h : DegradesRowByRow read indexRows) {row : IndexRow} (hrow : row ∈ indexRows) :
    (read row.mandateId).isListable = true := by
  obtain ⟨data, hdata, hshows⟩ := h
  obtain ⟨i, hi, rfl⟩ := List.getElem_of_mem hrow
  obtain ⟨hlength, hentries⟩ := List.forall₂_iff_get.mp ((listMandates_ok read indexRows).mp hdata)
  have hshow := (List.forall₂_iff_get.mp hshows).2 i hi (hlength ▸ hi)
  exact (listEntry_ok read _).mp ⟨_, hentries i hi (hlength ▸ hi), hshow⟩

/-- **When the list degrades row by row**: exactly when every reading is of a record whose times have
dates, or of a mandate that is not there. -/
theorem mandates_degrade_iff (read : String → Reading) (indexRows : List IndexRow) :
    DegradesRowByRow read indexRows ↔ ∀ row ∈ indexRows, (read row.mandateId).isListable = true := by
  refine ⟨fun h row hrow => h.isListable hrow, fun hlistable => ?_⟩
  have hentries : ∃ data, List.Forall₂ (fun row entry => listEntry read row = .ok entry ∧
      ListEntry.Shows entry row (read row.mandateId)) indexRows data := by
    induction indexRows with
    | nil => exact ⟨[], .nil⟩
    | cons row rows ih =>
        obtain ⟨entry, hentry⟩ := (listEntry_ok read row).mpr (hlistable row List.mem_cons_self)
        obtain ⟨data, hdata⟩ := ih fun row' hrow' => hlistable row' (List.mem_cons_of_mem row hrow')
        exact ⟨entry :: data, .cons hentry hdata⟩
  obtain ⟨data, hdata⟩ := hentries
  exact ⟨data, (listMandates_ok read indexRows).mpr (hdata.imp fun _ _ h => h.1),
    hdata.imp fun _ _ h => h.2⟩

/-! ## A mandate that no `Date` can show -/

/-- It never expires: the contract takes the last second of its time. -/
def farInput : Registry.MandateInput :=
  { Registry.mockInput with expiresAt := (MachineInt.ofInt? 18446744073709551615).getD 0 }

set_option maxRecDepth 4000 in
/-- **One record makes the list fail**, and so does one read that does not get through. -/
theorem far_mandate_fails_list :
    (∃ record, Registry.getMandate
        (Registry.run Registry.mockHost Registry.mockStart [.call ⟨.createMandate farInput, [⟨1⟩]⟩])
        (Registry.mockHost.inputId farInput) = .ok record ∧
      ¬ DegradesRowByRow (fun _ => .mandate record) [⟨"a", .active, none⟩]) ∧
    ¬ DegradesRowByRow (fun _ => .failed) [⟨"a", .active, none⟩] := by
  refine ⟨⟨_, rfl, fun h => ?_⟩, fun h => ?_⟩
  · exact absurd (h.isListable List.mem_cons_self) (by decide)
  · exact absurd (h.isListable List.mem_cons_self) (by decide)

end Paymap.Api.MandateList
