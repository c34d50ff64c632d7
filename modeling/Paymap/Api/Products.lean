import Paymap.Registry.Types
import Paymap.Shared.Money

set_option autoImplicit false

/-! # Products

`POST /products`: the schema of its body (`apps/api/src/schemas/products.ts`), the route and the
response (`apps/api/src/routes/products.ts`), which the checkout page receives too. An amount is
checked as a decimal, converted to base units for the row, and converted back for the response. The
columns of a row that hold base units as digits hold integers here.
-/

namespace Paymap.Api

open Registry (Address)
open Shared (IsDecimal decimalToBaseUnits decimalToPositiveBaseUnits baseUnitsToDecimalString)
open Tx (rejectIf)

/-! ## The body -/

/-- A value of a JSON object, as far as the schema looks at it. -/
inductive Json where
  | string (s : String)
  | number (x : ℚ)
  | other

/-- The fields of the body. -/
abbrev Body := String → Option Json

/-- What a Zod schema makes of a field; `none` is an issue. -/
abbrev Parse (α : Type) := Option Json → Option α

def zString : Parse String
  | some (.string s) => some s
  | _ => none

/-- The `length` of a string: its number of UTF-16 code units. -/
def utf16Length (s : String) : ℕ :=
  (s.toList.map fun c => if c.toNat < 65536 then 1 else 2).sum

/-- `z.string().min(lo).max(hi)`. -/
def zText (lo hi : ℕ) : Parse String := fun field =>
  (zString field).filter fun s => lo ≤ utf16Length s ∧ utf16Length s ≤ hi

/-- `.optional()`. -/
def zOptional {α : Type} (parse : Parse α) : Parse (Option α)
  | none => some none
  | some field => (parse (some field)).map some

/-- `z.number().int()` with a check. -/
def zInt (check : ℤ → Bool) : Parse ℤ
  | some (.number x) => if x.den = 1 ∧ check x.num then some x.num else none
  | _ => none

def decimalAmountSchema : Parse String := fun field =>
  (zString field).filter fun s => IsDecimal s.toList

def boundedDurationSecondsSchema : Parse ℤ := zInt fun x => 0 < x ∧ x ≤ 60 * 60 * 24 * 365 * 10

/-- `z.number().int().nonnegative()`. -/
def zNonnegative : Parse ℤ := zInt fun x => 0 ≤ x

/-- The amount that goes with the amount type. -/
inductive ProductAmount where
  | fixed (fixedAmount : String)
  | variableUpTo (maxPerCharge : String)

structure CreateProductInput where
  amount : ProductAmount
  name : String
  description : Option String
  assetAddress : Address
  assetDecimals : ℤ
  maxPerPeriod : String
  periodSeconds : ℤ
  minIntervalSeconds : ℤ
  maxSuccessfulCharges : ℤ
  defaultDurationSeconds : ℤ

/-- The union discriminated by `amountType`. -/
def parseAmount (body : Body) : Option ProductAmount := do
  let amountType ← zString (body "amountType")
  if amountType = "fixed" then
    return .fixed (← decimalAmountSchema (body "fixedAmount"))
  if amountType = "variable" then
    return .variableUpTo (← decimalAmountSchema (body "maxPerCharge"))
  none

/-- `CreateProductSchema`. What `StrKey` takes for a contract address is `strKey`'s to say. -/
def createProductSchema (strKey : String → Option Address) (body : Body) :
    Option CreateProductInput := do
  let amount ← parseAmount body
  let name ← zText 1 200 (body "name")
  let description ← zOptional (zText 0 2000) (body "description")
  let assetAddress ← (zString (body "assetAddress")).bind strKey
  let assetDecimals ← zInt (fun x => 0 ≤ x ∧ x ≤ 24) (body "assetDecimals")
  let maxPerPeriod ← decimalAmountSchema (body "maxPerPeriod")
  let periodSeconds ← boundedDurationSecondsSchema (body "periodSeconds")
  let minIntervalSeconds ← zNonnegative (body "minIntervalSeconds")
  let maxSuccessfulCharges ← zNonnegative (body "maxSuccessfulCharges")
  let defaultDurationSeconds ← boundedDurationSecondsSchema (body "defaultDurationSeconds")
  return ⟨amount, name, description, assetAddress, assetDecimals, maxPerPeriod, periodSeconds,
    minIntervalSeconds, maxSuccessfulCharges, defaultDurationSeconds⟩

/-! ## The row and the response -/

inductive AmountType where
  | fixed
  | variableUpTo
deriving DecidableEq

/-- A row of `Product`. -/
structure Product where
  name : String
  description : Option String
  assetAddress : Address
  assetDecimals : ℤ
  amountType : AmountType
  fixedAmount : Option ℤ
  maxPerCharge : Option ℤ
  maxPerPeriod : ℤ
  periodSeconds : ℤ
  minIntervalSeconds : ℤ
  maxSuccessfulCharges : ℤ
  defaultDurationSeconds : ℤ

/-- What `toProductResponse` returns, and `PublicProductSchema` of the web app reads. -/
structure ProductResponse where
  name : String
  description : Option String
  assetAddress : Address
  assetDecimals : ℤ
  amountType : AmountType
  fixedAmount : Option String
  maxPerCharge : Option String
  maxPerPeriod : String
  periodSeconds : ℤ
  minIntervalSeconds : ℤ
  maxSuccessfulCharges : ℤ
  defaultDurationSeconds : ℤ

/-- What the route throws: a `ZodError`, an `ApiError`, or an error that nobody expects. -/
inductive RouteError where
  | zod
  | api (httpStatus : ℕ) (code message : String)
  | unexpected
deriving DecidableEq

def badRequest (code message : String) : RouteError := .api 400 code message

def responseAmount (amount decimals : ℤ) : Except RouteError String :=
  (baseUnitsToDecimalString amount decimals).mapError fun _ => .unexpected

def toProductResponse (product : Product) : Except RouteError ProductResponse := do
  let decimals := product.assetDecimals
  let fixedAmount ← product.fixedAmount.mapM (responseAmount · decimals)
  let maxPerCharge ← product.maxPerCharge.mapM (responseAmount · decimals)
  let maxPerPeriod ← responseAmount product.maxPerPeriod decimals
  return {
    name := product.name
    description := product.description
    assetAddress := product.assetAddress
    assetDecimals := decimals
    amountType := product.amountType
    fixedAmount := fixedAmount
    maxPerCharge := maxPerCharge
    maxPerPeriod := maxPerPeriod
    periodSeconds := product.periodSeconds
    minIntervalSeconds := product.minIntervalSeconds
    maxSuccessfulCharges := product.maxSuccessfulCharges
    defaultDurationSeconds := product.defaultDurationSeconds }

/-! ## The route -/

def toPositiveBaseUnitsOrBadRequest (field decimal : String) (decimals : ℤ) :
    Except RouteError ℤ :=
  (decimalToPositiveBaseUnits decimal decimals).mapError fun e =>
    badRequest "INVALID_AMOUNT" ("\"" ++ field ++ "\": " ++ e.message)

/-- The columns `amountType`, `fixedAmount` and `maxPerCharge`. -/
def amountColumns (amount : ProductAmount) (decimals : ℤ) :
    Except RouteError (AmountType × Option ℤ × Option ℤ) :=
  match amount with
  | .fixed fixedAmount => do
      let baseUnits ← toPositiveBaseUnitsOrBadRequest "fixedAmount" fixedAmount decimals
      return (.fixed, some baseUnits, none)
  | .variableUpTo maxPerCharge => do
      let baseUnits ← toPositiveBaseUnitsOrBadRequest "maxPerCharge" maxPerCharge decimals
      return (.variableUpTo, none, some baseUnits)

/-- An `Int` column has 32 bits. -/
def fitsIntColumn (x : ℤ) : Prop := -2147483648 ≤ x ∧ x ≤ 2147483647

instance (x : ℤ) : Decidable (fitsIntColumn x) := inferInstanceAs (Decidable (_ ∧ _))

/-- `prisma.product.create`. -/
def insertProduct (product : Product) : Except RouteError Unit :=
  rejectIf (¬ (fitsIntColumn product.assetDecimals ∧ fitsIntColumn product.periodSeconds ∧
      fitsIntColumn product.minIntervalSeconds ∧ fitsIntColumn product.maxSuccessfulCharges ∧
      fitsIntColumn product.defaultDurationSeconds))
    .unexpected

/-- The row that is made of an input. -/
def toProduct (input : CreateProductInput) : Except RouteError Product := do
  let maxPerPeriod ←
    toPositiveBaseUnitsOrBadRequest "maxPerPeriod" input.maxPerPeriod input.assetDecimals
  let (amountType, fixedAmount, maxPerCharge) ← amountColumns input.amount input.assetDecimals
  return {
    name := input.name
    description := input.description
    assetAddress := input.assetAddress
    assetDecimals := input.assetDecimals
    amountType := amountType
    fixedAmount := fixedAmount
    maxPerCharge := maxPerCharge
    maxPerPeriod := maxPerPeriod
    periodSeconds := input.periodSeconds
    minIntervalSeconds := input.minIntervalSeconds
    maxSuccessfulCharges := input.maxSuccessfulCharges
    defaultDurationSeconds := input.defaultDurationSeconds }

/-- `POST /products`. -/
def postProduct (strKey : String → Option Address) (body : Body) :
    Except RouteError ProductResponse := do
  let input ← (createProductSchema strKey body).elim (.error .zod) .ok
  let product ← toProduct input
  insertProduct product
  toProductResponse product

/-! ## What is accepted -/

/-- The decimal of the amount. -/
def ProductAmount.decimal : ProductAmount → String
  | .fixed fixedAmount => fixedAmount
  | .variableUpTo maxPerCharge => maxPerCharge

/-- The columns of the amount: one for each kind, filled where the kind is that of the product. -/
def ProductAmount.columns {α : Type} : ProductAmount → α → AmountType × Option α × Option α
  | .fixed _, amount => (.fixed, some amount, none)
  | .variableUpTo _, amount => (.variableUpTo, none, some amount)

/-- What the schema promises of the numbers of an input. -/
structure CreateProductInput.Checked (input : CreateProductInput) : Prop where
  decimals_nonneg : 0 ≤ input.assetDecimals
  period_pos : 0 < input.periodSeconds
  period_le : input.periodSeconds ≤ 315360000
  interval_nonneg : 0 ≤ input.minIntervalSeconds
  count_nonneg : 0 ≤ input.maxSuccessfulCharges
  duration_pos : 0 < input.defaultDurationSeconds
  duration_le : input.defaultDurationSeconds ≤ 315360000

theorem zInt_some {check : ℤ → Bool} {field : Option Json} {n : ℤ} (h : zInt check field = some n) :
    check n = true := by
  unfold zInt at h
  split at h
  · split at h
    · rename_i hcheck
      cases h
      exact hcheck.2
    · cases h
  · cases h

theorem createProductSchema_checked {strKey : String → Option Address} {body : Body}
    {input : CreateProductInput} (h : createProductSchema strKey body = some input) :
    input.Checked := by
  unfold createProductSchema at h
  simp only [bind, pure, Option.bind_eq_some_iff] at h
  obtain ⟨amount, -, name, -, description, -, assetAddress, -, assetDecimals, hdecimals,
    maxPerPeriod, -, periodSeconds, hperiod, minIntervalSeconds, hinterval, maxSuccessfulCharges,
    hcount, defaultDurationSeconds, hduration, hret⟩ := h
  cases hret
  have h₁ := of_decide_eq_true (zInt_some hdecimals)
  have h₂ := of_decide_eq_true (zInt_some hperiod)
  have h₃ := of_decide_eq_true (zInt_some hinterval)
  have h₄ := of_decide_eq_true (zInt_some hcount)
  have h₅ := of_decide_eq_true (zInt_some hduration)
  exact ⟨h₁.1, h₂.1, h₂.2, h₃, h₄, h₅.1, h₅.2⟩

/-- The amounts of an input in base units. -/
structure CreateProductInput.Amounts (input : CreateProductInput) (perCharge cap : ℤ) : Prop where
  perCharge_eq : decimalToBaseUnits input.amount.decimal input.assetDecimals = .ok perCharge
  perCharge_pos : 0 < perCharge
  cap_eq : decimalToBaseUnits input.maxPerPeriod input.assetDecimals = .ok cap
  cap_pos : 0 < cap

theorem toPositiveBaseUnitsOrBadRequest_ok {field decimal : String} {decimals n : ℤ} :
    toPositiveBaseUnitsOrBadRequest field decimal decimals = .ok n ↔
      decimalToBaseUnits decimal decimals = .ok n ∧ 0 < n := by
  rw [toPositiveBaseUnitsOrBadRequest, Tx.mapError_ok, Shared.decimalToPositiveBaseUnits_ok]

theorem amountColumns_ok {amount : ProductAmount} {decimals : ℤ}
    {columns : AmountType × Option ℤ × Option ℤ} :
    amountColumns amount decimals = .ok columns ↔
      ∃ n, decimalToBaseUnits amount.decimal decimals = .ok n ∧ 0 < n ∧
        columns = amount.columns n := by
  cases amount with
  | fixed fixedAmount =>
      simp only [amountColumns, Tx.bind_ok, toPositiveBaseUnitsOrBadRequest_ok, pure, Except.pure,
        Except.ok.injEq, and_assoc, eq_comm (b := columns), ProductAmount.decimal,
        ProductAmount.columns]
  | variableUpTo maxPerCharge =>
      simp only [amountColumns, Tx.bind_ok, toPositiveBaseUnitsOrBadRequest_ok, pure, Except.pure,
        Except.ok.injEq, and_assoc, eq_comm (b := columns), ProductAmount.decimal,
        ProductAmount.columns]

/-- The response to an input with these amounts. -/
structure ProductResponse.Shows (response : ProductResponse) (input : CreateProductInput)
    (perCharge cap : ℤ) : Prop where
  assetDecimals_eq : response.assetDecimals = input.assetDecimals
  /-- The amount is under the right name, and reads back as it is. -/
  amount_eq : ∃ decimal, decimalToBaseUnits decimal input.assetDecimals = .ok perCharge ∧
    (response.amountType, response.fixedAmount, response.maxPerCharge)
      = input.amount.columns decimal
  cap_eq : decimalToBaseUnits response.maxPerPeriod input.assetDecimals = .ok cap
  periodSeconds_eq : response.periodSeconds = input.periodSeconds
  minIntervalSeconds_eq : response.minIntervalSeconds = input.minIntervalSeconds
  maxSuccessfulCharges_eq : response.maxSuccessfulCharges = input.maxSuccessfulCharges
  defaultDurationSeconds_eq : response.defaultDurationSeconds = input.defaultDurationSeconds

/-- An amount of the response reads back as it is. -/
theorem responseAmount_ok {amount decimals : ℤ} {decimal : String} (hamount : 0 ≤ amount)
    (hdecimals : 0 ≤ decimals) (h : responseAmount amount decimals = .ok decimal) :
    decimalToBaseUnits decimal decimals = .ok amount := by
  obtain ⟨decimal', hwritten, hread⟩ :=
    Shared.decimalToBaseUnits_baseUnitsToDecimalString hamount hdecimals
  rw [responseAmount, Tx.mapError_ok, hwritten] at h
  cases h
  exact hread

/-- The filled column reads back, and the other one stays empty. -/
theorem columns_responseAmount {amount : ProductAmount} {n decimals : ℤ}
    {fixedText chargeText : Option String} (hn : 0 ≤ n) (hdecimals : 0 ≤ decimals)
    (hfixed : (amount.columns n).2.1.mapM (responseAmount · decimals) = .ok fixedText)
    (hcharge : (amount.columns n).2.2.mapM (responseAmount · decimals) = .ok chargeText) :
    ∃ decimal, decimalToBaseUnits decimal decimals = .ok n ∧
      ((amount.columns n).1, fixedText, chargeText) = amount.columns decimal := by
  cases amount with
  | fixed fixedAmount =>
      obtain ⟨decimal, htext, hret⟩ := Tx.bind_ok.mp hfixed
      cases hret
      cases hcharge
      exact ⟨decimal, responseAmount_ok hn hdecimals htext, rfl⟩
  | variableUpTo maxPerCharge =>
      obtain ⟨decimal, htext, hret⟩ := Tx.bind_ok.mp hcharge
      cases hret
      cases hfixed
      exact ⟨decimal, responseAmount_ok hn hdecimals htext, rfl⟩

/-- **An accepted product**: the schema accepts its body, its amounts are positive, its numbers fit
their columns, and the response shows it. -/
theorem postProduct_ok {strKey : String → Option Address} {body : Body}
    {response : ProductResponse} (h : postProduct strKey body = .ok response) :
    ∃ input perCharge cap, createProductSchema strKey body = some input ∧ input.Checked ∧
      input.Amounts perCharge cap ∧ fitsIntColumn input.minIntervalSeconds ∧
      fitsIntColumn input.maxSuccessfulCharges ∧ response.Shows input perCharge cap := by
  obtain ⟨input, hinput, h⟩ := Tx.bind_ok.mp h
  obtain ⟨product, hproduct, h⟩ := Tx.bind_ok.mp h
  obtain ⟨u, hinserted, hresponse⟩ := Tx.bind_ok.mp h
  have hparsed : createProductSchema strKey body = some input := by
    cases hschema : createProductSchema strKey body with
    | none =>
        rw [hschema] at hinput
        cases hinput
    | some input' =>
        rw [hschema] at hinput
        cases hinput
        rfl
  have hchecked := createProductSchema_checked hparsed
  -- the row: two amounts in base units, and numbers that fit their columns
  obtain ⟨cap, hcap, hproduct⟩ := Tx.bind_ok.mp hproduct
  obtain ⟨columns, hcolumns, hproduct⟩ := Tx.bind_ok.mp hproduct
  obtain ⟨hcap, hcappos⟩ := toPositiveBaseUnitsOrBadRequest_ok.mp hcap
  obtain ⟨perCharge, hperCharge, hperpos, rfl⟩ := amountColumns_ok.mp hcolumns
  cases hproduct
  obtain ⟨-, -, hinterval, hcount, -⟩ := not_not.mp (Tx.rejectIf_ok.mp hinserted)
  refine ⟨input, perCharge, cap, hparsed, hchecked, ⟨hperCharge, hperpos, hcap, hcappos⟩, hinterval,
    hcount, ?_⟩
  -- the response: the amounts as texts that read back
  obtain ⟨fixedText, hfixed, h⟩ := Tx.bind_ok.mp hresponse
  obtain ⟨chargeText, hcharge, h⟩ := Tx.bind_ok.mp h
  obtain ⟨capText, hcapText, h⟩ := Tx.bind_ok.mp h
  cases h
  have hread := responseAmount_ok hcappos.le hchecked.decimals_nonneg hcapText
  have hamount := columns_responseAmount hperpos.le hchecked.decimals_nonneg hfixed hcharge
  exact ⟨rfl, hamount, hread, rfl, rfl, rfl, rfl⟩

end Paymap.Api
