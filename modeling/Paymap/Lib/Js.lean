import Mathlib.Algebra.Order.Field.Rat
import Mathlib.Data.Int.Log
import Mathlib.Data.List.DropRight
import Mathlib.Data.List.TakeWhile
import Mathlib.Data.Rat.Floor
import Mathlib.Tactic.FieldSimp
import Paymap.Lib.Hex

set_option autoImplicit false

/-! # Texts and numbers of ECMAScript

What a program in JavaScript does with texts and numbers when it reads and writes headers: `trim`,
the cut at a separator, `Number(text)` and `String(number)`. A number is a binary64 (`IsDouble`), kept as
the rational that it is, and `-0` is `0`. `Number` rounds the value of a literal to the nearest number,
`String` writes the fewest digits that are read back as the number, in the notation that its size asks
for. An integer comes back from its text (`number_text`).
-/

namespace Js

abbrev Str := List Char

/-! ## Texts -/

/-- White space and line terminators. -/
def spaces : List ℕ :=
  [9, 10, 11, 12, 13, 32, 160, 5760, 8192, 8193, 8194, 8195, 8196, 8197, 8198, 8199, 8200, 8201, 8202,
    8232, 8233, 8239, 8287, 12288, 65279]

def isSpace (c : Char) : Bool := spaces.contains c.toNat

def trim (t : Str) : Str := (t.dropWhile isSpace).rdropWhile isSpace

/-- The text before the first `sep` and the one after it. -/
def cutAt (sep : Char) (t : Str) : Option (Str × Str) :=
  if sep ∈ t then some (t.takeWhile (· ≠ sep), (t.dropWhile (· ≠ sep)).tail) else none

section

variable {t u : Str} {sep : Char}

/-- No space at either end. -/
theorem trim_eq_self_iff : trim t = t ↔
    (∀ c ∈ t.head?, isSpace c = false) ∧ ∀ c ∈ t.getLast?, isSpace c = false := by
  have hlast : ∀ {v : Str}, v.rdropWhile isSpace = v ↔ ∀ c ∈ v.getLast?, isSpace c = false := by
    intro v
    rw [List.rdropWhile_eq_self_iff]
    constructor
    · intro h c hc
      obtain ⟨hne, rfl⟩ := List.mem_getLast?_eq_getLast hc
      exact Bool.eq_false_iff.mpr (h hne)
    · intro h hne
      exact Bool.eq_false_iff.mp (h _ (List.getLast?_eq_some_getLast hne))
  constructor
  · intro h
    -- trimming the end cannot make up for what is dropped at the start
    have hlength : t.length ≤ (t.dropWhile isSpace).length := by
      conv_lhs => rw [← h]
      exact (List.rdropWhile_prefix isSpace _).length_le
    have hdrop : t.dropWhile isSpace = t :=
      (List.dropWhile_suffix _).eq_of_length_le hlength
    rw [trim, hdrop] at h
    refine ⟨fun c hc => ?_, hlast.mp h⟩
    rw [List.dropWhile_eq_self_iff] at hdrop
    obtain ⟨tail, rfl⟩ := List.head?_eq_some_iff.mp hc
    exact Bool.eq_false_iff.mpr (hdrop (Nat.zero_lt_succ _))
  · rintro ⟨hhead, hend⟩
    have hdrop : t.dropWhile isSpace = t := by
      cases t with
      | nil => rfl
      | cons c t =>
          have hc : isSpace c = false := hhead c rfl
          exact List.dropWhile_cons_of_neg (by simp [hc])
    rw [trim, hdrop]
    exact hlast.mpr hend

/-- A text without spaces is trimmed. -/
theorem trim_of_no_space (h : ∀ c ∈ t, isSpace c = false) : trim t = t :=
  trim_eq_self_iff.mpr ⟨fun c hc => h c (List.mem_of_mem_head? hc),
    fun c hc => h c (List.mem_of_mem_getLast? hc)⟩

theorem trim_trim (t : Str) : trim (trim t) = trim t := by
  have hdrop : (trim t).dropWhile isSpace = trim t := by
    have hprefix : trim t <+: t.dropWhile isSpace := List.rdropWhile_prefix isSpace _
    cases htrim : trim t with
    | nil => rfl
    | cons c rest =>
        rw [htrim] at hprefix
        obtain ⟨after, hafter⟩ := hprefix
        -- the first character is the one that `dropWhile` has stopped at
        have hfixed := List.dropWhile_idempotent (p := isSpace) (l := t)
        rw [← hafter, List.cons_append, List.dropWhile_eq_self_iff] at hfixed
        exact List.dropWhile_cons_of_neg (hfixed (Nat.zero_lt_succ _))
  show ((trim t).dropWhile isSpace).rdropWhile isSpace = trim t
  rw [hdrop]
  exact List.rdropWhile_idempotent isSpace _

theorem cutAt_append (h : sep ∉ t) : cutAt sep (t ++ sep :: u) = some (t, u) := by
  have hbefore : ∀ c ∈ t, decide (c ≠ sep) = true := by
    intro c hc
    rw [decide_eq_true_iff]
    rintro rfl
    exact h hc
  rw [cutAt, if_pos (List.mem_append_right t List.mem_cons_self),
    List.takeWhile_append_of_pos hbefore, List.dropWhile_append_of_pos hbefore]
  simp

end

/-! ## Numbers -/

inductive Number where
  | nan
  | infinity (negative : Bool)
  | finite (value : ℚ)
deriving DecidableEq

namespace Number

def neg : Number → Number
  | nan => nan
  | infinity negative => infinity !negative
  | finite value => finite (-value)

/-- To the nearest integer, and to the even one of two. -/
def roundEven (q : ℚ) : ℤ :=
  if q - ⌊q⌋ < 1 / 2 then ⌊q⌋
  else if 1 / 2 < q - ⌊q⌋ then ⌊q⌋ + 1
  else if ⌊q⌋ % 2 = 0 then ⌊q⌋ else ⌊q⌋ + 1

/-- The unit in the last place: `53` significant bits, and none below `2 ^ -1074`. -/
def ulp (q : ℚ) : ℚ := 2 ^ max (Int.log 2 q - 52) (-1074)

/-- The number nearest to a positive value. -/
def roundPositive (q : ℚ) : Number :=
  if roundEven (q / ulp q) * ulp q < 2 ^ 1024 then finite (roundEven (q / ulp q) * ulp q)
  else infinity false

/-- The number nearest to a value. -/
def round (q : ℚ) : Number := if q < 0 then (roundPositive (-q)).neg else roundPositive q

def isInteger : Number → Bool
  | finite value => value.den = 1
  | _ => false

/-- `a - b`. -/
def sub : Number → Number → Number
  | finite a, finite b => round (a - b)
  | finite _, infinity negative => infinity !negative
  | infinity negative, finite _ => infinity negative
  | infinity negative, infinity negative' => if negative = negative' then nan else infinity negative
  | _, _ => nan

/-- `Math.abs(a)`. -/
def abs : Number → Number
  | nan => nan
  | infinity _ => infinity false
  | finite value => finite |value|

/-- `a > b`. -/
def gt : Number → Number → Bool
  | finite a, finite b => b < a
  | finite _, infinity negative => negative
  | infinity negative, finite _ => !negative
  | infinity negative, infinity negative' => !negative && negative'
  | _, _ => false

end Number

/-- The value is one of a number. -/
def IsDouble (q : ℚ) : Prop := Number.round q = .finite q

instance (q : ℚ) : Decidable (IsDouble q) := inferInstanceAs (Decidable (_ = _))

/-! ### `Number(text)` -/

/-- The digits of a literal in one of the bases that have a prefix. -/
def ofRadix (base : ℕ) (digits : Str) : Option ℕ :=
  if digits = [] then none
  else digits.foldlM (fun n c => ((Hex.value? c).filter (· < base)).map (base * n + ·)) 0

/-- Digits, perhaps with a sign. -/
def signedDigits? (t : Str) : Option ℤ :=
  let digits := if t.head? = some '+' ∨ t.head? = some '-' then t.tail else t
  if digits ≠ [] ∧ digits.all Char.isDigit then
    some (if t.head? = some '-' then -(Nat.ofDigitChars 10 digits 0 : ℤ)
      else Nat.ofDigitChars 10 digits 0)
  else none

/-- Digits with at most one dot, and at least one digit. -/
def decimal? (t : Str) : Option ℚ :=
  let whole := t.takeWhile (· ≠ '.')
  let fraction := (t.dropWhile (· ≠ '.')).tail
  if whole ++ fraction ≠ [] ∧ (whole ++ fraction).all Char.isDigit then
    some (Nat.ofDigitChars 10 (whole ++ fraction) 0 / 10 ^ fraction.length)
  else none

/-- A decimal literal without a sign, perhaps with an exponent. -/
def scientific? (t : Str) : Option ℚ :=
  let mantissa := t.takeWhile fun c => c ≠ 'e' && c ≠ 'E'
  let rest := t.dropWhile fun c => c ≠ 'e' && c ≠ 'E'
  (decimal? mantissa).bind fun m =>
    if rest = [] then some m else (signedDigits? rest.tail).map fun e => m * 10 ^ e

def infinityText : Str := ['I', 'n', 'f', 'i', 'n', 'i', 't', 'y']

def unsigned (t : Str) : Number :=
  if t = infinityText then .infinity false else (scientific? t).elim .nan Number.round

/-- The base that the prefix of a literal stands for. -/
def radix? (t : Str) : Option ℕ :=
  if t.take 2 = ['0', 'x'] ∨ t.take 2 = ['0', 'X'] then some 16
  else if t.take 2 = ['0', 'o'] ∨ t.take 2 = ['0', 'O'] then some 8
  else if t.take 2 = ['0', 'b'] ∨ t.take 2 = ['0', 'B'] then some 2
  else none

/-- `Number(text)`. -/
def number (text : Str) : Number :=
  let t := trim text
  if t = [] then .finite 0
  else match radix? t with
    | some base => (ofRadix base (t.drop 2)).elim .nan fun n => Number.round n
    | none =>
        if t.head? = some '-' then (unsigned t.tail).neg
        else if t.head? = some '+' then unsigned t.tail
        else unsigned t

/-! ### `String(number)` -/

/-- The power of ten that is next above a positive value. -/
def decade (x : ℚ) : ℤ := Int.log 10 x + 1

/-- An `s` such that `s` times `10 ^ (decade x - k)` is read as `x`, the nearest one if possible. -/
def significand? (x : ℚ) (k : ℕ) : Option ℕ :=
  let r := x / 10 ^ (decade x - k)
  [(Number.roundEven r).toNat, ⌊r⌋.toNat, ⌊r⌋.toNat + 1].find? fun s =>
    Number.round (s * 10 ^ (decade x - k)) = .finite x

/-- The shortest such `s` and its exponent; `17` digits are enough for every number. -/
def shortest? (x : ℚ) : Option (ℕ × ℤ) :=
  (List.range' 1 (max 17 (decade x).toNat)).findSome? fun k =>
    (significand? x k).map fun s => (s, decade x - k)

/-- The digits `ds`, with the dot after the first `n`. -/
def layout (ds : Str) (n : ℤ) : Str :=
  if ds.length ≤ n ∧ n ≤ 21 then ds ++ List.replicate (n - ds.length).toNat '0'
  else if 0 < n ∧ n ≤ 21 then ds.take n.toNat ++ '.' :: ds.drop n.toNat
  else if -6 < n ∧ n ≤ 0 then '0' :: '.' :: (List.replicate (-n).toNat '0' ++ ds)
  else
    (match ds with
      | [] => []
      | [d] => [d]
      | d :: rest => d :: '.' :: rest) ++
    'e' :: (if 0 < n then '+' else '-') :: Nat.toDigits 10 (n - 1).natAbs

/-- The text of a positive number. -/
def positiveText (x : ℚ) : Str :=
  match shortest? x with
  | some (s, e) =>
      layout ((Nat.toDigits 10 s).rdropWhile (· = '0')) ((Nat.toDigits 10 s).length + e)
  | none => []

/-- `String(number)`. -/
def Number.text : Number → Str
  | nan => ['N', 'a', 'N']
  | infinity negative => if negative then '-' :: infinityText else infinityText
  | finite value =>
      if value = 0 then ['0']
      else if value < 0 then '-' :: positiveText (-value)
      else positiveText value

/-! ### A literal and its value -/

def AllDigits (t : Str) : Prop := ∀ c ∈ t, c.isDigit = true

section

variable {t ds rest : Str} {c : Char}

theorem AllDigits.ne (h : AllDigits t) (hc : c.isDigit = false) : ∀ d ∈ t, d ≠ c := by
  rintro d hd rfl
  rw [h d hd] at hc
  cases hc

/-- A text is cut where the first digit ends. -/
theorem takeWhile_digits {p : Char → Bool} (hp : ∀ d ∈ t, p d = true) (hc : p c = false)
    (r : Str) : (t ++ c :: r).takeWhile p = t ∧ (t ++ c :: r).dropWhile p = c :: r := by
  rw [List.takeWhile_append_of_pos hp, List.dropWhile_append_of_pos hp]
  simp [hc]

theorem decimal?_digits (h : AllDigits t) (hne : t ≠ []) :
    decimal? t = some (Nat.ofDigitChars 10 t 0 : ℚ) := by
  have hno : ∀ d ∈ t, decide (d ≠ '.') = true :=
    fun d hd => decide_eq_true (h.ne (by decide) d hd)
  have hwhole : t.takeWhile (· ≠ '.') = t := List.takeWhile_eq_self_iff.mpr hno
  have hrest : t.dropWhile (· ≠ '.') = [] := List.dropWhile_eq_nil_iff.mpr hno
  simp only [decimal?, hwhole, hrest, List.tail_nil, List.append_nil, List.length_nil, pow_zero,
    div_one]
  exact if_pos ⟨hne, List.all_eq_true.mpr h⟩

theorem decimal?_dot (h : AllDigits t) (hne : t ≠ []) (hrest : AllDigits rest) :
    decimal? (t ++ '.' :: rest)
      = some (Nat.ofDigitChars 10 (t ++ rest) 0 / 10 ^ rest.length : ℚ) := by
  have hno : ∀ d ∈ t, decide (d ≠ '.') = true :=
    fun d hd => decide_eq_true (h.ne (by decide) d hd)
  obtain ⟨hwhole, hafter⟩ := takeWhile_digits (c := '.') hno (by decide) rest
  have hall : AllDigits (t ++ rest) := fun d hd => (List.mem_append.mp hd).elim (h d) (hrest d)
  simp only [decimal?, hwhole, hafter, List.tail_cons]
  refine if_pos ⟨?_, List.all_eq_true.mpr hall⟩
  exact List.append_ne_nil_of_left_ne_nil hne _

theorem scientific?_digits (h : AllDigits t) (hne : t ≠ []) :
    scientific? t = some (Nat.ofDigitChars 10 t 0 : ℚ) := by
  have hno : ∀ d ∈ t, (d ≠ 'e' && d ≠ 'E') = true := fun d hd => by
    simp [h.ne (c := 'e') (by decide) d hd, h.ne (c := 'E') (by decide) d hd]
  have hwhole : t.takeWhile (fun c => c ≠ 'e' && c ≠ 'E') = t := List.takeWhile_eq_self_iff.mpr hno
  have hrest : t.dropWhile (fun c => c ≠ 'e' && c ≠ 'E') = [] := List.dropWhile_eq_nil_iff.mpr hno
  simp only [scientific?, hwhole, hrest, decimal?_digits h hne]
  rfl

theorem scientific?_exponent {q : ℚ} (hno : ∀ d ∈ t, (d ≠ 'e' && d ≠ 'E') = true)
    (hmantissa : decimal? t = some q) (m : ℕ) :
    scientific? (t ++ 'e' :: '+' :: Nat.toDigits 10 m) = some (q * 10 ^ m) := by
  obtain ⟨hwhole, hafter⟩ := takeWhile_digits (c := 'e') hno (by decide)
    ('+' :: Nat.toDigits 10 m)
  have hdigits : (Nat.toDigits 10 m).all Char.isDigit = true :=
    List.all_eq_true.mpr fun d hd => Nat.isDigit_of_mem_toDigits (by omega) (by omega) hd
  have hexponent : signedDigits? ('+' :: Nat.toDigits 10 m) = some (m : ℤ) := by
    have hsign : ('+' :: Nat.toDigits 10 m).head? ≠ some '-' := by simp
    simp only [signedDigits?, List.head?_cons, true_or, if_true, List.tail_cons,
      Nat.ofDigitChars_ten_toDigits]
    rw [if_pos ⟨Nat.toDigits_ne_nil, hdigits⟩, if_neg (by decide)]
  simp only [scientific?, hwhole, hafter, hmantissa, List.tail_cons, hexponent, Option.bind_some,
    Option.map_some, List.cons_ne_nil, if_false, zpow_natCast]

theorem AllDigits.no_exponent (h : AllDigits t) : ∀ d ∈ t, (d ≠ 'e' && d ≠ 'E') = true := by
  intro d hd
  simp [h.ne (c := 'e') (by decide) d hd, h.ne (c := 'E') (by decide) d hd]

/-- An integer's digits, in whichever notation, are read as its value. -/
theorem scientific?_layout (h : AllDigits ds) (hne : ds ≠ []) (z : ℕ) :
    scientific? (layout ds (ds.length + z)) = some (Nat.ofDigitChars 10 ds 0 * 10 ^ z : ℚ) := by
  have hpos : 0 < ds.length := List.length_pos_of_ne_nil hne
  by_cases hsmall : ((ds.length : ℤ) + z) ≤ 21
  · have hlayout : layout ds (ds.length + z) = ds ++ List.replicate z '0' := by
      have hz : ((ds.length : ℤ) + z - ds.length).toNat = z := by omega
      unfold layout
      rw [if_pos ⟨by omega, hsmall⟩, hz]
    have hzeros : AllDigits (ds ++ List.replicate z '0') := by
      intro d hd
      rcases List.mem_append.mp hd with hd | hd
      · exact h d hd
      · rw [List.eq_of_mem_replicate hd]
        rfl
    rw [hlayout, scientific?_digits hzeros (List.append_ne_nil_of_left_ne_nil hne _),
      Nat.ofDigitChars_append, Nat.ofDigitChars_replicate_zero]
    push_cast
    rw [mul_comm]
  · -- the exponent is one less than the number of digits before the dot
    have hexponent : ((ds.length : ℤ) + z - 1).natAbs = ds.length + z - 1 := by omega
    unfold layout
    rw [if_neg (fun hc => hsmall hc.2), if_neg (fun hc => hsmall hc.2), if_neg (by omega),
      if_pos (by omega), hexponent]
    match ds, hne, h, hpos with
    | [d], _, h, _ =>
        show scientific? ([d] ++ 'e' :: '+' :: Nat.toDigits 10 (1 + z - 1)) = _
        rw [scientific?_exponent h.no_exponent (decimal?_digits h (List.cons_ne_nil _ _)),
          Nat.add_sub_cancel_left]
    | d :: d' :: rest, _, h, _ =>
        have hd : AllDigits [d] := fun c hc => h c (by rw [List.mem_singleton.mp hc]; exact List.mem_cons_self)
        have hrest : AllDigits (d' :: rest) := fun c hc => h c (List.mem_cons_of_mem d hc)
        have hmantissa := decimal?_dot hd (List.cons_ne_nil _ _) hrest
        have hno : ∀ c ∈ [d] ++ '.' :: d' :: rest, (c ≠ 'e' && c ≠ 'E') = true := by
          intro c hc
          rcases List.mem_append.mp hc with hc | hc
          · exact hd.no_exponent c hc
          · rcases List.mem_cons.mp hc with rfl | hc
            · decide
            · exact hrest.no_exponent c hc
        show scientific? (([d] ++ '.' :: d' :: rest) ++ 'e' :: '+' ::
          Nat.toDigits 10 ((d :: d' :: rest).length + z - 1)) = _
        have hlength : (d :: d' :: rest).length + z - 1 = (d' :: rest).length + z := by
          simp only [List.length_cons]
          omega
        rw [scientific?_exponent hno hmantissa, hlength, pow_add, ← mul_assoc, div_mul_cancel₀]
        · rfl
        · positivity

end

/-! ### Rounding what is a number already -/

theorem Number.roundEven_intCast (n : ℤ) : Number.roundEven (n : ℚ) = n := by
  unfold Number.roundEven
  rw [Int.floor_intCast, sub_self, if_pos (by norm_num)]

theorem Number.round_zero : Number.round 0 = .finite 0 := by
  have hzero := Number.roundEven_intCast 0
  rw [Int.cast_zero] at hzero
  unfold Number.round Number.roundPositive
  rw [if_neg (lt_irrefl 0), zero_div, hzero, Int.cast_zero, zero_mul, if_pos (by positivity)]

/-- An integer of at most `53` bits is a number. -/
theorem isDouble_natCast {n : ℕ} (h : n < 2 ^ 53) : IsDouble (n : ℚ) := by
  by_cases hn : n = 0
  · rw [hn, Nat.cast_zero]
    exact Number.round_zero
  have hlog : Nat.log 2 n ≤ 52 := by
    have hlt := Nat.log_lt_of_lt_pow hn h
    omega
  obtain ⟨j, hj⟩ := Nat.exists_eq_add_of_le hlog
  have hulp : Number.ulp (n : ℚ) = ((2 : ℚ) ^ j)⁻¹ := by
    have hmax : max (((Nat.log 2 n : ℕ) : ℤ) - 52) (-1074) = -(j : ℤ) := by omega
    rw [Number.ulp, Int.log_natCast, hmax, zpow_neg, zpow_natCast]
  -- the value is a whole number of units
  have hunits : (n : ℚ) / Number.ulp n = ((n * 2 ^ j : ℕ) : ℤ) := by
    rw [hulp, div_inv_eq_mul]
    push_cast
    rfl
  have hback : ((Number.roundEven ((n : ℚ) / Number.ulp n) : ℤ) : ℚ) * Number.ulp n = n := by
    rw [hunits, Number.roundEven_intCast, hulp]
    push_cast
    exact mul_inv_cancel_right₀ (by positivity) _
  have hsmall : (n : ℚ) < 2 ^ 1024 := by
    have hone : (1 : ℚ) ≤ 2 := by norm_num
    calc (n : ℚ) < 2 ^ 53 := by exact_mod_cast h
      _ ≤ 2 ^ 1024 := pow_le_pow_right₀ hone (by omega)
  unfold IsDouble Number.round Number.roundPositive
  rw [if_neg (not_lt.mpr (Nat.cast_nonneg n)), hback, if_pos hsmall]

/-! ### An integer comes back -/

section

variable {x : ℚ}

/-- The digits of a number, without the zeros at its end. -/
theorem toDigits_strip {n : ℕ} (hn : n ≠ 0) : ∃ ds z, AllDigits ds ∧ ds ≠ [] ∧
    (Nat.toDigits 10 n).rdropWhile (· = '0') = ds ∧ (Nat.toDigits 10 n).length = ds.length + z ∧
    n = 10 ^ z * Nat.ofDigitChars 10 ds 0 := by
  have hsplit := List.rdropWhile_append_rtakeWhile (p := (· = '0')) (l := Nat.toDigits 10 n)
  have hzeros : (Nat.toDigits 10 n).rtakeWhile (· = '0')
      = List.replicate ((Nat.toDigits 10 n).rtakeWhile (· = '0')).length '0' :=
    List.eq_replicate_iff.mpr ⟨rfl, fun c hc => by simpa using List.mem_rtakeWhile_imp hc⟩
  generalize (Nat.toDigits 10 n).rdropWhile (· = '0') = ds at hsplit ⊢
  generalize ((Nat.toDigits 10 n).rtakeWhile (· = '0')).length = z at hzeros
  rw [hzeros] at hsplit
  have hvalue : Nat.ofDigitChars 10 (Nat.toDigits 10 n) 0 = n := Nat.ofDigitChars_ten_toDigits
  rw [← hsplit, Nat.ofDigitChars_append, Nat.ofDigitChars_replicate_zero] at hvalue
  refine ⟨ds, z, fun c hc => ?_, ?_, rfl, ?_, hvalue.symm⟩
  · refine Nat.isDigit_of_mem_toDigits (b := 10) (n := n) (by omega) (by omega) ?_
    rw [← hsplit]
    exact List.mem_append_left _ hc
  · rintro rfl
    rw [Nat.ofDigitChars_nil, Nat.mul_zero] at hvalue
    exact hn hvalue.symm
  · rw [← hsplit, List.length_append, List.length_replicate]

theorem significand?_read {k s : ℕ} (h : significand? x k = some s) :
    Number.round (s * 10 ^ (decade x - k)) = .finite x := by
  simpa using List.find?_some h

/-- An integer with `d` digits has a significand of as many. -/
theorem significand?_decade {n : ℕ} (hdouble : IsDouble (n : ℚ)) {k : ℕ}
    (hk : decade (n : ℚ) = k) : (significand? (n : ℚ) k).isSome = true := by
  unfold significand?
  rw [hk, sub_self, zpow_zero, div_one, List.find?_isSome]
  refine ⟨⌊(n : ℚ)⌋.toNat, by simp, decide_eq_true ?_⟩
  rw [Int.floor_natCast, Int.toNat_natCast, mul_one]
  exact hdouble

/-- The shortest significand of an integer has no more digits than the integer. -/
theorem shortest?_natCast {n : ℕ} (hn : n ≠ 0) (hdouble : IsDouble (n : ℚ)) :
    ∃ s e : ℕ, shortest? (n : ℚ) = some (s, (e : ℤ)) ∧ s ≠ 0 ∧
      Number.round (s * 10 ^ e) = .finite (n : ℚ) := by
  have hdecade : decade (n : ℚ) = ((Nat.log 10 n + 1 : ℕ) : ℤ) := by
    rw [decade, Int.log_natCast]
    rfl
  -- the lengths up to that of the integer itself, and the others
  have hsplit : List.range' 1 (max 17 (decade (n : ℚ)).toNat)
      = List.range' 1 (Nat.log 10 n + 1)
        ++ List.range' (1 + (Nat.log 10 n + 1)) (max 17 (Nat.log 10 n + 1) - (Nat.log 10 n + 1)) := by
    rw [hdecade, Int.toNat_natCast, List.range'_append_1]
    congr 1
    omega
  have hsome : ((List.range' 1 (Nat.log 10 n + 1)).findSome? fun k =>
      (significand? (n : ℚ) k).map fun s => (s, decade (n : ℚ) - k)).isSome = true := by
    rw [List.findSome?_isSome_iff]
    refine ⟨Nat.log 10 n + 1, ?_, ?_⟩
    · rw [List.mem_range'_1]
      omega
    · rw [Option.isSome_map]
      exact significand?_decade hdouble hdecade
  obtain ⟨found, hfound⟩ := Option.isSome_iff_exists.mp hsome
  have hshortest : shortest? (n : ℚ) = some found := by
    unfold shortest?
    rw [hsplit, List.findSome?_append, hfound]
    rfl
  obtain ⟨k, hk, hmap⟩ := List.exists_of_findSome?_eq_some hfound
  obtain ⟨s, hs, rfl⟩ := Option.map_eq_some_iff.mp hmap
  rw [List.mem_range'_1] at hk
  have hread := significand?_read hs
  have hexponent : decade (n : ℚ) - k = ((Nat.log 10 n + 1 - k : ℕ) : ℤ) := by
    rw [hdecade]
    omega
  rw [hexponent, zpow_natCast] at hread
  refine ⟨s, Nat.log 10 n + 1 - k, ?_, ?_, hread⟩
  · rw [hshortest, hexponent]
  · rintro rfl
    -- zero is read as zero
    rw [Nat.cast_zero, zero_mul] at hread
    rw [Number.round_zero] at hread
    exact hn (Nat.cast_eq_zero.mp (Number.finite.inj hread).symm)

/-- The characters of a number's text. -/
def IsPlain (c : Char) : Prop := c.isDigit = true ∨ c ∈ ['.', 'e', '+', '-']

theorem isPlain_layout {ds : Str} (h : AllDigits ds) (hne : ds ≠ []) (z : ℕ) :
    ∃ d rest, layout ds (ds.length + z) = d :: rest ∧ d.isDigit = true ∧ ∀ c ∈ rest, IsPlain c := by
  obtain ⟨d, rest, rfl⟩ := List.exists_cons_of_ne_nil hne
  have hd : d.isDigit = true := h d List.mem_cons_self
  have hrest : ∀ c ∈ rest, IsPlain c := fun c hc => .inl (h c (List.mem_cons_of_mem d hc))
  have hexponent : ∀ m, ∀ c ∈ 'e' :: '+' :: Nat.toDigits 10 m, IsPlain c := by
    intro m c hc
    rcases List.mem_cons.mp hc with rfl | hc
    · exact .inr (by decide)
    · rcases List.mem_cons.mp hc with rfl | hc
      · exact .inr (by decide)
      · exact .inl (Nat.isDigit_of_mem_toDigits (by omega) (by omega) hc)
  have hpos : 0 < (d :: rest).length := Nat.zero_lt_succ _
  unfold layout
  by_cases hsmall : (((d :: rest).length : ℤ) + z) ≤ 21
  · rw [if_pos ⟨by omega, hsmall⟩]
    refine ⟨d, _, rfl, hd, fun c hc => ?_⟩
    rcases List.mem_append.mp hc with hc | hc
    · exact hrest c hc
    · rw [List.eq_of_mem_replicate hc]
      exact .inl rfl
  · rw [if_neg (fun hc => hsmall hc.2), if_neg (fun hc => hsmall hc.2), if_neg (by omega),
      if_pos (by omega)]
    match rest, hrest with
    | [], _ => exact ⟨d, _, rfl, hd, hexponent _⟩
    | d' :: rest, hrest =>
        refine ⟨d, '.' :: d' :: rest ++ _, rfl, hd, fun c hc => ?_⟩
        rcases List.mem_append.mp hc with hc | hc
        · rcases List.mem_cons.mp hc with rfl | hc
          · exact .inr (by decide)
          · exact hrest c hc
        · exact hexponent _ c hc

/-- The text of a positive integer is read as the integer. -/
theorem positiveText_read {n : ℕ} (hn : n ≠ 0) (hdouble : IsDouble (n : ℚ)) :
    (∃ d rest, positiveText (n : ℚ) = d :: rest ∧ d.isDigit = true ∧ ∀ c ∈ rest, IsPlain c) ∧
      unsigned (positiveText (n : ℚ)) = .finite (n : ℚ) := by
  obtain ⟨s, e, hshortest, hs, hread⟩ := shortest?_natCast hn hdouble
  obtain ⟨ds, z, hdigits, hne, hstrip, hlength, hvalue⟩ := toDigits_strip hs
  have htext : positiveText (n : ℚ) = layout ds (ds.length + ((z + e : ℕ) : ℤ)) := by
    unfold positiveText
    rw [hshortest]
    show layout _ ((Nat.toDigits 10 s).length + (e : ℤ)) = _
    rw [hstrip, hlength]
    congr 1
    push_cast
    ring
  rw [htext]
  have hplain := isPlain_layout hdigits hne (z + e)
  refine ⟨hplain, ?_⟩
  obtain ⟨d, rest, hcons, hd, -⟩ := hplain
  have hnot : layout ds (ds.length + ((z + e : ℕ) : ℤ)) ≠ infinityText := by
    rw [hcons]
    intro heq
    obtain rfl : d = 'I' := (List.cons.inj heq).1
    exact absurd hd (by decide)
  have hnumber : ((s : ℚ)) * 10 ^ e = Nat.ofDigitChars 10 ds 0 * 10 ^ (z + e) := by
    conv_lhs => rw [hvalue]
    push_cast
    ring
  unfold unsigned
  rw [if_neg hnot, scientific?_layout hdigits hne, Option.elim_some, ← hnumber]
  exact hread

theorem isSpace_of_isPlain {c : Char} (h : IsPlain c) : isSpace c = false := by
  rcases h with hdigit | hmem
  · have hlow : 48 ≤ c.toNat := by
      have := (Bool.and_eq_true _ _ ▸ hdigit : _ ∧ _).1
      exact of_decide_eq_true this
    have hhigh : c.toNat ≤ 57 := by
      have := (Bool.and_eq_true _ _ ▸ hdigit : _ ∧ _).2
      exact of_decide_eq_true this
    simp only [isSpace, spaces, List.contains_eq_mem, decide_eq_false_iff_not, List.mem_cons,
      List.not_mem_nil, or_false, not_or]
    omega
  · have hall : ['.', 'e', '+', '-'].all (fun d => !isSpace d) = true := by decide
    simpa using List.all_eq_true.mp hall c hmem

/-- A text of plain characters that begins with a digit is read as a decimal literal. -/
theorem number_plain {d : Char} {rest : Str} (hd : d.isDigit = true) (hrest : ∀ c ∈ rest, IsPlain c) :
    number (d :: rest) = unsigned (d :: rest) := by
  have hall : ∀ c ∈ d :: rest, isSpace c = false := by
    intro c hc
    rcases List.mem_cons.mp hc with rfl | hc
    · exact isSpace_of_isPlain (.inl hd)
    · exact isSpace_of_isPlain (hrest c hc)
  have hsecond : ∀ c₁ c₂, ¬ IsPlain c₂ → (d :: rest).take 2 ≠ [c₁, c₂] := by
    intro c₁ c₂ hnot heq
    refine hnot (hrest c₂ ?_)
    rw [List.take_succ_cons] at heq
    have htail : rest.take 1 = [c₂] := (List.cons.inj heq).2
    exact List.mem_of_mem_take (htail ▸ List.mem_singleton_self c₂)
  have hletters : ∀ c ∈ ['x', 'X', 'o', 'O', 'b', 'B'], ¬ IsPlain c := by
    simp [IsPlain]
  have hradix : radix? (d :: rest) = none := by
    unfold radix?
    rw [if_neg, if_neg, if_neg] <;> rintro (h | h) <;>
      exact hsecond _ _ (hletters _ (by decide)) h
  have hsign : ∀ c : Char, c.isDigit = false → (d :: rest).head? ≠ some c := by
    intro c hc heq
    obtain rfl : d = c := Option.some.inj heq
    rw [hd] at hc
    cases hc
  unfold number
  rw [trim_of_no_space hall]
  dsimp only
  rw [if_neg (List.cons_ne_nil d rest), hradix]
  dsimp only
  rw [if_neg (hsign '-' (by decide)), if_neg (hsign '+' (by decide))]

/-- A minus sign goes to the number. -/
theorem number_minus {d : Char} {rest : Str} (hd : d.isDigit = true)
    (hrest : ∀ c ∈ rest, IsPlain c) : number ('-' :: d :: rest) = (unsigned (d :: rest)).neg := by
  have hall : ∀ c ∈ '-' :: d :: rest, isSpace c = false := by
    intro c hc
    rcases List.mem_cons.mp hc with rfl | hc
    · decide
    rcases List.mem_cons.mp hc with rfl | hc
    · exact isSpace_of_isPlain (.inl hd)
    · exact isSpace_of_isPlain (hrest c hc)
  have hradix : radix? ('-' :: d :: rest) = none := by
    unfold radix?
    rw [if_neg, if_neg, if_neg] <;> rintro (h | h) <;> exact absurd (List.cons.inj h).1 (by decide)
  unfold number
  rw [trim_of_no_space hall]
  dsimp only
  rw [if_neg (List.cons_ne_nil _ _), hradix]
  rfl

end

/-- The text of an integer is a sign, perhaps, and the text of a positive one, or it is `0`. -/
theorem text_intCast (n : ℤ) : (Number.finite n).text =
    if n = 0 then ['0']
    else if n < 0 then '-' :: positiveText (n.natAbs : ℚ) else positiveText (n.natAbs : ℚ) := by
  unfold Number.text
  simp only [Int.cast_eq_zero, Int.cast_lt_zero]
  split_ifs with hzero hneg
  · rfl
  · have habs : -(n : ℚ) = (n.natAbs : ℚ) := by
      rw [Nat.cast_natAbs, abs_of_neg hneg, Int.cast_neg]
    rw [habs]
  · have habs : (n : ℚ) = (n.natAbs : ℚ) := by
      rw [Nat.cast_natAbs, abs_of_nonneg (not_lt.mp hneg)]
    rw [habs]

/-- The sign of a number plays no part in its rounding. -/
theorem isDouble_natAbs {n : ℤ} (h : IsDouble (n : ℚ)) : IsDouble (n.natAbs : ℚ) := by
  by_cases hneg : n < 0
  · have habs : (n.natAbs : ℚ) = -(n : ℚ) := by
      rw [Nat.cast_natAbs, abs_of_neg hneg, Int.cast_neg]
    have hcast : (n : ℚ) < 0 := Int.cast_lt_zero.mpr hneg
    unfold IsDouble Number.round at h
    rw [if_pos hcast] at h
    have hround : Number.roundPositive (-(n : ℚ)) = .finite (-(n : ℚ)) := by
      generalize Number.roundPositive (-(n : ℚ)) = r at h ⊢
      cases r with
      | nan => cases h
      | infinity negative => cases h
      | finite value => rw [← Number.finite.inj h, neg_neg]
    unfold IsDouble Number.round
    rw [habs, if_neg (not_lt.mpr (neg_nonneg.mpr hcast.le)), hround]
  · have habs : (n.natAbs : ℚ) = (n : ℚ) := by
      rw [Nat.cast_natAbs, abs_of_nonneg (not_lt.mp hneg)]
    rwa [habs]

/-- **An integer comes back from its text.** -/
theorem number_text {n : ℤ} (hdouble : IsDouble (n : ℚ)) :
    number (Number.finite n).text = .finite n := by
  rw [text_intCast]
  split_ifs with hzero hneg
  · rw [hzero]
    have hread := @number_plain '0' [] rfl fun c hc => by cases hc
    have hzeroes : unsigned ['0'] = .finite 0 := by
      have hdigits : AllDigits ['0'] := List.all_eq_true.mp rfl
      unfold unsigned
      rw [if_neg (by decide), scientific?_digits hdigits (List.cons_ne_nil _ _), Option.elim_some]
      exact (congrArg Number.round Nat.cast_zero).trans Number.round_zero
    rw [hread, hzeroes, Int.cast_zero]
  · have hne : n.natAbs ≠ 0 := Int.natAbs_ne_zero.mpr hzero
    obtain ⟨⟨d, rest, hcons, hd, hrest⟩, hread⟩ := positiveText_read hne (isDouble_natAbs hdouble)
    rw [hcons, number_minus hd hrest, ← hcons, hread]
    show Number.finite (-(n.natAbs : ℚ)) = _
    rw [Nat.cast_natAbs, abs_of_neg hneg, Int.cast_neg, neg_neg]
  · have hne : n.natAbs ≠ 0 := Int.natAbs_ne_zero.mpr hzero
    obtain ⟨⟨d, rest, hcons, hd, hrest⟩, hread⟩ := positiveText_read hne (isDouble_natAbs hdouble)
    rw [hcons, number_plain hd hrest, ← hcons, hread, Nat.cast_natAbs,
      abs_of_nonneg (not_lt.mp hneg)]

/-- The text of an integer is not empty, and its characters are plain. -/
theorem isPlain_text {n : ℤ} (hdouble : IsDouble (n : ℚ)) :
    (Number.finite n).text ≠ [] ∧ ∀ c ∈ (Number.finite n).text, IsPlain c := by
  rw [text_intCast]
  split_ifs with hzero hneg
  · refine ⟨List.cons_ne_nil _ _, fun c hc => ?_⟩
    rw [List.mem_singleton.mp hc]
    exact .inl rfl
  · have hne : n.natAbs ≠ 0 := Int.natAbs_ne_zero.mpr hzero
    obtain ⟨⟨d, rest, hcons, hd, hrest⟩, -⟩ := positiveText_read hne (isDouble_natAbs hdouble)
    rw [hcons]
    refine ⟨List.cons_ne_nil _ _, fun c hc => ?_⟩
    rcases List.mem_cons.mp hc with rfl | hc
    · exact .inr (by decide)
    rcases List.mem_cons.mp hc with rfl | hc
    · exact .inl hd
    · exact hrest c hc
  · have hne : n.natAbs ≠ 0 := Int.natAbs_ne_zero.mpr hzero
    obtain ⟨⟨d, rest, hcons, hd, hrest⟩, -⟩ := positiveText_read hne (isDouble_natAbs hdouble)
    rw [hcons]
    refine ⟨List.cons_ne_nil _ _, fun c hc => ?_⟩
    rcases List.mem_cons.mp hc with rfl | hc
    · exact .inl hd
    · exact hrest c hc

end Js
