import Mathlib.Data.List.Basic
import Mathlib.Data.Nat.Digits.Defs

set_option autoImplicit false

/-! # Bytes in hexadecimal

Two digits a byte, the high one first. `decode` reads digits of either case and stops at the first pair
that is none, as `Buffer.from(text, "hex")` does; `encode` writes lower case. What is written is read
back (`decode_encode`), and what is read is written back in lower case (`encode_decode`), so a text
survives the way through its bytes exactly when it has no upper-case letter.

A string of bytes is also kept as one number, its first byte the lowest (`word`, `bytes`).
-/

namespace Hex

/-! ## Digits -/

/-- The digits that are written. -/
def digits : List Char :=
  ['0', '1', '2', '3', '4', '5', '6', '7', '8', '9', 'a', 'b', 'c', 'd', 'e', 'f']

def digit (n : ℕ) : Char := digits.getD n '0'

/-- The value of a digit, of either case. -/
def value? (c : Char) : Option ℕ := digits.idxOf? c.toLower

def IsDigit (c : Char) : Prop := (value? c).isSome = true

instance : DecidablePred IsDigit := fun c => inferInstanceAs (Decidable ((value? c).isSome = true))

/-- What is so of the sixteen digits can be checked one by one. -/
theorem forall_mem_digits {P : Char → Prop} [DecidablePred P]
    (h : digits.all (fun c => decide (P c)) = true) : ∀ c ∈ digits, P c :=
  fun c hc => of_decide_eq_true (List.all_eq_true.mp h c hc)

theorem value?_digit : ∀ n < 16, value? (digit n) = some n := by decide

theorem toLower_digit : ∀ n < 16, (digit n).toLower = digit n := by decide

theorem digit_of_value? {c : Char} {n : ℕ} (h : value? c = some n) :
    n < 16 ∧ digit n = c.toLower := by
  obtain ⟨hlt, heq, -⟩ := List.idxOf?_eq_some_iff.mp h
  refine ⟨hlt, ?_⟩
  rw [← heq, digit, List.getD_eq_getElem?_getD, List.getElem?_eq_getElem hlt]
  rfl

/-! ## Bytes -/

def encodeByte (b : UInt8) : List Char := [digit (b.toNat / 16), digit (b.toNat % 16)]

def encode (bs : List UInt8) : List Char := bs.flatMap encodeByte

def decode : List Char → List UInt8
  | a :: b :: rest =>
      match value? a, value? b with
      | some x, some y => UInt8.ofNat (16 * x + y) :: decode rest
      | _, _ => []
  | _ => []

theorem decode_cons {a b : Char} {x y : ℕ} (ha : value? a = some x) (hb : value? b = some y)
    (rest : List Char) : decode (a :: b :: rest) = UInt8.ofNat (16 * x + y) :: decode rest := by
  rw [decode, ha, hb]

theorem decode_encode (bs : List UInt8) : decode (encode bs) = bs := by
  induction bs with
  | nil => rfl
  | cons b bs ih =>
      have hlt : b.toNat < 256 := b.toNat_lt
      have hhigh := value?_digit (b.toNat / 16) (by omega)
      have hlow := value?_digit (b.toNat % 16) (by omega)
      show decode (digit (b.toNat / 16) :: digit (b.toNat % 16) :: encode bs) = b :: bs
      rw [decode_cons hhigh hlow, ih, Nat.div_add_mod, UInt8.ofNat_toNat]

theorem length_encode (bs : List UInt8) : (encode bs).length = 2 * bs.length := by
  induction bs with
  | nil => rfl
  | cons b bs ih =>
      show (encode bs).length + 2 = 2 * (bs.length + 1)
      omega

theorem encodeByte_ofNat {x y : ℕ} (hx : x < 16) (hy : y < 16) :
    encodeByte (UInt8.ofNat (16 * x + y)) = [digit x, digit y] := by
  have hbyte : (UInt8.ofNat (16 * x + y)).toNat = 16 * x + y :=
    UInt8.toNat_ofNat_of_lt' (by show 16 * x + y < 256; omega)
  rw [encodeByte, hbyte]
  congr 2
  · omega
  · congr 1
    omega

/-- The induction takes two digits at a time, as `decode` does. -/
theorem encode_decode {cs : List Char} (hdigits : ∀ c ∈ cs, IsDigit c) {n : ℕ}
    (hlength : cs.length = 2 * n) :
    encode (decode cs) = cs.map Char.toLower ∧ (decode cs).length = n := by
  induction n generalizing cs with
  | zero =>
      obtain rfl := List.length_eq_zero_iff.mp hlength
      exact ⟨rfl, rfl⟩
  | succ n ih =>
      match cs, hlength with
      | a :: b :: rest, hlength =>
          obtain ⟨x, hx⟩ := Option.isSome_iff_exists.mp (hdigits a List.mem_cons_self)
          obtain ⟨y, hy⟩ := Option.isSome_iff_exists.mp
            (hdigits b (List.mem_cons_of_mem a List.mem_cons_self))
          obtain ⟨hxlt, hxdigit⟩ := digit_of_value? hx
          obtain ⟨hylt, hydigit⟩ := digit_of_value? hy
          have hrest : ∀ c ∈ rest, IsDigit c :=
            fun c hc => hdigits c (List.mem_cons_of_mem a (List.mem_cons_of_mem b hc))
          simp only [List.length_cons] at hlength
          obtain ⟨hencode, hlen⟩ := ih hrest (by omega)
          rw [decode_cons hx hy]
          refine ⟨?_, congrArg (· + 1) hlen⟩
          show encodeByte _ ++ encode (decode rest) = _
          rw [encodeByte_ofNat hxlt hylt, hencode, hxdigit, hydigit]
          rfl

/-- A text of digits is written back as it was, or it has an upper-case letter. -/
theorem encode_decode_iff {cs : List Char} (hdigits : ∀ c ∈ cs, IsDigit c) {n : ℕ}
    (hlength : cs.length = 2 * n) : encode (decode cs) = cs ↔ ∀ c ∈ cs, c.toLower = c := by
  rw [(encode_decode hdigits hlength).1]
  constructor
  · intro h c hc
    have hsame := List.map_eq_map_iff.mp (h.trans (List.map_id cs).symm)
    exact hsame c hc
  · intro h
    exact (List.map_congr_left h).trans (List.map_id cs)

theorem mem_encode {bs : List UInt8} {c : Char} (h : c ∈ encode bs) : ∃ n < 16, c = digit n := by
  obtain ⟨b, -, hc⟩ := List.mem_flatMap.mp h
  have hlt : b.toNat < 256 := b.toNat_lt
  rcases List.mem_cons.mp hc with rfl | hc
  · exact ⟨b.toNat / 16, by omega, rfl⟩
  · exact ⟨b.toNat % 16, by omega, List.mem_singleton.mp hc⟩

theorem isDigit_encode {bs : List UInt8} {c : Char} (h : c ∈ encode bs) : IsDigit c := by
  obtain ⟨n, hn, rfl⟩ := mem_encode h
  exact Option.isSome_iff_exists.mpr ⟨n, value?_digit n hn⟩

theorem toLower_encode {bs : List UInt8} {c : Char} (h : c ∈ encode bs) : c.toLower = c := by
  obtain ⟨n, hn, rfl⟩ := mem_encode h
  exact toLower_digit n hn

/-! ## Bytes as a number -/

def word (bs : List UInt8) : ℕ := Nat.ofDigits 256 (bs.map UInt8.toNat)

/-- The lowest bytes of a number. -/
def bytes : ℕ → ℕ → List UInt8
  | 0, _ => []
  | k + 1, n => UInt8.ofNat n :: bytes k (n / 256)

theorem length_bytes (k n : ℕ) : (bytes k n).length = k := by
  induction k generalizing n with
  | zero => rfl
  | succ k ih => exact congrArg (· + 1) (ih (n / 256))

theorem bytes_word {bs : List UInt8} {k : ℕ} (h : bs.length = k) : bytes k (word bs) = bs := by
  induction bs generalizing k with
  | nil =>
      obtain rfl : 0 = k := h
      rfl
  | cons b bs ih =>
      obtain ⟨k, rfl⟩ : ∃ k', k = k' + 1 := ⟨bs.length, h.symm⟩
      have hlt : b.toNat < 256 := b.toNat_lt
      have hword : word (b :: bs) = b.toNat + 256 * word bs := Nat.ofDigits_cons
      have hrest : word (b :: bs) / 256 = word bs := by omega
      have hfirst : UInt8.ofNat (word (b :: bs)) = b := by
        apply UInt8.toNat_inj.mp
        rw [UInt8.toNat_ofNat']
        show word (b :: bs) % 256 = b.toNat
        omega
      rw [bytes, hrest, hfirst, ih (Nat.succ.inj h)]

end Hex
