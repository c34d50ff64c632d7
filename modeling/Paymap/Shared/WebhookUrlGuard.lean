import Mathlib.Data.List.GetD
import Mathlib.Data.List.TakeWhile
import Paymap.Lib.IpText

set_option autoImplicit false

/-! # Where a webhook may be sent to

`packages/shared/src/webhook-url-guard.ts`: a URL is refused whose host is, or resolves to, a private or
reserved address. The check looks at the text of an address. An IPv4 address has one text, and for it the
check is exact (`isBlockedAddress_ipv4`). An IPv6 address has many. The unspecified and the loopback address
are known by one text each, a unique-local address by its first two characters, and an embedded IPv4
address by one spelling with a quad and by the groups without one, so some addresses that are meant to be
refused are let through, and some others refused. `Misread` says which texts these are, and for all others
the check decides by the address (`isBlockedAddress_iff`).
-/

namespace Paymap.Shared.UrlGuard

open IpText

/-! ## The rules -/

/-- The checks of `isPrivateOrReservedIPv4`, on the first two octets. -/
def reserved (a b : ℕ) : Bool :=
  a = 127 || a = 10 || (a = 172 && 16 ≤ b && b ≤ 31) || (a = 192 && b = 168) ||
    (a = 169 && b = 254) || (a = 100 && 64 ≤ b && b ≤ 127) || a = 0 || 224 ≤ a

/-- `address.split(".").map(Number)`, of decimal digits. -/
def octetsOf (address : Str) : List ℕ := (address.splitOn '.').map fun o => Nat.ofDigitChars 10 o 0

def isPrivateOrReservedIPv4 (address : Str) : Bool :=
  reserved ((octetsOf address).getD 0 0) ((octetsOf address).getD 1 0)

def expandIPv6Hextets (address : Str) : Option (List Str) :=
  match cutDouble (bare address) with
  | some (l, r) =>
      -- more than two sides
      if (cutDouble r).isSome then none
      else if 8 < (parts l).length + (parts r).length then none
      else some (parts l ++ (List.replicate (8 - (parts l).length - (parts r).length) ['0'] ++ parts r))
  | none =>
      let hextets := (bare address).splitOn ':'
      if hextets.length = 8 then some hextets else none

/-- `parseInt(h, 16)` of a text that begins with a digit, or is none; `none` is `NaN`. -/
def parseHex (h : Str) : Option ℕ :=
  let digits := h.takeWhile fun c => Hex.IsDigit c
  if digits = [] then none else some (hextetValue digits)

def dottedQuad (high low : ℕ) : Str :=
  Nat.toDigits 10 (high / 256 % 256) ++ '.' :: (Nat.toDigits 10 (high % 256) ++ '.' ::
    (Nat.toDigits 10 (low / 256 % 256) ++ '.' :: Nat.toDigits 10 (low % 256)))

/-- The quad of eight values that are those of a mapped address. -/
def mappedQuad (values : List ℕ) : Option Str :=
  if (∀ v ∈ values.take 5, v = 0) ∧ values[5]? = some 0xffff then
    some (dottedQuad (values.getD 6 0) (values.getD 7 0))
  else none

def ipv6MappedHexToIPv4 (address : Str) : Option Str := do
  let hextets ← expandIPv6Hextets address
  let values ← hextets.mapM fun h => parseHex (if h = [] then ['0'] else h)
  mappedQuad values

/-- `/^fe[89ab][0-9a-f]:/`. -/
def isLinkLocal (t : Str) : Bool :=
  t.take 2 = ['f', 'e'] && t[2]?.any (fun c => c ∈ ['8', '9', 'a', 'b']) &&
    t[3]?.any (fun c => c ∈ Hex.digits) && t[4]? = some ':'

def mappedPrefix : Str := [':', ':', 'f', 'f', 'f', 'f', ':']

/-- `/^::ffff:(\d+\.\d+\.\d+\.\d+)$/`, and the group of it. -/
def mappedDotted (t : Str) : Option Str :=
  if mappedPrefix <+: t then
    let rest := t.drop mappedPrefix.length
    if (rest.splitOn '.').length = 4 ∧ ∀ o ∈ rest.splitOn '.', o ≠ [] ∧ o.all Char.isDigit = true then
      some rest
    else none
  else none

/-- What begins with `fc` or `fd`. -/
def beginsUniqueLocal (t : Str) : Bool := t.take 2 = ['f', 'c'] || t.take 2 = ['f', 'd']

def isPrivateOrReservedIPv6 (address : Str) : Bool :=
  let lowered := lower address
  if lowered = [':', ':', '1'] || lowered = [':', ':'] then true
  else if isLinkLocal lowered then true
  else if beginsUniqueLocal lowered then true
  else
    match (mappedDotted lowered).filter fun quad => isIP quad = 4 with
    | some quad => isPrivateOrReservedIPv4 quad
    | none => (ipv6MappedHexToIPv4 lowered).any isPrivateOrReservedIPv4

def isBlockedAddress (address : Str) : Bool :=
  if isIP address = 4 then isPrivateOrReservedIPv4 address
  else if isIP address = 6 then isPrivateOrReservedIPv6 address
  else true

/-! ## The documented ranges -/

def ipv4 (a b c d : ℕ) : ℕ := 16777216 * a + 65536 * b + 256 * c + d

def ipv4Blocks : List (Block 32) :=
  [⟨ipv4 10 0 0 0, 8⟩, ⟨ipv4 172 16 0 0, 12⟩, ⟨ipv4 192 168 0 0, 16⟩, ⟨ipv4 127 0 0 0, 8⟩,
    ⟨ipv4 169 254 0 0, 16⟩, ⟨ipv4 100 64 0 0, 10⟩, ⟨ipv4 0 0 0 0, 8⟩, ⟨ipv4 224 0 0 0, 4⟩,
    ⟨ipv4 240 0 0 0, 4⟩]

/-- An IPv4 address of a listed range. -/
def Listed (x : ℕ) : Prop := ∃ b ∈ ipv4Blocks, b.Has x

instance (x : ℕ) : Decidable (Listed x) := inferInstanceAs (Decidable (∃ b ∈ ipv4Blocks, b.Has x))

/-- `::`, `::1`, `fe80::/10` and `fc00::/7`. -/
def ipv6Blocks : List (Block 128) :=
  [⟨0, 128⟩, ⟨1, 128⟩, ⟨0xfe80 * 2 ^ 112, 10⟩, ⟨0xfc00 * 2 ^ 112, 7⟩]

/-- `::ffff:0:0/96`. -/
def mappedBlock : Block 128 := ⟨0xffff * 2 ^ 32, 96⟩

/-- An IPv6 address of a documented range, or one mapped from a listed IPv4 address. -/
def Documented (x : ℕ) : Prop :=
  (∃ b ∈ ipv6Blocks, b.Has x) ∨ (mappedBlock.Has x ∧ Listed (x % 2 ^ 32))

instance (x : ℕ) : Decidable (Documented x) :=
  inferInstanceAs (Decidable ((∃ b ∈ ipv6Blocks, b.Has x) ∨ (mappedBlock.Has x ∧ Listed (x % 2 ^ 32))))

/-! ## Listed addresses -/

theorem reserved_iff_listed {a b c d : ℕ} (ha : a < 256) (hb : b < 256) (hc : c < 256) (hd : d < 256) :
    reserved a b = true ↔ Listed (ipv4 a b c d) := by
  simp only [reserved, Listed, ipv4Blocks, ipv4, Block.Has, Bool.or_eq_true, Bool.and_eq_true,
    decide_eq_true_eq, List.exists_mem_cons_iff, List.not_mem_nil, false_and, exists_false, or_false,
    Nat.reducePow, Nat.reduceSub, Nat.reduceMul, Nat.reduceAdd, Nat.reduceDiv]
  omega

/-- **An IPv4 address** is decided by the address. -/
theorem isPrivateOrReservedIPv4_iff {t : Str} (h : IsIPv4 t) :
    isPrivateOrReservedIPv4 t = true ↔ Listed (ipv4Value t) := by
  obtain ⟨a, b, c, d, ha, hb, hc, hd, hoctets, hvalue⟩ := h.value
  have hlisted := reserved_iff_listed ha hb hc hd
  unfold isPrivateOrReservedIPv4 octetsOf
  rw [hoctets, hvalue]
  exact hlisted

/-- The documented addresses, by their groups. -/
theorem documented_iff {g₀ g₁ g₂ g₃ g₄ g₅ g₆ g₇ : ℕ} (hlt : ∀ g ∈ [g₀, g₁, g₂, g₃, g₄, g₅, g₆, g₇], g < 65536) :
    (Documented (groupsValue [g₀, g₁, g₂, g₃, g₄, g₅, g₆, g₇]) ↔
      groupsValue [g₀, g₁, g₂, g₃, g₄, g₅, g₆, g₇] ≤ 1 ∨ g₀ / 64 = 1018 ∨ g₀ / 512 = 126 ∨
        (mappedBlock.Has (groupsValue [g₀, g₁, g₂, g₃, g₄, g₅, g₆, g₇]) ∧
          Listed (groupsValue [g₀, g₁, g₂, g₃, g₄, g₅, g₆, g₇] % 2 ^ 32))) ∧
    (groupsValue [g₀, g₁, g₂, g₃, g₄, g₅, g₆, g₇] ≤ 1 ↔
      g₀ = 0 ∧ g₁ = 0 ∧ g₂ = 0 ∧ g₃ = 0 ∧ g₄ = 0 ∧ g₅ = 0 ∧ g₆ = 0 ∧ g₇ ≤ 1) ∧
    (mappedBlock.Has (groupsValue [g₀, g₁, g₂, g₃, g₄, g₅, g₆, g₇]) ↔
      g₀ = 0 ∧ g₁ = 0 ∧ g₂ = 0 ∧ g₃ = 0 ∧ g₄ = 0 ∧ g₅ = 65535) ∧
    (Listed (groupsValue [g₀, g₁, g₂, g₃, g₄, g₅, g₆, g₇] % 2 ^ 32) ↔
      reserved (g₆ / 256) (g₆ % 256) = true) := by
  simp only [List.mem_cons, List.not_mem_nil, or_false, forall_eq_or_imp, forall_eq] at hlt
  obtain ⟨h₀, h₁, h₂, h₃, h₄, h₅, h₆, h₇⟩ := hlt
  refine ⟨?_, ?_, ?_, ?_⟩
  · unfold Documented
    rw [← or_assoc, ← or_assoc]
    refine or_congr_left ?_
    simp only [ipv6Blocks, Block.Has, List.exists_mem_cons_iff, List.not_mem_nil, false_and,
      exists_false, or_false, groupsValue, List.foldl_cons, List.foldl_nil, Nat.reducePow,
      Nat.reduceSub, Nat.reduceMul, Nat.reduceDiv]
    omega
  · simp only [groupsValue, List.foldl_cons, List.foldl_nil]
    omega
  · simp only [mappedBlock, Block.Has, groupsValue, List.foldl_cons, List.foldl_nil, Nat.reducePow,
      Nat.reduceSub, Nat.reduceMul, Nat.reduceDiv]
    omega
  · rw [reserved_iff_listed (c := g₇ / 256) (d := g₇ % 256) (by omega) (by omega) (by omega) (by omega)]
    have hlow : groupsValue [g₀, g₁, g₂, g₃, g₄, g₅, g₆, g₇] % 2 ^ 32
        = ipv4 (g₆ / 256) (g₆ % 256) (g₇ / 256) (g₇ % 256) := by
      simp only [groupsValue, List.foldl_cons, List.foldl_nil, ipv4, Nat.reducePow]
      omega
    rw [hlow]

/-! ## What a text begins with -/

/-- The values of the digits that the checks ask for. -/
theorem digit_values : ∀ c ∈ Hex.digits, digitValue c < 16 ∧ (c = 'f' ↔ digitValue c = 15) ∧
    (c = 'e' ↔ digitValue c = 14) ∧ (c ∈ ['8', '9', 'a', 'b'] ↔ digitValue c / 4 = 2) ∧
    (c = 'c' ∨ c = 'd' ↔ digitValue c / 2 = 6) ∧ c ≠ ':' := Hex.forall_mem_digits (by decide)

section

variable {t u p q : Str} {gs : List ℕ}

/-- The first group has fewer digits than the check looks for. -/
def ShortUniqueLocal (t : Str) : Prop :=
  beginsUniqueLocal t = true ∧ (t.takeWhile (· ≠ ':')).length < 4

theorem beginsUniqueLocal_iff {a b : Char} : beginsUniqueLocal (a :: b :: u) = true ↔
    a = 'f' ∧ (b = 'c' ∨ b = 'd') := by
  simp [beginsUniqueLocal]
  tauto

theorem takeWhile_group (h : IsGroup p) : (p ++ ':' :: u).takeWhile (· ≠ ':') = p := by
  have hp : ∀ c ∈ p, (decide (c ≠ ':')) = true :=
    fun c hc => decide_eq_true (digit_values c (h.2 c hc)).2.2.2.2.2
  rw [List.takeWhile_append_of_pos hp, List.takeWhile_cons_of_neg (by simp), List.append_nil]

/-- A group with a digit less is no link-local one, and its value is that of no unique-local one. -/
theorem short_group_checks {a : Char} (hlink : isLinkLocal t = false)
    (hlt : hextetValue p < 4096) (hbegins : beginsUniqueLocal t = true → a = 'f')
    (hfirst : a = 'f' → hextetValue p ≠ 0) (hlength : (t.takeWhile (· ≠ ':')).length < 4) :
    (isLinkLocal t = true ↔ hextetValue p / 64 = 1018) ∧
    (beginsUniqueLocal t = true ↔ hextetValue p / 512 = 126 ∨ ShortUniqueLocal t) ∧
    (ShortUniqueLocal t → hextetValue p ≠ 0 ∧ hextetValue p < 4096) := by
  refine ⟨iff_of_false (by rw [hlink]; decide) (by omega), ?_, ?_⟩
  · rw [or_iff_right (by omega)]
    exact (and_iff_left hlength).symm
  · exact fun h => ⟨hfirst (hbegins h.1), hlt⟩

/-- **The two checks of the beginning** of a text, by the value of its first group. -/
theorem group_checks (h : IsGroup p) :
    (isLinkLocal (p ++ ':' :: u) = true ↔ hextetValue p / 64 = 1018) ∧
    (beginsUniqueLocal (p ++ ':' :: u) = true ↔
      hextetValue p / 512 = 126 ∨ ShortUniqueLocal (p ++ ':' :: u)) ∧
    (ShortUniqueLocal (p ++ ':' :: u) → hextetValue p ≠ 0 ∧ hextetValue p < 4096) := by
  have hfirst := takeWhile_group (u := u) h
  obtain ⟨⟨hpos, hle⟩, hdigits⟩ := h
  rcases p with _ | ⟨a, _ | ⟨b, _ | ⟨c, _ | ⟨d, _ | ⟨e, p⟩⟩⟩⟩⟩
  · exact absurd hpos (by simp)
  · -- one digit
    have ha := digit_values a (hdigits a (by simp))
    have hvalue : hextetValue [a] = digitValue a := by simp [hextetValue]
    refine short_group_checks (by simp [isLinkLocal]) (by omega) ?_
      (fun hf => by have := ha.2.1.mp hf; omega) (by rw [hfirst]; simp)
    exact fun hbegins => (beginsUniqueLocal_iff.mp hbegins).1
  · -- two digits
    have ha := digit_values a (hdigits a (by simp))
    have hb := digit_values b (hdigits b (by simp))
    have hvalue : hextetValue [a, b] = 16 * digitValue a + digitValue b := by simp [hextetValue]
    refine short_group_checks (by simp [isLinkLocal]) (by omega) ?_
      (fun hf => by have := ha.2.1.mp hf; omega) (by rw [hfirst]; simp)
    exact fun hbegins => (beginsUniqueLocal_iff.mp hbegins).1
  · -- three digits
    have ha := digit_values a (hdigits a (by simp))
    have hb := digit_values b (hdigits b (by simp))
    have hc := digit_values c (hdigits c (by simp))
    have hvalue : hextetValue [a, b, c] = 256 * digitValue a + 16 * digitValue b + digitValue c := by
      simp [hextetValue]
      omega
    have hcolon : ':' ∉ Hex.digits := by decide
    refine short_group_checks (by simp [isLinkLocal, hcolon]) (by omega) ?_
      (fun hf => by have := ha.2.1.mp hf; omega) (by rw [hfirst]; simp)
    exact fun hbegins => (beginsUniqueLocal_iff.mp hbegins).1
  · -- four digits
    have ha := digit_values a (hdigits a (by simp))
    have hb := digit_values b (hdigits b (by simp))
    have hc := digit_values c (hdigits c (by simp))
    have hd := digit_values d (hdigits d (by simp))
    have hvalue : hextetValue [a, b, c, d]
        = 4096 * digitValue a + 256 * digitValue b + 16 * digitValue c + digitValue d := by
      simp [hextetValue]
      omega
    have hlong : ¬ ShortUniqueLocal ([a, b, c, d] ++ ':' :: u) := by
      rintro ⟨-, hlt⟩
      rw [hfirst] at hlt
      simp at hlt
    refine ⟨?_, ?_, fun hshort => absurd hshort hlong⟩
    · have hlink : isLinkLocal ([a, b, c, d] ++ ':' :: u) = true ↔
          a = 'f' ∧ b = 'e' ∧ c ∈ ['8', '9', 'a', 'b'] := by
        have hmem := hdigits d (by simp)
        simp [isLinkLocal, hmem, and_assoc]
      rw [hlink, ha.2.1, hb.2.2.1, hc.2.2.2.1, hvalue]
      omega
    · rw [or_iff_left hlong]
      refine beginsUniqueLocal_iff.trans ?_
      rw [ha.2.1, hb.2.2.2.2.1, hvalue]
      omega
  · simp only [List.length_cons] at hle
    omega

/-- The two checks of the beginning of an address, by its first group. -/
theorem first_checks (h : Shape t gs) (z : Str) : ∃ g rest, gs = g :: rest ∧
    (isLinkLocal (t ++ z) = true ↔ g / 64 = 1018) ∧
    (beginsUniqueLocal (t ++ z) = true ↔ g / 512 = 126 ∨ ShortUniqueLocal (t ++ z)) ∧
    (ShortUniqueLocal (t ++ z) → g ≠ 0 ∧ g < 4096) := by
  rcases h.first with ⟨r, rfl, hzero⟩ | ⟨p, u, rfl, hp, hvalue⟩
  · obtain ⟨rest, rfl⟩ := List.head?_eq_some_iff.mp hzero
    have hbegins : beginsUniqueLocal (':' :: ':' :: r ++ z) = false := by simp [beginsUniqueLocal]
    refine ⟨0, rest, rfl, by simp [isLinkLocal], ?_, ?_⟩
    · simp [ShortUniqueLocal]
    · rintro ⟨hmem, -⟩
      rw [hbegins] at hmem
      cases hmem
  · obtain ⟨rest, rfl⟩ := List.head?_eq_some_iff.mp hvalue
    rw [List.append_assoc, List.cons_append]
    exact ⟨hextetValue p, rest, rfl, group_checks hp⟩

/-! ## Hextets -/

/-- What is made of a hextet. -/
def valueOf (h : Str) : Option ℕ := parseHex (if h = [] then ['0'] else h)

theorem isDigit_of_mem {c : Char} (h : c ∈ Hex.digits) : Hex.IsDigit c :=
  Hex.forall_mem_digits (by decide) c h

theorem valueOf_group (h : IsGroup p) : valueOf p = some (hextetValue p) := by
  have htake : p.takeWhile (fun c => decide (Hex.IsDigit c)) = p :=
    List.takeWhile_eq_self_iff.mpr fun c hc => decide_eq_true (isDigit_of_mem (h.2 c hc))
  unfold valueOf parseHex
  rw [if_neg h.ne_nil]
  simp only [htake, if_neg h.ne_nil]

/-- A quad is read up to its first dot, in hexadecimal. -/
theorem valueOf_quad (h : IsIPv4 q) : ∃ v, valueOf q = some v := by
  obtain ⟨a, b, c, d, hsplit, ha, -⟩ := h.octets
  rcases splitOn_cons hsplit with ⟨hnil, -⟩ | ⟨u, hq, -⟩
  · cases hnil
  obtain ⟨x, a', rfl⟩ := List.exists_cons_of_ne_nil ha.1
  have hx : Hex.IsDigit x := by
    have hdigit := ha.2.1 x List.mem_cons_self
    have hall : ∀ n < 10, Hex.IsDigit (Char.ofNat (48 + n)) := by decide
    have hrange : 48 ≤ x.toNat ∧ x.toNat ≤ 57 := by
      simpa [Char.isDigit, Char.le_def, UInt32.le_iff_toNat_le] using hdigit
    have hback := hall (x.toNat - 48) (by omega)
    rwa [show 48 + (x.toNat - 48) = x.toNat by omega, Char.ofNat_toNat] at hback
  have hne : q ≠ [] := by
    rw [hq]
    exact List.cons_ne_nil _ _
  refine ⟨hextetValue (q.takeWhile fun c => decide (Hex.IsDigit c)), ?_⟩
  unfold valueOf parseHex
  rw [if_neg hne]
  refine if_neg ?_
  rw [hq]
  simp [hx]

theorem mapM_valueOf {ps : List Str} (h : ∀ p ∈ ps, IsGroup p) :
    ps.mapM valueOf = some (ps.map hextetValue) := by
  induction ps with
  | nil => rfl
  | cons p ps ih =>
      rw [List.mapM_cons, valueOf_group (h p List.mem_cons_self),
        ih fun p' hp' => h p' (List.mem_cons_of_mem p hp')]
      rfl

theorem mapM_zeros (n : ℕ) : (List.replicate n ['0']).mapM valueOf = some (List.replicate n 0) := by
  induction n with
  | zero => rfl
  | succ n ih =>
      rw [List.replicate_succ, List.mapM_cons, show valueOf ['0'] = some 0 by decide, ih]
      rfl

theorem dottedQuad_reserved (high low : ℕ) : isPrivateOrReservedIPv4 (dottedQuad high low)
    = reserved (high / 256 % 256) (high % 256) := by
  have hdot : ∀ n, '.' ∉ Nat.toDigits 10 n := by
    intro n hmem
    have hdigit := Nat.isDigit_of_mem_toDigits (by decide) (by decide) hmem
    exact absurd hdigit (by decide)
  unfold isPrivateOrReservedIPv4 octetsOf dottedQuad
  rw [List.splitOn_append_cons_self_of_not_mem (hdot _), List.splitOn_append_cons_self_of_not_mem (hdot _)]
  simp [Nat.ofDigitChars_ten_toDigits]

/-- Eight values are those of a mapped address that is refused. -/
theorem mappedQuad_any (values : List ℕ) :
    (mappedQuad values).any isPrivateOrReservedIPv4 = true ↔
      (∀ v ∈ values.take 5, v = 0) ∧ values[5]? = some 0xffff ∧
        reserved (values.getD 6 0 / 256 % 256) (values.getD 6 0 % 256) = true := by
  unfold mappedQuad
  split_ifs with h
  · rw [Option.any_some, dottedQuad_reserved]
    exact ⟨fun hr => ⟨h.1, h.2, hr⟩, fun hr => hr.2.2⟩
  · refine iff_of_false (by simp) fun hr => h ⟨hr.1, hr.2.1⟩

/-! ## Embedded addresses -/

/-- What the code makes of the hextets of a text. -/
def hexBlocked (w : Str) : Bool := (ipv6MappedHexToIPv4 w).any isPrivateOrReservedIPv4

theorem hexBlocked_of_values {w : Str} {hextets : List Str} {values : List ℕ}
    (hexpand : expandIPv6Hextets w = some hextets) (hvalues : hextets.mapM valueOf = some values) :
    hexBlocked w = (mappedQuad values).any isPrivateOrReservedIPv4 := by
  unfold hexBlocked ipv6MappedHexToIPv4
  rw [hexpand]
  exact congrArg (fun o : Option (List ℕ) => (o.bind mappedQuad).any isPrivateOrReservedIPv4) hvalues

theorem eight_groups (h : gs.length = 8) :
    ∃ g₀ g₁ g₂ g₃ g₄ g₅ g₆ g₇, gs = [g₀, g₁, g₂, g₃, g₄, g₅, g₆, g₇] := by
  have hget : ∀ i (hi : i < 8), ∃ g, gs[i]? = some g := fun i hi =>
    ⟨_, List.getElem?_eq_getElem (h ▸ hi)⟩
  obtain ⟨g₀, h₀⟩ := hget 0 (by omega)
  obtain ⟨g₁, h₁⟩ := hget 1 (by omega)
  obtain ⟨g₂, h₂⟩ := hget 2 (by omega)
  obtain ⟨g₃, h₃⟩ := hget 3 (by omega)
  obtain ⟨g₄, h₄⟩ := hget 4 (by omega)
  obtain ⟨g₅, h₅⟩ := hget 5 (by omega)
  obtain ⟨g₆, h₆⟩ := hget 6 (by omega)
  obtain ⟨g₇, h₇⟩ := hget 7 (by omega)
  refine ⟨g₀, g₁, g₂, g₃, g₄, g₅, g₆, g₇, List.ext_getElem? fun i => ?_⟩
  by_cases hi : i < 8
  · have hall : i = 0 ∨ i = 1 ∨ i = 2 ∨ i = 3 ∨ i = 4 ∨ i = 5 ∨ i = 6 ∨ i = 7 := by omega
    rcases hall with rfl | rfl | rfl | rfl | rfl | rfl | rfl | rfl <;> assumption
  · rw [List.getElem?_eq_none (by omega), List.getElem?_eq_none (by simp; omega)]

/-- Without a quad, the hextets are the groups. -/
theorem mappedQuad_groups (h : Shape t gs) :
    (mappedQuad gs).any isPrivateOrReservedIPv4 = true ↔
      mappedBlock.Has (groupsValue gs) ∧ Listed (groupsValue gs % 2 ^ 32) := by
  obtain ⟨g₀, g₁, g₂, g₃, g₄, g₅, g₆, g₇, rfl⟩ := eight_groups h.length
  obtain ⟨-, -, hmapped, hlisted⟩ := documented_iff h.lt
  have hg₆ : g₆ / 256 % 256 = g₆ / 256 := by
    have hlt := h.lt g₆ (by simp)
    omega
  rw [mappedQuad_any, hmapped, hlisted]
  simp [hg₆, and_assoc]

/-- With a quad behind two groups, the hextets are those of an address that is shifted by one: the quad
is taken for one group. -/
theorem shifted_values {A B : List ℕ} {n s t v F : ℕ} {R : ℕ → Prop} (hn : 0 < n)
    (hlength : A.length + B.length + n = 6) (hF : F ≠ 0) :
    ((∀ x ∈ (A ++ (List.replicate (n + 1) 0 ++ (B ++ [v]))).take 5, x = 0) ∧
      (A ++ (List.replicate (n + 1) 0 ++ (B ++ [v])))[5]? = some F ∧
      R ((A ++ (List.replicate (n + 1) 0 ++ (B ++ [v]))).getD 6 0)) ↔
    2 ≤ B.length ∧ (∀ g ∈ (A ++ (List.replicate n 0 ++ (B ++ [s, t]))).take 4, g = 0) ∧
      (A ++ (List.replicate n 0 ++ (B ++ [s, t])))[4]? = some F ∧
      R ((A ++ (List.replicate n 0 ++ (B ++ [s, t]))).getD 5 0) := by
  by_cases hB : 2 ≤ B.length
  · -- both lists end alike, and begin with nothing but zeros if the other one does
    obtain ⟨B', x, y, rfl⟩ : ∃ B' x y, B = B' ++ [x, y] := by
      obtain ⟨B₁, y, rfl⟩ := List.eq_nil_or_concat B |>.resolve_left (by rintro rfl; simp at hB)
      obtain ⟨B', x, rfl⟩ := List.eq_nil_or_concat B₁ |>.resolve_left (by rintro rfl; simp at hB)
      exact ⟨B', x, y, by simp⟩
    simp only [List.length_append, List.length_cons, List.length_nil] at hlength
    have hvalues : A ++ (List.replicate (n + 1) 0 ++ (B' ++ [x, y] ++ [v]))
        = (A ++ List.replicate (n + 1) 0 ++ B') ++ [x, y, v] := by simp
    have hgroups : A ++ (List.replicate n 0 ++ (B' ++ [x, y] ++ [s, t]))
        = (A ++ List.replicate n 0 ++ B') ++ [x, y, s, t] := by simp
    have hfive : (A ++ List.replicate (n + 1) 0 ++ B').length = 5 := by simp; omega
    have hfour : (A ++ List.replicate n 0 ++ B').length = 4 := by simp; omega
    rw [hvalues, hgroups, List.take_left' hfive, List.take_left' hfour,
      List.getElem?_append_right (by omega), List.getElem?_append_right (by omega),
      List.getD_append_right _ _ _ _ (by omega), List.getD_append_right _ _ _ _ (by omega), hfive, hfour]
    have hzeros : (∀ z ∈ A ++ List.replicate (n + 1) 0 ++ B', z = 0) ↔
        ∀ z ∈ A ++ List.replicate n 0 ++ B', z = 0 := by
      simp only [List.mem_append, List.mem_replicate]
      grind
    rw [hzeros, and_iff_right hB]
    simp
  · -- the sixth value is one of the zeros
    refine iff_of_false ?_ fun h => hB h.1
    rintro ⟨-, hsixth, -⟩
    rw [List.getElem?_append_right (by omega), List.getElem?_append_left (by simp; omega),
      List.getElem?_replicate, if_pos (by omega)] at hsixth
    exact hF (Option.some.inj hsixth).symm

/-- A quad is spelled, and not in the one way that is looked for. -/
def QuadElsewhere (w : Str) : Prop := '.' ∈ bare w ∧ ¬ ∃ q, IsIPv4 q ∧ w = mappedPrefix ++ q

/-- Behind `::` are two groups or more, and a quad, and the groups would be those of a mapped address if
the quad were one group. -/
def Shifted (w : Str) (gs : List ℕ) : Prop :=
  ∃ l r, cutDouble (bare w) = some (l, r) ∧ '.' ∈ r ∧ 3 ≤ (parts r).length ∧
    (∀ g ∈ gs.take 4, g = 0) ∧ gs[4]? = some 0xffff ∧
    reserved (gs.getD 5 0 / 256 % 256) (gs.getD 5 0 % 256) = true

theorem mappedDotted_some {w : Str} (h : mappedDotted w = some q) : w = mappedPrefix ++ q := by
  unfold mappedDotted at h
  split_ifs at h with hp
  simp only at h
  split_ifs at h
  obtain ⟨rest, rfl⟩ := hp
  rw [List.drop_left] at h
  rw [Option.some.inj h]

theorem mappedDotted_append (hq : IsIPv4 q) : mappedDotted (mappedPrefix ++ q) = some q := by
  unfold mappedDotted
  rw [if_pos (List.prefix_append _ _), List.drop_left]
  refine if_pos ⟨hq.1, fun o ho => ?_⟩
  exact ⟨(hq.2 o ho).1, List.all_eq_true.mpr (hq.2 o ho).2.1⟩

/-- The spelling that is looked for. -/
theorem groups_of_exact {w : Str} (hq : IsIPv4 q) (hw : w = mappedPrefix ++ q) (h : Shape (bare w) gs) :
    gs = [0, 0, 0, 0, 0, 0xffff, ipv4Value q / 65536, ipv4Value q % 65536] ∧ ∀ l r,
      cutDouble (bare w) = some (l, r) → (parts r).length = 2 := by
  have hcolon : ':' ∉ q := hq.notMem (by decide) (by decide)
  have hbare : bare w = mappedPrefix ++ q := by
    have hall : ∀ c ∈ mappedPrefix ++ q, (decide (c ≠ '%')) = true := by
      intro c hc
      refine decide_eq_true ?_
      rintro rfl
      rcases List.mem_append.mp hc with hc | hc
      · exact absurd hc (by decide)
      · exact hq.notMem (by decide) (by decide) hc
    rw [hw, bare]
    exact List.takeWhile_eq_self_iff.mpr hall
  have hcut : cutDouble (bare w) = some ([], ['f', 'f', 'f', 'f', ':'] ++ q) := by
    rw [hbare]
    rfl
  have hparts : parts (['f', 'f', 'f', 'f', ':'] ++ q) = [['f', 'f', 'f', 'f']] ++ [q] := by
    have hfirst : ':' ∉ ['f', 'f', 'f', 'f'] := by decide
    have hsplit := List.splitOn_append_cons_self_of_not_mem hfirst q
    rw [List.splitOn_eq_singleton hcolon] at hsplit
    rw [parts, if_neg (by simp)]
    exact hsplit
  refine ⟨?_, fun l r hlr => ?_⟩
  · cases h with
    | full A hA hlength hcut' => rw [hcut] at hcut'; cases hcut'
    | fullQuad A q' hA hq' hlength hcut' => rw [hcut] at hcut'; cases hcut'
    | short l r A B hA hB hlength hcut' hl hr =>
        rw [hcut] at hcut'
        cases hcut'
        rw [hparts] at hr
        have hgroup : IsGroup q := hB q (by rw [← hr]; simp)
        exact absurd hq.dot_mem (hgroup.notMem (by decide))
    | shortQuad l r A B q' hA hB hq' hlength hcut' hl hr =>
        rw [hcut] at hcut'
        cases hcut'
        rw [hparts] at hr
        obtain ⟨rfl, hlast⟩ := List.append_inj' hr rfl
        cases hlast
        rw [show A = [] from hl.symm]
        rfl
  · rw [hcut] at hlr
    cases hlr
    rw [hparts]
    rfl

/-- What the code makes of a text that it finds no refused range for. -/
def embeddedBlocked (w : Str) : Bool :=
  match (mappedDotted w).filter fun quad => isIP quad = 4 with
  | some quad => isPrivateOrReservedIPv4 quad
  | none => hexBlocked w

theorem embeddedBlocked_exact {w : Str} (hq : IsIPv4 q) (hw : w = mappedPrefix ++ q) :
    embeddedBlocked w = isPrivateOrReservedIPv4 q := by
  have hip : isIP q = 4 := if_pos hq
  unfold embeddedBlocked
  rw [hw, mappedDotted_append hq, Option.filter_some, if_pos (decide_eq_true hip)]

theorem embeddedBlocked_other {w : Str} (h : ¬ ∃ q, IsIPv4 q ∧ w = mappedPrefix ++ q) :
    embeddedBlocked w = hexBlocked w := by
  have hnone : ((mappedDotted w).filter fun quad => isIP quad = 4) = none := by
    rw [Option.filter_eq_none_iff]
    intro q hq hip
    refine h ⟨q, ?_, mappedDotted_some hq⟩
    by_contra hnot
    unfold isIP at hip
    rw [if_neg hnot] at hip
    split_ifs at hip
    all_goals simp at hip
  unfold embeddedBlocked
  rw [hnone]

theorem not_shifted_of_uncut {w : Str} (hcut : cutDouble (bare w) = none) : ¬ Shifted w gs := by
  rintro ⟨l, r, hcut', -⟩
  rw [hcut] at hcut'
  cases hcut'

/-- Where the `::` is, there are as many zeros as are missing. -/
theorem expandIPv6Hextets_cut {w l r : Str} {A C : List Str} (hcut : cutDouble (bare w) = some (l, r))
    (hl : parts l = A) (hr : parts r = C) (hne : ∀ p ∈ C, p ≠ []) (hlength : A.length + C.length ≤ 7) :
    expandIPv6Hextets w = some (A ++ (List.replicate (8 - A.length - C.length) ['0'] ++ C)) := by
  have hrest : cutDouble r = none := cutDouble_eq_none fun p hp => hne p (hr ▸ hp)
  unfold expandIPv6Hextets
  simp only [hcut, hrest, hl, hr, Option.isSome_none, Bool.false_eq_true, if_false]
  rw [if_neg (by omega)]

/-- Behind the `::` is a quad, which is read as one hextet. -/
theorem hexBlocked_shortQuad {w l r : Str} {A B : List Str} (hA : ∀ p ∈ A, IsGroup p)
    (hB : ∀ p ∈ B, IsGroup p) (hq : IsIPv4 q) (hlength : A.length + B.length ≤ 5)
    (hcut : cutDouble (bare w) = some (l, r)) (hl : parts l = A) (hr : parts r = B ++ [q]) :
    hexBlocked w = true ↔ Shifted w (A.map hextetValue ++ (List.replicate (6 - A.length - B.length) 0 ++
      (B.map hextetValue ++ [ipv4Value q / 65536, ipv4Value q % 65536]))) := by
  obtain ⟨v, hv⟩ := valueOf_quad hq
  have hne : ∀ p ∈ B ++ [q], p ≠ [] := by
    intro p hp
    rcases List.mem_append.mp hp with hp | hp
    · exact (hB p hp).ne_nil
    · rw [List.mem_singleton.mp hp]
      exact List.ne_nil_of_mem hq.dot_mem
  have hfill : 8 - A.length - (B ++ [q]).length = 6 - A.length - B.length + 1 := by
    simp only [List.length_append, List.length_cons, List.length_nil]
    omega
  have hexpand := expandIPv6Hextets_cut hcut hl hr hne (by simp; omega)
  rw [hfill] at hexpand
  have hvalues : (A ++ (List.replicate (6 - A.length - B.length + 1) ['0'] ++ (B ++ [q]))).mapM valueOf
      = some (A.map hextetValue ++
        (List.replicate (6 - A.length - B.length + 1) 0 ++ (B.map hextetValue ++ [v]))) := by
    rw [List.mapM_append, List.mapM_append, List.mapM_append, mapM_valueOf hA, mapM_zeros,
      mapM_valueOf hB, List.mapM_cons, hv]
    rfl
  have hlength' : (A.map hextetValue).length + (B.map hextetValue).length + (6 - A.length - B.length)
      = 6 := by
    simp only [List.length_map]
    omega
  have hshift := shifted_values (s := ipv4Value q / 65536) (t := ipv4Value q % 65536) (v := v)
    (R := fun x => reserved (x / 256 % 256) (x % 256) = true) (F := 0xffff) (by omega) hlength'
    (by decide)
  rw [hexBlocked_of_values hexpand hvalues, mappedQuad_any]
  refine hshift.trans ?_
  have hdotr : '.' ∈ r := dot_mem hq (by rw [hr]; simp)
  have hthree : 3 ≤ (parts r).length ↔ 2 ≤ (B.map hextetValue).length := by
    rw [hr]
    simp only [List.length_append, List.length_cons, List.length_nil, List.length_map]
    omega
  constructor
  · rintro ⟨htwo, hzeros, hfifth, hreserved⟩
    exact ⟨l, r, hcut, hdotr, hthree.mpr htwo, hzeros, hfifth, hreserved⟩
  · rintro ⟨l', r', hcut', -, hlong, hzeros, hfifth, hreserved⟩
    rw [hcut] at hcut'
    cases hcut'
    exact ⟨hthree.mp hlong, hzeros, hfifth, hreserved⟩

/-- The hextets of a text, where there are eight. -/
theorem hexBlocked_iff {w : Str} (h : Shape (bare w) gs) : hexBlocked w = true ↔
    (mappedBlock.Has (groupsValue gs) ∧ Listed (groupsValue gs % 2 ^ 32)) ∧ '.' ∉ bare w ∨
      Shifted w gs := by
  have hmapped := mappedQuad_groups h
  cases h with
  | full A hA hlength hcut hparts =>
      have hexpand : expandIPv6Hextets w = some A := by
        unfold expandIPv6Hextets
        simp only [hcut, hparts, hlength, if_true]
      have hdot : '.' ∉ bare w := by
        rw [mem_iff_splitOn (by decide : '.' ≠ ':'), hparts]
        rintro ⟨p, hp, hmem⟩
        exact (hA p hp).notMem (by decide) hmem
      rw [hexBlocked_of_values hexpand (mapM_valueOf hA), hmapped, and_iff_left hdot,
        or_iff_left (not_shifted_of_uncut hcut)]
  | fullQuad A q hA hq hlength hcut hparts =>
      have hexpand : expandIPv6Hextets w = none := by
        unfold expandIPv6Hextets
        simp [hcut, hparts, hlength]
      have hdot : '.' ∈ bare w := by
        rw [mem_iff_splitOn (by decide : '.' ≠ ':'), hparts]
        exact ⟨q, by simp, hq.dot_mem⟩
      have hshift : ¬ Shifted w (A.map hextetValue ++ [ipv4Value q / 65536, ipv4Value q % 65536]) :=
        not_shifted_of_uncut hcut
      refine iff_of_false ?_ (by tauto)
      simp [hexBlocked, ipv6MappedHexToIPv4, hexpand]
  | short l r A B hA hB hlength hcut hl hr =>
      have hexpand := expandIPv6Hextets_cut hcut hl hr (fun p hp => (hB p hp).ne_nil) hlength
      have hvalues : (A ++ (List.replicate (8 - A.length - B.length) ['0'] ++ B)).mapM valueOf
          = some (A.map hextetValue ++ (List.replicate (8 - A.length - B.length) 0 ++ B.map hextetValue)) := by
        rw [List.mapM_append, List.mapM_append, mapM_valueOf hA, mapM_zeros, mapM_valueOf hB]
        rfl
      have hdotr : '.' ∉ r := dot_notMem fun p hp => hB p (hr ▸ hp)
      have hdot : '.' ∉ bare w := by
        have hdotl : '.' ∉ l := dot_notMem fun p hp => hA p (hl ▸ hp)
        rw [cutDouble_some hcut]
        simp [hdotl, hdotr]
      have hshift : ∀ gs, ¬ Shifted w gs := by
        rintro gs ⟨l', r', hcut', hmem, -⟩
        rw [hcut] at hcut'
        cases hcut'
        exact hdotr hmem
      rw [hexBlocked_of_values hexpand hvalues, hmapped, and_iff_left hdot, or_iff_left (hshift _)]
  | shortQuad l r A B q hA hB hq hlength hcut hl hr =>
      have hdot : '.' ∈ bare w := by
        have hdotr : '.' ∈ r := dot_mem hq (by rw [hr]; simp)
        rw [cutDouble_some hcut]
        simp [hdotr]
      rw [hexBlocked_shortQuad hA hB hq hlength hcut hl hr, or_iff_right fun hmap => hmap.2 hdot]

/-- **Embedded addresses** that are refused: those that are spelled as the check expects, and those whose
groups it mistakes. -/
theorem embeddedBlocked_iff {w : Str} (h : Shape (bare w) gs) : embeddedBlocked w = true ↔
    (mappedBlock.Has (groupsValue gs) ∧ Listed (groupsValue gs % 2 ^ 32)) ∧ ¬ QuadElsewhere w ∨
      Shifted w gs := by
  by_cases hexact : ∃ q, IsIPv4 q ∧ w = mappedPrefix ++ q
  · obtain ⟨q, hq, hw⟩ := hexact
    obtain ⟨hgs, htwo⟩ := groups_of_exact hq hw h
    have hnot : ¬ QuadElsewhere w := fun hother => hother.2 ⟨q, hq, hw⟩
    have hshift : ¬ Shifted w gs := by
      rintro ⟨l, r, hcut, -, hthree, -⟩
      have hlength := htwo l r hcut
      omega
    obtain ⟨a, b, c, d, ha, hb, hc, hd, -, hvalue⟩ := hq.value
    rw [embeddedBlocked_exact hq hw, isPrivateOrReservedIPv4_iff hq, and_iff_left hnot,
      or_iff_left hshift, hgs]
    have hlow : groupsValue [0, 0, 0, 0, 0, 0xffff, ipv4Value q / 65536, ipv4Value q % 65536] % 2 ^ 32
        = ipv4Value q := by
      simp only [groupsValue, List.foldl_cons, List.foldl_nil, Nat.reducePow]
      omega
    have hmapped : mappedBlock.Has
        (groupsValue [0, 0, 0, 0, 0, 0xffff, ipv4Value q / 65536, ipv4Value q % 65536]) := by
      simp only [mappedBlock, Block.Has, groupsValue, List.foldl_cons, List.foldl_nil, Nat.reducePow,
        Nat.reduceSub, Nat.reduceMul, Nat.reduceDiv]
      omega
    rw [hlow, and_iff_right hmapped]
  · rw [embeddedBlocked_other hexact, hexBlocked_iff h]
    refine or_congr_left (and_congr_right fun _ => ?_)
    exact ⟨fun hdot hother => hdot hother.1, fun hnot hdot => hnot ⟨hdot, hexact⟩⟩

end

/-! ## Which texts are misread -/

def loopbackText : Str := [':', ':', '1']

def unspecifiedText : Str := [':', ':']

/-- The text of an IPv6 address that the check does not decide by the address. -/
inductive Misread (address : Str) : Prop where
  /-- `::` or `::1`, spelled in another way. -/
  | low (hvalue : ipv6Value address ≤ 1) (hloopback : lower address ≠ loopbackText)
      (hunspecified : lower address ≠ unspecifiedText)
  /-- The first group begins with `fc` or `fd`, and has less than four digits. -/
  | shortUniqueLocal (h : ShortUniqueLocal (lower address))
  /-- A listed IPv4 address, embedded with a quad in another way than behind `::ffff:`. -/
  | quadElsewhere (hmapped : mappedBlock.Has (ipv6Value address))
      (hlisted : Listed (ipv6Value address % 2 ^ 32)) (h : QuadElsewhere (lower address))
  | shifted (h : Shifted (lower address) (ipv6Groups address))

section

variable {address : Str}

theorem isPrivateOrReservedIPv6_eq_true : isPrivateOrReservedIPv6 address = true ↔
    (lower address = loopbackText ∨ lower address = unspecifiedText) ∨
      isLinkLocal (lower address) = true ∨ beginsUniqueLocal (lower address) = true ∨
      embeddedBlocked (lower address) = true := by
  unfold isPrivateOrReservedIPv6
  simp only [Bool.or_eq_true, decide_eq_true_eq]
  split_ifs with h₁ h₂ h₃
  · exact iff_of_true rfl (.inl h₁)
  · exact iff_of_true rfl (.inr (.inl h₂))
  · exact iff_of_true rfl (.inr (.inr (.inl h₃)))
  · refine Iff.trans ?_ ((or_iff_right h₁).trans ((or_iff_right h₂).trans (or_iff_right h₃))).symm
    exact Iff.rfl

theorem shape_of_isIPv6 (h : IsIPv6 address) : Shape (bare (lower address)) (ipv6Groups address) := by
  obtain ⟨gs, hgs⟩ := Option.isSome_iff_exists.mp h
  rw [show ipv6Groups address = gs by rw [ipv6Groups, hgs]; rfl]
  unfold groups? at hgs
  split_ifs at hgs
  exact shape_of_bareGroups? hgs

/-- The two spellings that are looked for. -/
theorem value_of_low (h : lower address = loopbackText ∨ lower address = unspecifiedText) :
    ipv6Value address ≤ 1 := by
  unfold ipv6Value ipv6Groups
  rcases h with h | h
  · rw [h]
    decide
  · rw [h]
    decide

/-- The logic of it: what is refused and what is documented agree, unless a text is misread, which always
parts the two. -/
theorem decided_iff {spelled low link unique mapped listed elsewhere short shifted : Prop}
    (hspelled : spelled → low) (hlow : low → ¬ link ∧ ¬ unique ∧ ¬ mapped)
    (hmapped : mapped → ¬ link ∧ ¬ unique)
    (hshort : short → ¬ low ∧ ¬ link ∧ ¬ unique ∧ ¬ mapped)
    (hshifted : shifted → ¬ low ∧ ¬ link ∧ ¬ unique ∧ ¬ mapped) :
    ((spelled ∨ link ∨ (unique ∨ short) ∨ (mapped ∧ listed) ∧ ¬ elsewhere ∨ shifted) ↔
      (low ∨ link ∨ unique ∨ mapped ∧ listed)) ↔
    ¬ (low ∧ ¬ spelled ∨ short ∨ (mapped ∧ listed) ∧ elsewhere ∨ shifted) := by
  by_cases hl : low
  · have hno := hlow hl
    grind
  · grind

/-- **An IPv6 address** is decided by the address exactly when its text is not misread. -/
theorem isPrivateOrReservedIPv6_iff (h : IsIPv6 address) :
    (isPrivateOrReservedIPv6 address = true ↔ Documented (ipv6Value address)) ↔ ¬ Misread address := by
  have hshape := shape_of_isIPv6 h
  have hlow := @value_of_low address
  obtain ⟨g, rest, hgs, hlink, hunique, hshort⟩ := first_checks hshape (zone (lower address))
  rw [show bare (lower address) ++ zone (lower address) = lower address from
    List.takeWhile_append_dropWhile] at hlink hunique hshort
  have hembedded := embeddedBlocked_iff hshape
  obtain ⟨g₀, g₁, g₂, g₃, g₄, g₅, g₆, g₇, hall⟩ := eight_groups hshape.length
  obtain ⟨hdocumented, hvalue, hmapped, -⟩ := documented_iff (hall ▸ hshape.lt)
  rw [← hall] at hdocumented hvalue hmapped
  have hg : g = g₀ := (List.cons.inj (hgs.symm.trans hall)).1
  -- addresses whose groups are mistaken are in no range
  have hshifted : Shifted (lower address) (ipv6Groups address) → g₀ = 0 ∧ g₄ = 0xffff := by
    rintro ⟨l, r, -, -, -, hzeros, hfifth, -⟩
    rw [hall] at hzeros hfifth
    exact ⟨hzeros g₀ (by simp), Option.some.inj hfifth⟩
  have hmisread : Misread address ↔
      (ipv6Value address ≤ 1 ∧ ¬ (lower address = loopbackText ∨ lower address = unspecifiedText)) ∨
      ShortUniqueLocal (lower address) ∨ ((mappedBlock.Has (ipv6Value address) ∧
        Listed (ipv6Value address % 2 ^ 32)) ∧ QuadElsewhere (lower address)) ∨
      Shifted (lower address) (ipv6Groups address) := by
    constructor
    · rintro (⟨h₁, h₂, h₃⟩ | h₁ | ⟨h₁, h₂, h₃⟩ | h₁)
      · exact .inl ⟨h₁, fun heq => heq.elim h₂ h₃⟩
      · exact .inr (.inl h₁)
      · exact .inr (.inr (.inl ⟨⟨h₁, h₂⟩, h₃⟩))
      · exact .inr (.inr (.inr h₁))
    · rintro (⟨h₁, h₂⟩ | h₁ | ⟨⟨h₁, h₂⟩, h₃⟩ | h₁)
      · exact .low h₁ (fun heq => h₂ (.inl heq)) fun heq => h₂ (.inr heq)
      · exact .shortUniqueLocal h₁
      · exact .quadElsewhere h₁ h₂ h₃
      · exact .shifted h₁
  rw [isPrivateOrReservedIPv6_eq_true, hmisread, hlink, hunique, hembedded]
  unfold ipv6Value at hlow ⊢
  rw [hdocumented]
  subst hg
  have hlow₁ : groupsValue (ipv6Groups address) ≤ 1 → ¬ g / 64 = 1018 ∧ ¬ g / 512 = 126 ∧
      ¬ mappedBlock.Has (groupsValue (ipv6Groups address)) := by
    rw [hvalue, hmapped]
    omega
  have hmapped₁ : mappedBlock.Has (groupsValue (ipv6Groups address)) →
      ¬ g / 64 = 1018 ∧ ¬ g / 512 = 126 := by
    rw [hmapped]
    omega
  have hshort₁ : ShortUniqueLocal (lower address) → ¬ groupsValue (ipv6Groups address) ≤ 1 ∧
      ¬ g / 64 = 1018 ∧ ¬ g / 512 = 126 ∧ ¬ mappedBlock.Has (groupsValue (ipv6Groups address)) := by
    intro hs
    have hlt := hshort hs
    rw [hvalue, hmapped]
    omega
  have hshifted₁ : Shifted (lower address) (ipv6Groups address) →
      ¬ groupsValue (ipv6Groups address) ≤ 1 ∧ ¬ g / 64 = 1018 ∧ ¬ g / 512 = 126 ∧
        ¬ mappedBlock.Has (groupsValue (ipv6Groups address)) := by
    intro hs
    have heq := hshifted hs
    rw [hvalue, hmapped]
    omega
  exact decided_iff hlow hlow₁ hmapped₁ hshort₁ hshifted₁

end

/-! ## Addresses -/

section

variable {address : Str}

/-- **An IPv4 address** is refused exactly if it is listed. -/
theorem isBlockedAddress_ipv4 (h : isIP address = 4) :
    isBlockedAddress address = true ↔ Listed (ipv4Value address) := by
  have hip : IsIPv4 address := by
    by_contra hnot
    rw [isIP, if_neg hnot] at h
    split_ifs at h
    all_goals simp at h
  rw [isBlockedAddress, if_pos h]
  exact isPrivateOrReservedIPv4_iff hip

/-- **An IPv6 address** is refused exactly if it is documented, unless its text is misread. -/
theorem isBlockedAddress_ipv6 (h : isIP address = 6) :
    (isBlockedAddress address = true ↔ Documented (ipv6Value address)) ↔ ¬ Misread address := by
  have hip : IsIPv6 address := by
    by_contra hnot
    rw [isIP, if_neg hnot] at h
    split_ifs at h
    all_goals simp at h
  rw [isBlockedAddress, if_neg (by omega), if_pos h]
  exact isPrivateOrReservedIPv6_iff hip

end

/-! ## URLs -/

/-- What `new URL` makes of a text. -/
structure Url where
  protocol : Str
  hostname : Str

structure ResolvedHostAddress where
  address : Str
  family : ℕ
deriving DecidableEq

inductive WebhookUrlGuardErrorCode where
  | invalidUrl
  | invalidProtocol
  | insecureProtocol
  | blockedHost
  | dnsResolutionFailed
deriving DecidableEq

structure UnsafeWebhookUrlError where
  code : WebhookUrlGuardErrorCode
  message : String
deriving DecidableEq

structure AssertSafeWebhookUrlOptions where
  allowInsecureHttp : Bool
  allowPrivateAddresses : Bool

structure SafeWebhookUrlInfo where
  hostname : Str
  resolvedAddresses : List ResolvedHostAddress

/-- The parser of URLs, and what the resolver answers for a host; `none` is an exception. -/
structure Resolving where
  parseUrl : Str → Option Url
  resolveHost : Str → Option (List ResolvedHostAddress)

def checkProtocol (options : AssertSafeWebhookUrlOptions) (protocol : Str) :
    Except UnsafeWebhookUrlError Unit :=
  if protocol = "https:".toList then .ok ()
  else if protocol = "http:".toList then
    if options.allowInsecureHttp then .ok ()
    else
      .error ⟨.insecureProtocol, "Webhook URLs must use https:// (http:// is only permitted in " ++
        "explicitly-configured local dev)."⟩
  else
    .error ⟨.invalidProtocol, "Webhook URL protocol \"" ++ String.ofList protocol ++
      "\" is not allowed — only http/https."⟩

/-- The host without the brackets of an IPv6 literal. -/
def hostnameOf (url : Url) : Str :=
  if url.hostname.head? = some '[' ∧ url.hostname.getLast? = some ']' then url.hostname.tail.dropLast
  else url.hostname

/-- The addresses of a host: itself, if it is one, and what it resolves to otherwise. -/
def resolvedAddressesOf (net : Resolving) (hostname : Str) :
    Except UnsafeWebhookUrlError (List ResolvedHostAddress) :=
  if isIP hostname ≠ 0 then .ok [⟨hostname, isIP hostname⟩]
  else
    match net.resolveHost hostname with
    | none =>
        .error ⟨.dnsResolutionFailed,
          "Could not resolve webhook host \"" ++ String.ofList hostname ++ "\"."⟩
    | some [] =>
        .error ⟨.dnsResolutionFailed,
          "Webhook host \"" ++ String.ofList hostname ++ "\" did not resolve to any address."⟩
    | some (r :: rest) => .ok (r :: rest)

/-- The checks of a host and its addresses. -/
def checkHost (net : Resolving) (options : AssertSafeWebhookUrlOptions) (hostname : Str) :
    Except UnsafeWebhookUrlError SafeWebhookUrlInfo := do
  if lower hostname = "localhost".toList ∧ ¬ options.allowPrivateAddresses then
    .error ⟨.blockedHost, "Webhook URL host \"" ++ String.ofList hostname ++ "\" is disallowed."⟩
  else
    let resolvedAddresses ← resolvedAddressesOf net hostname
    if options.allowPrivateAddresses then .ok ⟨hostname, resolvedAddresses⟩
    else
      match resolvedAddresses.find? fun r => isBlockedAddress r.address with
      | some r =>
          .error ⟨.blockedHost, "Webhook URL host \"" ++ String.ofList hostname ++
            "\" resolves to a disallowed address (" ++ String.ofList r.address ++ ")."⟩
      | none => .ok ⟨hostname, resolvedAddresses⟩

def assertSafeWebhookUrl (net : Resolving) (rawUrl : Str) (options : AssertSafeWebhookUrlOptions) :
    Except UnsafeWebhookUrlError SafeWebhookUrlInfo :=
  match net.parseUrl rawUrl with
  | none => .error ⟨.invalidUrl, "\"" ++ String.ofList rawUrl ++ "\" is not a valid URL."⟩
  | some url =>
      match checkProtocol options url.protocol with
      | .error e => .error e
      | .ok () => checkHost net options (hostnameOf url)

section

variable {net : Resolving} {options : AssertSafeWebhookUrlOptions} {info : SafeWebhookUrlInfo}

theorem resolvedAddressesOf_ne_nil {hostname : Str} {rs : List ResolvedHostAddress}
    (h : resolvedAddressesOf net hostname = .ok rs) : rs ≠ [] := by
  unfold resolvedAddressesOf at h
  split_ifs at h
  · cases h
    exact List.cons_ne_nil _ _
  · split at h
    · cases h
    · cases h
    · cases h
      exact List.cons_ne_nil _ _

theorem checkHost_ok {hostname : Str} (h : checkHost net options hostname = .ok info) :
    info.resolvedAddresses ≠ [] ∧ (options.allowPrivateAddresses = false →
      ∀ r ∈ info.resolvedAddresses, isBlockedAddress r.address = false) := by
  unfold checkHost at h
  by_cases hlocal : lower hostname = "localhost".toList ∧ ¬ options.allowPrivateAddresses
  · rw [if_pos hlocal] at h
    cases h
  rw [if_neg hlocal] at h
  cases hresolved : resolvedAddressesOf net hostname with
  | error e => rw [hresolved] at h; cases h
  | ok rs =>
      have hne := resolvedAddressesOf_ne_nil hresolved
      simp only [hresolved, bind, Except.bind] at h
      cases hallow : options.allowPrivateAddresses with
      | true =>
          rw [hallow] at h
          cases h
          exact ⟨hne, fun hnot => by cases hnot⟩
      | false =>
          rw [hallow, if_neg (by decide)] at h
          cases hfind : rs.find? fun r => isBlockedAddress r.address with
          | some r => rw [hfind] at h; cases h
          | none =>
              rw [hfind] at h
              cases h
              exact ⟨hne, fun _ r hr => by simpa using List.find?_eq_none.mp hfind r hr⟩

/-- **Every address is checked**, and there is one. -/
theorem assertSafeWebhookUrl_ok {rawUrl : Str} (h : assertSafeWebhookUrl net rawUrl options = .ok info) :
    info.resolvedAddresses ≠ [] ∧ (options.allowPrivateAddresses = false →
      ∀ r ∈ info.resolvedAddresses, isBlockedAddress r.address = false) := by
  unfold assertSafeWebhookUrl at h
  split at h
  · cases h
  · split at h
    · cases h
    · exact checkHost_ok h

end

end Paymap.Shared.UrlGuard
