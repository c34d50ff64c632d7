import Mathlib.Data.List.Basic
import Paymap.Lib.Hex

set_option autoImplicit false

/-! # Addresses and how they are spelled

The texts that `isIP` of `node:net` takes for an address, and the address that each of them spells. An IPv4
address has one spelling: four decimal octets without leading zeros. An IPv6 address has many: letters of
either case, leading zeros, one run of zero groups as `::`, the last 32 bits as a dotted quad, and a zone
behind a percent sign.

A text is read in lower case. `Shape` says how the text of an IPv6 address is put together, and
`shape_of_groups?` is the inversion of the reader. A `Block` is a range of addresses in the notation of
CIDR.
-/

namespace IpText

abbrev Str := List Char

/-! ## Blocks -/

/-- The addresses of `w` bits that agree with `base` in their first `bits` bits. -/
structure Block (w : ℕ) where
  base : ℕ
  bits : ℕ

def Block.Has {w : ℕ} (b : Block w) (x : ℕ) : Prop :=
  x / 2 ^ (w - b.bits) = b.base / 2 ^ (w - b.bits)

instance {w : ℕ} (b : Block w) (x : ℕ) : Decidable (b.Has x) := inferInstanceAs (Decidable (_ = _))

/-! ## IPv4 -/

/-- A decimal number up to 255 without leading zeros. -/
def IsOctet (o : Str) : Prop :=
  o ≠ [] ∧ (∀ c ∈ o, c.isDigit = true) ∧ (o.head? = some '0' → o = ['0']) ∧
    Nat.ofDigitChars 10 o 0 ≤ 255

instance (o : Str) : Decidable (IsOctet o) :=
  haveI : Decidable (∀ c ∈ o, c.isDigit = true) := List.decidableBAll _ o
  inferInstanceAs (Decidable (_ ∧ _ ∧ _ ∧ _))

def IsIPv4 (t : Str) : Prop := (t.splitOn '.').length = 4 ∧ ∀ o ∈ t.splitOn '.', IsOctet o

instance (t : Str) : Decidable (IsIPv4 t) := inferInstanceAs (Decidable (_ ∧ _))

/-- The 32 bits of the address. -/
def ipv4Value (t : Str) : ℕ :=
  ((t.splitOn '.').map fun o => Nat.ofDigitChars 10 o 0).foldl (fun n o => 256 * n + o) 0

/-! ## IPv6 -/

/-- One to four digits, in lower case. -/
def IsGroup (g : Str) : Prop := (1 ≤ g.length ∧ g.length ≤ 4) ∧ ∀ c ∈ g, c ∈ Hex.digits

instance (g : Str) : Decidable (IsGroup g) :=
  haveI : Decidable (∀ c ∈ g, c ∈ Hex.digits) := List.decidableBAll _ g
  inferInstanceAs (Decidable (_ ∧ _))

def digitValue (c : Char) : ℕ := (Hex.value? c).getD 0

def hextetValue (g : Str) : ℕ := g.foldl (fun n c => 16 * n + digitValue c) 0

/-- The parts between colons. -/
def parts (t : Str) : List Str := if t = [] then [] else t.splitOn ':'

def plainGroups? (ps : List Str) : Option (List ℕ) :=
  if ∀ p ∈ ps, IsGroup p then some (ps.map hextetValue) else none

/-- The last part may be a dotted quad, which stands for two groups. -/
def groupsOf? (ps : List Str) : Option (List ℕ) :=
  match ps.getLast? with
  | some q =>
      if IsIPv4 q then
        (plainGroups? ps.dropLast).map (· ++ [ipv4Value q / 65536, ipv4Value q % 65536])
      else plainGroups? ps
  | none => some []

/-- What is before the first `::`, and what is behind it. -/
def cutDouble : Str → Option (Str × Str)
  | ':' :: ':' :: r => some ([], r)
  | c :: t => (cutDouble t).map fun q => (c :: q.1, q.2)
  | [] => none

/-- The text before the zone. -/
def bare (t : Str) : Str := t.takeWhile (· ≠ '%')

def zone (t : Str) : Str := t.dropWhile (· ≠ '%')

/-- `[0-9a-zA-Z-.:]`, in lower case. -/
def isZoneChar (c : Char) : Bool := c.isDigit || c.isLower || c = '-' || c = '.' || c = ':'

/-- There is no zone, or a percent sign and characters of a zone. -/
def zoneOk : Str → Bool
  | [] => true
  | _ :: z => z ≠ [] && z.all isZoneChar

/-- The eight groups of a text without zone. -/
def bareGroups? (t : Str) : Option (List ℕ) :=
  match cutDouble t with
  | none => (groupsOf? (t.splitOn ':')).filter fun gs => gs.length = 8
  | some (l, r) => do
      let head ← plainGroups? (parts l)
      let tail ← groupsOf? (parts r)
      if head.length + tail.length ≤ 7 then
        some (head ++ (List.replicate (8 - head.length - tail.length) 0 ++ tail))
      else none

/-- The eight groups of a text in lower case. -/
def groups? (t : Str) : Option (List ℕ) := if zoneOk (zone t) then bareGroups? (bare t) else none

def lower (t : Str) : Str := t.map Char.toLower

def IsIPv6 (t : Str) : Prop := (groups? (lower t)).isSome = true

instance (t : Str) : Decidable (IsIPv6 t) := inferInstanceAs (Decidable (_ = _))

/-- The eight groups of the address. -/
def ipv6Groups (t : Str) : List ℕ := (groups? (lower t)).getD []

def groupsValue (gs : List ℕ) : ℕ := gs.foldl (fun n g => 65536 * n + g) 0

/-- The 128 bits of the address. -/
def ipv6Value (t : Str) : ℕ := groupsValue (ipv6Groups t)

/-- `isIP`. -/
def isIP (t : Str) : ℕ := if IsIPv4 t then 4 else if IsIPv6 t then 6 else 0

/-! ## Splitting -/

section

variable {t u l r p q : Str} {ps A B : List Str} {gs : List ℕ} {c sep : Char}

/-- The first part, and what follows it. -/
theorem splitOn_cons (h : t.splitOn sep = p :: ps) :
    (ps = [] ∧ t = p) ∨ ∃ u, t = p ++ sep :: u ∧ u.splitOn sep = ps := by
  by_cases hmem : sep ∈ t
  · obtain ⟨a, b, rfl, ha⟩ := List.eq_append_cons_of_mem hmem
    rw [List.splitOn_append_cons_self_of_not_mem ha] at h
    obtain ⟨rfl, rfl⟩ := List.cons.inj h
    exact .inr ⟨b, rfl, rfl⟩
  · rw [List.splitOn_eq_singleton hmem] at h
    obtain ⟨rfl, rfl⟩ := List.cons.inj h
    exact .inl ⟨rfl, rfl⟩

/-- The characters of a text are those of its parts, and the separator. -/
theorem mem_iff_splitOn (hc : c ≠ sep) : c ∈ t ↔ ∃ p ∈ t.splitOn sep, c ∈ p := by
  generalize hps : t.splitOn sep = ps
  induction ps generalizing t with
  | nil => exact absurd hps (List.splitOn_ne_nil sep t)
  | cons p ps ih =>
      rcases splitOn_cons hps with ⟨rfl, rfl⟩ | ⟨u, rfl, hu⟩
      · simp
      · simp [hc, ih hu]

theorem mem_iff_parts (hc : c ≠ ':') : c ∈ t ↔ ∃ p ∈ parts t, c ∈ p := by
  unfold parts
  split_ifs with ht
  · simp [ht]
  · exact mem_iff_splitOn hc

theorem cutDouble_some (h : cutDouble t = some (l, r)) : t = l ++ ':' :: ':' :: r := by
  induction t using cutDouble.induct generalizing l with
  | case1 r' =>
      cases h
      rfl
  | case2 c t hnot ih =>
      rw [cutDouble] at h
      · obtain ⟨⟨l', r'⟩, hcut, heq⟩ := Option.map_eq_some_iff.mp h
        cases heq
        rw [ih hcut]
        rfl
      · exact hnot
  | case3 => cases h

/-- A text whose parts are not empty has no `::`. -/
theorem cutDouble_eq_none (h : ∀ p ∈ parts t, p ≠ []) : cutDouble t = none := by
  cases hcut : cutDouble t with
  | none => rfl
  | some q =>
      obtain ⟨l, r⟩ := q
      have ht := cutDouble_some hcut
      have hne : t ≠ [] := by
        rw [ht]
        exact List.append_ne_nil_of_right_ne_nil _ (List.cons_ne_nil _ _)
      have hnil : [] ∈ parts t := by
        rw [parts, if_neg hne, ht, List.splitOn_append_cons_self]
        refine List.mem_append_right _ ?_
        have hsplit := List.splitOn_append_cons_self (a := ':') ([] : Str) r
        rw [List.nil_append] at hsplit
        rw [hsplit]
        exact List.mem_cons_self
      exact absurd rfl (h [] hnil)

/-! ## Groups and quads -/

theorem IsGroup.ne_nil (h : IsGroup p) : p ≠ [] := by
  rintro rfl
  exact absurd h.1.1 (by decide)

/-- What is no digit of a group. -/
theorem IsGroup.notMem (h : IsGroup p) (hc : c ∉ Hex.digits) : c ∉ p := fun hmem => hc (h.2 c hmem)

theorem IsIPv4.dot_mem (h : IsIPv4 q) : '.' ∈ q := by
  by_contra hmem
  have hone := h.1
  rw [List.splitOn_eq_singleton hmem] at hone
  cases hone

/-- A quad has four octets. -/
theorem IsIPv4.octets (h : IsIPv4 q) : ∃ a b c d, q.splitOn '.' = [a, b, c, d] ∧ IsOctet a ∧
    IsOctet b ∧ IsOctet c ∧ IsOctet d := by
  obtain ⟨hlength, hall⟩ := h
  obtain ⟨a, b, c, d, hsplit⟩ := List.length_eq_four.mp hlength
  rw [hsplit] at hall
  exact ⟨a, b, c, d, hsplit, hall a (by simp), hall b (by simp), hall c (by simp), hall d (by simp)⟩

theorem IsIPv4.notMem (h : IsIPv4 q) (hdigit : c.isDigit = false) (hdot : c ≠ '.') : c ∉ q := by
  rw [mem_iff_splitOn hdot]
  rintro ⟨o, ho, hc⟩
  rw [(h.2 o ho).2.1 c hc] at hdigit
  cases hdigit

theorem IsIPv4.value (h : IsIPv4 q) : ∃ a b c d, a < 256 ∧ b < 256 ∧ c < 256 ∧ d < 256 ∧
    (q.splitOn '.').map (fun o => Nat.ofDigitChars 10 o 0) = [a, b, c, d] ∧
    ipv4Value q = 16777216 * a + 65536 * b + 256 * c + d := by
  obtain ⟨a, b, c, d, hsplit, ha, hb, hc, hd⟩ := h.octets
  refine ⟨_, _, _, _, Nat.lt_succ_of_le ha.2.2.2, Nat.lt_succ_of_le hb.2.2.2,
    Nat.lt_succ_of_le hc.2.2.2, Nat.lt_succ_of_le hd.2.2.2, by rw [hsplit]; rfl, ?_⟩
  simp only [ipv4Value, hsplit, List.map_cons, List.map_nil, List.foldl_cons, List.foldl_nil]
  omega

theorem plainGroups?_some (h : plainGroups? ps = some gs) :
    (∀ p ∈ ps, IsGroup p) ∧ gs = ps.map hextetValue := by
  unfold plainGroups? at h
  split_ifs at h with hps
  exact ⟨hps, (Option.some.inj h).symm⟩

/-- Groups, or groups and a quad behind them. -/
theorem groupsOf?_some (h : groupsOf? ps = some gs) :
    ((∀ p ∈ ps, IsGroup p) ∧ gs = ps.map hextetValue) ∨
    ∃ A q, ps = A ++ [q] ∧ (∀ p ∈ A, IsGroup p) ∧ IsIPv4 q ∧
      gs = A.map hextetValue ++ [ipv4Value q / 65536, ipv4Value q % 65536] := by
  unfold groupsOf? at h
  cases hlast : ps.getLast? with
  | none =>
      rw [hlast] at h
      cases h
      rw [List.getLast?_eq_none_iff.mp hlast]
      exact .inl ⟨by simp, rfl⟩
  | some q =>
      simp only [hlast] at h
      split_ifs at h with hq
      · obtain ⟨hs, hplain, rfl⟩ := Option.map_eq_some_iff.mp h
        obtain ⟨hgroups, rfl⟩ := plainGroups?_some hplain
        refine .inr ⟨ps.dropLast, q, ?_, hgroups, hq, rfl⟩
        exact (List.dropLast_append_getLast? q hlast).symm
      · exact .inl (plainGroups?_some h)

/-! ## The shape of a text -/

/-- How the text of an address is put together, and its groups. -/
inductive Shape (t : Str) : List ℕ → Prop where
  | full (A : List Str) (hA : ∀ p ∈ A, IsGroup p) (hlength : A.length = 8)
      (hcut : cutDouble t = none) (hparts : t.splitOn ':' = A) : Shape t (A.map hextetValue)
  | fullQuad (A : List Str) (q : Str) (hA : ∀ p ∈ A, IsGroup p) (hq : IsIPv4 q)
      (hlength : A.length = 6) (hcut : cutDouble t = none) (hparts : t.splitOn ':' = A ++ [q]) :
      Shape t (A.map hextetValue ++ [ipv4Value q / 65536, ipv4Value q % 65536])
  | short (l r : Str) (A B : List Str) (hA : ∀ p ∈ A, IsGroup p) (hB : ∀ p ∈ B, IsGroup p)
      (hlength : A.length + B.length ≤ 7) (hcut : cutDouble t = some (l, r)) (hl : parts l = A)
      (hr : parts r = B) :
      Shape t (A.map hextetValue ++ (List.replicate (8 - A.length - B.length) 0 ++ B.map hextetValue))
  | shortQuad (l r : Str) (A B : List Str) (q : Str) (hA : ∀ p ∈ A, IsGroup p)
      (hB : ∀ p ∈ B, IsGroup p) (hq : IsIPv4 q) (hlength : A.length + B.length ≤ 5)
      (hcut : cutDouble t = some (l, r)) (hl : parts l = A) (hr : parts r = B ++ [q]) :
      Shape t (A.map hextetValue ++ (List.replicate (6 - A.length - B.length) 0 ++
        (B.map hextetValue ++ [ipv4Value q / 65536, ipv4Value q % 65536])))

theorem shape_of_bareGroups? (h : bareGroups? t = some gs) : Shape t gs := by
  unfold bareGroups? at h
  cases hcut : cutDouble t with
  | none =>
      simp only [hcut] at h
      obtain ⟨hgroups, hlength⟩ := Option.filter_eq_some_iff.mp h
      rcases groupsOf?_some hgroups with ⟨hA, rfl⟩ | ⟨A, q, hparts, hA, hq, rfl⟩
      · exact .full _ hA (by simpa using hlength) hcut rfl
      · exact .fullQuad A q hA hq (by simpa using hlength) hcut hparts
  | some cut =>
      obtain ⟨l, r⟩ := cut
      simp only [hcut, bind, Option.bind_eq_some_iff] at h
      obtain ⟨head, hhead, tail, htail, h⟩ := h
      split_ifs at h with hlength
      cases h
      obtain ⟨hA, rfl⟩ := plainGroups?_some hhead
      rcases groupsOf?_some htail with ⟨hB, rfl⟩ | ⟨B, q, hr, hB, hq, rfl⟩
      · simp only [List.length_map] at hlength ⊢
        exact .short l r _ _ hA hB hlength hcut rfl rfl
      · simp only [List.length_map, List.length_append, List.length_cons, List.length_nil] at hlength ⊢
        have hfill : 8 - (parts l).length - (B.length + (0 + 1 + 1)) = 6 - (parts l).length - B.length := by
          omega
        rw [hfill]
        exact .shortQuad l r _ B q hA hB hq (by omega) hcut rfl hr

/-! ## What a text spells -/

theorem digitValue_lt : ∀ c ∈ Hex.digits, digitValue c < 16 := Hex.forall_mem_digits (by decide)

theorem hextetValue_lt (h : ∀ c ∈ p, c ∈ Hex.digits) : hextetValue p < 16 ^ p.length := by
  have hfold : ∀ (p : Str) (n : ℕ), (∀ c ∈ p, c ∈ Hex.digits) →
      p.foldl (fun n c => 16 * n + digitValue c) n < (n + 1) * 16 ^ p.length := by
    intro p
    induction p with
    | nil => intro n _; simp
    | cons c p ih =>
        intro n hp
        have hc := digitValue_lt c (hp c List.mem_cons_self)
        have hrest := ih (16 * n + digitValue c) fun d hd => hp d (List.mem_cons_of_mem c hd)
        have hle : 16 * n + digitValue c + 1 ≤ (n + 1) * 16 := by omega
        calc (c :: p).foldl (fun n c => 16 * n + digitValue c) n
            < (16 * n + digitValue c + 1) * 16 ^ p.length := hrest
          _ ≤ (n + 1) * 16 * 16 ^ p.length := Nat.mul_le_mul_right _ hle
          _ = (n + 1) * 16 ^ (c :: p).length := by
              rw [List.length_cons, Nat.pow_succ, Nat.mul_assoc, Nat.mul_comm 16]
  have hlt := hfold p 0 h
  rwa [Nat.zero_add, Nat.one_mul] at hlt

theorem IsGroup.value_lt (h : IsGroup p) : hextetValue p < 65536 :=
  calc hextetValue p < 16 ^ p.length := hextetValue_lt h.2
    _ ≤ 16 ^ 4 := Nat.pow_le_pow_right (by decide) h.1.2

theorem Shape.length (h : Shape t gs) : gs.length = 8 := by
  cases h with
  | full A hA hlength => simpa using hlength
  | fullQuad A q hA hq hlength => simp [hlength]
  | short l r A B hA hB hlength => simp; omega
  | shortQuad l r A B q hA hB hq hlength => simp; omega

theorem Shape.lt (h : Shape t gs) : ∀ g ∈ gs, g < 65536 := by
  have hmap : ∀ {A : List Str}, (∀ p ∈ A, IsGroup p) → ∀ g ∈ A.map hextetValue, g < 65536 := by
    intro A hA g hg
    obtain ⟨p, hp, rfl⟩ := List.mem_map.mp hg
    exact (hA p hp).value_lt
  have hquad : ∀ {q : Str}, IsIPv4 q →
      ∀ g ∈ [ipv4Value q / 65536, ipv4Value q % 65536], g < 65536 := by
    intro q hq g hg
    obtain ⟨a, b, c, d, ha, hb, hc, hd, -, hvalue⟩ := hq.value
    rw [hvalue, List.mem_cons, List.mem_singleton] at hg
    omega
  intro g hg
  cases h with
  | full A hA => exact hmap hA g hg
  | fullQuad A q hA hq =>
      rcases List.mem_append.mp hg with hg | hg
      · exact hmap hA g hg
      · exact hquad hq g hg
  | short l r A B hA hB =>
      simp only [List.mem_append, List.mem_replicate] at hg
      rcases hg with hg | ⟨-, rfl⟩ | hg
      · exact hmap hA g hg
      · decide
      · exact hmap hB g hg
  | shortQuad l r A B q hA hB hq =>
      simp only [List.mem_append, List.mem_replicate] at hg
      rcases hg with hg | ⟨-, rfl⟩ | hg | hg
      · exact hmap hA g hg
      · decide
      · exact hmap hB g hg
      · exact hquad hq g hg

/-- What the parts of a text begin with, its text begins with. -/
theorem first_of_parts (h : parts t = p :: ps) : t = p ∨ ∃ u, t = p ++ ':' :: u := by
  unfold parts at h
  split_ifs at h
  rcases splitOn_cons h with ⟨-, ht⟩ | ⟨u, ht, -⟩
  · exact .inl ht
  · exact .inr ⟨u, ht⟩

theorem parts_eq_nil (h : parts t = []) : t = [] := by
  unfold parts at h
  split_ifs at h with ht
  · exact ht
  · exact absurd h (List.splitOn_ne_nil _ _)

/-- **The first group** of a text is zero, and not written, or is what the text begins with. -/
theorem Shape.first (h : Shape t gs) : (∃ r, t = ':' :: ':' :: r ∧ gs.head? = some 0) ∨
    ∃ p u, t = p ++ ':' :: u ∧ IsGroup p ∧ gs.head? = some (hextetValue p) := by
  -- a text of several parts begins with the first one
  have hfull : ∀ {p : Str} {ps : List Str}, t.splitOn ':' = p :: ps → ps ≠ [] →
      ∃ u, t = p ++ ':' :: u := by
    intro p ps hsplit hne
    rcases splitOn_cons hsplit with ⟨hnil, -⟩ | ⟨u, ht, -⟩
    · exact absurd hnil hne
    · exact ⟨u, ht⟩
  have hshort : ∀ {l r p : Str} {ps : List Str}, cutDouble t = some (l, r) → parts l = p :: ps →
      ∃ u, t = p ++ ':' :: u := by
    intro l r p ps hcut hl
    rw [cutDouble_some hcut]
    rcases first_of_parts hl with rfl | ⟨u, rfl⟩
    · exact ⟨':' :: r, rfl⟩
    · exact ⟨u ++ ':' :: ':' :: r, by simp⟩
  cases h with
  | full A hA hlength hcut hparts =>
      cases A with
      | nil => cases hlength
      | cons p A =>
          have hne : A ≠ [] := by
            rintro rfl
            cases hlength
          obtain ⟨u, ht⟩ := hfull hparts hne
          exact .inr ⟨p, u, ht, hA p List.mem_cons_self, rfl⟩
  | fullQuad A q hA hq hlength hcut hparts =>
      cases A with
      | nil => cases hlength
      | cons p A =>
          obtain ⟨u, ht⟩ := hfull hparts (List.append_ne_nil_of_right_ne_nil _ (List.cons_ne_nil _ _))
          exact .inr ⟨p, u, ht, hA p List.mem_cons_self, rfl⟩
  | short l r A B hA hB hlength hcut hl hr =>
      cases A with
      | nil =>
          refine .inl ⟨r, ?_, ?_⟩
          · rw [cutDouble_some hcut, parts_eq_nil hl]
            rfl
          · obtain ⟨n, hn⟩ : ∃ n, 8 - ([] : List Str).length - B.length = n + 1 :=
              ⟨7 - B.length, by simp only [List.length_nil] at hlength ⊢; omega⟩
            rw [hn]
            rfl
      | cons p A =>
          obtain ⟨u, ht⟩ := hshort hcut hl
          exact .inr ⟨p, u, ht, hA p List.mem_cons_self, rfl⟩
  | shortQuad l r A B q hA hB hq hlength hcut hl hr =>
      cases A with
      | nil =>
          refine .inl ⟨r, ?_, ?_⟩
          · rw [cutDouble_some hcut, parts_eq_nil hl]
            rfl
          · obtain ⟨n, hn⟩ : ∃ n, 6 - ([] : List Str).length - B.length = n + 1 :=
              ⟨5 - B.length, by simp only [List.length_nil] at hlength ⊢; omega⟩
            rw [hn]
            rfl
      | cons p A =>
          obtain ⟨u, ht⟩ := hshort hcut hl
          exact .inr ⟨p, u, ht, hA p List.mem_cons_self, rfl⟩

theorem dot_notMem (h : ∀ p ∈ parts t, IsGroup p) : '.' ∉ t := by
  rw [mem_iff_parts (by decide)]
  rintro ⟨p, hp, hdot⟩
  exact (h p hp).notMem (by decide) hdot

theorem dot_mem (hq : IsIPv4 q) (h : q ∈ parts t) : '.' ∈ t :=
  (mem_iff_parts (by decide)).mpr ⟨q, h, hq.dot_mem⟩

end

end IpText
