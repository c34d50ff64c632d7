import Paymap.Lib.Js

set_option autoImplicit false

/-! # The numbers of texts, and the texts of numbers

Rounding twice is rounding once (`isDouble_of_round`), so what is read of a text is one of the numbers
there are (`isDouble_of_number`). The text of an integer has a dot only next to an exponent, and then it
has a `+` as well (`plus_of_dot`); an integer below `2 ^ 53` is written in digits alone.
-/

namespace Js

/-! ## Rounding twice -/

namespace Number

/-- The exponent of the unit in the last place. -/
def ulpExponent (q : ℚ) : ℤ := max (Int.log 2 q - 52) (-1074)

theorem ulp_eq (q : ℚ) : ulp q = 2 ^ ulpExponent q := rfl

theorem ulp_pos (q : ℚ) : 0 < ulp q := zpow_pos (by norm_num) _

theorem roundEven_le {q : ℚ} {n : ℤ} (h : q < n) : roundEven q ≤ n := by
  have hfloor : ⌊q⌋ < n := Int.floor_lt.mpr h
  unfold roundEven
  split_ifs <;> omega

theorem roundEven_nonneg {q : ℚ} (h : 0 ≤ q) : 0 ≤ roundEven q := by
  have hfloor : 0 ≤ ⌊q⌋ := Int.floor_nonneg.mpr h
  unfold roundEven
  split_ifs <;> omega

/-- A value has at most `2 ^ 53` units. -/
theorem units_le (q : ℚ) : roundEven (q / ulp q) ≤ 2 ^ 53 := by
  apply roundEven_le
  rw [div_lt_iff₀ (ulp_pos q), ulp_eq]
  have hexponent : Int.log 2 q + 1 ≤ 53 + ulpExponent q := by
    unfold ulpExponent
    omega
  calc q < ((2 : ℕ) : ℚ) ^ (Int.log 2 q + 1) := Int.lt_zpow_succ_log_self (by omega) q
    _ ≤ 2 ^ (53 + ulpExponent q) := by
        exact_mod_cast zpow_le_zpow_right₀ (by norm_num : (1 : ℚ) ≤ 2) hexponent
    _ = ((2 ^ 53 : ℤ) : ℚ) * 2 ^ ulpExponent q := by
        rw [zpow_add₀ (by norm_num)]
        norm_num

/-- What a value is rounded to is a multiple of its own unit, which may be a larger one than that of the
value: then the value was rounded up to a power of two. -/
theorem rounded_eq_units {q x : ℚ} (hx : 0 < x) (h : x = roundEven (q / ulp q) * ulp q) :
    ∃ m : ℤ, x = m * ulp x := by
  by_cases hle : ulpExponent x ≤ ulpExponent q
  · obtain ⟨k, hk⟩ : ∃ k : ℕ, ulpExponent q = k + ulpExponent x :=
      ⟨(ulpExponent q - ulpExponent x).toNat, by omega⟩
    refine ⟨roundEven (q / ulp q) * 2 ^ k, ?_⟩
    calc x = roundEven (q / ulp q) * 2 ^ ulpExponent q := h
      _ = roundEven (q / ulp q) * (2 ^ (k : ℤ) * 2 ^ ulpExponent x) := by
          rw [hk, zpow_add₀ (by norm_num)]
      _ = ((roundEven (q / ulp q) * 2 ^ k : ℤ) : ℚ) * 2 ^ ulpExponent x := by
          push_cast
          rw [zpow_natCast]
          ring
  · have hunits : (roundEven (q / ulp q) : ℚ) ≤ 2 ^ 53 := by exact_mod_cast units_le q
    have hupper : x ≤ 2 ^ (53 + ulpExponent q) := by
      calc x = roundEven (q / ulp q) * 2 ^ ulpExponent q := h
        _ ≤ 2 ^ 53 * 2 ^ ulpExponent q := by
            apply mul_le_mul_of_nonneg_right hunits
            exact (zpow_pos (by norm_num) _).le
        _ = 2 ^ (53 + ulpExponent q) := by
            rw [zpow_add₀ (by norm_num)]
            norm_num
    have hlower : (2 : ℚ) ^ Int.log 2 x ≤ x := by
      exact_mod_cast Int.zpow_log_le_self (b := 2) (by omega) hx
    have hlog : Int.log 2 x ≤ 53 + ulpExponent q := by
      apply (zpow_le_zpow_iff_right₀ (by norm_num : (1 : ℚ) < 2)).mp
      exact hlower.trans hupper
    have hexponent : ulpExponent x = Int.log 2 x - 52 := by
      unfold ulpExponent at hle ⊢
      omega
    have hpower : Int.log 2 x = 53 + ulpExponent q := by omega
    refine ⟨2 ^ 52, ?_⟩
    calc x = 2 ^ Int.log 2 x := le_antisymm (hpower ▸ hupper) hlower
      _ = 2 ^ (52 + ulpExponent x) := by
          congr 1
          omega
      _ = ((2 ^ 52 : ℤ) : ℚ) * 2 ^ ulpExponent x := by
          rw [zpow_add₀ (by norm_num)]
          norm_num

theorem roundPositive_roundPositive {q x : ℚ} (hq : 0 ≤ q) (h : roundPositive q = finite x) :
    0 ≤ x ∧ roundPositive x = finite x := by
  unfold roundPositive at h
  split_ifs at h with hlt
  have hx : x = roundEven (q / ulp q) * ulp q := (finite.inj h).symm
  have hbound : x < 2 ^ 1024 := hx ▸ hlt
  have hnonneg : 0 ≤ x := by
    rw [hx]
    apply mul_nonneg
    · exact_mod_cast roundEven_nonneg (div_nonneg hq (ulp_pos q).le)
    · exact (ulp_pos q).le
  refine ⟨hnonneg, ?_⟩
  by_cases hzero : x = 0
  · have hround := round_zero
    unfold round at hround
    rwa [if_neg (lt_irrefl 0), ← hzero] at hround
  · have hpos : 0 < x := lt_of_le_of_ne hnonneg (Ne.symm hzero)
    obtain ⟨m, hm⟩ := rounded_eq_units hpos hx
    have hunits : roundEven (x / ulp x) = m := by
      have hdiv : x / ulp x = m := (div_eq_iff (ulp_pos x).ne').mpr hm
      rw [hdiv, roundEven_intCast]
    unfold roundPositive
    rw [hunits, ← hm, if_pos hbound]

theorem neg_eq_finite {n : Number} {x : ℚ} (h : n.neg = finite x) : n = finite (-x) := by
  cases n with
  | nan => cases h
  | infinity negative => cases h
  | finite value => rw [← finite.inj h, neg_neg]

end Number

theorem isDouble_of_nonneg {x : ℚ} (hx : 0 ≤ x) :
    IsDouble x ↔ Number.roundPositive x = .finite x := by
  unfold IsDouble Number.round
  rw [if_neg (not_lt.mpr hx)]

theorem isDouble_neg {x : ℚ} (h : IsDouble x) : IsDouble (-x) := by
  unfold IsDouble Number.round at h ⊢
  rcases lt_trichotomy x 0 with hneg | rfl | hpos
  · rw [if_pos hneg] at h
    rw [if_neg (by linarith)]
    exact Number.neg_eq_finite h
  · rw [neg_zero]
    exact h
  · rw [if_neg (by linarith)] at h
    rw [if_pos (by linarith), neg_neg, h]
    rfl

/-- **Rounding twice is rounding once.** -/
theorem isDouble_of_round {q x : ℚ} (h : Number.round q = .finite x) : IsDouble x := by
  unfold Number.round at h
  split_ifs at h with hneg
  · have hround := Number.neg_eq_finite h
    obtain ⟨hnonneg, hsame⟩ := Number.roundPositive_roundPositive (by linarith) hround
    rw [← neg_neg x]
    exact isDouble_neg ((isDouble_of_nonneg hnonneg).mpr hsame)
  · obtain ⟨hnonneg, hsame⟩ := Number.roundPositive_roundPositive (not_lt.mp hneg) h
    exact (isDouble_of_nonneg hnonneg).mpr hsame

theorem isDouble_of_unsigned {t : Str} {x : ℚ} (h : unsigned t = .finite x) : IsDouble x := by
  unfold unsigned at h
  split_ifs at h
  cases hvalue : scientific? t with
  | none => rw [hvalue] at h; cases h
  | some q =>
      rw [hvalue] at h
      exact isDouble_of_round h

/-- **What is read of a text is a number that there is.** -/
theorem isDouble_of_number {t : Str} {x : ℚ} (h : number t = .finite x) : IsDouble x := by
  unfold number at h
  dsimp only at h
  by_cases hempty : trim t = []
  · rw [if_pos hempty] at h
    rw [← Number.finite.inj h]
    exact Number.round_zero
  · rw [if_neg hempty] at h
    split at h
    · rename_i base _
      cases hvalue : ofRadix base ((trim t).drop 2) with
      | none => rw [hvalue] at h; cases h
      | some n =>
          rw [hvalue] at h
          exact isDouble_of_round h
    · split_ifs at h
      · rw [← neg_neg x]
        exact isDouble_neg (isDouble_of_unsigned (Number.neg_eq_finite h))
      · exact isDouble_of_unsigned h
      · exact isDouble_of_unsigned h

/-! ## The texts of integers -/

/-- The digits of an integer are followed by zeros, unless there are too many places. -/
theorem allDigits_layout {ds : Str} (h : AllDigits ds) {z : ℕ} (hsmall : ds.length + (z : ℤ) ≤ 21) :
    AllDigits (layout ds (ds.length + z)) := by
  unfold layout
  rw [if_pos ⟨by omega, hsmall⟩]
  intro c hc
  rcases List.mem_append.mp hc with hc | hc
  · exact h c hc
  · rw [List.eq_of_mem_replicate hc]
    rfl

theorem plus_mem_layout {ds : Str} {z : ℕ} (hlarge : ¬ ds.length + (z : ℤ) ≤ 21) :
    '+' ∈ layout ds (ds.length + z) := by
  unfold layout
  rw [if_neg (fun hc => hlarge hc.2), if_neg (fun hc => hlarge hc.2), if_neg (by omega),
    if_pos (by omega)]
  simp

/-- How the text of a positive integer is laid out. -/
theorem positiveText_layout {n : ℕ} (hn : n ≠ 0) (hdouble : IsDouble (n : ℚ)) :
    ∃ s e : ℕ, ∃ ds : Str, ∃ z : ℕ, shortest? (n : ℚ) = some (s, (e : ℤ)) ∧ AllDigits ds ∧ ds ≠ [] ∧
      (Nat.toDigits 10 s).length = ds.length + z ∧
      positiveText (n : ℚ) = layout ds (ds.length + ((z + e : ℕ) : ℤ)) := by
  obtain ⟨s, e, hshortest, hs, -⟩ := shortest?_natCast hn hdouble
  obtain ⟨ds, z, hdigits, hne, hstrip, hlength, -⟩ := toDigits_strip hs
  refine ⟨s, e, ds, z, hshortest, hdigits, hne, hlength, ?_⟩
  unfold positiveText
  rw [hshortest]
  show layout _ ((Nat.toDigits 10 s).length + (e : ℤ)) = _
  rw [hstrip, hlength]
  congr 1
  push_cast
  ring

theorem plus_of_dot_positive {n : ℕ} (hn : n ≠ 0) (hdouble : IsDouble (n : ℚ))
    (hdot : '.' ∈ positiveText (n : ℚ)) : '+' ∈ positiveText (n : ℚ) := by
  obtain ⟨s, e, ds, z, -, hdigits, hne, -, htext⟩ := positiveText_layout hn hdouble
  rw [htext] at hdot ⊢
  by_cases hsmall : ds.length + ((z + e : ℕ) : ℤ) ≤ 21
  · exact absurd rfl ((allDigits_layout hdigits hsmall).ne (by decide) '.' hdot)
  · exact plus_mem_layout hsmall

/-- **A dot in the text of an integer** is one before an exponent. -/
theorem plus_of_dot {n : ℤ} (hdouble : IsDouble (n : ℚ)) (hdot : '.' ∈ (Number.finite n).text) :
    '+' ∈ (Number.finite n).text := by
  rw [text_intCast] at hdot ⊢
  split_ifs at hdot ⊢ with hzero hneg
  · exact absurd (List.mem_singleton.mp hdot) (by decide)
  · have hne : n.natAbs ≠ 0 := Int.natAbs_ne_zero.mpr hzero
    rcases List.mem_cons.mp hdot with hminus | hdot
    · exact absurd hminus (by decide)
    · exact List.mem_cons_of_mem _ (plus_of_dot_positive hne (isDouble_natAbs hdouble) hdot)
  · have hne : n.natAbs ≠ 0 := Int.natAbs_ne_zero.mpr hzero
    exact plus_of_dot_positive hne (isDouble_natAbs hdouble) hdot

theorem significand?_le {x : ℚ} {k s : ℕ} (h : significand? x k = some s) : s ≤ 10 ^ k := by
  have hlt : x / 10 ^ (decade x - k) < ((10 ^ k : ℤ) : ℚ) := by
    rw [div_lt_iff₀ (zpow_pos (by norm_num) _)]
    calc x < ((10 : ℕ) : ℚ) ^ (Int.log 10 x + 1) := Int.lt_zpow_succ_log_self (by omega) x
      _ = 10 ^ ((k : ℤ) + (decade x - k)) := by
          unfold decade
          push_cast
          congr 1
          omega
      _ = ((10 ^ k : ℤ) : ℚ) * 10 ^ (decade x - k) := by
          rw [zpow_add₀ (by norm_num), zpow_natCast]
          push_cast
          rfl
  have hround := Number.roundEven_le hlt
  have hfloor : ⌊x / 10 ^ (decade x - k)⌋ < 10 ^ k := Int.floor_lt.mpr hlt
  have hpow : (0 : ℤ) < 10 ^ k := by positivity
  have hcast : ((10 ^ k : ℕ) : ℤ) = 10 ^ k := by push_cast; rfl
  have hmem := List.mem_of_find?_eq_some h
  simp only [List.mem_cons, List.not_mem_nil, or_false] at hmem
  rcases hmem with rfl | rfl | rfl <;> omega

theorem length_toDigits_le {s k : ℕ} (h : s ≤ 10 ^ k) : (Nat.toDigits 10 s).length ≤ k + 1 := by
  rw [Nat.length_toDigits_le_iff (by omega) (by omega)]
  calc s ≤ 10 ^ k := h
    _ < 10 ^ (k + 1) := Nat.pow_lt_pow_right (by omega) (by omega)

/-- **An integer below `2 ^ 53`** is written in digits. -/
theorem allDigits_text {n : ℕ} (h : n < 2 ^ 53) : AllDigits (Number.finite (n : ℚ)).text := by
  have htext := text_intCast (n : ℤ)
  rw [Int.cast_natCast, Int.natAbs_natCast] at htext
  rw [htext]
  by_cases hn : n = 0
  · rw [if_pos (by exact_mod_cast hn)]
    exact List.all_eq_true.mp rfl
  · rw [if_neg (by exact_mod_cast hn), if_neg (by omega)]
    obtain ⟨s, e, ds, z, hshortest, hdigits, hne, hlength, hlayout⟩ :=
      positiveText_layout hn (isDouble_natCast h)
    have hlog : Nat.log 10 n < 16 := Nat.log_lt_of_lt_pow hn (h.trans (by norm_num))
    have hdecade : decade (n : ℚ) = ((Nat.log 10 n + 1 : ℕ) : ℤ) := by
      rw [decade, Int.log_natCast]
      rfl
    -- there are no more places than digits of the integer, and one
    have hplaces : (Nat.toDigits 10 s).length + (e : ℤ) ≤ decade (n : ℚ) + 1 := by
      obtain ⟨k, -, hk⟩ := List.exists_of_findSome?_eq_some hshortest
      obtain ⟨s', hs', hpair⟩ := Option.map_eq_some_iff.mp hk
      obtain ⟨rfl, he⟩ := Prod.mk.inj hpair
      have hle := length_toDigits_le (significand?_le hs')
      omega
    rw [hlayout]
    apply allDigits_layout hdigits
    push_cast
    omega

end Js
