import Mathlib.Algebra.BigOperators.Group.List.Basic
import Mathlib.Algebra.BigOperators.Group.Finset.Piecewise
import Mathlib.Algebra.Order.BigOperators.Group.List
import Mathlib.Algebra.Order.BigOperators.Group.Finset
import Mathlib.Order.Lattice
import Mathlib.Data.List.Pairwise
import Mathlib.Algebra.Order.Monoid.Defs
import Mathlib.Algebra.Order.Group.Int
import Mathlib.Tactic.Ring
import Mathlib.Tactic.Linarith

set_option autoImplicit false

/-! # Histories: budgets per bucket, spacing, latest entry

A history is a list of entries, newest first. Each entry falls into a *bucket* (a billing
period, a rate-limiting window) and carries an *amount*. The point of the file is that a single
stored pair — the current bucket and what it has collected — is enough to enforce a cap on
*every* bucket, as long as the buckets of successive entries never go back:
`Tracks.amountAt_eq` says the pair computes the true sum of the bucket an entry is about to
fall into, and `Tracks.record` that recording the entry keeps it so. Buckets are ordered by an
arbitrary linear order, so nothing is looped over when buckets are skipped.

After that comes the arithmetic of an equidistant grid of buckets on `ℤ`, and what a cap on its buckets
means for a window that begins anywhere.
-/

namespace History

section Buckets

variable {ι κ M : Type} [LinearOrder κ] [AddCommMonoid M] (bucket : ι → κ) (amount : ι → M)

/-- What the entries of `h` in bucket `k` add up to. -/
def bucketSum (h : List ι) (k : κ) : M := ((h.filter fun x => bucket x = k).map amount).sum

@[simp] theorem bucketSum_nil (k : κ) : bucketSum bucket amount [] k = 0 := rfl

theorem bucketSum_cons (x : ι) (h : List ι) (k : κ) :
    bucketSum bucket amount (x :: h) k
      = (if bucket x = k then amount x else 0) + bucketSum bucket amount h k := by
  unfold bucketSum
  by_cases hk : bucket x = k
  · rw [List.filter_cons_of_pos (by simpa using hk), if_pos hk, List.map_cons, List.sum_cons]
  · rw [List.filter_cons_of_neg (by simpa using hk), if_neg hk, zero_add]

/-- Nothing has been collected in a bucket after all those used so far. -/
theorem bucketSum_eq_zero {h : List ι} {k : κ} (hlt : ∀ x ∈ h, bucket x < k) :
    bucketSum bucket amount h k = 0 := by
  unfold bucketSum
  rw [List.filter_eq_nil_iff.mpr fun x hx => by simpa using (hlt x hx).ne]
  rfl

/-- The stored pair: the current bucket, and what was collected in it. -/
structure Counter (κ M : Type) where
  bucket : κ
  sum : M

/-- What the counter has collected in bucket `k`; a bucket other than the current one counts as
fresh. -/
def Counter.amountAt (c : Counter κ M) (k : κ) : M := if k ≠ c.bucket then 0 else c.sum

/-- The counter describes the history. -/
structure Tracks (c : Counter κ M) (h : List ι) : Prop where
  sum_eq : c.sum = bucketSum bucket amount h c.bucket
  le_current : ∀ x ∈ h, bucket x ≤ c.bucket

variable {bucket amount}

theorem tracks_nil (k : κ) : Tracks bucket amount ⟨k, 0⟩ [] :=
  ⟨rfl, fun _ hx => absurd hx List.not_mem_nil⟩

/-- **The counter computes true bucket sums**, of the current bucket and of every later one. -/
theorem Tracks.amountAt_eq {c : Counter κ M} {h : List ι} (ht : Tracks bucket amount c h) {k : κ}
    (hk : c.bucket ≤ k) : c.amountAt k = bucketSum bucket amount h k := by
  unfold Counter.amountAt
  by_cases heq : k = c.bucket
  · rw [if_neg (not_not.mpr heq), heq, ht.sum_eq]
  · have hlt : c.bucket < k := lt_of_le_of_ne hk (Ne.symm heq)
    rw [if_pos heq, bucketSum_eq_zero bucket amount fun x hx => (ht.le_current x hx).trans_lt hlt]

/-- Recording an entry whose bucket is not before the current one. -/
theorem Tracks.record {c : Counter κ M} {h : List ι} (ht : Tracks bucket amount c h) {x : ι}
    (hx : c.bucket ≤ bucket x) :
    Tracks bucket amount ⟨bucket x, c.amountAt (bucket x) + amount x⟩ (x :: h) := by
  refine ⟨?_, ?_⟩
  · rw [bucketSum_cons, if_pos rfl, ht.amountAt_eq hx, add_comm]
  · intro y hy
    rcases List.mem_cons.mp hy with rfl | hy
    · exact le_rfl
    · exact (ht.le_current y hy).trans hx

variable (bucket amount) in
/-- No bucket has collected more than `cap`. -/
def Capped [LE M] (cap : M) (h : List ι) : Prop := ∀ k, bucketSum bucket amount h k ≤ cap

theorem Capped.cons [LE M] {cap : M} {h : List ι} (hc : Capped bucket amount cap h) {x : ι}
    (hx : bucketSum bucket amount h (bucket x) + amount x ≤ cap) :
    Capped bucket amount cap (x :: h) := by
  intro k
  rw [bucketSum_cons]
  by_cases hk : bucket x = k
  · rw [if_pos hk, ← hk, add_comm]; exact hx
  · rw [if_neg hk, zero_add]; exact hc k

/-- The buckets share out the total. -/
theorem sum_bucketSum {h : List ι} {ks : Finset κ} (hks : ∀ x ∈ h, bucket x ∈ ks) :
    ∑ k ∈ ks, bucketSum bucket amount h k = (h.map amount).sum := by
  induction h with
  | nil => simp
  | cons x h ih =>
      obtain ⟨hx, hrest⟩ := List.forall_mem_cons.mp hks
      simp only [bucketSum_cons]
      rw [Finset.sum_add_distrib, ih hrest, Finset.sum_ite_eq, if_pos hx, List.map_cons,
        List.sum_cons]

/-- **A cap on every bucket is a cap on the total**: itself, for each bucket in use. -/
theorem Capped.total_le [PartialOrder M] [IsOrderedAddMonoid M] {cap : M} {h : List ι}
    (hc : Capped bucket amount cap h) {ks : Finset κ} (hks : ∀ x ∈ h, bucket x ∈ ks) :
    (h.map amount).sum ≤ ks.card • cap := by
  rw [← sum_bucketSum hks]
  exact Finset.sum_le_card_nsmul ks _ cap fun k _ => hc k

/-- Leaving out entries of no negative amount takes nothing above the cap. -/
theorem Capped.filter [PartialOrder M] [IsOrderedAddMonoid M] {cap : M} {h : List ι}
    (hc : Capped bucket amount cap h) (hpos : ∀ x ∈ h, 0 ≤ amount x) (p : ι → Bool) :
    Capped bucket amount cap (h.filter p) := by
  intro k
  have hsub : ((h.filter p).filter fun x => bucket x = k).Sublist
      (h.filter fun x => bucket x = k) := List.filter_sublist.filter _
  refine le_trans ?_ (hc k)
  apply (hsub.map amount).sum_le_sum
  intro m hm
  obtain ⟨x, hx, rfl⟩ := List.mem_map.mp hm
  exact hpos x (List.mem_of_mem_filter hx)

end Buckets

/-! ## Latest entry and spacing -/

section Time

variable {ι τ : Type} [LinearOrder τ] (time : ι → τ)

/-- `o` is the greatest time of the history, `none` when it is empty. -/
def Latest (h : List ι) : Option τ → Prop
  | none => h = []
  | some t => (∃ x ∈ h, time x = t) ∧ ∀ x ∈ h, time x ≤ t

variable {time}

theorem Latest.cons {h : List ι} {x : ι} (hx : ∀ y ∈ h, time y ≤ time x) :
    Latest time (x :: h) (some (time x)) := by
  refine ⟨⟨x, List.mem_cons_self, rfl⟩, fun y hy => ?_⟩
  rcases List.mem_cons.mp hy with rfl | hy
  · exact le_rfl
  · exact hx y hy

variable (time) in
/-- Successive entries are at least `d` apart, hence so are any two. -/
def Spaced [Add τ] (d : τ) (h : List ι) : Prop := h.Pairwise fun x y => time y + d ≤ time x

theorem Spaced.apart [Add τ] {d : τ} {h : List ι} (hs : Spaced time d h) {x y : ι}
    (hx : x ∈ h) (hy : y ∈ h) (hne : x ≠ y) :
    time y + d ≤ time x ∨ time x + d ≤ time y := by
  have hsym : h.Pairwise fun x y => time y + d ≤ time x ∨ time x + d ≤ time y :=
    hs.imp fun h => Or.inl h
  have : Std.Symm fun x y : ι => time y + d ≤ time x ∨ time x + d ≤ time y :=
    ⟨fun _ _ h => h.symm⟩
  exact hsym.forall hx hy hne

/-- Entries that are `d` apart and none before `a` take up the time they are apart. -/
theorem Spaced.length_mul_le {time : ι → Int} {d a : Int} {x : ι} {h : List ι}
    (hs : Spaced time d (x :: h)) (ha : ∀ y ∈ x :: h, a ≤ time y) :
    a + h.length * d ≤ time x := by
  induction h generalizing x with
  | nil => simpa using ha x List.mem_cons_self
  | cons y h ih =>
      obtain ⟨hhead, htail⟩ := List.pairwise_cons.mp hs
      have hrest := ih htail fun z hz => ha z (List.mem_cons_of_mem x hz)
      have hstep := hhead y List.mem_cons_self
      have hexp : ((y :: h).length : Int) * d = h.length * d + d := by
        rw [List.length_cons]; push_cast; ring
      omega

end Time

/-! ## The grid `start + ℤ * width` -/

section Grid

/-- The grid point at or before `t`. -/
def gridFloor (start width t : Int) : Int := start + (t - start) / width * width

variable (start : Int) {width : Int}

theorem gridFloor_le (hw : 0 < width) (t : Int) : gridFloor start width t ≤ t := by
  have := Int.ediv_mul_le (t - start) (ne_of_gt hw)
  unfold gridFloor; omega

theorem lt_gridFloor_add (hw : 0 < width) (t : Int) : t < gridFloor start width t + width := by
  have := Int.lt_ediv_add_one_mul_self (t - start) hw
  have hexp : ((t - start) / width + 1) * width = (t - start) / width * width + width := by ring
  unfold gridFloor; omega

theorem gridFloor_mono (hw : 0 < width) {s t : Int} (h : s ≤ t) :
    gridFloor start width s ≤ gridFloor start width t := by
  have hdiv : (s - start) / width ≤ (t - start) / width :=
    Int.ediv_le_ediv hw (by omega)
  have := Int.mul_le_mul_of_nonneg_right hdiv hw.le
  unfold gridFloor; omega

/-- The interval between two grid points is the bucket of the first. -/
theorem gridFloor_eq_iff (hw : 0 < width) (n t : Int) :
    gridFloor start width t = start + n * width ↔
      start + n * width ≤ t ∧ t < start + (n + 1) * width := by
  have hexp : (n + 1) * width = n * width + width := by ring
  constructor
  · intro h
    have h₁ := gridFloor_le start hw t
    have h₂ := lt_gridFloor_add start hw t
    omega
  · rintro ⟨h₁, h₂⟩
    have hdiv : (t - start) / width = n := by
      rw [Int.ediv_eq_iff_of_pos hw]
      omega
    rw [gridFloor, hdiv]

/-- A bucket lasts until the next grid point. -/
theorem gridFloor_eq_of_mem (hw : 0 < width) {s t : Int} (hle : gridFloor start width t ≤ s)
    (hlt : s < gridFloor start width t + width) :
    gridFloor start width s = gridFloor start width t := by
  have hexp : ((t - start) / width + 1) * width = (t - start) / width * width + width := by ring
  have hbucket := (gridFloor_eq_iff start hw ((t - start) / width) s).mpr
  unfold gridFloor at hle hlt hbucket ⊢
  exact hbucket ⟨hle, by omega⟩

/-- The next grid point is one. -/
theorem gridFloor_next (hw : 0 < width) (t : Int) :
    gridFloor start width (gridFloor start width t + width) = gridFloor start width t + width := by
  have hexp : ((t - start) / width + 1) * width = (t - start) / width * width + width := by ring
  have hexp' : ((t - start) / width + 1 + 1) * width
      = (t - start) / width * width + width + width := by ring
  have hbucket := (gridFloor_eq_iff start hw ((t - start) / width + 1)
    (gridFloor start width t + width)).mpr
  unfold gridFloor at hbucket ⊢
  rw [hbucket ⟨by omega, by omega⟩, hexp, add_assoc]

theorem gridFloor_start (width : Int) : gridFloor start width start = start := by
  unfold gridFloor; simp

/-- The first `n` grid points. -/
def gridPoints (width : Int) (n : ℕ) : Finset Int :=
  (Finset.range n).image fun k : ℕ => start + k * width

theorem card_gridPoints_le (width : Int) (n : ℕ) : (gridPoints start width n).card ≤ n := by
  have hcard := Finset.card_image_le (s := Finset.range n) (f := fun k : ℕ => start + k * width)
  rwa [Finset.card_range] at hcard

/-- What is less than `n` widths after the start is in one of the first `n` buckets. -/
theorem gridFloor_mem_gridPoints (hw : 0 < width) {n : ℕ} {t : Int} (hstart : start ≤ t)
    (hstop : t < start + n * width) : gridFloor start width t ∈ gridPoints start width n := by
  have hle : 0 ≤ (t - start) / width := Int.ediv_nonneg (by omega) hw.le
  have hlt : (t - start) / width < n := Int.ediv_lt_of_lt_mul hw (by omega)
  obtain ⟨k, hk⟩ := Int.eq_ofNat_of_zero_le hle
  refine Finset.mem_image.mpr ⟨k, Finset.mem_range.mpr (by omega), ?_⟩
  rw [gridFloor, hk]

/-- The grid is the same from any of its points. -/
theorem gridFloor_gridFloor (hw : 0 < width) (s t : Int) :
    gridFloor (gridFloor start width s) width t = gridFloor start width t := by
  have hshift : t - (start + (s - start) / width * width)
      = (t - start) + -((s - start) / width) * width := by ring
  unfold gridFloor
  rw [hshift, Int.add_mul_ediv_right (t - start) (-((s - start) / width)) hw.ne']
  ring

/-- The buckets of the moments from `a` on and before `b`. -/
def bucketsMet (width a b : Int) : Finset Int :=
  (Finset.range (b - a).toNat).image fun k : ℕ => gridFloor start width (a + k)

theorem mem_bucketsMet {a b n : Int} :
    n ∈ bucketsMet start width a b ↔ ∃ t, a ≤ t ∧ t < b ∧ gridFloor start width t = n := by
  constructor
  · intro h
    obtain ⟨k, hk, rfl⟩ := Finset.mem_image.mp h
    have hlt := Finset.mem_range.mp hk
    exact ⟨a + k, by omega, by omega, rfl⟩
  · rintro ⟨t, ha, hb, rfl⟩
    refine Finset.mem_image.mpr ⟨(t - a).toNat, Finset.mem_range.mpr (by omega), ?_⟩
    rw [show a + ((t - a).toNat : Int) = t by omega]

theorem gridFloor_mem_bucketsMet {a b t : Int} (ha : a ≤ t) (hb : t < b) :
    gridFloor start width t ∈ bucketsMet start width a b :=
  (mem_bucketsMet start).mpr ⟨t, ha, hb, rfl⟩

theorem bucketsMet_subset {a a' b b' : Int} (ha : a' ≤ a) (hb : b ≤ b') :
    bucketsMet start width a b ⊆ bucketsMet start width a' b' := by
  intro n hn
  obtain ⟨t, hat, htb, rfl⟩ := (mem_bucketsMet start).mp hn
  exact gridFloor_mem_bucketsMet start (ha.trans hat) (htb.trans_le hb)

/-- A window meets at most one bucket more than its length has room for. -/
theorem card_bucketsMet_le (hw : 0 < width) (a : Int) {length : Int} (hlen : 0 < length) :
    ((bucketsMet start width a (a + length)).card : Int) ≤ (length - 1) / width + 2 := by
  obtain ⟨n, hn⟩ := Int.eq_ofNat_of_zero_le
    (show 0 ≤ (length - 1) / width + 2 by
      have := Int.ediv_nonneg (show 0 ≤ length - 1 by omega) hw.le
      omega)
  have hsub : bucketsMet start width a (a + length)
      ⊆ gridPoints (gridFloor start width a) width n := by
    intro k hk
    obtain ⟨t, hle, hlt, rfl⟩ := (mem_bucketsMet start).mp hk
    rw [← gridFloor_gridFloor start hw a t]
    apply gridFloor_mem_gridPoints _ hw
    · exact (gridFloor_le start hw a).trans hle
    · -- the window reaches into no bucket after its last one
      have hfloor := lt_gridFloor_add start hw a
      have hrest := Int.lt_ediv_add_one_mul_self (length - 1) hw
      have hexp : (n : Int) * width = ((length - 1) / width + 1) * width + width := by
        rw [← hn]; ring
      omega
  have hcard := (Finset.card_le_card hsub).trans (card_gridPoints_le (gridFloor start width a) width n)
  rw [hn]
  exact_mod_cast hcard

end Grid

/-! ## Sliding windows -/

section Windows

variable {ι : Type} {time amount : ι → Int} {start width cap : Int} {h : List ι}

/-- The entries of the window of `length` from `a` on. -/
def inWindow (time : ι → Int) (a length : Int) (h : List ι) : List ι :=
  h.filter fun x => a ≤ time x ∧ time x < a + length

theorem mem_inWindow {a length : Int} {x : ι} :
    x ∈ inWindow time a length h ↔ x ∈ h ∧ a ≤ time x ∧ time x < a + length := by
  simp [inWindow]

/-- **A cap on every bucket of a grid caps every window**, wherever it begins: itself, for each bucket
the window meets while there are entries at all. -/
theorem Capped.window_le (hc : Capped (fun x => gridFloor start width (time x)) amount cap h)
    (hpos : ∀ x ∈ h, 0 ≤ amount x) {first stop : Int}
    (hinside : ∀ x ∈ h, first ≤ time x ∧ time x < stop) (a length : Int) :
    ((inWindow time a length h).map amount).sum
      ≤ (bucketsMet start width (max a first) (min (a + length) stop)).card * cap := by
  have hwindow := hc.filter hpos fun x => decide (a ≤ time x ∧ time x < a + length)
  have hbuckets : ∀ x ∈ inWindow time a length h, gridFloor start width (time x) ∈
      bucketsMet start width (max a first) (min (a + length) stop) := by
    intro x hx
    obtain ⟨hmem, hle, hlt⟩ := mem_inWindow.mp hx
    obtain ⟨hfirst, hstop⟩ := hinside x hmem
    exact gridFloor_mem_bucketsMet start (max_le hle hfirst) (lt_min hlt hstop)
  have htotal := hwindow.total_le hbuckets
  rwa [nsmul_eq_mul] at htotal

/-- **Spacing bounds how many fall into a window.** -/
theorem Spaced.window_length_le {d : Int} (hs : Spaced time d h) {a length : Int}
    (hne : inWindow time a length h ≠ []) :
    ((inWindow time a length h).length - 1 : Int) * d ≤ length - 1 := by
  have hspaced : Spaced time d (inWindow time a length h) := hs.sublist List.filter_sublist
  have hmem : ∀ x ∈ inWindow time a length h, x ∈ h ∧ a ≤ time x ∧ time x < a + length :=
    fun x hx => mem_inWindow.mp hx
  cases hw : inWindow time a length h with
  | nil => exact absurd hw hne
  | cons x rest =>
      rw [hw] at hspaced hmem
      have hspan := hspaced.length_mul_le fun y hy => (hmem y hy).2.1
      have hlast := (hmem x List.mem_cons_self).2.2
      rw [List.length_cons]
      push_cast
      rw [add_sub_cancel_right]
      omega

/-- **Spacing and a most for each entry cap every window**: the most, for each entry there is room
for. -/
theorem Spaced.window_sum_le {d most : Int} (hs : Spaced time d h) (hd : 0 < d) (hmost : 0 ≤ most)
    (hle : ∀ x ∈ h, amount x ≤ most) (a : Int) {length : Int} (hlen : 0 < length) :
    ((inWindow time a length h).map amount).sum ≤ ((length - 1) / d + 1) * most := by
  have hcount : ((inWindow time a length h).length : Int) ≤ (length - 1) / d + 1 := by
    by_cases hne : inWindow time a length h = []
    · have hroom := Int.ediv_nonneg (show 0 ≤ length - 1 by omega) hd.le
      rw [hne]
      simp only [List.length_nil]
      omega
    · have hfit := Int.le_ediv_of_mul_le hd (hs.window_length_le hne)
      omega
  have hsum : ((inWindow time a length h).map amount).sum
      ≤ ((inWindow time a length h).map amount).length • most := by
    apply List.sum_le_card_nsmul
    intro m hm
    obtain ⟨x, hx, rfl⟩ := List.mem_map.mp hm
    exact hle x (mem_inWindow.mp hx).1
  calc ((inWindow time a length h).map amount).sum
      ≤ (inWindow time a length h).length * most := by
        rwa [List.length_map, nsmul_eq_mul] at hsum
    _ ≤ ((length - 1) / d + 1) * most := mul_le_mul_of_nonneg_right hcount hmost

end Windows

end History
