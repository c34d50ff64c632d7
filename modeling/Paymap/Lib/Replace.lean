import Mathlib.Data.List.Basic

set_option autoImplicit false

/-! # Replacing every match

`text.replace(pattern, marker)` with a global pattern: the text is scanned from its start, a match at the
place that is reached is taken as a piece, and the scan goes on behind it; what does not begin a match is
left. A pattern is given by what it finds at the head of a text, which is the length of a match. It looks
at what follows the match, and never at what precedes it.

* `scan_induction` — an induction that follows the scan;
* `replaceAll_eq_self` — a text in which nothing matches is left as it is.
-/

namespace Replace

variable {α : Type}

/-- What a scan makes of a text. -/
inductive Piece (α : Type) where
  | kept (c : α)
  | hit (m : List α)
  deriving DecidableEq

/-- What is found at the head of a text is a part of it, and not empty. -/
def Proper (find : List α → Option ℕ) : Prop := ∀ t n, find t = some n → 0 < n ∧ n ≤ t.length

section

variable (find : List α → Option ℕ)

/-- The pieces of a text, of which `skip` elements belong to the match before. -/
def scanFrom : (skip : ℕ) → List α → List (Piece α)
  | _, [] => []
  | skip + 1, _ :: t => scanFrom skip t
  | 0, c :: t =>
      match find (c :: t) with
      | none => .kept c :: scanFrom 0 t
      | some n => .hit ((c :: t).take n) :: scanFrom (n - 1) t

def scan (t : List α) : List (Piece α) := scanFrom find 0 t

end

/-- The text with the matches replaced. -/
def shown (marker : List α) (ps : List (Piece α)) : List α :=
  ps.flatMap fun p =>
    match p with
    | .kept c => [c]
    | .hit _ => marker

def replaceAll (find : List α → Option ℕ) (marker t : List α) : List α := shown marker (scan find t)

section

variable {marker : List α} {c : α} {m : List α} {ps : List (Piece α)}

@[simp] theorem shown_nil : shown marker ([] : List (Piece α)) = [] := rfl

@[simp] theorem shown_kept : shown marker (.kept c :: ps) = c :: shown marker ps := rfl

@[simp] theorem shown_hit : shown marker (.hit m :: ps) = marker ++ shown marker ps := rfl

end

section

variable {find : List α → Option ℕ} {marker t : List α} {c : α} {m : List α}

/-- Behind a match the scan starts anew. -/
theorem scanFrom_eq (skip : ℕ) (t : List α) : scanFrom find skip t = scan find (t.drop skip) := by
  induction t generalizing skip with
  | nil =>
      rw [List.drop_nil]
      cases skip <;> rfl
  | cons c t ih =>
      cases skip with
      | zero => rfl
      | succ skip => exact ih skip

theorem scan_kept (h : find (c :: t) = none) : scan find (c :: t) = .kept c :: scan find t := by
  show (match find (c :: t) with
    | none => Piece.kept c :: scanFrom find 0 t
    | some n => .hit ((c :: t).take n) :: scanFrom find (n - 1) t) = _
  rw [h]
  rfl

theorem scan_hit (hm : m ≠ []) (h : find (m ++ t) = some m.length) :
    scan find (m ++ t) = .hit m :: scan find t := by
  cases m with
  | nil => exact absurd rfl hm
  | cons c m =>
      show (match find (c :: (m ++ t)) with
        | none => Piece.kept c :: scanFrom find 0 (m ++ t)
        | some n => .hit ((c :: (m ++ t)).take n) :: scanFrom find (n - 1) (m ++ t)) = _
      rw [show find (c :: (m ++ t)) = some (c :: m).length from h]
      simp [scanFrom_eq]

/-- **Induction along the scan**: at each place the text is at its end, begins no match, or begins one. -/
@[elab_as_elim] theorem scan_induction {P : List α → Prop} (hproper : Proper find) (nil : P [])
    (kept : ∀ c t, find (c :: t) = none → P t → P (c :: t))
    (hit : ∀ m t, m ≠ [] → find (m ++ t) = some m.length → P t → P (m ++ t)) (t : List α) : P t := by
  have hlength : ∀ n, ∀ t : List α, t.length < n → P t := by
    intro n
    induction n with
    | zero => exact fun t ht => absurd ht (Nat.not_lt_zero _)
    | succ n ih =>
        intro t ht
        cases t with
        | nil => exact nil
        | cons c t =>
            cases hfind : find (c :: t) with
            | none => exact kept c t hfind (ih t (Nat.lt_of_succ_lt_succ ht))
            | some k =>
                obtain ⟨hpos, hle⟩ := hproper _ k hfind
                have htake : ((c :: t).take k).length = k := by rw [List.length_take]; omega
                have hdrop : ((c :: t).drop k).length < n := by rw [List.length_drop]; omega
                have hsplit : (c :: t).take k ++ (c :: t).drop k = c :: t := List.take_append_drop k _
                have hne : (c :: t).take k ≠ [] := by
                  intro h
                  rw [h, List.length_nil] at htake
                  omega
                rw [← hsplit]
                exact hit _ _ hne (by rw [hsplit, htake, hfind]) (ih _ hdrop)
  exact hlength _ t (Nat.lt_succ_self _)

/-- A text none of whose ends begins a match has only pieces that are kept. -/
theorem scan_eq_kept (h : ∀ u, u <:+ t → find u = none) : scan find t = t.map .kept := by
  induction t with
  | nil => rfl
  | cons c t ih =>
      rw [scan_kept (h _ List.suffix_rfl), List.map_cons,
        ih fun u hu => h u (hu.trans (List.suffix_cons c t))]

/-- A text is left as it is, or is left up to its first match. -/
theorem scan_cases (hproper : Proper find) (t : List α) :
    scan find t = t.map .kept ∨ ∃ k m t', t = k ++ (m ++ t') ∧ m ≠ [] ∧
      find (m ++ t') = some m.length ∧ scan find t = k.map .kept ++ .hit m :: scan find t' := by
  induction t using scan_induction hproper with
  | nil => exact .inl rfl
  | kept c t hfind ih =>
      rw [scan_kept hfind]
      rcases ih with hall | ⟨k, m, t', rfl, hm, hmatch, hscan⟩
      · exact .inl (congrArg (.kept c :: ·) hall)
      · exact .inr ⟨c :: k, m, t', rfl, hm, hmatch, congrArg (.kept c :: ·) hscan⟩
  | hit m t hm hfind ih => exact .inr ⟨[], m, t, rfl, hm, hfind, scan_hit hm hfind⟩

/-- What is left up to the first match is determined. -/
theorem kept_append_hit_inj {k k' m m' : List α} {ps ps' : List (Piece α)}
    (h : k.map .kept ++ .hit m :: ps = k'.map .kept ++ .hit m' :: ps') : k = k' := by
  induction k generalizing k' with
  | nil =>
      cases k' with
      | nil => rfl
      | cons c k' => cases h
  | cons c k ih =>
      cases k' with
      | nil => cases h
      | cons c' k' =>
          simp only [List.map_cons, List.cons_append, List.cons.injEq, Piece.kept.injEq] at h
          rw [h.1, ih h.2]

theorem shown_append (ps ps' : List (Piece α)) :
    shown marker (ps ++ ps') = shown marker ps ++ shown marker ps' := List.flatMap_append

theorem shown_map_kept (t : List α) : shown marker (t.map .kept) = t := by
  induction t with
  | nil => rfl
  | cons c t ih => rw [List.map_cons, shown_kept, ih]

theorem replaceAll_eq_self (h : ∀ u, u <:+ t → find u = none) : replaceAll find marker t = t := by
  rw [replaceAll, scan_eq_kept h, shown_map_kept]

/-- Whatever each match has and the marker has not, a text has less of after a replacement. -/
theorem countP_replaceAll {p : α → Bool} (hproper : Proper find) (hmarker : marker.countP p = 0)
    (hmatch : ∀ m t, m ≠ [] → find (m ++ t) = some m.length → 0 < m.countP p) (t : List α) :
    (replaceAll find marker t).countP p ≤ t.countP p ∧
      ((replaceAll find marker t).countP p = t.countP p → ∀ u, u <:+ t → u ≠ [] → find u = none) := by
  induction t using scan_induction hproper with
  | nil => exact ⟨Nat.le_refl _, fun _ u hu hne => absurd (List.suffix_nil.mp hu) hne⟩
  | kept c t hfind ih =>
      rw [replaceAll, scan_kept hfind, shown_kept, List.countP_cons, List.countP_cons]
      refine ⟨Nat.add_le_add_right ih.1 _, fun heq u hu hne => ?_⟩
      rcases List.suffix_cons_iff.mp hu with rfl | hu
      · exact hfind
      · exact ih.2 (Nat.add_right_cancel heq) u hu hne
  | hit m t hm hfind ih =>
      have hless : (replaceAll find marker (m ++ t)).countP p < (m ++ t).countP p := by
        rw [replaceAll, scan_hit hm hfind, shown_hit, List.countP_append, List.countP_append, hmarker]
        have hpos := hmatch m t hm hfind
        have hle : (shown marker (scan find t)).countP p ≤ t.countP p := ih.1
        omega
      exact ⟨Nat.le_of_lt hless, fun heq => absurd heq (Nat.ne_of_lt hless)⟩

end

end Replace
