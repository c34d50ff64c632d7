import Paymap.Lib.Prog

set_option autoImplicit false

/-! # Programs over two kinds of effects

A program can be carried over to more effects (`through`), as it is. What a program over effects of two
kinds looks like to somebody who sees only those on the left is a program over these (`Seen`): the effects
on the right are steps in which nothing happens.

Workers whose effects on the right leave the state on the left as it is are then, seen from the left,
workers that run the programs they look like (`Workers.Looks`): a step of one of them is one step there, or
none. So what holds of every run on the left holds of the part of any run that is on the left.
-/

namespace Prog

variable {E F : Type} {A : E → Type} {B : F → Type} {ε ε' α α' β β' : Type}

/-- The program with its effects as effects `f e`, which are answered as before. -/
def through (f : E → F) (back : ∀ e, B (f e) → A e) : Prog E A ε α → Prog F B ε α
  | .ret a => .ret a
  | .raise e => .raise e
  | .call e k => .call (f e) fun b => (k (back e b)).through f back

/-- A program over the effects on the left. -/
def left (x : Prog E A ε α) : Prog (E ⊕ F) (Sum.elim A B) ε α := x.through Sum.inl fun _ a => a

/-- A program over the effects on the right. -/
def right (x : Prog F B ε α) : Prog (E ⊕ F) (Sum.elim A B) ε α := x.through Sum.inr fun _ b => b

section

variable {Phase : Type} {R : Phase → (e : F) → B e → Phase → Prop} {Q : α → Phase → Prop}
  {Q' : ε → Phase → Prop} {f : E → F} {back : ∀ e, B (f e) → A e} {p : Phase}

/-- Errors may be raised anywhere. -/
theorem ends_anywhere {x : Prog F B ε α} :
    x.Ends R Q (fun _ _ => True) p ↔ x.Follows R Q p := by
  induction x generalizing p with
  | ret a => exact Iff.rfl
  | raise e => exact Iff.rfl
  | call e k ih => exact forall_congr' fun b => exists_congr fun p' => and_congr_right' (ih b)

/-- A program that is carried over ends as it does, if an automaton there keeps up with the one here. -/
theorem Ends.through {Phase' : Type} {R' : Phase' → (e : E) → A e → Phase' → Prop}
    {P : α → Phase' → Prop} {P' : ε → Phase' → Prop} {G : Phase' → Phase → Prop} {q : Phase'}
    {x : Prog E A ε α} (h : x.Ends R' P P' q) (hG : G q p)
    (hmove : ∀ q p e b q', G q p → R' q e (back e b) q' → ∃ p', R p (f e) b p' ∧ G q' p') :
    (x.through f back).Ends R (fun a p' => ∃ q', P a q' ∧ G q' p')
      (fun e p' => ∃ q', P' e q' ∧ G q' p') p := by
  induction x generalizing q p with
  | ret a => exact ⟨q, h, hG⟩
  | raise e => exact ⟨q, h, hG⟩
  | call e k ih =>
      intro b
      obtain ⟨q', hstep, hrest⟩ := h (back e b)
      obtain ⟨p', hstep', hG'⟩ := hmove q p e b q' hG hstep
      exact ⟨p', hstep', ih (back e b) hrest hG'⟩

/-- If the automaton there goes nowhere at these effects, neither does the program. -/
theorem Within.through {asks : E → Prop} {x : Prog E A ε α} (h : x.Within asks fun _ => True)
    (hstay : ∀ e b, asks e → R p (f e) b p) :
    (x.through f back).Ends R (fun _ p' => p' = p) (fun _ p' => p' = p) p := by
  induction x with
  | ret a => exact rfl
  | raise e => exact rfl
  | call e k ih => exact fun b => ⟨p, hstay e b h.1, ih (back e b) (h.2 (back e b))⟩

theorem attempt_through (x : Prog E A ε α) :
    (x.attempt : Prog E A ε' (Except ε α)).through f back =
      ((x.through f back : Prog F B ε α).attempt : Prog F B ε' (Except ε α)) := by
  induction x with
  | ret a => rfl
  | raise e => rfl
  | call e k ih => exact congrArg (Prog.call (f e)) (funext fun b => ih (back e b))

theorem bind_through (x : Prog E A ε α) (g : α → Prog E A ε α') :
    ((x >>= g).through f back : Prog F B ε α') =
      x.through f back >>= fun a => (g a).through f back := by
  induction x with
  | ret a => rfl
  | raise e => rfl
  | call e k ih => exact congrArg (Prog.call (f e)) (funext fun b => ih (back e b))

end

/-! ## The effects on the left -/

section

variable {Phase : Type} {R : Phase → (e : E ⊕ F) → Sum.elim A B e → Phase → Prop} {p : Phase}

theorem attempt_left (x : Prog E A ε α) :
    (x.attempt : Prog E A ε' (Except ε α)).left =
      (x.left.attempt : Prog (E ⊕ F) (Sum.elim A B) ε' (Except ε α)) :=
  attempt_through x

theorem bind_left (x : Prog E A ε α) (g : α → Prog E A ε α') :
    (x >>= g).left = (x.left >>= fun a => (g a).left : Prog (E ⊕ F) (Sum.elim A B) ε α') :=
  bind_through x g

theorem Within.left {asks : E → Prop} {x : Prog E A ε α} (h : x.Within asks fun _ => True)
    (hstay : ∀ e a, asks e → R p (.inl e) a p) :
    x.left.Ends R (fun _ p' => p' = p) (fun _ p' => p' = p) p :=
  h.through hstay

end

/-! ## What is seen from the left -/

/-- Seen from the left, the program makes the steps of the other one. -/
def Seen : Prog (E ⊕ F) (Sum.elim A B) ε α → Prog E A ε' α' → Prop
  | .ret _, _ => True
  | .raise _, _ => True
  | .call (.inl e) k, y => ∃ k' : A e → Prog E A ε' α', y = .call e k' ∧ ∀ a, Seen (k a) (k' a)
  | .call (.inr _) k, y => ∀ b, Seen (k b) y

/-- Both make the same steps on the left, and go on alike. -/
theorem Seen.left_bind {x : Prog E A ε β} {f : β → Prog (E ⊕ F) (Sum.elim A B) ε α}
    {g : β → Prog E A ε α'} (h : ∀ b, (f b).Seen (g b)) : (x.left >>= f).Seen (x >>= g) := by
  induction x with
  | ret b => exact h b
  | raise e => trivial
  | call e k ih => exact ⟨fun a => k a >>= g, rfl, ih⟩

theorem seen_left (x : Prog E A ε α) : (x.left : Prog (E ⊕ F) (Sum.elim A B) ε α).Seen x := by
  induction x with
  | ret a => trivial
  | raise e => trivial
  | call e k ih => exact ⟨k, rfl, ih⟩

/-- Nothing of the program is on the left. -/
def Hidden : Prog (E ⊕ F) (Sum.elim A B) ε α → Prop
  | .ret _ => True
  | .raise _ => True
  | .call (.inl _) _ => False
  | .call (.inr _) k => ∀ b, Hidden (k b)

theorem Hidden.seen {x : Prog (E ⊕ F) (Sum.elim A B) ε α} (h : x.Hidden) (y : Prog E A ε' α') :
    x.Seen y := by
  induction x with
  | ret a => trivial
  | raise e => trivial
  | call e k ih =>
      cases e with
      | inl e => exact h.elim
      | inr e => exact fun b => ih b (h b)

theorem hidden_right (x : Prog F B ε α) : (x.right : Prog (E ⊕ F) (Sum.elim A B) ε α).Hidden := by
  induction x with
  | ret a => trivial
  | raise e => trivial
  | call e k ih => exact ih

end Prog

/-! ## Workers seen from the left -/

namespace Workers

variable {E F : Type} {A : E → Type} {B : F → Type} {ε ε' α α' S T : Type}
  {c : Workers (S × T) (Prog (E ⊕ F) (Sum.elim A B) ε α)} {d : Workers S (Prog E A ε' α')}

/-- The state on the left is the same, and each worker makes the steps of the other one. -/
structure Looks (c : Workers (S × T) (Prog (E ⊕ F) (Sum.elim A B) ε α))
    (d : Workers S (Prog E A ε' α')) : Prop where
  shared_eq : c.shared.1 = d.shared
  length_eq : c.running.length = d.running.length
  seen : ∀ (i : ℕ) x y, c.running[i]? = some x → d.running[i]? = some y → x.Seen y

theorem Looks.start (h : c.Looks d) {x : Prog (E ⊕ F) (Sum.elim A B) ε α} {y : Prog E A ε' α'}
    (hseen : x.Seen y) : (c.start x).Looks (d.start y) where
  shared_eq := h.shared_eq
  length_eq := by simp [Workers.start, h.length_eq]
  seen i x' y' hx' hy' := by
    have hlen := h.length_eq
    change (c.running ++ [x])[i]? = some x' at hx'
    change (d.running ++ [y])[i]? = some y' at hy'
    by_cases hi : i < c.running.length
    · rw [List.getElem?_append_left hi] at hx'
      rw [List.getElem?_append_left (hlen ▸ hi)] at hy'
      exact h.seen i x' y' hx' hy'
    · -- the new worker
      rw [List.getElem?_append_right (by omega)] at hx'
      rw [List.getElem?_append_right (by omega)] at hy'
      obtain rfl := List.mem_singleton.mp (List.mem_of_getElem? hx')
      obtain rfl := List.mem_singleton.mp (List.mem_of_getElem? hy')
      exact hseen

theorem Looks.outside (h : c.Looks d) {f : S × T → S × T} {g : S → S}
    (hshared : (f c.shared).1 = g c.shared.1) : (c.outside f).Looks (d.outside g) where
  shared_eq := by
    calc (f c.shared).1 = g c.shared.1 := hshared
      _ = g d.shared := by rw [h.shared_eq]
  length_eq := h.length_eq
  seen := h.seen

/-- A worker goes on: after an effect on the left the other one has gone on too, and one on the right is
not seen. -/
theorem Looks.set (h : c.Looks d) {i : ℕ} {x : Prog (E ⊕ F) (Sum.elim A B) ε α} {y : Prog E A ε' α'}
    {st : S × T} {running : List (Prog E A ε' α')} (hrunning : running = d.running.set i y)
    (hseen : x.Seen y) : Looks ⟨st, c.running.set i x⟩ ⟨st.1, running⟩ where
  shared_eq := rfl
  length_eq := by simp [hrunning, h.length_eq]
  seen j x' y' hx' hy' := by
    rw [hrunning] at hy'
    rcases getElem?_set_cases hx' with ⟨rfl, rfl⟩ | ⟨hji, hx'⟩
    · rcases getElem?_set_cases hy' with ⟨-, rfl⟩ | ⟨hne, -⟩
      · exact hseen
      · exact absurd rfl hne
    · rcases getElem?_set_cases hy' with ⟨hji', -⟩ | ⟨-, hy'⟩
      · exact absurd hji' hji
      · exact h.seen j x' y' hx' hy'

/-- The worker that is seen as a worker. -/
theorem Looks.other (h : c.Looks d) {i : ℕ} {x : Prog (E ⊕ F) (Sum.elim A B) ε α}
    (hx : c.running[i]? = some x) : ∃ y, d.running[i]? = some y ∧ x.Seen y := by
  have hi : i < d.running.length := by
    have := (List.getElem?_eq_some_iff.mp hx).1
    have := h.length_eq
    omega
  exact ⟨d.running[i], List.getElem?_eq_getElem hi,
    h.seen i x _ hx (List.getElem?_eq_getElem hi)⟩

/-- **An effect on the left is seen as the step it is.** -/
theorem Looks.work_left (h : c.Looks d) {perform : (e : E ⊕ F) → S × T → Sum.elim A B e × (S × T)}
    {performLeft : (e : E) → S → A e × S} {i : ℕ} {e : E}
    {k : A e → Prog (E ⊕ F) (Sum.elim A B) ε α} (hk : c.running[i]? = some (.call (.inl e) k))
    (hperform : perform (.inl e) c.shared =
      ((performLeft e c.shared.1).1, (performLeft e c.shared.1).2, c.shared.2)) :
    (∃ k', d.running[i]? = some (.call e k')) ∧ (c.work perform i).Looks (d.work performLeft i) := by
  obtain ⟨y, hy, k', rfl, hseen⟩ := h.other hk
  have hwork : c.work perform i = ⟨((performLeft e c.shared.1).2, c.shared.2),
      c.running.set i (k (performLeft e c.shared.1).1)⟩ := by
    simp only [Workers.work, hk, hperform]
  have hwork' : d.work performLeft i = ⟨(performLeft e c.shared.1).2,
      d.running.set i (k' (performLeft e c.shared.1).1)⟩ := by
    simp only [Workers.work, hy, h.shared_eq]
  refine ⟨⟨k', hy⟩, ?_⟩
  rw [hwork, hwork']
  exact h.set rfl (hseen _)

/-- **An effect on the right is not seen.** -/
theorem Looks.work_right (h : c.Looks d)
    {perform : (e : E ⊕ F) → S × T → Sum.elim A B e × (S × T)} {i : ℕ} {e : F}
    {k : B e → Prog (E ⊕ F) (Sum.elim A B) ε α} (hk : c.running[i]? = some (.call (.inr e) k))
    (hperform : (perform (.inr e) c.shared).2.1 = c.shared.1) : (c.work perform i).Looks d := by
  obtain ⟨y, hy, hseen⟩ := h.other hk
  have hwork : c.work perform i = ⟨(perform (.inr e) c.shared).2,
      c.running.set i (k (perform (.inr e) c.shared).1)⟩ := by simp only [Workers.work, hk]
  have hsame : d = ⟨(perform (.inr e) c.shared).2.1, d.running⟩ := by rw [hperform, h.shared_eq]
  have hset : d.running = d.running.set i y := by
    obtain ⟨hi, rfl⟩ := List.getElem?_eq_some_iff.mp hy
    exact (List.set_getElem_self hi).symm
  rw [hwork, hsame]
  exact h.set hset (hseen _)

end Workers
