import Mathlib.Data.List.Nodup

set_option autoImplicit false

/-! # A job queue with ids of one's own

Jobs have ids that the caller chooses, and a queue holds at most one job of an id: `add` does nothing
when there is one, in whatever state. A job waits, is taken by a worker, and ends as completed or as
failed; of the ended jobs the newest are retained, and an id stays in use for as long as its job is.
A job whose worker has stalled is released to wait again.

`live_addAll` says which jobs are waiting or active after some were added: those whose ended jobs
are retained are not among them. `Retains` ties what is retained to the order in which jobs ended.
-/

/-- How a job ends. -/
inductive Ending where
  | completed
  | failed
deriving DecidableEq, Repr

/-- How many ended jobs are kept. -/
structure Retention where
  completed : ℕ
  failed : ℕ

structure JobQueue (ι : Type) where
  waiting : List ι
  active : List ι
  /-- Newest first. -/
  completed : List ι
  /-- Newest first. -/
  failed : List ι
deriving DecidableEq

namespace JobQueue

variable {ι : Type}

def empty : JobQueue ι := ⟨[], [], [], []⟩

/-- The ids in use. -/
def ids (q : JobQueue ι) : List ι := q.waiting ++ q.active ++ (q.completed ++ q.failed)

/-- The job is waiting or active. -/
def Live (q : JobQueue ι) (id : ι) : Prop := id ∈ q.waiting ∨ id ∈ q.active

/-- The job has ended and is retained. -/
def Retained (q : JobQueue ι) (id : ι) : Prop := id ∈ q.completed ∨ id ∈ q.failed

instance [DecidableEq ι] (q : JobQueue ι) (id : ι) : Decidable (q.Live id) :=
  inferInstanceAs (Decidable (_ ∨ _))

instance [DecidableEq ι] (q : JobQueue ι) (id : ι) : Decidable (q.Retained id) :=
  inferInstanceAs (Decidable (_ ∨ _))

theorem mem_ids {q : JobQueue ι} {id : ι} : id ∈ q.ids ↔ q.Live id ∨ q.Retained id := by
  simp only [ids, Live, Retained, List.mem_append]

/-! ## One job of each id -/

def Distinct (q : JobQueue ι) : Prop := q.ids.Nodup

theorem distinct_empty : (empty : JobQueue ι).Distinct := List.nodup_nil

/-- A live job is not retained as well. -/
theorem Distinct.not_retained {q : JobQueue ι} (h : q.Distinct) {id : ι} (hlive : q.Live id) :
    ¬ q.Retained id := by
  intro hretained
  have hdisjoint := List.disjoint_of_nodup_append h
  refine hdisjoint (a := id) ?_ ?_
  · exact List.mem_append.mpr hlive
  · exact List.mem_append.mpr hretained

/-! ## What is retained -/

/-- The jobs that have ended so far in this way, newest first, of which the newest are retained. -/
structure Retains (r : Retention) (q : JobQueue ι) (completed failed : List ι) : Prop where
  completed_eq : q.completed = completed.take r.completed
  failed_eq : q.failed = failed.take r.failed

theorem retains_empty (r : Retention) : Retains r (empty : JobQueue ι) [] [] :=
  ⟨by simp [empty], by simp [empty]⟩

theorem take_cons_take (n : ℕ) (id : ι) (l : List ι) :
    (id :: l.take n).take n = (id :: l).take n := by
  cases n with
  | zero => rfl
  | succ n =>
      rw [List.take_succ_cons, List.take_succ_cons, List.take_take, Nat.min_eq_left (by omega)]

variable {r : Retention} {q : JobQueue ι} {completed failed : List ι}

/-- What ends no job changes nothing that is retained. -/
theorem Retains.frame (h : Retains r q completed failed) {q' : JobQueue ι}
    (hcompleted : q'.completed = q.completed) (hfailed : q'.failed = q.failed) :
    Retains r q' completed failed :=
  ⟨hcompleted.trans h.completed_eq, hfailed.trans h.failed_eq⟩

theorem Retains.retained_iff (h : Retains r q completed failed) (id : ι) :
    q.Retained id ↔ id ∈ completed.take r.completed ∨ id ∈ failed.take r.failed := by
  rw [Retained, h.completed_eq, h.failed_eq]

/-! ## Operations -/

variable [DecidableEq ι]

def add (q : JobQueue ι) (id : ι) : JobQueue ι :=
  if id ∈ q.ids then q else { q with waiting := q.waiting ++ [id] }

def addAll (q : JobQueue ι) (l : List ι) : JobQueue ι := l.foldl add q

/-- A worker takes a waiting job. -/
def take (q : JobQueue ι) (id : ι) : JobQueue ι :=
  if id ∈ q.waiting then { q with waiting := q.waiting.erase id, active := q.active ++ [id] } else q

/-- The worker of an active job has stalled. -/
def release (q : JobQueue ι) (id : ι) : JobQueue ι :=
  if id ∈ q.active then { q with waiting := q.waiting ++ [id], active := q.active.erase id } else q

/-- An active job ends; the oldest jobs that ended like it go. -/
def finish (r : Retention) (q : JobQueue ι) (id : ι) (ending : Ending) : JobQueue ι :=
  if id ∈ q.active then
    match ending with
    | .completed =>
        { q with active := q.active.erase id, completed := (id :: q.completed).take r.completed }
    | .failed =>
        { q with active := q.active.erase id, failed := (id :: q.failed).take r.failed }
  else q

theorem finish_eq_self {r : Retention} {q : JobQueue ι} {id : ι} (h : id ∉ q.active)
    (ending : Ending) : q.finish r id ending = q := if_neg h

/-! ## The ids stay distinct -/

theorem Distinct.add {q : JobQueue ι} (h : q.Distinct) (id : ι) : (q.add id).Distinct := by
  unfold JobQueue.add
  split
  · exact h
  · rename_i hnew
    have hperm : (q.waiting ++ [id] ++ q.active ++ (q.completed ++ q.failed)).Perm
        (id :: q.ids) := by
      simp only [ids, List.append_assoc, List.singleton_append]
      exact List.perm_middle
    exact hperm.nodup_iff.mpr (List.nodup_cons.mpr ⟨hnew, h⟩)

theorem Distinct.addAll {q : JobQueue ι} (h : q.Distinct) (l : List ι) : (q.addAll l).Distinct := by
  induction l generalizing q with
  | nil => exact h
  | cons id l ih => exact ih (h.add id)

theorem Distinct.take {q : JobQueue ι} (h : q.Distinct) (id : ι) : (q.take id).Distinct := by
  unfold JobQueue.take
  split
  · rename_i hmem
    have hperm : (q.waiting.erase id ++ (q.active ++ [id]) ++ (q.completed ++ q.failed)).Perm
        q.ids := by
      refine List.Perm.append_right _ ?_
      have hswap : (q.waiting.erase id ++ (q.active ++ [id])).Perm
          (id :: q.waiting.erase id ++ q.active) := by
        rw [← List.append_assoc]
        exact List.perm_append_singleton _ _
      exact hswap.trans ((List.perm_cons_erase hmem).symm.append_right _)
    exact hperm.nodup_iff.mpr h
  · exact h

theorem Distinct.release {q : JobQueue ι} (h : q.Distinct) (id : ι) : (q.release id).Distinct := by
  unfold JobQueue.release
  split
  · rename_i hmem
    have hperm : (q.waiting ++ [id] ++ q.active.erase id ++ (q.completed ++ q.failed)).Perm
        q.ids := by
      refine List.Perm.append_right _ ?_
      rw [List.append_assoc]
      exact (List.perm_cons_erase hmem).symm.append_left _
    exact hperm.nodup_iff.mpr h
  · exact h

theorem Distinct.finish {q : JobQueue ι} (h : q.Distinct) (r : Retention) (id : ι)
    (ending : Ending) : (q.finish r id ending).Distinct := by
  unfold JobQueue.finish
  split
  · rename_i hmem
    -- without its last elements the list is one in which the job has only changed its place
    have hperm : (q.active.erase id ++ id :: (q.completed ++ q.failed)).Perm
        (q.active ++ (q.completed ++ q.failed)) := by
      refine List.perm_middle.trans ?_
      exact (List.perm_cons_erase hmem).symm.append_right _
    have hnodup : (q.waiting ++ (q.active.erase id ++ id :: (q.completed ++ q.failed))).Nodup := by
      refine (hperm.append_left _).nodup_iff.mpr ?_
      rw [← List.append_assoc]
      exact h
    cases ending with
    | completed =>
        refine List.Nodup.sublist ?_ hnodup
        simp only [ids, List.append_assoc]
        refine (List.Sublist.refl _).append ((List.Sublist.refl _).append ?_)
        exact (List.take_sublist _ _).append (List.Sublist.refl _)
    | failed =>
        have hmove : (q.waiting ++ (q.active.erase id ++ (q.completed ++ id :: q.failed))).Nodup := by
          refine (List.Perm.nodup_iff ?_).mp hnodup
          exact (List.perm_middle.symm.append_left _).append_left _
        refine List.Nodup.sublist ?_ hmove
        simp only [ids, List.append_assoc]
        refine (List.Sublist.refl _).append ((List.Sublist.refl _).append ?_)
        exact (List.Sublist.refl _).append (List.take_sublist _ _)
  · exact h

/-! ## Adding -/

theorem retained_add (q : JobQueue ι) (id id' : ι) :
    (q.add id).Retained id' ↔ q.Retained id' := by
  unfold JobQueue.add
  split <;> exact Iff.rfl

theorem live_add {q : JobQueue ι} (id id' : ι) :
    (q.add id).Live id' ↔ q.Live id' ∨ (id' = id ∧ ¬ q.Retained id') := by
  unfold JobQueue.add
  split
  · rename_i hmem
    rw [mem_ids] at hmem
    constructor
    · exact .inl
    · rintro (hlive | ⟨rfl, hretained⟩)
      · exact hlive
      · exact hmem.resolve_right hretained
  · rename_i hnew
    rw [mem_ids, not_or] at hnew
    simp only [Live, List.mem_append, List.mem_singleton]
    constructor
    · rintro ((hwaiting | rfl) | hactive)
      · exact .inl (.inl hwaiting)
      · exact .inr ⟨rfl, hnew.2⟩
      · exact .inl (.inr hactive)
    · rintro ((hwaiting | hactive) | ⟨rfl, -⟩)
      · exact .inl (.inl hwaiting)
      · exact .inr hactive
      · exact .inl (.inr rfl)

/-- **What adding jobs achieves**: those are live that were, and those of the list whose ids are not
in use by a job that has ended. -/
theorem live_addAll {q : JobQueue ι} (l : List ι) (id : ι) :
    (q.addAll l).Live id ↔ q.Live id ∨ (id ∈ l ∧ ¬ q.Retained id) := by
  induction l generalizing q with
  | nil => simp [addAll]
  | cons id' l ih =>
      have hstep : (q.addAll (id' :: l)).Live id ↔ ((q.add id').addAll l).Live id := Iff.rfl
      rw [hstep, ih, live_add, retained_add, List.mem_cons]
      tauto

/-! ## Retaining -/

theorem Retains.finish_completed (h : Retains r q completed failed) {id : ι}
    (hactive : id ∈ q.active) :
    Retains r (q.finish r id .completed) (id :: completed) failed := by
  unfold JobQueue.finish
  rw [if_pos hactive]
  refine ⟨?_, h.failed_eq⟩
  show (id :: q.completed).take r.completed = _
  rw [h.completed_eq, take_cons_take]

theorem Retains.finish_failed (h : Retains r q completed failed) {id : ι}
    (hactive : id ∈ q.active) : Retains r (q.finish r id .failed) completed (id :: failed) := by
  unfold JobQueue.finish
  rw [if_pos hactive]
  refine ⟨h.completed_eq, ?_⟩
  show (id :: q.failed).take r.failed = _
  rw [h.failed_eq, take_cons_take]

theorem ended_add (q : JobQueue ι) (id : ι) :
    (q.add id).completed = q.completed ∧ (q.add id).failed = q.failed := by
  unfold JobQueue.add
  split <;> exact ⟨rfl, rfl⟩

theorem ended_addAll (q : JobQueue ι) (l : List ι) :
    (q.addAll l).completed = q.completed ∧ (q.addAll l).failed = q.failed := by
  induction l generalizing q with
  | nil => exact ⟨rfl, rfl⟩
  | cons id l ih =>
      obtain ⟨hcompleted, hfailed⟩ := ended_add q id
      exact ⟨(ih (q.add id)).1.trans hcompleted, (ih (q.add id)).2.trans hfailed⟩

end JobQueue
