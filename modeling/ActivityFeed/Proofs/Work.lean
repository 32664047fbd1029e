import ActivityFeed.Timed
import Mathlib.Data.List.Perm.Basic

/-!
# How work ends

Two readings of a piece of work are needed again and again, and neither looks at its trace.

* What a success says about the parts: work that succeeds is made of work that succeeds, whatever it
  waited for and in whatever order it was done. There is one such lemma for each way of putting work
  together, down to `ActivityFeed.Timed.exists_perm_of_outcome_gather` for tasks side by side, whose
  results come in the order in which the tasks end.
* When success is certain: work that nobody delays is over at once
  (`ActivityFeed.Timed.AtOnce`), and then no deadline and no order of tasks can get in its way.
-/

namespace ActivityFeed

variable {ε ε' α β : Type}

/-! ### Results -/

theorem except_map_eq_ok {f : α → β} {r : Except ε α} {b : β} :
    r.map f = .ok b ↔ ∃ a, r = .ok a ∧ f a = b := by
  cases r <;> simp [Except.map]

theorem except_bind_eq_ok {r : Except ε α} {f : α → Except ε β} {b : β} :
    r >>= f = .ok b ↔ ∃ a, r = .ok a ∧ f a = .ok b := by
  cases r <;> simp [bind, Except.bind]

theorem except_mapError_eq_ok {f : ε → ε'} {r : Except ε α} {a : α} :
    r.mapError f = .ok a ↔ r = .ok a := by
  cases r <;> simp [Except.mapError]

theorem except_mapError_eq_error {f : ε → ε'} {r : Except ε α} {e : ε'} :
    r.mapError f = .error e ↔ ∃ e', r = .error e' ∧ f e' = e := by
  cases r <;> simp [Except.mapError]

namespace Timed

/-! ### What a success says about the parts -/

@[simp] theorem outcome_ofExcept (r : Except ε α) : (ofExcept r).outcome = r := rfl

/-- Work that succeeded is followed by what goes on with its result. -/
theorem bind_of_ok {x : Timed ε α} {a : α} (h : x.outcome = .ok a) (f : α → Timed ε β) :
    x >>= f = ⟨x.trace ++ (f a).trace.delayed x.finish, x.finish + (f a).finish, (f a).outcome⟩ := by
  change x.bind f = _
  unfold bind
  rw [h]

/-- Work that failed is followed by nothing. -/
theorem bind_of_error {x : Timed ε α} {e : ε} (h : x.outcome = .error e) (f : α → Timed ε β) :
    x >>= f = ⟨x.trace, x.finish, .error e⟩ := by
  change x.bind f = _
  unfold bind
  rw [h]

/-- What work goes on with counts only where it succeeded. -/
theorem bind_congr {x : Timed ε α} {f g : α → Timed ε β} (h : ∀ a, x.outcome = .ok a → f a = g a) :
    x >>= f = x >>= g := by
  cases hx : x.outcome with
  | error e => rw [bind_of_error hx, bind_of_error hx]
  | ok a => rw [bind_of_ok hx, bind_of_ok hx, h a hx]

theorem outcome_bind_eq_ok {x : Timed ε α} {f : α → Timed ε β} {b : β} :
    (x >>= f).outcome = .ok b ↔ ∃ a, x.outcome = .ok a ∧ (f a).outcome = .ok b := by
  cases hx : x.outcome with
  | error e => simp [bind_of_error hx]
  | ok a => simp [bind_of_ok hx]

theorem outcome_mapError_eq_ok {f : ε → ε'} {x : Timed ε α} {a : α} :
    (x.mapError f).outcome = .ok a ↔ x.outcome = .ok a :=
  except_mapError_eq_ok

theorem outcome_within_eq_ok {limit : ℕ} {late : ε} {x : Timed ε α} {a : α} :
    (x.within limit late).outcome = .ok a ↔ x.finish ≤ limit ∧ x.outcome = .ok a := by
  unfold within
  split <;> simp [*]

theorem outcome_before_eq_ok {limit : ℕ} {late : ε} {x : Timed ε α} {a : α} :
    (x.before limit late).outcome = .ok a ↔ x.finish < limit ∧ x.outcome = .ok a := by
  unfold before
  split <;> simp [*]

theorem outcome_both_eq_ok {x : Timed ε α} {y : Timed ε β} {a : α} {b : β} :
    (both x y).outcome = .ok (a, b) ↔ x.outcome = .ok a ∧ y.outcome = .ok b := by
  unfold both
  cases hx : x.outcome <;> cases hy : y.outcome <;> simp only <;> try split
  all_goals simp

/-! ### Tasks side by side -/

theorem failure?_eq_some_iff {x : Timed ε α} {time : ℕ} {e : ε} :
    x.failure? = some (time, e) ↔ x.finish = time ∧ x.outcome = .error e := by
  unfold failure?
  cases x.outcome <;> simp

theorem earliest_eq_none_iff {fs : List (ℕ × ε)} : earliest fs = none ↔ fs = [] := by
  cases fs with
  | nil => simp [earliest]
  | cons f fs =>
    simp only [earliest, reduceCtorEq, iff_false]
    cases earliest fs with
    | none => simp
    | some g =>
      simp only
      split <;> simp

/-- What is a list of images up to the order is the list of images of the same things in another
order. -/
theorem exists_perm_of_perm_map {f : α → β} {l : List α} {m : List β} (h : m.Perm (l.map f)) :
    ∃ l' : List α, m = l'.map f ∧ l'.Perm l :=
  (congrFun₂ (List.eq_map_comp_perm f) m l).mpr h

/-- What comes first is no later than any other failure. -/
theorem earliest_eq_some {fs : List (ℕ × ε)} {f : ℕ × ε} (h : earliest fs = some f) :
    f ∈ fs ∧ ∀ g ∈ fs, f.1 ≤ g.1 := by
  induction fs generalizing f with
  | nil => simp [earliest] at h
  | cons f' fs ih =>
    unfold earliest at h
    cases hrest : earliest fs with
    | none =>
      rw [hrest] at h
      obtain rfl := Option.some.inj h
      rw [earliest_eq_none_iff.mp hrest]
      simp
    | some g =>
      obtain ⟨hmem, hle⟩ := ih hrest
      simp only [hrest] at h
      split at h <;> obtain rfl := Option.some.inj h
      · rename_i hg
        refine ⟨List.mem_cons_self, List.forall_mem_cons.mpr ⟨Nat.le_refl _, fun g' hg' => ?_⟩⟩
        exact Nat.le_trans hg (hle g' hg')
      · rename_i hg
        exact ⟨List.mem_cons_of_mem _ hmem, List.forall_mem_cons.mpr ⟨by omega, hle⟩⟩

/-- **The tasks stand in an order in which they may end**: none ends before one that stands in front
of it. -/
def EndInTurn (order : List (Timed ε α)) : Prop := order.Pairwise fun x y => x.finish ≤ y.finish

theorem decide_le_trans (time : α → ℕ) (a b c : α) (hab : decide (time a ≤ time b) = true)
    (hbc : decide (time b ≤ time c) = true) : decide (time a ≤ time c) = true :=
  decide_eq_true (Nat.le_trans (of_decide_eq_true hab) (of_decide_eq_true hbc))

theorem decide_le_total (time : α → ℕ) (a b : α) :
    (decide (time a ≤ time b) || decide (time b ≤ time a)) = true := by
  simpa using Nat.le_total (time a) (time b)

/-- Sorted by a time, things stand in the order of that time. -/
theorem pairwise_mergeSort_time (time : α → ℕ) (l : List α) :
    (l.mergeSort fun a b => decide (time a ≤ time b)).Pairwise fun a b => time a ≤ time b :=
  (List.pairwise_mergeSort (decide_le_trans time) (decide_le_total time) l).imp of_decide_eq_true

/-- Tasks of which none fails have results. -/
theorem map_success {tasks : List (Timed ε α)} (h : tasks.filterMap failure? = []) :
    ((tasks.filterMap success?).map fun p : ℕ × α => (p.1, Except.ok (ε := ε) p.2)) =
      tasks.map fun x => (x.finish, x.outcome) := by
  induction tasks with
  | nil => rfl
  | cons x tasks ih =>
    cases hx : x.outcome with
    | error e => simp [failure?, hx] at h
    | ok a =>
      simp only [List.filterMap_cons, failure?, hx] at h
      simp only [List.filterMap_cons, success?, hx, List.map_cons, ih h]

/-- Tasks of which none fails end one after the other, and so do their results come. -/
theorem exists_order_of_success {tasks : List (Timed ε α)}
    (h : tasks.filterMap failure? = []) :
    ∃ (order : List (Timed ε α)) (ended : List α), order.Perm tasks ∧ EndInTurn order ∧
      order.map outcome = ended.map .ok ∧ (gather tasks).outcome = .ok ended ∧
      (gather tasks).finish = lastFinish tasks := by
  -- the results are sorted by the times at which the tasks end
  let sorted := (tasks.filterMap success?).mergeSort fun a b => decide (a.1 ≤ b.1)
  obtain ⟨order, heq, horder⟩ := exists_perm_of_perm_map (map_success h ▸
    (List.mergeSort_perm (tasks.filterMap success?) fun a b => decide (a.1 ≤ b.1)).map
      fun p : ℕ × α => (p.1, Except.ok (ε := ε) p.2))
  have hfinish := congrArg (List.map Prod.fst) heq
  have houtcome := congrArg (List.map Prod.snd) heq
  rw [List.map_map, List.map_map] at hfinish houtcome
  refine ⟨order, sorted.map Prod.snd, horder, ?_, ?_, ?_, ?_⟩
  · have hsorted : sorted.Pairwise _ := pairwise_mergeSort_time Prod.fst _
    exact List.pairwise_map.mp (hfinish ▸ List.pairwise_map.mpr hsorted)
  · rw [List.map_map]
    exact houtcome.symm
  · rw [gather, h]
    rfl
  · rw [gather, h]
    rfl

/-- Where tasks fail, they end one after the other up to the first that fails, and its failure is
that of all. -/
theorem exists_order_of_failure {tasks : List (Timed ε α)} {time : ℕ} {e : ε}
    (h : earliest (tasks.filterMap failure?) = some (time, e)) :
    ∃ before x after, (before ++ x :: after).Perm tasks ∧ EndInTurn (before ++ x :: after) ∧
      (∀ y ∈ before, ∃ a, y.outcome = .ok a) ∧ x.outcome = .error e ∧
      (gather tasks).outcome = .error e ∧ (gather tasks).finish = x.finish := by
  obtain ⟨hmem, hleast⟩ := earliest_eq_some h
  obtain ⟨x, hx, hfail⟩ := List.mem_filterMap.mp hmem
  obtain ⟨rfl, hxe⟩ := failure?_eq_some_iff.mp hfail
  -- the task is put in front, and sorting leaves it before all others that end at its time
  obtain ⟨front, back, hsplit⟩ := List.append_of_mem hx
  have hfront : (x :: (front ++ back)).Perm tasks := hsplit ▸ List.perm_middle.symm
  obtain ⟨before, after, hsort, -, hearlier⟩ := List.mergeSort_cons (decide_le_trans finish)
    (decide_le_total finish) x (front ++ back)
  have hperm := (hsort ▸ List.mergeSort_perm (x :: (front ++ back)) _).trans hfront
  have hsorted := pairwise_mergeSort_time finish (x :: (front ++ back))
  refine ⟨before, x, after, hperm, hsort ▸ hsorted, fun y hy => ?_, hxe, ?_, ?_⟩
  · have hlt : y.finish < x.finish := by simpa using hearlier y hy
    cases hy' : y.outcome with
    | ok a => exact ⟨a, rfl⟩
    | error e' =>
      have hytasks : y ∈ tasks := hperm.mem_iff.mp (List.mem_append_left _ hy)
      have hle : x.finish ≤ y.finish := hleast (y.finish, e')
        (List.mem_filterMap.mpr ⟨y, hytasks, failure?_eq_some_iff.mpr ⟨rfl, hy'⟩⟩)
      omega
  · rw [gather, h]
  · rw [gather, h]

/-- **Tasks side by side succeed together**, and yield the result of every task, in the order in
which the tasks end. -/
theorem exists_perm_of_outcome_gather {tasks : List (Timed ε α)} {ended : List α}
    (h : (gather tasks).outcome = .ok ended) :
    ∃ tasks' : List (Timed ε α), tasks'.Perm tasks ∧ tasks'.map outcome = ended.map .ok := by
  cases he : earliest (tasks.filterMap failure?) with
  | some f =>
    obtain ⟨_, _, _, -, -, -, -, herror, -⟩ := exists_order_of_failure he
    rw [herror] at h
    cases h
  | none =>
    obtain ⟨order, ended', hperm, -, hmap, hok, -⟩ :=
      exists_order_of_success (earliest_eq_none_iff.mp he)
    rw [hok] at h
    exact ⟨order, hperm, Except.ok.inj h ▸ hmap⟩

/-! ### Work that is over at once -/

/-- **The work is over at once**, and ends in the given way. -/
structure AtOnce (x : Timed ε α) (r : Except ε α) : Prop where
  /-- It takes no time. -/
  finish : x.finish = 0
  /-- It ends in this way. -/
  outcome : x.outcome = r

namespace AtOnce

theorem pure (a : α) : AtOnce (Pure.pure a : Timed ε α) (.ok a) := ⟨rfl, rfl⟩

theorem note (n : Notice) : AtOnce (Timed.note n : Timed ε Unit) (.ok ()) := ⟨rfl, rfl⟩

theorem ofExcept (r : Except ε α) : AtOnce (Timed.ofExcept r) r := ⟨rfl, rfl⟩

theorem bind {x : Timed ε α} {f : α → Timed ε β} {a : α} {r : Except ε β} (hx : AtOnce x (.ok a))
    (hf : AtOnce (f a) r) : AtOnce (x >>= f) r := by
  rw [bind_of_ok hx.outcome]
  exact ⟨by simp only [hx.finish, hf.finish], hf.outcome⟩

theorem mapError {x : Timed ε α} {r : Except ε α} (hx : AtOnce x r) (f : ε → ε') :
    AtOnce (x.mapError f) (r.mapError f) :=
  ⟨hx.finish, congrArg (Except.mapError f) hx.outcome⟩

theorem both {x : Timed ε α} {y : Timed ε β} {a : α} {b : β} (hx : AtOnce x (.ok a))
    (hy : AtOnce y (.ok b)) : AtOnce (Timed.both x y) (.ok (a, b)) := by
  unfold Timed.both
  rw [hx.outcome, hy.outcome]
  exact ⟨by simp only [hx.finish, hy.finish, Nat.max_self], rfl⟩

/-- Tasks that have any time at all are in time. -/
theorem before {x : Timed ε α} {r : Except ε α} (hx : AtOnce x r) {limit : ℕ} (hl : 0 < limit)
    (late : ε) : AtOnce (x.before limit late) r := by
  unfold Timed.before
  rw [if_pos (hx.finish ▸ hl)]
  exact hx

theorem lastFinish_eq_zero {tasks : List (Timed ε α)} (h : ∀ x ∈ tasks, x.finish = 0) :
    lastFinish tasks = 0 := by
  unfold lastFinish
  induction tasks with
  | nil => rfl
  | cons x tasks ih =>
    rw [List.map_cons, List.foldl_cons, h x (by simp), Nat.max_self]
    exact ih fun y hy => h y (List.mem_cons_of_mem x hy)

/-- Tasks side by side that are all over at once succeed at once. -/
theorem gather {tasks : List (Timed ε α)} (h : ∀ x ∈ tasks, ∃ a, AtOnce x (.ok a)) :
    ∃ ended, AtOnce (Timed.gather tasks) (.ok ended) := by
  have hnone : tasks.filterMap failure? = [] := by
    refine List.filterMap_eq_nil_iff.mpr fun x hx => ?_
    obtain ⟨a, ha⟩ := h x hx
    rw [failure?, ha.outcome]
  have hzero : ∀ x ∈ tasks, x.finish = 0 := fun x hx => (h x hx).elim fun _ ha => ha.finish
  unfold Timed.gather
  rw [hnone]
  exact ⟨_, lastFinish_eq_zero hzero, rfl⟩

end AtOnce

end Timed

end ActivityFeed
