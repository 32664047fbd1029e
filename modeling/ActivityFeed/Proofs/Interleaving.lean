import ActivityFeed.Proofs.Storing

/-!
# Several writes at once

A write takes its numbers one by one and appends its rows at the end. Between any two of these steps
other tasks may take steps of theirs, so the numbers of two writes mix, and a write that began later
may be done earlier. This file looks at any number of tasks (`ActivityFeed.Writers`) under any
schedule, which is a list that says whose turn it is.

* `ActivityFeed.Job` – what a task wants written;
* `ActivityFeed.NumbersUpTo` – the invariant: the rows in the mailboxes, together with those that
  have a number and are not appended yet, have different numbers, all of which were given out;
* `ActivityFeed.Writers.Accounts` – what stands in the mailboxes are whole batches, each of them once;
* `ActivityFeed.Writers.run_alone` – a task that nobody interrupts writes as
  `ActivityFeed.Store.insert` does;
* `ActivityFeed.Writers.run_schedule` – all of it together, for every schedule.

A task that has several things to write, one after the other, is covered as several tasks: schedules
in which none of them begins before the one in front of it is done are schedules too.

Numbers are not bounded here. The last number given out is never above the one at the beginning plus
the number of all rows, so a counter that is wide enough for this sum does not overflow.
-/

namespace ActivityFeed

/-! ### What is to be written -/

/-- The row without its number. -/
def Row.unnumbered (r : Row) : Row := { r with id := 0 }

/-- Rows for one mailbox. -/
structure Batch where
  /-- Where the rows go. -/
  mailbox : Mailbox
  /-- The rows, in their order. -/
  rows : List Row
  deriving DecidableEq, Repr

/-- The batch without the numbers of its rows. -/
def Batch.unnumbered (b : Batch) : Batch := ⟨b.mailbox, b.rows.map Row.unnumbered⟩

/-- What a task wants written. -/
inductive Job where
  /-- Events are pushed to the inboxes of their recipients. -/
  | push (events : List FeedEvent)
  /-- An event is kept for pulling. -/
  | keep (event : FeedEvent)
  /-- A row is put into a mailbox as it is. -/
  | insert (mailbox : Mailbox) (row : Row)
  deriving DecidableEq, Repr

/-- The rows that a job is about. -/
def Job.batch : Job → Batch
  | .push events => ⟨.inbox, events.map Row.ofEvent⟩
  | .keep event => ⟨.outbox, [Row.ofEvent event]⟩
  | .insert mailbox row => ⟨mailbox, [row]⟩

/-- The store after a job that nobody interrupts. -/
def Job.perform (s : Store) : Job → Store
  | .push events => s.push events
  | .keep event => s.keep event
  | .insert mailbox row => s.insert mailbox [row]

/-- The job at its beginning. -/
def Job.start (j : Job) : Write := .start j.batch.mailbox j.batch.rows

namespace Write

/-- The batch of a write under way: the rows with a number, then those that wait for one. -/
def batch (t : Write) : Batch := ⟨t.mailbox, t.numbered.reverse ++ t.waiting⟩

/-- **All that a step of a write can do**: the next row takes the next number, or all rows have
theirs and are appended. -/
theorem step_cases (t : Write) (s : Store) :
    (∃ r t', r.id = ((s.issued + 1 : ℕ) : ℤ) ∧
      t.step s = (some t', { s with issued := s.issued + 1 }) ∧ t'.numbered = r :: t.numbered ∧
      t'.batch.unnumbered = t.batch.unnumbered ∧ t.waiting.length = t'.waiting.length + 1) ∨
    (t.waiting = [] ∧ t.step s = (none, s.append t.numbered.reverse t.mailbox)) := by
  obtain ⟨mailbox, waiting, numbered⟩ := t
  cases waiting with
  | nil => exact .inr ⟨rfl, rfl⟩
  | cons r rest =>
    refine .inl ⟨{ r with id := ((s.issued + 1 : ℕ) : ℤ) }, _, rfl, rfl, rfl, ?_, rfl⟩
    simp [batch, Batch.unnumbered, Row.unnumbered]

end Write

/-! ### Numbers -/

/-- **The rows are numbered up to `n`**: they have different numbers, from one to `n`. -/
structure NumbersUpTo (n : ℕ) (rows : List Row) : Prop where
  /-- No number stands twice. -/
  distinct : (rows.map Row.id).Nodup
  /-- All numbers have been given out. -/
  range : ∀ r ∈ rows, 1 ≤ r.id ∧ r.id ≤ (n : ℤ)

namespace NumbersUpTo

variable {n : ℕ} {rows rows' : List Row}

theorem perm (h : NumbersUpTo n rows) (hp : rows'.Perm rows) : NumbersUpTo n rows' :=
  ⟨((hp.map Row.id).nodup_iff).mpr h.distinct, fun r hr => h.range r (hp.mem_iff.mp hr)⟩

/-- The next number is a new one. -/
theorem cons (h : NumbersUpTo n rows) {r : Row} (hr : r.id = ((n + 1 : ℕ) : ℤ)) :
    NumbersUpTo (n + 1) (r :: rows) where
  distinct := by
    rw [List.map_cons, List.nodup_cons]
    refine ⟨fun hmem => ?_, h.distinct⟩
    obtain ⟨r', hr', hid⟩ := List.mem_map.mp hmem
    have hle := (h.range r' hr').2
    omega
  range r' hr' := by
    rcases List.mem_cons.mp hr' with rfl | hr'
    · omega
    · have hrange := h.range r' hr'
      omega

end NumbersUpTo

/-! ### Tasks and schedules -/

/-- Tasks that write to one store. -/
structure Writers where
  /-- The store. -/
  store : Store
  /-- The write of each task, until it is done. -/
  tasks : List (Option Write)
  deriving DecidableEq, Repr

namespace Writers

/-- Tasks that have not begun. -/
def start (s : Store) (jobs : List Job) : Writers := ⟨s, jobs.map fun j => some j.start⟩

/-- The task in the given place takes a step, unless it is done. -/
def step (w : Writers) (i : ℕ) : Writers :=
  match w.tasks[i]? with
  | some (some t) => ⟨(t.step w.store).2, w.tasks.set i (t.step w.store).1⟩
  | _ => w

/-- The tasks take steps in the order of a schedule. -/
def run (w : Writers) (schedule : List ℕ) : Writers := schedule.foldl step w

/-- All tasks are done. -/
def Done (w : Writers) : Prop := ∀ t ∈ w.tasks, t = none

/-- The writes under way. -/
def underWay (w : Writers) : List Write := w.tasks.filterMap id

/-- All rows that have a number, be they appended or not. -/
def rows (w : Writers) : List Row :=
  w.store.inbox ++ w.store.outbox ++ w.underWay.flatMap Write.numbered

variable {w : Writers}

theorem underWay_start (s : Store) (jobs : List Job) :
    (start s jobs).underWay = jobs.map Job.start := by
  simp [start, underWay, List.filterMap_map]

/-- **All that a step can do**: nothing, or one of the writes under way takes a step. -/
theorem step_cases (w : Writers) (i : ℕ) :
    w.step i = w ∨ ∃ t others, w.underWay.Perm (t :: others) ∧
      (w.step i).store = (t.step w.store).2 ∧
      (w.step i).underWay.Perm ((t.step w.store).1.toList ++ others) := by
  unfold step
  split
  · rename_i t ht
    obtain ⟨hi, ht⟩ := List.getElem?_eq_some_iff.mp ht
    refine .inr ⟨t, (w.tasks.eraseIdx i).filterMap id, ?_, rfl, ?_⟩
    · have hperm := (List.getElem_cons_eraseIdx_perm hi).symm.filterMap id
      rwa [ht] at hperm
    · refine ((List.set_perm_cons_eraseIdx hi _).filterMap id).trans (.of_eq ?_)
      cases (t.step w.store).1 <;> rfl
  · exact .inl rfl

/-! ### The numbers of all rows -/

/-- **A step numbers at most one row more**, and with the next number. -/
theorem rows_step_perm (w : Writers) (i : ℕ) :
    ((w.step i).store.issued = w.store.issued ∧ (w.step i).rows.Perm w.rows) ∨
    ∃ r, r.id = ((w.store.issued + 1 : ℕ) : ℤ) ∧
      (w.step i).store.issued = w.store.issued + 1 ∧ (w.step i).rows.Perm (r :: w.rows) := by
  rcases step_cases w i with h | ⟨t, others, hbefore, hstore, hafter⟩
  · rw [h]
    exact .inl ⟨rfl, .refl _⟩
  · have hb := hbefore.flatMap_right Write.numbered
    have ha := hafter.flatMap_right Write.numbered
    rcases t.step_cases w.store with ⟨r, t', hr, hstep, hnum, -, -⟩ | ⟨-, hstep⟩
    · rw [hstep] at hstore ha
      refine .inr ⟨r, hr, congrArg Store.issued hstore, ?_⟩
      rw [rows, rows, hstore]
      refine (ha.append_left _).trans (.trans ?_ ((hb.append_left _).cons r).symm)
      rw [Option.toList_some, List.singleton_append, List.flatMap_cons, List.flatMap_cons, hnum,
        List.cons_append]
      exact List.perm_middle
    · -- rows that were under way come to stand in a mailbox
      rw [hstep] at hstore ha
      refine .inl ⟨?_, ?_⟩
      · rw [hstore]
        cases t.mailbox <;> rfl
      · rw [rows, rows, hstore]
        refine ((Store.append_perm w.store t.numbered.reverse t.mailbox).append ha).trans ?_
        refine .trans ?_ (hb.append_left _).symm
        rw [Option.toList_none, List.nil_append, List.flatMap_cons, ← List.append_assoc]
        exact ((List.reverse_perm _).append_left _).append_right _

/-- **A step keeps the numbers in order.** -/
theorem numbersUpTo_step (h : NumbersUpTo w.store.issued w.rows) (i : ℕ) :
    NumbersUpTo (w.step i).store.issued (w.step i).rows := by
  rcases rows_step_perm w i with ⟨hissued, hperm⟩ | ⟨r, hr, hissued, hperm⟩
  · rw [hissued]
    exact h.perm hperm
  · rw [hissued]
    exact (h.cons hr).perm hperm

/-- A run keeps the numbers in order. -/
theorem numbersUpTo_run (h : NumbersUpTo w.store.issued w.rows) (schedule : List ℕ) :
    NumbersUpTo (w.run schedule).store.issued (w.run schedule).rows := by
  induction schedule generalizing w with
  | nil => exact h
  | cons i schedule ih => exact ih (numbersUpTo_step h i)

/-! ### Rows that stand stay -/

/-- **A step leaves the rows of a mailbox where they are**, and at most appends some. -/
theorem rows_prefix_step (w : Writers) (i : ℕ) (m : Mailbox) :
    w.store.rows m <+: (w.step i).store.rows m := by
  have hrows : ∃ new, (w.step i).store.rows m = w.store.rows m ++ new := by
    rcases step_cases w i with h | ⟨t, others, -, hstore, -⟩
    · exact ⟨[], by rw [h, List.append_nil]⟩
    · rw [hstore]
      rcases t.step_cases w.store with ⟨r, t', -, hstep, -⟩ | ⟨-, hstep⟩
      · rw [hstep]
        exact ⟨[], by cases m <;> exact (List.append_nil _).symm⟩
      · rw [hstep, Store.rows_append]
        split
        · exact ⟨_, rfl⟩
        · exact ⟨[], (List.append_nil _).symm⟩
  obtain ⟨new, hnew⟩ := hrows
  exact ⟨new, hnew.symm⟩

theorem rows_prefix_run (w : Writers) (schedule : List ℕ) (m : Mailbox) :
    w.store.rows m <+: (w.run schedule).store.rows m := by
  induction schedule generalizing w with
  | nil => exact List.prefix_refl _
  | cons i schedule ih => exact (rows_prefix_step w i m).trans (ih (w.step i))

/-! ### Whole batches -/

/-- **The accounts of the tasks**: what was written to a store are whole batches, one after the
other, and together with the batches under way they are those of the jobs. -/
structure Accounts (s : Store) (jobs : List Job) (w : Writers) (written : List Batch) : Prop where
  /-- A mailbox holds what it held and the batches for it. -/
  rows : ∀ m, w.store.rows m =
    s.rows m ++ (written.filter fun b => b.mailbox = m).flatMap Batch.rows
  /-- Every job is written or under way, and only once. -/
  batches : (written.map Batch.unnumbered ++ w.underWay.map fun t => t.batch.unnumbered).Perm
    (jobs.map fun j => j.batch.unnumbered)
  /-- Numbers were given out to rows of jobs only. -/
  issued : w.store.issued + (w.underWay.flatMap Write.waiting).length =
    s.issued + (jobs.flatMap fun j => j.batch.rows).length

variable {s : Store} {jobs : List Job} {written : List Batch}

theorem accounts_start (s : Store) (jobs : List Job) : Accounts s jobs (start s jobs) [] where
  rows m := (List.append_nil _).symm
  batches := by
    rw [underWay_start, List.map_map]
    exact .refl _
  issued := by
    rw [underWay_start, List.flatMap_map]
    rfl

/-- **A step keeps the accounts**: either no batch is done, or the next one is. -/
theorem Accounts.step (h : Accounts s jobs w written) (i : ℕ) :
    ∃ written', Accounts s jobs (w.step i) written' := by
  rcases step_cases w i with hsame | ⟨t, others, hbefore, hstore, hafter⟩
  · exact ⟨written, hsame.symm ▸ h⟩
  · have hb := hbefore.map fun t : Write => t.batch.unnumbered
    have ha := hafter.map fun t : Write => t.batch.unnumbered
    have hwait := (hbefore.flatMap_right Write.waiting).length_eq
    have hwait' := (hafter.flatMap_right Write.waiting).length_eq
    have hissued := h.issued
    rcases t.step_cases w.store with ⟨r, t', -, hstep, -, hbatch, hlen⟩ | ⟨hnone, hstep⟩
    · -- a row got its number, and the batch is what it was
      rw [hstep] at hstore ha hwait'
      refine ⟨written, ⟨fun m => ?_, ?_, ?_⟩⟩
      · rw [hstore, ← h.rows m]
        cases m <;> rfl
      · refine .trans (List.Perm.append_left _ ?_) h.batches
        refine ha.trans (.trans (.of_eq ?_) hb.symm)
        rw [Option.toList_some, List.singleton_append, List.map_cons, List.map_cons, hbatch]
      · rw [hstore]
        simp only [Option.toList_some, List.singleton_append, List.flatMap_cons,
          List.length_append] at hwait hwait'
        simp only
        omega
    · -- the batch is done, and stands behind what its mailbox held
      rw [hstep] at hstore ha hwait'
      have hdone : t.batch = ⟨t.mailbox, t.numbered.reverse⟩ := by
        rw [Write.batch, hnone, List.append_nil]
      refine ⟨written ++ [t.batch], ⟨fun m => ?_, ?_, ?_⟩⟩
      · rw [hstore, Store.rows_append, List.filter_append, List.flatMap_append, hdone]
        by_cases hm : m = t.mailbox
        · subst hm
          simp [h.rows]
        · simp [h.rows, hm, Ne.symm hm]
      · rw [List.map_append, List.append_assoc]
        refine .trans (List.Perm.append_left _ ?_) h.batches
        exact (ha.cons _).trans hb.symm
      · have hkeep : (w.store.append t.numbered.reverse t.mailbox).issued = w.store.issued := by
          cases t.mailbox <;> rfl
        rw [hstore, hkeep]
        simp only [Option.toList_none, List.nil_append, List.flatMap_cons, hnone] at hwait hwait'
        omega

/-- A run keeps the accounts. -/
theorem Accounts.run (h : Accounts s jobs w written) (schedule : List ℕ) :
    ∃ written', Accounts s jobs (w.run schedule) written' := by
  induction schedule generalizing w written with
  | nil => exact ⟨written, h⟩
  | cons i schedule ih =>
    obtain ⟨written', h'⟩ := h.step i
    exact ih h'

/-! ### When tasks are done -/

/-- The number of steps that a task has to take: one for each row that waits, and one to append. -/
def left : Option Write → ℕ
  | some t => t.waiting.length + 1
  | none => 0

theorem left_eq_zero_iff {t : Option Write} : left t = 0 ↔ t = none := by
  cases t <;> simp [left]

theorem left_step (w : Writers) (i j : ℕ) :
    (w.step i).tasks[j]?.map left =
      w.tasks[j]?.map fun t => left t - if i = j then 1 else 0 := by
  unfold step
  split
  · rename_i t ht
    have hi := (List.getElem?_eq_some_iff.mp ht).1
    rw [List.getElem?_set]
    by_cases hij : i = j
    · subst hij
      rw [if_pos rfl, if_pos rfl, if_pos hi, ht, Option.map_some, Option.map_some]
      rcases t.step_cases w.store with ⟨r, t', -, hstep, -, -, hlen⟩ | ⟨hnone, hstep⟩
      · rw [hstep]
        simp only [left, hlen, Nat.add_sub_cancel]
      · rw [hstep]
        simp only [left, hnone, List.length_nil, Nat.zero_add, Nat.sub_self]
    · simp only [if_neg hij, Nat.sub_zero]
  · rename_i hnot
    by_cases hij : i = j
    · subst hij
      -- the task is done, or there is none in this place
      cases ht : w.tasks[i]? with
      | none => rfl
      | some t =>
        cases t with
        | none => simp [left]
        | some t => exact absurd ht (hnot t)
    · simp only [if_neg hij, Nat.sub_zero]

/-- **Every turn takes a task one step on.** -/
theorem left_run (w : Writers) (schedule : List ℕ) (j : ℕ) :
    (w.run schedule).tasks[j]?.map left =
      w.tasks[j]?.map fun t => left t - schedule.count j := by
  induction schedule generalizing w with
  | nil => rfl
  | cons i schedule ih =>
    rw [run, List.foldl_cons]
    have hmap := congrArg (Option.map (· - schedule.count j)) (left_step w i j)
    rw [Option.map_map, Option.map_map] at hmap
    refine (ih (w.step i)).trans (hmap.trans ?_)
    refine congrArg (Option.map · _) (funext fun t => ?_)
    simp only [Function.comp_apply, List.count_cons, beq_iff_eq]
    omega

/-- **The tasks are done as soon as each has had one turn more than it has rows.** -/
theorem done_run_start_iff (s : Store) (jobs : List Job) (schedule : List ℕ) :
    ((start s jobs).run schedule).Done ↔
      ∀ i j, jobs[i]? = some j → j.batch.rows.length < schedule.count i := by
  have hleft : ∀ i, ((start s jobs).run schedule).tasks[i]?.map left =
      jobs[i]?.map fun j => j.batch.rows.length + 1 - schedule.count i := fun i => by
    rw [left_run, start, List.getElem?_map, Option.map_map]
    rfl
  constructor
  · intro hdone i j hj
    have hi := hleft i
    rw [hj, Option.map_some, Option.map_eq_some_iff] at hi
    obtain ⟨t, ht, hzero⟩ := hi
    rw [left_eq_zero_iff.mpr (hdone t (List.mem_of_getElem? ht))] at hzero
    omega
  · intro hturns t ht
    obtain ⟨i, ht⟩ := List.mem_iff_getElem?.mp ht
    have hi := hleft i
    rw [ht, Option.map_some, eq_comm, Option.map_eq_some_iff] at hi
    obtain ⟨j, hj, hzero⟩ := hi
    have hlt := hturns i j hj
    exact left_eq_zero_iff.mp (by omega)

/-! ### One task alone, and all of them -/

/-- **A task that nobody interrupts** does its job as an undivided write does. -/
theorem run_alone (s : Store) (j : Job) :
    (start s [j]).run (List.replicate (j.batch.rows.length + 1) 0) = ⟨j.perform s, [none]⟩ := by
  have hrun : ∀ (waiting numbered : List Row) (s : Store),
      run ⟨s, [some ⟨j.batch.mailbox, waiting, numbered⟩]⟩ (List.replicate (waiting.length + 1) 0) =
        ⟨Write.finish j.batch.mailbox waiting numbered s, [none]⟩ := by
    intro waiting
    induction waiting with
    | nil => exact fun _ _ => rfl
    | cons r rest ih => exact fun numbered s => ih _ _
  refine (hrun j.batch.rows [] s).trans ?_
  cases j <;> rfl

theorem numbersUpTo_start (hs : NumbersUpTo s.issued (s.inbox ++ s.outbox)) (jobs : List Job) :
    NumbersUpTo (start s jobs).store.issued (start s jobs).rows := by
  have hnone : (jobs.map Job.start).flatMap Write.numbered = [] := by
    rw [List.flatMap_map]
    exact List.flatMap_eq_nil_iff.mpr fun _ _ => rfl
  rw [rows, underWay_start, hnone, List.append_nil]
  exact hs

/-- **Writes under any schedule.** Let a store be numbered in order, and let tasks write to it, in
whatever way their steps mix. At any time the rows in both mailboxes and those under way have
different numbers, from one to the last number given out, which is bounded by the number of all
rows; and what stands in a mailbox stays where it is. Once every task has had one turn more than it
has rows, all are done, and not before. Each mailbox then holds what it held and, one after the
other, the whole batches for it, each of them once. -/
theorem run_schedule (hs : NumbersUpTo s.issued (s.inbox ++ s.outbox)) (jobs : List Job)
    (schedule : List ℕ) :
    let w := (start s jobs).run schedule
    NumbersUpTo w.store.issued w.rows ∧
    w.store.issued ≤ s.issued + (jobs.flatMap fun j => j.batch.rows).length ∧
    (∀ more m, w.store.rows m <+: (w.run more).store.rows m) ∧
    (w.Done ↔ ∀ i j, jobs[i]? = some j → j.batch.rows.length < schedule.count i) ∧
    (w.Done → ∃ written : List Batch,
      (written.map Batch.unnumbered).Perm (jobs.map fun j => j.batch.unnumbered) ∧
      ∀ m, w.store.rows m =
        s.rows m ++ (written.filter fun b => b.mailbox = m).flatMap Batch.rows) := by
  intro w
  obtain ⟨written, haccounts⟩ := (accounts_start s jobs).run schedule
  refine ⟨numbersUpTo_run (numbersUpTo_start hs jobs) schedule, ?_, rows_prefix_run w,
    done_run_start_iff s jobs schedule, fun hdone => ⟨written, ?_, haccounts.rows⟩⟩
  · exact haccounts.issued ▸ Nat.le_add_right _ _
  · -- nothing is under way any more
    have hnone : w.underWay = [] := List.filterMap_eq_nil_iff.mpr hdone
    have hbatches := haccounts.batches
    rwa [hnone, List.map_nil, List.append_nil] at hbatches

/-- Three tasks: one pushes an event to two users, one keeps an event, and one puts in a row of an
older program. -/
def threeJobs : List Job :=
  [.push [⟨0, 7, "article_event", ⟨5, 0⟩, .empty⟩, ⟨0, 8, "article_event", ⟨5, 0⟩, .empty⟩],
    .keep ⟨0, 3, "article_event", ⟨6, 0⟩, .empty⟩, .insert .inbox ⟨77, 9, "poke_event", "?", -1⟩]

/-- A store with one row. -/
def oneRow : Store := ⟨[], [⟨1, 3, "article_event", "\x7b\x7d", 4⟩], 1⟩

theorem run_schedule_threeJobs :
    NumbersUpTo oneRow.issued (oneRow.inbox ++ oneRow.outbox) ∧
    let w := (start oneRow threeJobs).run [0, 1, 0, 2, 1, 2, 0]
    NumbersUpTo 5 w.rows ∧ w.Done ∧ w.store.inbox.map Row.id = [5, 2, 4] ∧
      w.store.outbox.map Row.id = [1, 3] ∧ oneRow.outbox <+: w.store.outbox := by
  have hs : NumbersUpTo oneRow.issued (oneRow.inbox ++ oneRow.outbox) :=
    ⟨by decide, by decide⟩
  obtain ⟨hnumbers, -, -, hdone, -⟩ := run_schedule hs threeJobs [0, 1, 0, 2, 1, 2, 0]
  obtain ⟨-, -, hstay, -⟩ := run_schedule hs threeJobs []
  have hturns : ∀ i j, threeJobs[i]? = some j →
      j.batch.rows.length < [0, 1, 0, 2, 1, 2, 0].count i := by
    rintro (_ | _ | _ | i) j hj <;> cases hj <;> decide
  exact ⟨hs, hnumbers, hdone.mpr hturns, rfl, rfl, hstay [0, 1, 0, 2, 1, 2, 0] .outbox⟩

end Writers

end ActivityFeed
