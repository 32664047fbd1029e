import ActivityFeed.Proofs.Timeline
import ActivityFeed.Proofs.Work
import ActivityFeed.Service

/-!
# Waiting for all handlers

The handlers look for their parts of a page side by side. They end in some order, which depends on
how long each of them takes, and on chance where several end at the same time. The reader takes
their answers in that order (`ActivityFeed.Service.timelineIn`) until all have come, or one is a
failure, or the deadline is there.

Nothing of this shows on a page. A page holds the answers of all handlers, and the order of showing
makes it the same in whatever order they came. If there is no page, the error is that of the first
handler that failed in time, or it is the deadline's.

* `ActivityFeed.Timed.inTurn` – tasks with a deadline, taken in the order in which they end;
* `ActivityFeed.Timed.exists_inTurn_of_gather` – tasks side by side end as if taken in such an
  order;
* `ActivityFeed.Timed.inTurn_eq_ok_iff`, `ActivityFeed.Timed.cases_of_inTurn_eq_error` – all that
  can come of it;
* `ActivityFeed.Service.timeline_of_handlers` – what this means for a page.
-/

namespace ActivityFeed

/-! ### Results in a row -/

section Results

variable {ε α β : Type} {f : α → Except ε β} {l : List α}

/-- Results in a row are good if each of them is. -/
theorem mapM_eq_ok_iff {results : List β} : l.mapM f = .ok results ↔ l.map f = results.map .ok := by
  induction l generalizing results with
  | nil => cases results <;> simp [pure, Except.pure]
  | cons a l ih =>
    rw [List.mapM_cons, List.map_cons]
    cases ha : f a with
    | error e => cases results <;> simp [bind, Except.bind]
    | ok b =>
      cases results with
      | nil => cases l.mapM f <;> simp [bind, Except.bind, pure, Except.pure]
      | cons b' results =>
        rw [List.map_cons, List.cons.injEq, ← ih]
        cases l.mapM f <;> simp [bind, Except.bind, pure, Except.pure]

/-- Behind good results, the first failure counts. -/
theorem mapM_eq_error {before after : List α} {a : α} {e : ε}
    (hbefore : ∀ b ∈ before, ∃ r, f b = .ok r) (ha : f a = .error e) :
    (before ++ a :: after).mapM f = .error e := by
  induction before with
  | nil =>
    rw [List.nil_append, List.mapM_cons, ha]
    rfl
  | cons b before ih =>
    obtain ⟨⟨r, hr⟩, hbefore⟩ := List.forall_mem_cons.mp hbefore
    rw [List.cons_append, List.mapM_cons, hr, ih hbefore]
    rfl

/-- A failure in a row stands behind good results. -/
theorem exists_split_of_mapM_eq_error {e : ε} (h : l.mapM f = .error e) :
    ∃ before a after, l = before ++ a :: after ∧ (∀ b ∈ before, ∃ r, f b = .ok r) ∧
      f a = .error e := by
  induction l with
  | nil => cases h
  | cons a l ih =>
    rw [List.mapM_cons] at h
    cases ha : f a with
    | error e' =>
      rw [ha] at h
      obtain rfl : e' = e := Except.error.inj h
      exact ⟨[], a, l, rfl, by simp, ha⟩
    | ok r =>
      cases hl : l.mapM f with
      | ok rs =>
        rw [ha, hl] at h
        cases h
      | error e' =>
        rw [ha, hl] at h
        obtain ⟨before, x, after, rfl, hbefore, hx⟩ := ih (hl.trans h)
        exact ⟨a :: before, x, after, rfl, List.forall_mem_cons.mpr ⟨⟨r, ha⟩, hbefore⟩, hx⟩

/-- Results in a row that are good in another light are good. -/
theorem map_mapError_eq_ok_iff {ε' : Type} {g : ε → ε'} {rs : List (Except ε α)} :
    rs.map (Except.mapError g) = l.map .ok ↔ rs = l.map .ok := by
  induction rs generalizing l with
  | nil => cases l <;> simp
  | cons r rs ih =>
    cases l with
    | nil => simp
    | cons a l => simp only [List.map_cons, List.cons.injEq, except_mapError_eq_ok, ih]

end Results

namespace Timed

variable {ε α : Type} {limit : ℕ} {late : ε} {order : List (Timed ε α)}

/-! ### Tasks in the order in which they end -/

/-- What comes of tasks that are taken in the given order, where each has to end before the
deadline. -/
def inTurn (limit : ℕ) (late : ε) (order : List (Timed ε α)) : Except ε (List α) :=
  order.mapM fun x => (x.before limit late).outcome

/-- **All is well if every task ends well and in time.** -/
theorem inTurn_eq_ok_iff {results : List α} :
    inTurn limit late order = .ok results ↔
      (∀ x ∈ order, x.finish < limit) ∧ order.map outcome = results.map .ok := by
  rw [inTurn, mapM_eq_ok_iff]
  induction order generalizing results with
  | nil => cases results <;> simp
  | cons x order ih =>
    cases results with
    | nil => simp
    | cons a results =>
      rw [List.map_cons, List.map_cons, List.map_cons, List.cons.injEq, List.cons.injEq,
        List.forall_mem_cons, ih, outcome_before_eq_ok]
      tauto

theorem outcome_before_eq_error {x : Timed ε α} {e : ε} :
    (x.before limit late).outcome = .error e ↔
      x.finish < limit ∧ x.outcome = .error e ∨ limit ≤ x.finish ∧ late = e := by
  unfold before
  split
  · rename_i h
    simp [h, Nat.not_le.mpr h]
  · rename_i h
    simp [h, Nat.not_lt.mp h]

/-- **If not all is well**, a task failed before the deadline, and none failed before it, or some
task was too late, and those in time did well. -/
theorem cases_of_inTurn_eq_error {e : ε} (horder : EndInTurn order)
    (h : inTurn limit late order = .error e) :
    (∃ x ∈ order, x.finish < limit ∧ x.outcome = .error e ∧
      ∀ y ∈ order, ∀ e', y.outcome = .error e' → x.finish ≤ y.finish) ∨
    (e = late ∧ (∃ x ∈ order, limit ≤ x.finish) ∧
      ∀ y ∈ order, y.finish < limit → ∃ a, y.outcome = .ok a) := by
  obtain ⟨before, x, after, rfl, hbefore, hx⟩ := exists_split_of_mapM_eq_error h
  have hafter : ∀ y ∈ after, x.finish ≤ y.finish :=
    (List.pairwise_cons.mp (List.pairwise_append.mp horder).2.1).1
  have hmem : x ∈ before ++ x :: after := List.mem_append_right _ List.mem_cons_self
  -- what stands in front of the task did well
  have hfront : ∀ y ∈ before ++ x :: after, (∃ a, y.outcome = .ok a) ∨ x.finish ≤ y.finish := by
    intro y hy
    rcases List.mem_append.mp hy with hy | hy
    · obtain ⟨a, ha⟩ := hbefore y hy
      exact .inl ⟨a, (outcome_before_eq_ok.mp ha).2⟩
    · rcases List.mem_cons.mp hy with rfl | hy
      · exact .inr (Nat.le_refl _)
      · exact .inr (hafter y hy)
  rcases outcome_before_eq_error.mp hx with ⟨hlt, herror⟩ | ⟨hle, rfl⟩
  · refine .inl ⟨x, hmem, hlt, herror, fun y hy e' he' => ?_⟩
    rcases hfront y hy with ⟨a, ha⟩ | hxy
    · rw [ha] at he'
      cases he'
    · exact hxy
  · refine .inr ⟨rfl, ⟨x, hmem, hle⟩, fun y hy hlt => ?_⟩
    rcases hfront y hy with hok | hxy
    · exact hok
    · omega

/-- If some task is too late and those in time do well, the deadline decides. -/
theorem inTurn_eq_late (horder : EndInTurn order) (hlate : ∃ x ∈ order, limit ≤ x.finish)
    (hok : ∀ y ∈ order, y.finish < limit → ∃ a, y.outcome = .ok a) :
    inTurn limit late order = .error late := by
  cases h : inTurn limit late order with
  | ok results =>
    obtain ⟨x, hx, hle⟩ := hlate
    have hlt := (inTurn_eq_ok_iff.mp h).1 x hx
    omega
  | error e =>
    rcases cases_of_inTurn_eq_error horder h with ⟨x, hx, hlt, herror, -⟩ | ⟨rfl, -⟩
    · obtain ⟨a, ha⟩ := hok x hx hlt
      rw [ha] at herror
      cases herror
    · rfl

theorem lastFinish_lt_iff {tasks : List (Timed ε α)} (hne : tasks ≠ []) :
    lastFinish tasks < limit ↔ ∀ x ∈ tasks, x.finish < limit := by
  have hfold : ∀ (l : List (Timed ε α)) (m : ℕ),
      (l.map finish).foldl max m < limit ↔ m < limit ∧ ∀ x ∈ l, x.finish < limit := by
    intro l
    induction l with
    | nil => simp
    | cons x l ih =>
      intro m
      rw [List.map_cons, List.foldl_cons, ih, Nat.max_lt, List.forall_mem_cons, and_assoc]
  obtain ⟨x, hx⟩ := List.exists_mem_of_ne_nil tasks hne
  rw [lastFinish, hfold]
  exact ⟨fun h => h.2, fun h => ⟨Nat.zero_lt_of_lt (h x hx), h⟩⟩

/-- **Tasks side by side end as if they were taken in an order in which they may end.** -/
theorem exists_inTurn_of_gather {tasks : List (Timed ε α)} (hne : tasks ≠ []) (limit : ℕ)
    (late : ε) :
    ∃ order : List (Timed ε α), order.Perm tasks ∧ EndInTurn order ∧
      ((gather tasks).before limit late).outcome = inTurn limit late order := by
  cases h : earliest (tasks.filterMap failure?) with
  | none =>
    obtain ⟨order, ended, hperm, horder, hmap, hok, hlast⟩ :=
      exists_order_of_success (earliest_eq_none_iff.mp h)
    refine ⟨order, hperm, horder, ?_⟩
    by_cases hlt : lastFinish tasks < limit
    · have hall : ∀ x ∈ order, x.finish < limit := fun x hx =>
        (lastFinish_lt_iff hne).mp hlt x (hperm.mem_iff.mp hx)
      rw [inTurn_eq_ok_iff.mpr ⟨hall, hmap⟩]
      exact outcome_before_eq_ok.mpr ⟨hlast ▸ hlt, hok⟩
    · have hlate : ∃ x ∈ order, limit ≤ x.finish := by
        by_contra hnone
        refine hlt ((lastFinish_lt_iff hne).mpr fun x hx => ?_)
        exact Nat.lt_of_not_le fun hle => hnone ⟨x, hperm.mem_iff.mpr hx, hle⟩
      rw [inTurn_eq_late horder hlate fun y hy _ => ?_]
      · exact outcome_before_eq_error.mpr (.inr ⟨hlast ▸ Nat.le_of_not_lt hlt, rfl⟩)
      · have hy' : y.outcome ∈ ended.map Except.ok := hmap ▸ List.mem_map_of_mem hy
        obtain ⟨a, -, ha⟩ := List.mem_map.mp hy'
        exact ⟨a, ha.symm⟩
  | some f =>
    obtain ⟨before, x, after, hperm, horder, hbefore, hx, herror, hfinish⟩ :=
      exists_order_of_failure h
    refine ⟨before ++ x :: after, hperm, horder, ?_⟩
    obtain ⟨-, hxafter, hfront⟩ := List.pairwise_append.mp horder
    by_cases hlt : x.finish < limit
    · rw [outcome_before_eq_error.mpr (.inl ⟨hfinish ▸ hlt, herror⟩), eq_comm]
      refine mapM_eq_error (fun y hy => ?_) (outcome_before_eq_error.mpr (.inl ⟨hlt, hx⟩))
      obtain ⟨a, ha⟩ := hbefore y hy
      have hle := hfront y hy x List.mem_cons_self
      exact ⟨a, outcome_before_eq_ok.mpr ⟨by omega, ha⟩⟩
    · have hmem : x ∈ before ++ x :: after := List.mem_append_right _ List.mem_cons_self
      rw [inTurn_eq_late horder ⟨x, hmem, Nat.le_of_not_lt hlt⟩ fun y hy hy' => ?_]
      · exact outcome_before_eq_error.mpr (.inr ⟨hfinish ▸ Nat.le_of_not_lt hlt, rfl⟩)
      · -- a task in time stands in front of the one that failed too late
        rcases List.mem_append.mp hy with hy | hy
        · exact hbefore y hy
        · rcases List.mem_cons.mp hy with rfl | hy
          · exact absurd hy' hlt
          · have hle := (List.pairwise_cons.mp hxafter).1 y hy
            omega

end Timed

/-! ### The order of answers on a page -/

/-- **Merging does not look at the order of its sources**, where no two events have the time and the
number in common. -/
theorem mergeTimeline_eq_of_perm {sources sources' : List (List FeedEvent)}
    (hp : sources.Perm sources') (h : (sources.flatten.map FeedEvent.key).Nodup) (limit : ℕ) :
    mergeTimeline sources limit = mergeTimeline sources' limit :=
  congrArg (List.take limit) (newestFirst_eq_of_nodup_keys hp.flatten h)

namespace Service

/-! ### Handlers in the order in which they end -/

/-- How long a read may take. -/
def readDeadline (s : Service) (context : CallContext) : ℕ :=
  context.timeout.getD s.settings.readTimeout

/-- What a handler finds for a request. -/
def find (s : Service) (c : Collaborators) (r : Request) (h : Handler) : Work (List FeedEvent) :=
  h.find c (s.query c.now r).uid (s.query c.now r).before (s.query c.now r).limit

/-- **An order in which the handlers may end**: all of them, and none ends before one that stands in
front of it. -/
structure EndingOrder (s : Service) (c : Collaborators) (r : Request) (order : List Handler) :
    Prop where
  /-- The handlers are those of the service. -/
  perm : order.Perm s.registry.handlers
  /-- They end one after the other. -/
  inTurn : order.Pairwise fun h h' => (s.find c r h).finish ≤ (s.find c r h').finish

/-- The page of a reader who takes the answers of the handlers in the given order. -/
def timelineIn (s : Service) (c : Collaborators) (context : CallContext) (r : Request)
    (order : List Handler) : Except ServiceError Page := do
  let parts ← Timed.inTurn (s.readDeadline context)
    (.timeout "get_timeline" (s.readDeadline context)) (order.map (part c (s.query c.now r)))
  return ⟨mergeTimeline parts (s.query c.now r).limit⟩

variable {s : Service} {c : Collaborators} {context : CallContext} {r : Request}
  {order : List Handler}

/-- A part is there when it is found. -/
theorem finish_part (h : Handler) :
    (part c (s.query c.now r) h).finish = (s.find c r h).finish := by
  change (Timed.bind (Timed.mapError partError (s.find c r h)) _).finish = _
  unfold Timed.bind Timed.mapError
  cases (s.find c r h).outcome <;> rfl

/-- A part is what is found. -/
theorem outcome_part (h : Handler) :
    (part c (s.query c.now r) h).outcome = (s.find c r h).outcome.mapError partError := by
  change (Timed.bind (Timed.mapError partError (s.find c r h)) _).outcome = _
  unfold Timed.bind Timed.mapError
  cases (s.find c r h).outcome <;> rfl

theorem outcome_part_eq_ok {h : Handler} {events : List FeedEvent} :
    (part c (s.query c.now r) h).outcome = .ok events ↔ (s.find c r h).outcome = .ok events := by
  rw [outcome_part, except_mapError_eq_ok]

theorem outcome_part_eq_error {h : Handler} {e : ServiceError} :
    (part c (s.query c.now r) h).outcome = .error e ↔
      ∃ failure, (s.find c r h).outcome = .error failure ∧ partError failure = e := by
  rw [outcome_part]
  cases (s.find c r h).outcome <;> simp [Except.mapError]

/-- Parts come in the order in which their handlers end. -/
theorem EndingOrder.parts (h : s.EndingOrder c r order) :
    Timed.EndInTurn (order.map (part c (s.query c.now r))) := by
  refine List.pairwise_map.mpr (h.inTurn.imp fun hle => ?_)
  rwa [finish_part, finish_part]

/-- **A page takes all answers**, good and in time. -/
theorem timelineIn_eq_ok_iff {page : Page} :
    s.timelineIn c context r order = .ok page ↔
      (∀ h ∈ order, (s.find c r h).finish < s.readDeadline context) ∧
      ∃ lists, order.map (fun h => (s.find c r h).outcome) = lists.map .ok ∧
        page = ⟨mergeTimeline lists (s.query c.now r).limit⟩ := by
  have hbind : s.timelineIn c context r order = .ok page ↔
      ∃ lists, Timed.inTurn (s.readDeadline context)
        (.timeout "get_timeline" (s.readDeadline context))
        (order.map (part c (s.query c.now r))) = .ok lists ∧
        page = ⟨mergeTimeline lists (s.query c.now r).limit⟩ := by
    unfold timelineIn
    cases Timed.inTurn _ _ _ <;> simp [bind, Except.bind, pure, Except.pure, eq_comm]
  have houtcomes : (order.map (part c (s.query c.now r))).map Timed.outcome =
      (order.map fun h => (s.find c r h).outcome).map (Except.mapError partError) := by
    rw [List.map_map, List.map_map]
    exact List.map_congr_left fun h _ => outcome_part h
  simp only [hbind, Timed.inTurn_eq_ok_iff, List.forall_mem_map, finish_part, houtcomes,
    map_mapError_eq_ok_iff, and_assoc, exists_and_left]

theorem timelineIn_eq_error_iff {e : ServiceError} :
    s.timelineIn c context r order = .error e ↔
      Timed.inTurn (s.readDeadline context) (.timeout "get_timeline" (s.readDeadline context))
        (order.map (part c (s.query c.now r))) = .error e := by
  unfold timelineIn
  cases Timed.inTurn _ _ _ <;> simp [bind, Except.bind, pure, Except.pure]

/-- **If there is no page**, it is because of a handler that failed in time, and none failed before
it, or because one was too late, and those in time did well. -/
theorem cases_of_timelineIn_eq_error {e : ServiceError} (horder : s.EndingOrder c r order)
    (h : s.timelineIn c context r order = .error e) :
    (∃ h ∈ s.registry.handlers, ∃ failure, (s.find c r h).outcome = .error failure ∧
      e = partError failure ∧ (s.find c r h).finish < s.readDeadline context ∧
      ∀ h' ∈ s.registry.handlers, ∀ failure', (s.find c r h').outcome = .error failure' →
        (s.find c r h).finish ≤ (s.find c r h').finish) ∨
    (e = .timeout "get_timeline" (s.readDeadline context) ∧
      (∃ h ∈ s.registry.handlers, s.readDeadline context ≤ (s.find c r h).finish) ∧
      ∀ h ∈ s.registry.handlers, (s.find c r h).finish < s.readDeadline context →
        ∃ events, (s.find c r h).outcome = .ok events) := by
  have hmem : ∀ h : Handler, h ∈ s.registry.handlers → h ∈ order := fun h hh =>
    horder.perm.mem_iff.mpr hh
  rcases Timed.cases_of_inTurn_eq_error horder.parts (timelineIn_eq_error_iff.mp h) with
    ⟨x, hx, hlt, herror, hfirst⟩ | ⟨he, ⟨x, hx, hle⟩, hok⟩
  · obtain ⟨h, hh, rfl⟩ := List.mem_map.mp hx
    obtain ⟨failure, hfailure, hpart⟩ := outcome_part_eq_error.mp herror
    rw [finish_part] at hlt
    refine .inl ⟨h, horder.perm.mem_iff.mp hh, failure, hfailure, hpart.symm, hlt, ?_⟩
    intro h' hh' failure' hfailure'
    have hle := hfirst _ (List.mem_map_of_mem (hmem h' hh')) _
      (outcome_part_eq_error.mpr ⟨failure', hfailure', rfl⟩)
    rwa [finish_part, finish_part] at hle
  · obtain ⟨h, hh, rfl⟩ := List.mem_map.mp hx
    rw [finish_part] at hle
    refine .inr ⟨he, ⟨h, horder.perm.mem_iff.mp hh, hle⟩, fun h' hh' hlt => ?_⟩
    obtain ⟨events, hevents⟩ := hok _ (List.mem_map_of_mem (hmem h' hh'))
      ((finish_part h').symm ▸ hlt)
    exact ⟨events, outcome_part_eq_ok.mp hevents⟩

/-- If every handler ends well and in time there is a page. -/
theorem exists_page_of_timelineIn (horder : s.EndingOrder c r order)
    (h : ∀ h ∈ s.registry.handlers, (s.find c r h).finish < s.readDeadline context ∧
      ∃ events, (s.find c r h).outcome = .ok events) :
    ∃ page, s.timelineIn c context r order = .ok page := by
  cases hpage : s.timelineIn c context r order with
  | ok page => exact ⟨page, rfl⟩
  | error e =>
    rcases cases_of_timelineIn_eq_error horder hpage with
      ⟨h', hh', failure, hfailure, -⟩ | ⟨-, ⟨h', hh', hle⟩, -⟩
    · obtain ⟨-, events, hevents⟩ := h h' hh'
      rw [hevents] at hfailure
      cases hfailure
    · have hlt := (h h' hh').1
      omega

/-- If a handler is too late, and none fails up to the deadline, the deadline decides. -/
theorem timelineIn_eq_timeout (horder : s.EndingOrder c r order)
    (hok : ∀ h ∈ s.registry.handlers, (s.find c r h).finish ≤ s.readDeadline context →
      ∃ events, (s.find c r h).outcome = .ok events)
    (hlate : ∃ h ∈ s.registry.handlers, s.readDeadline context < (s.find c r h).finish) :
    s.timelineIn c context r order = .error (.timeout "get_timeline" (s.readDeadline context)) := by
  obtain ⟨h, hh, hlt⟩ := hlate
  cases hpage : s.timelineIn c context r order with
  | ok page =>
    have hle := (timelineIn_eq_ok_iff.mp hpage).1 h (horder.perm.mem_iff.mpr hh)
    omega
  | error e =>
    rcases cases_of_timelineIn_eq_error horder hpage with
      ⟨h', hh', failure, hfailure, -, hlt', -⟩ | ⟨rfl, -⟩
    · obtain ⟨events, hevents⟩ := hok h' hh' (Nat.le_of_lt hlt')
      rw [hevents] at hfailure
      cases hfailure
    · rfl

/-- If a handler fails before the deadline, and no other fails differently up to then, its error is
the result. -/
theorem timelineIn_eq_domain (horder : s.EndingOrder c r order) {h : Handler} {e : FeedError}
    (hh : h ∈ s.registry.handlers) (hfailed : (s.find c r h).outcome = .error (.error e))
    (hlt : (s.find c r h).finish < s.readDeadline context)
    (hothers : ∀ h' ∈ s.registry.handlers, (s.find c r h').finish ≤ (s.find c r h).finish →
      ∀ failure, (s.find c r h').outcome = .error failure → failure = .error e) :
    s.timelineIn c context r order = .error (.domain e) := by
  cases hpage : s.timelineIn c context r order with
  | ok page =>
    obtain ⟨-, lists, hlists, -⟩ := timelineIn_eq_ok_iff.mp hpage
    have hmem := List.mem_map_of_mem (f := fun h => (s.find c r h).outcome)
      (horder.perm.mem_iff.mpr hh)
    rw [hlists, List.mem_map] at hmem
    obtain ⟨events, -, hevents⟩ := hmem
    cases hevents.trans hfailed
  | error e' =>
    rcases cases_of_timelineIn_eq_error horder hpage with
      ⟨h', hh', failure, hfailure, rfl, -, hfirst⟩ | ⟨-, -, hok⟩
    · rw [hothers h' hh' (hfirst h hh _ hfailed) failure hfailure]
      rfl
    · obtain ⟨events, hevents⟩ := hok h hh hlt
      cases hevents.symm.trans hfailed

/-! ### The reader -/

/-- A read in its steps. -/
theorem timeline_eq (s : Service) (c : Collaborators) (context : CallContext) (r : Request) :
    s.timeline c context r =
      (Timed.note (.readBegun r.uid r.limit context.requestId) >>= fun _ =>
        Timed.ofExcept ((s.query c.now r).validate.mapError fun e =>
          .validation (e.message?.getD "")) >>= fun _ =>
        s.parts c (s.readDeadline context) (s.query c.now r) >>= fun parts =>
        pure ⟨mergeTimeline parts (s.query c.now r).limit⟩) := rfl

/-- A request that is not accepted is refused before any handler is asked. -/
theorem timeline_eq_refused {e : FeedError} (h : (s.query c.now r).validate = .error e) :
    s.timeline c context r = ⟨[(0, .note (.readBegun r.uid r.limit context.requestId))], 0,
      .error (.validation (e.message?.getD ""))⟩ := by
  rw [timeline_eq, h]
  rfl

/-- **The reader takes the answers in an order in which the handlers may end.** -/
theorem exists_endingOrder_of_timeline (h : (s.query c.now r).validate = .ok ()) :
    ∃ order, s.EndingOrder c r order ∧
      (s.timeline c context r).outcome = s.timelineIn c context r order := by
  have houtcome : ∀ {order}, (s.parts c (s.readDeadline context) (s.query c.now r)).outcome =
      Timed.inTurn (s.readDeadline context) (.timeout "get_timeline" (s.readDeadline context))
        (order.map (part c (s.query c.now r))) →
      (s.timeline c context r).outcome = s.timelineIn c context r order := by
    intro order hparts
    rw [timeline_eq, h, Timed.bind_of_ok rfl, Timed.bind_of_ok rfl, timelineIn, ← hparts]
    exact Timed.outcome_bind _ _
  by_cases hempty : s.registry.handlers = []
  · refine ⟨[], ⟨.of_eq hempty.symm, .nil⟩, houtcome ?_⟩
    rw [parts, hempty]
    rfl
  · have hne : s.registry.handlers.map (part c (s.query c.now r)) ≠ [] := by simpa using hempty
    obtain ⟨tasks, hperm, hturn, hgather⟩ := Timed.exists_inTurn_of_gather hne
      (s.readDeadline context) (.timeout "get_timeline" (s.readDeadline context))
    obtain ⟨order, rfl, horder⟩ := Timed.exists_perm_of_perm_map hperm
    refine ⟨order, ⟨horder, ?_⟩, houtcome ?_⟩
    · exact (List.pairwise_map.mp hturn).imp fun hle => by rwa [finish_part, finish_part] at hle
    · rw [parts, if_neg (by simpa using hempty)]
      exact hgather

/-- **What can come of handlers that answer in a given order.** -/
structure AllOrNothing (s : Service) (c : Collaborators) (context : CallContext) (r : Request)
    (order : List Handler) : Prop where
  /-- A page merges the answers of all handlers. If no two events have the time and the number in
  common, it is the page of the same answers in any other order. -/
  page : ∀ page, s.timelineIn c context r order = .ok page →
    ∃ lists, order.map (fun h => (s.find c r h).outcome) = lists.map .ok ∧
      page.events = mergeTimeline lists (s.query c.now r).limit ∧
      ((lists.flatten.map FeedEvent.key).Nodup → ∀ lists' : List (List FeedEvent),
        lists'.Perm lists → page.events = mergeTimeline lists' (s.query c.now r).limit)
  /-- An error is that of the first handler that failed, before the deadline: the handler's own
  error as one of the feed, or the crash of its task. Or it is the deadline's, and then a handler
  was too late, and those in time did well. -/
  error : ∀ e, s.timelineIn c context r order = .error e →
    (∃ h ∈ s.registry.handlers, ∃ failure, (s.find c r h).outcome = .error failure ∧
      (∀ e', failure = .error e' → e = .domain e') ∧
      (failure = .crash → e = .crashed "timeline task failed") ∧
      (s.find c r h).finish < s.readDeadline context ∧
      ∀ h' ∈ s.registry.handlers, ∀ failure', (s.find c r h').outcome = .error failure' →
        (s.find c r h).finish ≤ (s.find c r h').finish) ∨
    (e = .timeout "get_timeline" (s.readDeadline context) ∧
      (∃ h ∈ s.registry.handlers, s.readDeadline context ≤ (s.find c r h).finish) ∧
      ∀ h ∈ s.registry.handlers, (s.find c r h).finish < s.readDeadline context →
        ∃ events, (s.find c r h).outcome = .ok events)
  /-- If all handlers end well and in time there is a page. -/
  inTime : (∀ h ∈ s.registry.handlers, (s.find c r h).finish < s.readDeadline context ∧
      ∃ events, (s.find c r h).outcome = .ok events) →
    ∃ page, s.timelineIn c context r order = .ok page
  /-- If a handler is too late, and none fails up to the deadline, the deadline decides. -/
  late : (∀ h ∈ s.registry.handlers, (s.find c r h).finish ≤ s.readDeadline context →
      ∃ events, (s.find c r h).outcome = .ok events) →
    (∃ h ∈ s.registry.handlers, s.readDeadline context < (s.find c r h).finish) →
    s.timelineIn c context r order = .error (.timeout "get_timeline" (s.readDeadline context))
  /-- If a handler fails before the deadline, and no other fails differently up to then, its error
  is the result. -/
  failed : ∀ h ∈ s.registry.handlers, ∀ e, (s.find c r h).outcome = .error (.error e) →
    (s.find c r h).finish < s.readDeadline context →
    (∀ h' ∈ s.registry.handlers, (s.find c r h').finish ≤ (s.find c r h).finish →
      ∀ failure, (s.find c r h').outcome = .error failure → failure = .error e) →
    s.timelineIn c context r order = .error (.domain e)

/-- Whatever the order, handlers give all or nothing. -/
theorem EndingOrder.allOrNothing (h : s.EndingOrder c r order) (context : CallContext) :
    s.AllOrNothing c context r order where
  page page hpage := by
    obtain ⟨-, lists, hlists, rfl⟩ := timelineIn_eq_ok_iff.mp hpage
    refine ⟨lists, hlists, rfl, fun hkeys lists' hp => ?_⟩
    exact mergeTimeline_eq_of_perm hp.symm hkeys _
  error e he := by
    refine (cases_of_timelineIn_eq_error h he).imp_left ?_
    rintro ⟨h', hh', failure, hfailure, rfl, hrest⟩
    refine ⟨h', hh', failure, hfailure, ?_, ?_, hrest⟩
    · rintro e' rfl
      rfl
    · rintro rfl
      rfl
  inTime := exists_page_of_timelineIn h
  late := timelineIn_eq_timeout h
  failed _ hh _ hfailed hlt hothers := timelineIn_eq_domain h hh hfailed hlt hothers

/-- **Reading a page never gives a part of it, and does not depend on who comes first.** Whatever
the handlers do, a request for no events or for too many is refused, and no handler is asked.
Otherwise the answers are taken in an order in which the handlers may end, and whichever order this
is, the reader gets all or nothing. -/
theorem timeline_of_handlers (s : Service) (c : Collaborators) (context : CallContext)
    (r : Request) :
    ((s.query c.now r).limit = 0 ∨ s.settings.maxPageSize < (s.query c.now r).limit →
      (∃ reason, (s.timeline c context r).outcome = .error (.validation reason)) ∧
      (s.timeline c context r).trace.calls = [] ∧
      ∀ registry, (⟨registry, s.settings⟩ : Service).timeline c context r =
        s.timeline c context r) ∧
    (1 ≤ (s.query c.now r).limit ∧ (s.query c.now r).limit ≤ s.settings.maxPageSize →
      (∃ order, s.EndingOrder c r order ∧
        (s.timeline c context r).outcome = s.timelineIn c context r order) ∧
      ∀ order, s.EndingOrder c r order → s.AllOrNothing c context r order) := by
  refine ⟨fun hlimit => ?_, fun hlimit => ⟨?_, fun order horder => horder.allOrNothing context⟩⟩
  · obtain ⟨e, hrefused⟩ : ∃ e, (s.query c.now r).validate = .error e := ⟨_, if_pos hlimit⟩
    rw [timeline_eq_refused hrefused]
    refine ⟨⟨_, rfl⟩, rfl, fun registry => ?_⟩
    exact timeline_eq_refused (s := ⟨registry, s.settings⟩) hrefused
  · exact exists_endingOrder_of_timeline (PageQuery.validate_eq_ok_iff.mpr hlimit)

/-- What three handlers find: two of them a new event of the same instant. -/
def threeParts : List (List FeedEvent) :=
  [[⟨1, 7, "like_event", ⟨5, 0⟩, .empty⟩, ⟨4, 7, "like_event", ⟨3, 0⟩, .empty⟩],
    [⟨2, 7, "follow_event", ⟨5, 0⟩, .empty⟩], [⟨3, 7, "article_event", ⟨4, 0⟩, .empty⟩]]

theorem newestFirst_threeParts :
    (newestFirst threeParts.flatten).map FeedEvent.id = [2, 1, 3, 4] := by
  have heq : newestFirst threeParts.flatten = [⟨2, 7, "follow_event", ⟨5, 0⟩, .empty⟩,
      ⟨1, 7, "like_event", ⟨5, 0⟩, .empty⟩, ⟨3, 7, "article_event", ⟨4, 0⟩, .empty⟩,
      ⟨4, 7, "like_event", ⟨3, 0⟩, .empty⟩] :=
    (isTimeline_of_nodup_keys (by decide)).sorted.eq_of_mem_iff (by decide) fun _ =>
      ((newestFirst_perm _).trans (by decide)).mem_iff
  rw [heq]
  rfl

/-- Three handlers that take their time. Two of them end at the same moment. -/
def patient : Service where
  registry := ⟨[{ Handler.like with find := fun _ _ _ _ => ⟨[], 20, .ok threeParts[0]⟩ },
    { Handler.follow with find := fun _ _ _ _ => ⟨[], 40, .ok threeParts[1]⟩ },
    { Handler.article {} with find := fun _ _ _ _ => ⟨[], 20, .ok threeParts[2]⟩ }], by decide⟩
  settings := {}

/-- The same with two handlers that fail, one after the other, and the second in a crash. -/
def failing : Service where
  registry := ⟨[{ Handler.like with find := fun _ _ _ _ => ⟨[], 40, .error .crash⟩ },
    { Handler.follow with
      find := fun _ _ _ _ => ⟨[], 30, .error (.error (.unavailable .store "down"))⟩ },
    { Handler.article {} with find := fun _ _ _ _ => ⟨[], 20, .ok threeParts[2]⟩ }], by decide⟩
  settings := {}

theorem timeline_of_handlers_patient :
    let c : Collaborators := ⟨.epoch, fun _ => .fail .crash, fun _ => .fail .crash⟩
    (∃ page, (patient.timeline c { timeout := some 41 } ⟨7, none, some 3⟩).outcome = .ok page ∧
      page.events.map FeedEvent.id = [2, 1, 3]) ∧
    (patient.timeline c { timeout := some 39 } ⟨7, none, some 3⟩).outcome =
      .error (.timeout "get_timeline" 39) ∧
    (failing.timeline c { timeout := some 41 } ⟨7, none, some 3⟩).outcome =
      .error (.domain (.unavailable .store "down")) := by
  intro c
  have hfind : ∀ h ∈ patient.registry.handlers,
      (patient.find c ⟨7, none, some 3⟩ h).finish < 41 ∧
        ∃ events, (patient.find c ⟨7, none, some 3⟩ h).outcome = .ok events := by
    refine List.forall_mem_cons.mpr ⟨⟨by decide, _, rfl⟩, ?_⟩
    refine List.forall_mem_cons.mpr ⟨⟨by decide, _, rfl⟩, ?_⟩
    exact List.forall_mem_cons.mpr ⟨⟨by decide, _, rfl⟩, List.forall_mem_nil _⟩
  refine ⟨?_, ?_, ?_⟩
  · obtain ⟨-, hread⟩ := timeline_of_handlers patient c { timeout := some 41 } ⟨7, none, some 3⟩
    obtain ⟨⟨order, horder, houtcome⟩, hall⟩ := hread (by decide)
    obtain ⟨page, hpage⟩ := (hall order horder).inTime hfind
    obtain ⟨lists, hlists, -, hsame⟩ := (hall order horder).page page hpage
    -- the answers are the three parts in some order
    have hparts : threeParts.Perm lists := by
      have hperm := (horder.perm.map fun h => (patient.find c ⟨7, none, some 3⟩ h).outcome).symm
      rw [hlists] at hperm
      exact (List.map_perm_map_iff fun _ _ => Except.ok.inj).mp hperm
    refine ⟨page, houtcome.trans hpage, ?_⟩
    rw [hsame (((hparts.flatten.map FeedEvent.key).nodup_iff).mp (by decide)) _ hparts,
      mergeTimeline, List.map_take, newestFirst_threeParts]
    rfl
  · obtain ⟨-, hread⟩ := timeline_of_handlers patient c { timeout := some 39 } ⟨7, none, some 3⟩
    obtain ⟨⟨order, horder, houtcome⟩, hall⟩ := hread (by decide)
    refine houtcome.trans ((hall order horder).late (fun h hh _ => (hfind h hh).2) ?_)
    exact ⟨_, List.mem_cons_of_mem _ List.mem_cons_self, by decide⟩
  · obtain ⟨-, hread⟩ := timeline_of_handlers failing c { timeout := some 41 } ⟨7, none, some 3⟩
    obtain ⟨⟨order, horder, houtcome⟩, hall⟩ := hread (by decide)
    have hfirst : ∀ h ∈ failing.registry.handlers,
        (failing.find c ⟨7, none, some 3⟩ h).finish ≤ 30 →
          ∀ failure, (failing.find c ⟨7, none, some 3⟩ h).outcome = .error failure →
            failure = .error (.unavailable .store "down") := by
      refine List.forall_mem_cons.mpr ⟨fun hle => absurd hle (by decide), ?_⟩
      refine List.forall_mem_cons.mpr ⟨fun _ _ he => (Except.error.inj he).symm, ?_⟩
      refine List.forall_mem_cons.mpr ⟨fun _ _ he => ?_, List.forall_mem_nil _⟩
      cases he
    refine houtcome.trans ((hall order horder).failed _
      (List.mem_cons_of_mem _ List.mem_cons_self) _ rfl (by decide) hfirst)

end Service

end ActivityFeed
