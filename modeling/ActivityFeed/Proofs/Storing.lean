import ActivityFeed.Proofs.Content
import ActivityFeed.Proofs.Selection

/-!
# Storing events

A write numbers its rows one after the other and appends them to one mailbox. This file says what
that does to a store and to what users see of it:

* `ActivityFeed.Store.insert_eq` – a write in one step;
* `ActivityFeed.Store.Sound` – numbers are given out in turn, so a sound store is readable and stays
  sound (`ActivityFeed.Store.Sound.insert`);
* `ActivityFeed.Row.toEvent_ofEvent` – a stored event is read back as it was, apart from the part of
  its time below a millisecond;
* `ActivityFeed.Store.visibleEvents_insert_perm` – what a write adds to what a user sees.
-/

namespace ActivityFeed

/-! ### One event -/

/-- The event as it will be read again once storage has given it a number: its time is the beginning
of its millisecond. -/
def FeedEvent.stored (e : FeedEvent) (id : ℕ) : FeedEvent :=
  { e with id := id, createdAt := .ofMillis e.createdAt.millis }

/-- **A stored event is read back as it was**, apart from the part of its time below a
millisecond. -/
theorem Row.toEvent_ofEvent {e : FeedEvent} (h : e.createdAt.Ordinary) (id : ℕ) :
    Row.toEvent { Row.ofEvent e with id := id } = e.stored id := by
  rw [Row.toEvent, Row.createdAt_eq h.milliInCalendar]
  exact congrArg (FeedEvent.mk _ _ _ _) (Bag.ofContent_content e.bag)

namespace Store

/-! ### Numbers -/

/-- Rows with the numbers that follow `n`. -/
def numbered (n : ℕ) : List Row → List Row
  | [] => []
  | r :: rows => { r with id := ((n + 1 : ℕ) : ℤ) } :: numbered (n + 1) rows

/-- Events as they will be read again once storage has given them the numbers that follow `n`. -/
def stored (n : ℕ) : List FeedEvent → List FeedEvent
  | [] => []
  | e :: events => e.stored (n + 1) :: stored (n + 1) events

theorem map_id_numbered (n : ℕ) (rows : List Row) :
    (numbered n rows).map Row.id = (List.range' (n + 1) rows.length).map Nat.cast := by
  induction rows generalizing n with
  | nil => rfl
  | cons r rows ih =>
    rw [numbered, List.map_cons, ih, List.length_cons, List.range'_succ, List.map_cons]

/-- Rows with numbers are the same rows in all other respects. -/
theorem map_numbered {β : Type} {g : Row → β} (hg : ∀ r (id : ℤ), g { r with id := id } = g r)
    (n : ℕ) (rows : List Row) : (numbered n rows).map g = rows.map g := by
  induction rows generalizing n with
  | nil => rfl
  | cons r rows ih => rw [numbered, List.map_cons, hg, ih, List.map_cons]

theorem length_numbered (n : ℕ) (rows : List Row) : (numbered n rows).length = rows.length := by
  simpa using congrArg List.length (map_id_numbered n rows)

theorem map_ctime_numbered (n : ℕ) (rows : List Row) :
    (numbered n rows).map Row.ctime = rows.map Row.ctime :=
  map_numbered (fun _ _ => rfl) n rows

theorem nodup_id_numbered (n : ℕ) (rows : List Row) : ((numbered n rows).map Row.id).Nodup := by
  rw [map_id_numbered]
  exact (List.nodup_range').map fun _ _ => Int.ofNat.inj

/-- New numbers lie above those given out before. -/
theorem id_of_mem_numbered {n : ℕ} {rows : List Row} {r : Row} (h : r ∈ numbered n rows) :
    (n : ℤ) < r.id ∧ r.id ≤ (n + rows.length : ℕ) := by
  have hid := List.mem_map_of_mem (f := Row.id) h
  rw [map_id_numbered, List.mem_map] at hid
  obtain ⟨k, hk, hid⟩ := hid
  rw [List.mem_range'_1] at hk
  omega

theorem map_toEvent_numbered {events : List FeedEvent} (h : ∀ e ∈ events, e.createdAt.Ordinary)
    (n : ℕ) : (numbered n (events.map Row.ofEvent)).map Row.toEvent = stored n events := by
  induction events generalizing n with
  | nil => rfl
  | cons e events ih =>
    rw [List.map_cons, numbered, List.map_cons, stored, Row.toEvent_ofEvent (h e (by simp)),
      ih fun e' he' => h e' (List.mem_cons_of_mem e he')]

/-- Every event comes to be stored, with a number of its own. -/
theorem exists_mem_stored {events : List FeedEvent} {e : FeedEvent} (he : e ∈ events) (n : ℕ) :
    ∃ id, n < id ∧ id ≤ n + events.length ∧ e.stored id ∈ stored n events := by
  induction events generalizing n with
  | nil => cases he
  | cons e' events ih =>
    rw [List.length_cons]
    rcases List.mem_cons.mp he with rfl | he
    · exact ⟨n + 1, Nat.lt_succ_self n, by omega, List.mem_cons_self⟩
    · obtain ⟨id, hlt, hle, hmem⟩ := ih he (n + 1)
      exact ⟨id, by omega, by omega, List.mem_cons_of_mem _ hmem⟩

/-- Nothing else is stored. -/
theorem exists_eq_stored {events : List FeedEvent} {e : FeedEvent} {n : ℕ}
    (he : e ∈ stored n events) : ∃ e' ∈ events, ∃ id, e = e'.stored id := by
  induction events generalizing n with
  | nil => cases he
  | cons e' events ih =>
    rcases List.mem_cons.mp he with rfl | he
    · exact ⟨e', List.mem_cons_self, n + 1, rfl⟩
    · obtain ⟨e'', hmem, hid⟩ := ih he
      exact ⟨e'', List.mem_cons_of_mem _ hmem, hid⟩

/-! ### A write -/

theorem finish_eq (m : Mailbox) (rows done : List Row) (s : Store) :
    Write.finish m rows done s =
      { s.append (done.reverse ++ numbered s.issued rows) m with
        issued := s.issued + rows.length } := by
  induction rows generalizing done s with
  | nil => cases m <;> simp [Write.finish, append, numbered]
  | cons r rows ih =>
    rw [Write.finish, ih]
    cases m <;> simp [append, numbered, Nat.add_assoc, Nat.add_comm 1]

/-- **A write in one step**: the rows go to their mailbox with the numbers that are next. -/
theorem insert_eq (s : Store) (m : Mailbox) (rows : List Row) :
    s.insert m rows =
      { s.append (numbered s.issued rows) m with issued := s.issued + rows.length } :=
  finish_eq m rows [] s

/-- All rows after rows were appended are those before and the new ones. -/
theorem append_perm (s : Store) (rows : List Row) (m : Mailbox) :
    ((s.append rows m).inbox ++ (s.append rows m).outbox).Perm (s.inbox ++ s.outbox ++ rows) := by
  cases m with
  | inbox =>
    -- the new rows come to stand before the outbox
    refine (List.Perm.of_eq (List.append_assoc _ _ _)).trans ?_
    exact (List.perm_append_comm.append_left _).trans (.of_eq (List.append_assoc _ _ _).symm)
  | outbox => exact .of_eq (List.append_assoc _ _ _).symm

/-- All rows after a write are those before it and the new ones. -/
theorem rows_insert_perm (s : Store) (m : Mailbox) (rows : List Row) :
    ((s.insert m rows).inbox ++ (s.insert m rows).outbox).Perm
      (s.inbox ++ s.outbox ++ numbered s.issued rows) := by
  rw [insert_eq]
  exact append_perm s _ m

/-- **A sound store**: it is readable, and no number is above those given out. -/
structure Sound (s : Store) : Prop extends s.Readable where
  /-- All numbers have been given out. -/
  issued : ∀ r ∈ s.inbox ++ s.outbox, r.id ≤ (s.issued : ℤ)

theorem sound_empty : empty.Sound := ⟨⟨.nil, fun _ h => by cases h⟩, fun _ h => by cases h⟩

/-- **A write leaves a sound store sound**, as long as the calendar reaches the times of the
rows. -/
theorem Sound.insert {s : Store} (h : s.Sound) (m : Mailbox) {rows : List Row}
    (hcal : ∀ r ∈ rows, Instant.MilliInCalendar r.ctime) : (s.insert m rows).Sound := by
  have hperm := rows_insert_perm s m rows
  have hissued : (s.insert m rows).issued = s.issued + rows.length := by rw [insert_eq]
  refine ⟨⟨?_, fun r hr => ?_⟩, fun r hr => ?_⟩
  · -- old numbers have been given out, and new ones lie above those
    rw [(hperm.map Row.id).nodup_iff, List.map_append, List.nodup_append]
    refine ⟨h.distinct, nodup_id_numbered _ _, fun i hi j hj hij => ?_⟩
    obtain ⟨r, hr, rfl⟩ := List.mem_map.mp hi
    obtain ⟨r', hr', rfl⟩ := List.mem_map.mp hj
    have hold := h.issued r hr
    have hnew := (id_of_mem_numbered hr').1
    omega
  · rcases List.mem_append.mp (hperm.mem_iff.mp hr) with hr | hr
    · exact h.inCalendar r hr
    · have hctime := List.mem_map_of_mem (f := Row.ctime) hr
      rw [map_ctime_numbered, List.mem_map] at hctime
      obtain ⟨r', hr', hctime⟩ := hctime
      exact hctime ▸ hcal r' hr'
  · rw [hissued]
    rcases List.mem_append.mp (hperm.mem_iff.mp hr) with hr | hr
    · have hold := h.issued r hr
      omega
    · exact (id_of_mem_numbered hr).2

/-! ### What users see of a write -/

/-- A user who follows the given users sees an event in a mailbox. -/
def shows (kinds : List Kind) (followees : List ℤ) (uid : ℤ) : Mailbox → FeedEvent → Bool
  | .inbox, e => e.uid == uid && (kinds.map Kind.tag).contains e.tag
  | .outbox, e =>
    decide (Kind.article ∈ kinds) && (e.tag == Kind.article.tag && followees.contains e.uid)

variable {kinds : List Kind} {followees : List ℤ} {uid : ℤ}

/-- The number of an event does not matter for who sees it. -/
theorem shows_stored (m : Mailbox) (e : FeedEvent) (id : ℕ) :
    shows kinds followees uid m (e.stored id) = shows kinds followees uid m e := by
  cases m <;> rfl

/-- The events that a user sees, in the order of the rows. -/
def visibleEvents (s : Store) (kinds : List Kind) (followees : List ℤ) (uid : ℤ) :
    List FeedEvent :=
  (s.visibleRows kinds followees uid).map Row.toEvent

theorem visibleEvents_eq (s : Store) (kinds : List Kind) (followees : List ℤ) (uid : ℤ) :
    s.visibleEvents kinds followees uid =
      (s.inbox.map Row.toEvent).filter (shows kinds followees uid .inbox) ++
        (s.outbox.map Row.toEvent).filter (shows kinds followees uid .outbox) := by
  rw [visibleEvents, visibleRows, List.map_append, List.filter_map, List.filter_map]
  refine congrArg (_ ++ ·) ?_
  by_cases h : Kind.article ∈ kinds
  · rw [if_pos h]
    simp only [shows, Function.comp_def, h, decide_true, Bool.true_and]
    rfl
  · simp [shows, h]

/-- What a user sees has a number that has been given out. -/
theorem Sound.id_le_of_mem_visibleEvents {s : Store} (h : s.Sound) {e : FeedEvent}
    (he : e ∈ s.visibleEvents kinds followees uid) : e.id ≤ (s.issued : ℤ) := by
  obtain ⟨r, hr, rfl⟩ := List.mem_map.mp he
  exact h.issued r (mem_of_mem_visibleRows hr)

/-- **What a write adds to what a user sees**: those of the new events that the user sees. -/
theorem visibleEvents_insert_perm (s : Store) (m : Mailbox) {events : List FeedEvent}
    (h : ∀ e ∈ events, e.createdAt.Ordinary) :
    ((s.insert m (events.map Row.ofEvent)).visibleEvents kinds followees uid).Perm
      (s.visibleEvents kinds followees uid ++
        (stored s.issued events).filter (shows kinds followees uid m)) := by
  rw [visibleEvents_eq, visibleEvents_eq, insert_eq, ← map_toEvent_numbered h]
  cases m with
  | inbox =>
    rw [append, List.map_append, List.filter_append, List.append_assoc, List.append_assoc]
    exact List.perm_append_comm.append_left _
  | outbox =>
    rw [append, List.map_append, List.filter_append, List.append_assoc]

end Store

end ActivityFeed
