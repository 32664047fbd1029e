import ActivityFeed.Proofs.Content
import ActivityFeed.Proofs.TimeText
import ActivityFeed.Wire

/-!
# JSON forms, written and read back

Events, requests for pages and policies are written as JSON objects, and what was written is read as
it was (`ActivityFeed.Json.forms_lossless`), as far as it fits into its types: integers into 64
bits, with or without a sign, and times into the calendar.

An object in compact writing is read member by member, whatever its type
(`ActivityFeed.Json.readString_objectText`), so each type has to say only what its members are read
as. They are of four kinds: integers (`ActivityFeed.Json.reads_signed`), texts, times and bags, and
a bag may be written in any order of its names.
-/

namespace ActivityFeed

namespace Json

open Text

/-! ### Integers -/

/-- An integer of 64 bits, with or without a sign. -/
def Kept (n : ℤ) : Prop := -9223372036854775808 ≤ n ∧ n ≤ 18446744073709551615

theorem kept_of_signed64 {n : ℤ} (h : IntegerRange.signed64.Holds n) : Kept n := by
  obtain ⟨hlow, hhigh⟩ := h
  exact ⟨hlow, Int.le_trans hhigh (by decide)⟩

theorem kept_of_unsigned64 {n : ℤ} (h : IntegerRange.unsigned64.Holds n) : Kept n := by
  obtain ⟨hlow, hhigh⟩ := h
  exact ⟨Int.le_trans (by decide) hlow, hhigh⟩

theorem whole_digits (n : ℕ) : Whole (digits n) :=
  ⟨⟨digits_ne_nil n, fun _ => isDigit_of_mem_digits⟩, digits_of_head?_eq_zero⟩

/-- The reader of numbers and the library agree on what digits make up. -/
theorem natural_digits (n : ℕ) : natural (digits n) = n := ofDigitChars_digits n

/-- The digits of an integer of 64 bits, with its sign, stand for that integer. -/
theorem integer_digits {n : ℤ} (h : Kept n) :
    integer (decide (n < 0)) (digits n.natAbs) = .int n := by
  obtain ⟨hlow, hhigh⟩ := h
  rw [integer, natural_digits]
  by_cases hneg : n < 0
  · rw [decide_eq_true hneg]
    show (if 0 < n.natAbs ∧ n.natAbs ≤ 9223372036854775808 then Number.int _ else _) = _
    rw [if_pos (by omega), Int.ofNat_natAbs_of_nonpos (by omega), Int.neg_neg]
  · rw [decide_eq_false hneg]
    show (if n.natAbs ≤ 18446744073709551615 then Number.int _ else _) = _
    rw [if_pos (by omega), Int.natAbs_of_nonneg (by omega)]

theorem takeMinus_signed (n : ℤ) (s : List Glyph) :
    takeMinus (ofChars (signed n) ++ s) =
      (decide (n < 0), ofChars (digits n.natAbs) ++ s) := by
  unfold signed
  split_ifs with hneg
  · rw [decide_eq_true hneg]
    rfl
  · rw [decide_eq_false hneg]
    obtain ⟨c, r, hcons, hc⟩ := (whole_digits n.natAbs).1.exists_cons
    rw [hcons]
    exact takeMinus_of_ne (ne_of_isDigit hc (by decide)) _

theorem signed_eq_cons (n : ℤ) :
    ∃ c r, signed n = c :: r ∧ (c.isDigit = true ∨ c = '-') := by
  unfold signed
  split_ifs with hneg
  · exact ⟨'-', _, rfl, .inr rfl⟩
  · obtain ⟨c, r, hcons, hc⟩ := (whole_digits n.natAbs).1.exists_cons
    exact ⟨c, r, hcons, .inl hc⟩

/-- **A written integer of 64 bits is read as that integer**, up to both ends of the range. -/
theorem reads_signed {n : ℤ} (h : Kept n) : Reads (signed n) (.number (.int n)) := by
  have hscan : ∀ s, NumberEnds s →
      scan (ofChars (signed n) ++ s) = .number (.int n) :: scan s := by
    intro s hs
    have hread := number?_whole (whole_digits n.natAbs) hs (takeMinus_signed n s)
    rw [integer_digits h] at hread
    obtain ⟨c, r, hcons, hc⟩ := signed_eq_cons n
    rw [hcons] at hread ⊢
    exact scan_numeral hc hread
  exact reads_of_scan hscan fun _ => rfl

/-- A number without a sign is written like an integer. -/
theorem signed_natCast (n : ℕ) : signed n = digits n :=
  if_neg (Int.not_lt.mpr (Int.natCast_nonneg n))

theorem reads_digits {n : ℕ} (h : IntegerRange.unsigned64.Holds n) :
    Reads (digits n) (.number (.int n)) :=
  signed_natCast n ▸ reads_signed (kept_of_unsigned64 h)

theorem readInt_of_holds {t : IntegerType} {n : ℤ} (h : t.range.Holds n) :
    readInt t (.number (.int n)) = .ok n := if_pos h

theorem readNat_of_holds {n : ℕ} (h : IntegerRange.unsigned64.Holds n) :
    readNat (.number (.int n)) = .ok n := by
  rw [readNat, readInt_of_holds (t := .unsigned64) h]
  rfl

/-! ### Texts, times and bags -/

theorem reads_quote (s : String) : Reads (quote s.toList) (.string (some s)) :=
  (reads_literal (literalOf_quote s)).reads

theorem reads_instant (t : Instant) : Reads t.json (.string (some (String.ofList t.text))) := by
  have h := reads_quote (String.ofList t.text)
  rwa [String.toList_ofList] at h

theorem readInstant_of_ofText? {s : String} {t : Instant}
    (h : Instant.ofText? s.toList = some t) : readInstant (.string (some s)) = .ok t := by
  have htext : ∀ expected, readTextAs expected (.string (some s)) = .ok s := fun _ => rfl
  rw [readInstant, htext]
  simp only [Except.bind, bind, h]

/-- **A written time is read**, in the form that it has in a JSON text. -/
theorem readInstant_of_proper {t : Instant} (h : t.Proper) :
    readInstant (.string (some (String.ofList t.text))) = .ok t := by
  refine readInstant_of_ofText? ?_
  rw [String.toList_ofList, Instant.ofText?_text h]

theorem reads_textMapText (ps : List (String × String)) :
    Reads (textMapText ps) (.object (ps.map textMember) .closed) :=
  (reads_spellsMap (spellsMap_textMapText ps)).reads

theorem readBag_of_perm {b : Bag} {ps : List (String × String)} (h : ps.Perm b.pairs) :
    readBag (.object (ps.map textMember) .closed) = .ok b := by
  rw [readBag, readTextMap_object]
  exact congrArg Except.ok (Bag.ofList_of_perm h)

/-! ### Objects -/

/-- **A written object is read with its members in their order**, whoever reads it. -/
theorem readString_objectText {members : List (String × List Char)} {vs : List Value}
    (h : List.Forall₂ (fun m v => Reads m.2 v) members vs) {α : Type}
    (reader : Value → Except Fault α) :
    readString reader (String.ofList (objectText members)) =
      reader (.object ((members.map fun m => some m.1).zip vs) .closed) := by
  have hbindings : List.Forall₂ ReadsBinding (members.map fun m => Binding.compact m.1 m.2)
      ((members.map fun m => some m.1).zip vs) := by
    induction h with
    | nil => exact .nil
    | cons hv _ ih =>
      exact .cons ⟨scan_literal (spells_flatMap_escape _), isColon_compact, hv⟩ ih
  have hobject := reads_object (listed_commaSeparated _) hbindings
  have hread := read_of_reads (w := []) (List.forall_mem_nil _) hobject reader []
  rw [List.nil_append, List.append_nil] at hread
  rw [readString, String.toList_ofList, objectText_eq, hread, scan]
  cases reader _ <;> rfl

end Json

open Json Text

/-! ### Events -/

namespace FeedEvent

/-- The event as an object whose bag is written in the given order. -/
def jsonIn (e : FeedEvent) (ps : List (String × String)) : List Char :=
  objectText [("id", signed e.id), ("uid", signed e.uid), ("event_type", quote e.tag.toList),
    ("created_at", e.createdAt.json), ("ext", textMapText ps)]

/-- The event fits into the types of its fields. -/
structure Fits (e : FeedEvent) : Prop where
  /-- The number of the event has 64 bits. -/
  id : IntegerRange.signed64.Holds e.id
  /-- So has the number of the user. -/
  uid : IntegerRange.signed64.Holds e.uid
  /-- The time can be written. -/
  createdAt : e.createdAt.Proper

/-- An object with the fields of an event in their order is read as the event. -/
theorem read_fields {e : FeedEvent} {id uid tag createdAt bag : Value}
    (hid : readInt .signed64 id = .ok e.id) (huid : readInt .signed64 uid = .ok e.uid)
    (htag : readText tag = .ok e.tag) (htime : readInstant createdAt = .ok e.createdAt)
    (hbag : readBag bag = .ok e.bag) :
    record.read (.object [(some "id", id), (some "uid", uid), (some "event_type", tag),
      (some "created_at", createdAt), (some "ext", bag)] .closed) = .ok e := by
  simp only [Record.read, Record.readMember, record, List.foldlM_cons, List.find?_cons, BEq.rfl,
    String.reduceBEq, hid, huid, htag, htime, hbag]
  rfl

/-- **A written event is read as it was.** -/
theorem readString_jsonIn {e : FeedEvent} (h : e.Fits) {ps : List (String × String)}
    (hps : ps.Perm e.bag.pairs) :
    readString record.read (String.ofList (e.jsonIn ps)) = .ok e := by
  rw [jsonIn, readString_objectText (.cons (reads_signed (kept_of_signed64 h.id))
    (.cons (reads_signed (kept_of_signed64 h.uid)) (.cons (reads_quote e.tag)
      (.cons (reads_instant e.createdAt) (.cons (reads_textMapText ps) .nil)))))]
  exact read_fields (readInt_of_holds h.id) (readInt_of_holds h.uid) rfl
    (readInstant_of_proper h.createdAt) (readBag_of_perm hps)

end FeedEvent

/-! ### Requests for pages -/

namespace PageQuery

/-- The request fits into the types of its fields. -/
structure Fits (q : PageQuery) : Prop where
  /-- The number of the user has 64 bits. -/
  uid : IntegerRange.signed64.Holds q.uid
  /-- The time can be written. -/
  before : q.before.Proper
  /-- The wanted number of events has 64 bits. -/
  limit : IntegerRange.unsigned64.Holds q.limit
  /-- So has the largest number. -/
  maxLimit : IntegerRange.unsigned64.Holds q.maxLimit

/-- An object with the fields of a request in their order is read as the request. -/
theorem read_fields {q : PageQuery} {uid before limit maxLimit : Value}
    (huid : readInt .signed64 uid = .ok q.uid) (hbefore : readInstant before = .ok q.before)
    (hlimit : readNat limit = .ok q.limit) (hmax : readNat maxLimit = .ok q.maxLimit) :
    record.read (.object [(some "uid", uid), (some "before", before), (some "limit", limit),
      (some "max_limit", maxLimit)] .closed) = .ok q := by
  simp only [Record.read, Record.readMember, record, List.foldlM_cons, List.find?_cons, BEq.rfl,
    String.reduceBEq, huid, hbefore, hlimit, hmax]
  rfl

/-- **A written request is read as it was.** -/
theorem readString_json {q : PageQuery} (h : q.Fits) :
    readString record.read (String.ofList q.json) = .ok q := by
  rw [json, readString_objectText (.cons (reads_signed (kept_of_signed64 h.uid))
    (.cons (reads_instant q.before) (.cons (reads_digits h.limit)
      (.cons (reads_digits h.maxLimit) .nil))))]
  exact read_fields (readInt_of_holds h.uid) (readInstant_of_proper h.before)
    (readNat_of_holds h.limit) (readNat_of_holds h.maxLimit)

end PageQuery

/-! ### Policies -/

namespace FanoutPolicy

/-- The policy fits into the types of its fields. -/
structure Fits (p : FanoutPolicy) : Prop where
  /-- The threshold has 64 bits and may be negative. -/
  threshold : IntegerRange.signed64.Holds p.threshold
  /-- The number of followed authors has 64 bits. -/
  followeeLimit : IntegerRange.unsigned64.Holds p.followeeLimit
  /-- So has the number of followers asked for. -/
  pushLimit : IntegerRange.unsigned64.Holds p.pushLimit

/-- An object with the fields of a policy in their order is read as the policy. -/
theorem read_fields {p : FanoutPolicy} {threshold followeeLimit pushLimit : Value}
    (hthreshold : readInt .signed64 threshold = .ok p.threshold)
    (hfollowees : readNat followeeLimit = .ok p.followeeLimit)
    (hpush : readNat pushLimit = .ok p.pushLimit) :
    record.read (.object [(some "fanout_threshold", threshold),
      (some "followee_limit", followeeLimit), (some "push_fanout_limit", pushLimit)] .closed) =
      .ok p := by
  simp only [Record.read, Record.readMember, record, List.foldlM_cons, List.find?_cons, BEq.rfl,
    String.reduceBEq, hthreshold, hfollowees, hpush]
  rfl

/-- **A written policy is read as it was.** -/
theorem readString_json {p : FanoutPolicy} (h : p.Fits) :
    readString record.read (String.ofList p.json) = .ok p := by
  rw [json, readString_objectText (.cons (reads_signed (kept_of_signed64 h.threshold))
    (.cons (reads_digits h.followeeLimit) (.cons (reads_digits h.pushLimit) .nil)))]
  exact read_fields (readInt_of_holds h.threshold) (readNat_of_holds h.followeeLimit)
    (readNat_of_holds h.pushLimit)

end FanoutPolicy

/-! ### All of them -/

/-- **Nothing is lost in the JSON forms.** Every event that fits into its types is read back from
what is written for it, in whatever order the names of its bag are written, and so is every request
for a page and every policy. -/
theorem Json.forms_lossless :
    (∀ e : FeedEvent, e.Fits →
      readString FeedEvent.record.read (String.ofList e.json) = .ok e ∧
        ∀ ps, ps.Perm e.bag.pairs →
          readString FeedEvent.record.read (String.ofList (e.jsonIn ps)) = .ok e) ∧
      (∀ q : PageQuery, q.Fits →
        readString PageQuery.record.read (String.ofList q.json) = .ok q) ∧
      ∀ p : FanoutPolicy, p.Fits →
        readString FanoutPolicy.record.read (String.ofList p.json) = .ok p := by
  refine ⟨fun e h => ⟨?_, fun ps hps => ?_⟩, fun q h => ?_, fun p h => ?_⟩
  · exact FeedEvent.readString_jsonIn h (List.Perm.refl _)
  · exact FeedEvent.readString_jsonIn h hps
  · exact PageQuery.readString_json h
  · exact FanoutPolicy.readString_json h

/-- An event in the first leap second that the calendar knows, with the smallest and the largest
number and a bag that needs escapes. -/
def FeedEvent.earliest : FeedEvent :=
  ⟨-9223372036854775808, 9223372036854775807, "\"like\"", ⟨-8334601228741, 1999999999⟩,
    Bag.peculiar⟩

/-- A request with the last instant of the calendar and the largest limits. -/
def PageQuery.latest : PageQuery :=
  ⟨0, ⟨8210266876799, 999000000⟩, 18446744073709551615, 18446744073709551615⟩

/-- A policy whose numbers lie at the ends of their ranges. -/
def FanoutPolicy.extreme : FanoutPolicy := ⟨-9223372036854775808, 0, 18446744073709551615⟩

theorem FeedEvent.fits_earliest : earliest.Fits := ⟨by decide, by decide, by decide⟩

theorem PageQuery.fits_latest : latest.Fits := ⟨by decide, by decide, by decide, by decide⟩

theorem FanoutPolicy.fits_extreme : extreme.Fits := ⟨by decide, by decide, by decide⟩

/-- The event is read back although its names are written in the opposite order, and so are the
request and the policy. -/
theorem Json.forms_lossless_atTheEnds :
    FeedEvent.earliest.Fits ∧ PageQuery.latest.Fits ∧ FanoutPolicy.extreme.Fits ∧
      FeedEvent.earliest.bag.pairs.reverse.Perm FeedEvent.earliest.bag.pairs ∧
      FeedEvent.earliest.createdAt.text = "-262143-01-01T00:00:60.999999999Z".toList ∧
      readString FeedEvent.record.read
        (String.ofList (FeedEvent.earliest.jsonIn FeedEvent.earliest.bag.pairs.reverse)) =
          .ok FeedEvent.earliest ∧
      readString PageQuery.record.read
        ("\x7b\"uid\":0,\"before\":\"+262142-12-31T23:59:59.999Z\"," ++
          "\"limit\":18446744073709551615,\"max_limit\":18446744073709551615\x7d") =
          .ok PageQuery.latest ∧
      readString FanoutPolicy.record.read
        ("\x7b\"fanout_threshold\":-9223372036854775808,\"followee_limit\":0," ++
          "\"push_fanout_limit\":18446744073709551615\x7d") = .ok FanoutPolicy.extreme := by
  obtain ⟨hevents, hqueries, hpolicies⟩ := forms_lossless
  have hperm : FeedEvent.earliest.bag.pairs.reverse.Perm FeedEvent.earliest.bag.pairs :=
    List.reverse_perm _
  refine ⟨FeedEvent.fits_earliest, PageQuery.fits_latest, FanoutPolicy.fits_extreme, hperm,
    by decide +kernel, (hevents _ FeedEvent.fits_earliest).2 _ hperm, ?_, ?_⟩
  · have hread := hqueries _ PageQuery.fits_latest
    have htext : String.ofList PageQuery.latest.json =
        "\x7b\"uid\":0,\"before\":\"+262142-12-31T23:59:59.999Z\"," ++
          "\"limit\":18446744073709551615,\"max_limit\":18446744073709551615\x7d" := by
      decide +kernel
    rwa [htext] at hread
  · have hread := hpolicies _ FanoutPolicy.fits_extreme
    have htext : String.ofList FanoutPolicy.extreme.json =
        "\x7b\"fanout_threshold\":-9223372036854775808,\"followee_limit\":0," ++
          "\"push_fanout_limit\":18446744073709551615\x7d" := by
      decide +kernel
    rwa [htext] at hread

end ActivityFeed
