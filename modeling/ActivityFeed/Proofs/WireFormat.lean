import ActivityFeed.Proofs.Content
import ActivityFeed.Proofs.Encoding
import ActivityFeed.Proofs.Work
import ActivityFeed.Wire

/-!
# How messages are written

Other programs write the messages, each in its own way, and the feed must take them all.

* `ActivityFeed.Message.Presents` – the texts that present a message: an object whose members stand
  in any order, among members of other names with values of any kind, or an array of the fields;
* `ActivityFeed.Message.Miscounts` – the objects that present none, since a field of a message
  stands there twice or the tag is missing.

Both are read from bytes, and what stands behind the text decides as well: white space may, and
nothing else (`ActivityFeed.Message.ofText_presentation`). That other members do not count is the
work of one induction over the members (`ActivityFeed.Message.foldlM_readMember_shown`), and that
fields are counted is that of another (`ActivityFeed.Message.count_of_foldlM`).
-/

namespace ActivityFeed

namespace Message

open Json Text

/-! ### The texts of a message -/

/-- An object of texts that makes up the given bag. -/
def SpellsBag (b : Bag) (t : List Char) : Prop := ∃ ps, Bag.ofList ps = b ∧ SpellsMap ps t

/-- A member with the given name, as it may stand in an object that presents the message. -/
structure Shows (m : Message) (name : String) (e : Binding) : Prop where
  /-- The key spells the name. -/
  key : Spells e.key name.toList
  /-- A colon follows. -/
  colon : IsColon e.colon
  /-- The value of the tag. -/
  tag : name = "Type" → LiteralOf m.tag e.value
  /-- The value of the bag. -/
  metadata : name = "Metadata" → SpellsBag m.metadata e.value
  /-- The value of any other member. -/
  other : name ≠ "Type" → name ≠ "Metadata" → Sound e.value

/-- The texts that present a message. -/
inductive Presents (m : Message) : List Char → Prop where
  /-- An object, in which the bag may be missing if it is empty. -/
  | object {names : List String} {es : List Binding} {t : List Char}
      (ht : Listed (es.map Binding.text) t) (hes : List.Forall₂ m.Shows names es)
      (htag : names.count "Type" = 1) (hbag : names.count "Metadata" ≤ 1)
      (hempty : names.count "Metadata" = 0 → m.metadata = .empty) : Presents m (inBraces t)
  /-- An array of the tag and the bag. -/
  | pair {x y t : List Char} (ht : Listed [x, y] t) (hx : LiteralOf m.tag x)
      (hy : SpellsBag m.metadata y) : Presents m (inBrackets t)
  /-- An array of the tag alone. -/
  | single {x t : List Char} (ht : Listed [x] t) (hx : LiteralOf m.tag x)
      (hempty : m.metadata = .empty) : Presents m (inBrackets t)

/-- The name that a key has for a reader: the text that it spells, if it spells one. -/
inductive KeyOf : Option String → List Char → Prop where
  /-- The key spells the name. -/
  | spelled {n : String} {b : List Char} (h : Spells b n.toList) : KeyOf (some n) b
  /-- The key spells no text. -/
  | unspelled {b : List Char} (hb : Body b) (h : ∀ s, ¬Spells b s) : KeyOf none b

/-- A well-formed member of an object, with its name. -/
structure Named (name : Option String) (e : Binding) : Prop where
  /-- The key has the name. -/
  key : KeyOf name e.key
  /-- A colon follows. -/
  colon : IsColon e.colon
  /-- The value is well-formed. -/
  value : Sound e.value

/-- The well-formed objects in which the tag or the bag stands twice or the tag is missing. -/
inductive Miscounts : List Char → Prop where
  /-- The members are counted by their names. -/
  | object {names : List (Option String)} {es : List Binding} {t : List Char}
      (ht : Listed (es.map Binding.text) t) (hes : List.Forall₂ Named names es)
      (h : 2 ≤ names.count (some "Type") ∨ 2 ≤ names.count (some "Metadata") ∨
        names.count (some "Type") = 0) : Miscounts (inBraces t)

/-! ### Reading one member -/

theorem readMember_tag (d : Draft) (v : Value) :
    record.readMember d (some "Type", v) =
      if d.tag.isSome then .error (.duplicateField "Type")
      else (readText v).map fun s => { d with tag := some s } := rfl

theorem readMember_metadata (d : Draft) (v : Value) :
    record.readMember d (some "Metadata", v) =
      if d.metadata.isSome then .error (.duplicateField "Metadata")
      else (readBag v).map fun b => { d with metadata := some b } := rfl

/-- A member of another name is skipped, whatever its value. -/
theorem readMember_other {k : String} (ht : k ≠ "Type") (hm : k ≠ "Metadata") (d : Draft)
    (v : Value) : record.readMember d (some k, v) = .ok d := by
  have hfind : record.fields.find? (·.name == k) = none := by
    have htag : ("Type" == k) = false := beq_eq_false_iff_ne.mpr ht.symm
    have hbag : ("Metadata" == k) = false := beq_eq_false_iff_ne.mpr hm.symm
    simp only [record, List.find?_cons, List.find?_nil, htag, hbag]
  rw [Record.readMember, hfind]

/-- **What reading a member does**: it fills one field that was empty, or it does nothing because
the member has another name. -/
theorem readMember_cases {d d' : Draft} {x : Member} (h : record.readMember d x = .ok d') :
    (x.1 = some "Type" ∧ d.tag = none ∧ ∃ s, d' = { d with tag := some s }) ∨
      (x.1 = some "Metadata" ∧ d.metadata = none ∧ ∃ b, d' = { d with metadata := some b }) ∨
      (x.1 ≠ some "Type" ∧ x.1 ≠ some "Metadata" ∧ d' = d) := by
  obtain ⟨k, v⟩ := x
  cases k with
  | none => cases h
  | some k =>
    by_cases ht : k = "Type"
    · subst ht
      rw [readMember_tag] at h
      split at h
      case isTrue => cases h
      case isFalse hnone =>
        obtain ⟨s, -, rfl⟩ := except_map_eq_ok.mp h
        exact .inl ⟨rfl, Option.not_isSome_iff_eq_none.mp hnone, s, rfl⟩
    · by_cases hm : k = "Metadata"
      · subst hm
        rw [readMember_metadata] at h
        split at h
        case isTrue => cases h
        case isFalse hnone =>
          obtain ⟨b, -, rfl⟩ := except_map_eq_ok.mp h
          exact .inr (.inl ⟨rfl, Option.not_isSome_iff_eq_none.mp hnone, b, rfl⟩)
      · rw [readMember_other ht hm] at h
        cases h
        refine .inr (.inr ⟨?_, ?_, rfl⟩)
        · exact fun he => ht (Option.some.inj he)
        · exact fun he => hm (Option.some.inj he)

/-! ### Reading all members -/

/-- The value gives the message what a field of the given name is for. -/
structure Carries (m : Message) (name : String) (x : Member) : Prop where
  /-- The member has the name. -/
  key : x.1 = some name
  /-- The tag is read from its value. -/
  tag : name = "Type" → readText x.2 = .ok m.tag
  /-- The bag is read from its value. -/
  metadata : name = "Metadata" → readBag x.2 = .ok m.metadata

/-- Where a name may be counted once only, its first member finds the field empty, and there is no
second member. -/
theorem free_of_count {α : Type} {name : String} {names : List String} {a : Option α}
    (h : (name :: names).count name + a.isSome.toNat ≤ 1) :
    ¬a.isSome = true ∧ name ∉ names ∧
      ∀ b : α, names.count name + (some b).isSome.toNat ≤ 1 := by
  rw [List.count_cons_self] at h
  have hcount : names.count name = 0 := by omega
  refine ⟨fun ha => ?_, List.count_eq_zero.mp hcount, fun b => ?_⟩
  · rw [hcount, ha] at h
    exact absurd h (by decide)
  · rw [hcount]
    exact Nat.le_refl 1

/-- **Members that show a message fill a draft of it**, and members of other names leave no
trace. -/
theorem foldlM_readMember_shown {m : Message} {names : List String} {ms : List Member}
    (h : List.Forall₂ m.Carries names ms) {d : Draft}
    (ht : names.count "Type" + d.tag.isSome.toNat ≤ 1)
    (hm : names.count "Metadata" + d.metadata.isSome.toNat ≤ 1) :
    ms.foldlM record.readMember d =
      .ok ⟨if "Type" ∈ names then some m.tag else d.tag,
        if "Metadata" ∈ names then some m.metadata else d.metadata⟩ := by
  induction h generalizing d with
  | nil => rfl
  | @cons name x names ms hx hms ih =>
    obtain ⟨k, v⟩ := x
    obtain ⟨rfl, htag, hbag⟩ := hx
    rw [List.foldlM_cons]
    rcases eq_or_ne name "Type" with rfl | hnt
    · obtain ⟨hnone, hfree, hnext⟩ := free_of_count ht
      rw [List.count_cons_of_ne (by decide)] at hm
      rw [readMember_tag, if_neg hnone, htag rfl]
      show ms.foldlM record.readMember { d with tag := some m.tag } = _
      rw [ih (d := { d with tag := some m.tag }) (hnext m.tag) hm]
      simp [hfree]
    · rcases eq_or_ne name "Metadata" with rfl | hnm
      · obtain ⟨hnone, hfree, hnext⟩ := free_of_count hm
        rw [List.count_cons_of_ne (by decide)] at ht
        rw [readMember_metadata, if_neg hnone, hbag rfl]
        show ms.foldlM record.readMember { d with metadata := some m.metadata } = _
        rw [ih (d := { d with metadata := some m.metadata }) ht (hnext m.metadata)]
        simp [hfree]
      · rw [List.count_cons_of_ne hnt] at ht
        rw [List.count_cons_of_ne hnm] at hm
        rw [readMember_other hnt hnm]
        show ms.foldlM record.readMember d = _
        rw [ih ht hm]
        simp [hnt.symm, hnm.symm]

/-- **Every field is counted**: a draft that was filled from members has a field if it had it before
or the members have it once, and they cannot have it more often. -/
theorem count_of_foldlM {ms : List Member} {d d' : Draft}
    (h : ms.foldlM record.readMember d = .ok d') :
    d'.tag.isSome.toNat = d.tag.isSome.toNat + (ms.map Prod.fst).count (some "Type") ∧
      d'.metadata.isSome.toNat =
        d.metadata.isSome.toNat + (ms.map Prod.fst).count (some "Metadata") := by
  induction ms generalizing d with
  | nil =>
    cases h
    exact ⟨rfl, rfl⟩
  | cons x ms ih =>
    rw [List.foldlM_cons] at h
    obtain ⟨d₁, hx, hms⟩ := except_bind_eq_ok.mp h
    obtain ⟨htag, hbag⟩ := ih hms
    rw [htag, hbag, List.map_cons]
    rcases readMember_cases hx with ⟨hk, hnone, s, rfl⟩ | ⟨hk, hnone, b, rfl⟩ | ⟨ht, hm, rfl⟩
    · rw [hk, hnone, List.count_cons_self, List.count_cons_of_ne (by decide)]
      exact ⟨by simp [Nat.add_comm], rfl⟩
    · rw [hk, hnone, List.count_cons_self, List.count_cons_of_ne (by decide)]
      exact ⟨rfl, by simp [Nat.add_comm]⟩
    · rw [List.count_cons_of_ne ht, List.count_cons_of_ne hm]
      exact ⟨rfl, rfl⟩

/-! ### Reading a presentation -/

theorem SpellsBag.exists_value {b : Bag} {t : List Char} (h : SpellsBag b t) :
    ∃ v, ReadsClosed t v ∧ readBag v = .ok b := by
  obtain ⟨ps, hps, ht⟩ := h
  refine ⟨_, reads_spellsMap ht, ?_⟩
  rw [readBag, readTextMap_object, ← hps]
  rfl

/-- A member that shows the message is read as one that carries it. -/
theorem Shows.exists_member {m : Message} {name : String} {e : Binding} (h : m.Shows name e) :
    ∃ x, ReadsBinding e x ∧ m.Carries name x := by
  have hkey : ReadsKey e.key (some name) := scan_literal h.key
  rcases eq_or_ne name "Type" with hn | hnt
  · have hv := (reads_literal (h.tag hn)).reads
    exact ⟨(some name, _), ⟨hkey, h.colon, hv⟩, rfl, fun _ => rfl,
      fun hm => absurd (hn.symm.trans hm) (by decide)⟩
  · rcases eq_or_ne name "Metadata" with hn | hnm
    · obtain ⟨v, hv, hread⟩ := (h.metadata hn).exists_value
      exact ⟨(some name, v), ⟨hkey, h.colon, hv.reads⟩, rfl, fun ht => absurd ht hnt,
        fun _ => hread⟩
    · obtain ⟨v, hv⟩ := exists_reads (h.other hnt hnm)
      exact ⟨(some name, v), ⟨hkey, h.colon, hv⟩, rfl, fun ht => absurd ht hnt,
        fun hm => absurd hm hnm⟩

theorem read_object (ms : List Member) :
    record.read (.object ms .closed) =
      ms.foldlM record.readMember {} >>= fun d => d.finish.mapError .missingField := rfl

theorem read_pair (tag : String) (v : Value) :
    record.read (.array [.string (some tag), v] .closed) =
      (readBag v).map fun b => ⟨tag, b⟩ := by
  show ((readBag v >>= fun b => .ok ⟨some tag, some b⟩) >>= fun d : Draft => Except.ok d) >>= _ = _
  cases readBag v <;> rfl

theorem read_single (tag : String) :
    record.read (.array [.string (some tag)] .closed) = .ok ⟨tag, .empty⟩ := rfl

/-- **A text that presents a message is read as a value, and the value as the message.** -/
theorem Presents.exists_value {m : Message} {t : List Char} (h : m.Presents t) :
    ∃ v, ReadsClosed t v ∧ record.read v = .ok m := by
  cases h with
  | @object names es t ht hes htag hbag hempty =>
    obtain ⟨ms, hms, hcarries⟩ := exists_between hes fun _ _ hs => hs.exists_member
    refine ⟨_, reads_object ht hms, ?_⟩
    have hmem : "Type" ∈ names := List.count_pos_iff.mp (by omega)
    have hdraft := foldlM_readMember_shown hcarries (d := {}) (Nat.le_of_eq htag) hbag
    rw [if_pos hmem] at hdraft
    rw [read_object, hdraft]
    show Except.ok (⟨m.tag, _⟩ : Message) = .ok m
    split
    · rfl
    · rename_i hnot
      show Except.ok (⟨m.tag, .empty⟩ : Message) = .ok m
      rw [← hempty (List.count_eq_zero.mpr hnot)]
  | @pair x y t ht hx hy =>
    obtain ⟨v, hv, hread⟩ := hy.exists_value
    refine ⟨_, reads_array ht (.cons (reads_literal hx).reads (.cons hv.reads .nil)), ?_⟩
    rw [read_pair, hread]
    rfl
  | @single x t ht hx hempty =>
    refine ⟨_, reads_array ht (.cons (reads_literal hx).reads .nil), ?_⟩
    rw [read_single, ← hempty]

/-! ### Refusing what presents no message -/

theorem KeyOf.reads {name : Option String} {b : List Char} (h : KeyOf name b) :
    ReadsKey b name := by
  cases h with
  | spelled h => exact scan_literal h
  | unspelled hb h => exact scan_unspelled hb h

theorem Named.exists_member {name : Option String} {e : Binding} (h : Named name e) :
    ∃ x, ReadsBinding e x ∧ x.1 = name := by
  obtain ⟨v, hv⟩ := exists_reads h.value
  exact ⟨(name, v), ⟨h.key.reads, h.colon, hv⟩, rfl⟩

theorem isSome_tag_of_finish {d : Draft} {m : Message} (h : d.finish = .ok m) :
    d.tag.isSome = true := by
  obtain ⟨tag, metadata⟩ := d
  cases tag with
  | none => cases h
  | some s => rfl

/-- **What is read as a message has the tag once and the bag at most once.** -/
theorem count_of_read {ms : List Member} {m : Message}
    (h : record.read (.object ms .closed) = .ok m) :
    (ms.map Prod.fst).count (some "Type") = 1 ∧ (ms.map Prod.fst).count (some "Metadata") ≤ 1 := by
  rw [read_object] at h
  obtain ⟨d, hd, hfinish⟩ := except_bind_eq_ok.mp h
  obtain ⟨htag, hbag⟩ := count_of_foldlM hd
  rw [isSome_tag_of_finish (except_mapError_eq_ok.mp hfinish)] at htag
  constructor
  · exact (htag.trans (Nat.zero_add _)).symm
  · rw [← Nat.zero_add (List.count _ _)]
    exact hbag ▸ Bool.toNat_le _

/-- **A text in which the members miscount is read as a value, but not as a message.** -/
theorem Miscounts.exists_value {t : List Char} (h : Miscounts t) :
    ∃ v, ReadsClosed t v ∧ ∃ fault, record.read v = .error fault := by
  obtain ⟨ht, hes, hcount⟩ := h
  obtain ⟨ms, hms, hnames⟩ := exists_between hes fun _ _ hs => hs.exists_member
  refine ⟨_, reads_object ht hms, ?_⟩
  cases hread : record.read (.object ms .closed) with
  | error fault => exact ⟨fault, rfl⟩
  | ok m =>
    obtain ⟨htag, hbag⟩ := count_of_read hread
    have hkeys : List.Forall₂ Eq (ms.map Prod.fst) _ := List.forall₂_map_left_iff.mpr hnames.flip
    rw [List.forall₂_eq_eq_eq] at hkeys
    subst hkeys
    omega

/-! ### From bytes -/

/-- A text that is read as a value is read as what that value is, unless something follows. -/
theorem ofText_of_reads {w t : List Char} {v : Value} (hw : Blank w) (ht : ReadsClosed t v)
    (rest : List UInt8) :
    ofText (glyphs (utf8 (w ++ t) ++ rest)) =
      ((record.read v).bind fun m =>
        if BlankBytes rest then .ok m else .error .malformed).mapError .damaged := by
  have hend : scan (glyphs rest) = [] ↔ BlankBytes rest :=
    scan_eq_nil_iff.trans (glyphs_blank_iff rest)
  rw [ofText, glyphs_utf8_append, read_of_reads hw ht]
  simp only [hend]

/-- The message as an object whose bag is written in the given order. -/
def jsonIn (m : Message) (ps : List (String × String)) : List Char :=
  objectText [("Type", quote m.tag.toList), ("Metadata", textMapText ps)]

/-- **What is written for a message presents it.** -/
theorem presents_jsonIn {m : Message} {ps : List (String × String)}
    (h : ps.Perm m.metadata.pairs) : m.Presents (m.jsonIn ps) := by
  have htag : m.Shows "Type" (.compact "Type" (quote m.tag.toList)) :=
    { key := spells_flatMap_escape _
      colon := isColon_compact
      tag := fun _ => literalOf_quote m.tag
      metadata := fun h => absurd h (by decide)
      other := fun h => absurd rfl h }
  have hbag : m.Shows "Metadata" (.compact "Metadata" (textMapText ps)) :=
    { key := spells_flatMap_escape _
      colon := isColon_compact
      tag := fun h => absurd h (by decide)
      metadata := fun _ => ⟨ps, Bag.ofList_of_perm h, spellsMap_textMapText ps⟩
      other := fun _ h => absurd rfl h }
  rw [jsonIn, objectText_eq]
  exact .object (listed_commaSeparated _) (.cons htag (.cons hbag .nil)) (by decide) (by decide)
    fun h => absurd h (by decide)

theorem ofText_of_presents {m : Message} {w t : List Char} (hw : Blank w) (ht : m.Presents t)
    (rest : List UInt8) :
    ofText (glyphs (utf8 (w ++ t) ++ rest)) =
      if BlankBytes rest then .ok m else .error (.damaged .malformed) := by
  obtain ⟨v, hv, hread⟩ := ht.exists_value
  rw [ofText_of_reads hw hv, hread]
  show Except.mapError _ (if BlankBytes rest then _ else _) = _
  split <;> rfl

/-- What is written for a message is read as that message. -/
theorem ofText_jsonIn {m : Message} {ps : List (String × String)}
    (h : ps.Perm m.metadata.pairs) : ofText (glyphs (utf8 (m.jsonIn ps))) = .ok m := by
  have hread := ofText_of_presents (w := []) (List.forall_mem_nil _) (presents_jsonIn h) []
  have hend : BlankBytes [] := List.forall_mem_nil _
  rwa [List.nil_append, List.append_nil, if_pos hend] at hread

/-- **Messages are read from every text that presents them.** A message is read from what is written
for it, in whatever order the names of the bag are written; it is read from every other
presentation, if nothing but white space follows, and refused if anything else does; and an object
in which the tag or the bag stands twice or the tag is missing is refused whatever follows. -/
theorem ofText_presentation :
    (∀ m, ofText (glyphs (utf8 (json m))) = .ok m) ∧
      (∀ m ps, ps.Perm m.metadata.pairs → ofText (glyphs (utf8 (m.jsonIn ps))) = .ok m) ∧
      (∀ m w t rest, Blank w → Presents m t →
        ofText (glyphs (utf8 (w ++ t) ++ rest)) =
          if BlankBytes rest then .ok m else .error (.damaged .malformed)) ∧
      ∀ w t rest, Blank w → Miscounts t →
        ∃ fault, ofText (glyphs (utf8 (w ++ t) ++ rest)) = .error (.damaged fault) := by
  refine ⟨?_, ?_, ?_, ?_⟩
  · intro m
    exact ofText_jsonIn (List.Perm.refl _)
  · intro m ps h
    exact ofText_jsonIn h
  · intro m w t rest hw ht
    exact ofText_of_presents hw ht rest
  · intro w t rest hw ht
    obtain ⟨v, hv, fault, hread⟩ := ht.exists_value
    rw [ofText_of_reads hw hv, hread]
    exact ⟨fault, rfl⟩

/-- The report of a like. -/
def likeReport : Message := ⟨"like", .ofList [("biz", "8"), ("n", "1")]⟩

/-- A presentation of it: the tag comes last, with an escape in its key, and a member that nobody
asked for comes first. -/
def roundabout : List Char :=
  ("\x7b \"x\" : [\x7b\"Type\":\"\\ud800\"\x7d,null]," ++
    "\"Metadata\":\x7b\"n\":\"1\",\"biz\":\"8\"\x7d, " ++
    "\"T\\u0079pe\":\"like\"\x7d").toList

/-- The same with the tag twice. -/
def twice : List Char := "\x7b\"Type\":\"like\",\"Type\":\"like\"\x7d".toList

/-- The member that nobody asked for. -/
def unasked : Binding :=
  ⟨"x".toList, " : ".toList, "[\x7b\"Type\":\"\\ud800\"\x7d,null]".toList⟩

/-- The member with an escape in its key. -/
def escapedTag : Binding := ⟨"T\\u0079pe".toList, [':'], quote "like".toList⟩

theorem sound_unasked : Sound unasked.value := by
  have hblank : Blank [] := List.forall_mem_nil _
  have hkey : Body "Type".toList := (spells_flatMap_escape "Type".toList).body
  have hd : IsHexDigit 'd' 13 := ⟨by decide, .inl rfl⟩
  have h8 : IsHexDigit '8' 8 := ⟨by decide, .inl rfl⟩
  have h0 : IsHexDigit '0' 0 := ⟨by decide, .inl rfl⟩
  have hhalf : Body "\\ud800".toList := ⟨_, .cons (.unit hd h8 h0 h0) .nil⟩
  have hinner : Sound "\x7b\"Type\":\"\\ud800\"\x7d".toList :=
    @Sound.object [⟨"Type".toList, [':'], inQuotes "\\ud800".toList⟩] _ (.one hblank hblank)
      (by simpa using hkey) (by simpa using isColon_compact) (by simpa using Sound.string hhalf)
  exact @Sound.array ["\x7b\"Type\":\"\\ud800\"\x7d".toList, "null".toList] _
    (.more hblank hblank (.one hblank hblank)) (by simpa using ⟨hinner, Sound.null⟩)

theorem presents_roundabout : likeReport.Presents roundabout := by
  have hblank : Blank [] := List.forall_mem_nil _
  have hspace : Blank [' '] := by decide
  have h0 : IsHexDigit '0' 0 := ⟨by decide, .inl rfl⟩
  have h7 : IsHexDigit '7' 7 := ⟨by decide, .inl rfl⟩
  have h9 : IsHexDigit '9' 9 := ⟨by decide, .inl rfl⟩
  have hkey : Spells "T\\u0079pe".toList "Type".toList :=
    .char (.plain (by decide) (by decide) (by decide))
      (@Spells.unit 0x79 "\\u0079".toList _ _ (.unit h0 h0 h7 h9) (by decide) (by decide)
        (spells_flatMap_escape "pe".toList))
  have hunasked : likeReport.Shows "x" unasked :=
    { key := spells_flatMap_escape "x".toList
      colon := ⟨[' '], [' '], hspace, hspace, rfl⟩
      tag := fun h => absurd h (by decide)
      metadata := fun h => absurd h (by decide)
      other := fun _ _ => sound_unasked }
  have hbag : likeReport.Shows "Metadata" (.compact "Metadata"
      (textMapText [("n", "1"), ("biz", "8")])) :=
    { key := spells_flatMap_escape _
      colon := isColon_compact
      tag := fun h => absurd h (by decide)
      metadata := fun _ => ⟨[("n", "1"), ("biz", "8")], by decide +kernel, spellsMap_textMapText _⟩
      other := fun _ h => absurd rfl h }
  have htag : likeReport.Shows "Type" escapedTag :=
    { key := hkey
      colon := isColon_compact
      tag := fun _ => literalOf_quote "like"
      metadata := fun h => absurd h (by decide)
      other := fun h => absurd rfl h }
  exact @Presents.object likeReport _ [unasked, _, escapedTag] _
    (.more hspace hblank (.more hblank hblank (.one hspace hblank)))
    (.cons hunasked (.cons hbag (.cons htag .nil))) (by decide) (by decide)
    fun h => absurd h (by decide)

theorem miscounts_twice : Miscounts twice := by
  have hblank : Blank [] := List.forall_mem_nil _
  have htag : Named (some "Type") (.compact "Type" (quote "like".toList)) :=
    { key := .spelled (spells_flatMap_escape _)
      colon := isColon_compact
      value := .string (spells_flatMap_escape "like".toList).body }
  exact @Miscounts.object _ [_, _] _ (.more hblank hblank (.one hblank hblank))
    (.cons htag (.cons htag .nil)) (by decide)

/-- A presentation that is followed by a line feed is read, one that is followed by another bracket
is refused, and so is an object with the tag twice. -/
theorem ofText_presentation_roundabout :
    likeReport.Presents roundabout ∧ Miscounts twice ∧ BlankBytes [0x0A] ∧ ¬BlankBytes [0x7D] ∧
      ofText (glyphs (utf8 (likeReport.jsonIn [("n", "1"), ("biz", "8")]))) = .ok likeReport ∧
      ofText (glyphs (utf8 ([' '] ++ roundabout) ++ [0x0A])) = .ok likeReport ∧
      ofText (glyphs (utf8 ([' '] ++ roundabout) ++ [0x7D])) = .error (.damaged .malformed) ∧
      ∃ fault, ofText (glyphs (utf8 ([' '] ++ twice) ++ [])) = .error (.damaged fault) := by
  have hline : BlankBytes [0x0A] := by decide
  have hbracket : ¬BlankBytes [0x7D] := by decide
  have hperm : [("n", "1"), ("biz", "8")].Perm likeReport.metadata.pairs := by decide +kernel
  obtain ⟨-, hwritten, hpresented, hrefused⟩ := ofText_presentation
  have hspace : Blank [' '] := by decide
  have hread := hpresented likeReport [' '] roundabout
  refine ⟨presents_roundabout, miscounts_twice, hline, hbracket, hwritten _ _ hperm, ?_, ?_, ?_⟩
  · rw [hread [0x0A] hspace presents_roundabout, if_pos hline]
  · rw [hread [0x7D] hspace presents_roundabout, if_neg hbracket]
  · exact hrefused [' '] twice [] hspace miscounts_twice

end Message

end ActivityFeed
