import ActivityFeed.Mailbox.Row
import ActivityFeed.Proofs.Parsing

/-!
# Writing a bag and reading it back

A bag is stored as a JSON text. This file reads that text again, from the characters to the bag:

* an object of texts can be spelled in many ways (`ActivityFeed.Json.SpellsMap`), of which the
  written text is one (`ActivityFeed.Json.spellsMap_textMapText`);
* each of them is read as the pairs that it was written for
  (`ActivityFeed.Json.readString_spellsMap`);
* the pairs of a bag make up that bag in any order (`ActivityFeed.Bag.ofList_of_perm`), so reading
  the text gives the bag (`ActivityFeed.Bag.ofContent?_content`).

Nothing is asked of the texts: quotes, control characters and characters beyond the first plane come
back as they were.
-/

namespace ActivityFeed

namespace Json

/-! ### Objects of texts -/

/-- A member as it is written spells a pair of texts. -/
structure SpellsPair (e : Binding) (p : String × String) : Prop where
  /-- The key is the first text. -/
  key : Spells e.key p.1.toList
  /-- A colon follows. -/
  colon : IsColon e.colon
  /-- The value is the second text. -/
  value : LiteralOf p.2 e.value

/-- An object as it is written spells pairs of texts. -/
inductive SpellsMap (ps : List (String × String)) : List Char → Prop where
  /-- Its members spell the pairs, one by one. -/
  | mk {es : List Binding} {t : List Char} (ht : Listed (es.map Binding.text) t)
      (hes : List.Forall₂ SpellsPair es ps) : SpellsMap ps (inBraces t)

/-- The member that a pair of texts makes. -/
def textMember (p : String × String) : Member := (some p.1, .string (some p.2))

theorem SpellsPair.readsBinding {e : Binding} {p : String × String} (h : SpellsPair e p) :
    ReadsBinding e (textMember p) :=
  ⟨scan_literal h.key, h.colon, (reads_literal h.value).reads⟩

/-- **An object of texts is read with the texts that it spells.** -/
theorem reads_spellsMap {ps : List (String × String)} {t : List Char} (h : SpellsMap ps t) :
    ReadsClosed t (.object (ps.map textMember) .closed) := by
  obtain ⟨ht, hes⟩ := h
  exact reads_object ht (List.forall₂_map_right_iff.mpr (hes.imp fun _ _ h => h.readsBinding))

theorem readTextMap_object (ps : List (String × String)) :
    readTextMap (.object (ps.map textMember) .closed) = .ok ps := by
  have hmembers : readTextMembers (ps.map textMember) = .ok ps := by
    induction ps with
    | nil => rfl
    | cons p ps ih =>
      rw [List.map_cons, textMember, readTextMembers, ih]
      rfl
  rw [readTextMap, hmembers]
  rfl

/-- **A text that spells pairs is read as these pairs**, with white space around it. -/
theorem readString_spellsMap {ps : List (String × String)} {w t w' : List Char} (hw : Blank w)
    (ht : SpellsMap ps t) (hw' : Blank w') :
    readString readTextMap (String.ofList (w ++ (t ++ w'))) = .ok ps := by
  have hend : scan (Text.ofChars w') = [] := by
    have h := scan_blank hw' []
    rwa [List.append_nil, scan] at h
  rw [readString, String.toList_ofList, ← List.append_assoc, ofChars_append,
    read_of_reads hw (reads_spellsMap ht), readTextMap_object]
  exact if_pos hend

/-! ### The written text -/

/-- Compact writing puts the commas where they belong. -/
theorem listed_commaSeparated (ts : List (List Char)) : Listed ts (commaSeparated ts) := by
  have hblank : Blank [] := List.forall_mem_nil _
  induction ts with
  | nil => exact .nil hblank
  | cons t ts ih =>
    cases ts with
    | nil =>
      have h := Listed.one (x := t) hblank hblank
      rwa [List.append_nil] at h
    | cons u ts => exact .more hblank hblank ih

/-- A member in compact writing. -/
def Binding.compact (key : String) (value : List Char) : Binding :=
  ⟨key.toList.flatMap escape, [':'], value⟩

theorem isColon_compact : IsColon [':'] :=
  ⟨[], [], List.forall_mem_nil _, List.forall_mem_nil _, rfl⟩

/-- A written object stands in its brackets, member by member. -/
theorem objectText_eq (members : List (String × List Char)) :
    objectText members = inBraces (commaSeparated
      ((members.map fun m => Binding.compact m.1 m.2).map Binding.text)) := by
  rw [objectText, List.map_map]
  rfl

theorem spellsPair_compact (p : String × String) :
    SpellsPair (.compact p.1 (quote p.2.toList)) p :=
  ⟨spells_flatMap_escape p.1.toList, isColon_compact, literalOf_quote p.2⟩

/-- **A written object of texts spells the pairs that it was written for.** -/
theorem spellsMap_textMapText (ps : List (String × String)) : SpellsMap ps (textMapText ps) := by
  rw [textMapText, objectText_eq]
  refine .mk (listed_commaSeparated _) ?_
  rw [List.map_map]
  exact List.forall₂_map_left_iff.mpr (List.forall₂_same.mpr fun p _ => spellsPair_compact p)

end Json

/-! ### The bag -/

namespace Bag

/-- Where names differ, the look-up finds every pair. -/
theorem lookup_eq_some_iff_mem {ps : List (String × String)} {k v : String}
    (h : ps.Pairwise fun p q => p.1 ≠ q.1) : ps.lookup k = some v ↔ (k, v) ∈ ps := by
  induction ps with
  | nil => simp
  | cons p ps ih =>
    obtain ⟨k', v'⟩ := p
    obtain ⟨hp, hps⟩ := List.pairwise_cons.mp h
    rw [lookup_cons_eq_ite, List.mem_cons, Prod.mk.injEq]
    by_cases hk : k = k'
    · subst hk
      rw [if_pos rfl, Option.some_inj, and_iff_right rfl, eq_comm]
      exact (or_iff_left fun hmem => hp (k, v) hmem rfl).symm
    · rw [if_neg hk, ih hps]
      exact (or_iff_right fun h => hk h.1).symm

/-- **The pairs of a bag make up that bag in any order.** -/
theorem ofList_of_perm {b : Bag} {ps : List (String × String)} (h : ps.Perm b.pairs) :
    ofList ps = b := by
  have hne : b.pairs.Pairwise fun p q => p.1 ≠ q.1 := by
    refine List.Pairwise.imp ?_ b.ascending
    exact fun h he => String.lt_irrefl _ (he ▸ h)
  have hperm : ps.reverse.Perm b.pairs := ps.reverse_perm.trans h
  -- of equal names the last would win, hence the reversal; here no two names are equal
  refine ext_get? fun k => Option.ext fun v => ?_
  rw [get?_ofList, get?, lookup_eq_some_iff_mem hne, lookup_eq_some_iff_mem, hperm.mem_iff]
  exact hperm.symm.pairwise hne fun h => h.symm

/-- A text that spells the pairs of a bag in any order is read as the bag. -/
theorem ofContent?_spellsMap {b : Bag} {ps : List (String × String)} {w t w' : List Char}
    (hps : ps.Perm b.pairs) (hw : Json.Blank w) (ht : Json.SpellsMap ps t) (hw' : Json.Blank w') :
    ofContent? (String.ofList (w ++ (t ++ w'))) = .ok b := by
  rw [ofContent?, Json.readString_spellsMap hw ht hw']
  exact congrArg Except.ok (ofList_of_perm hps)

/-- The written pairs of a bag are read as the bag, in whatever order they were written. -/
theorem ofContent?_textMapText {b : Bag} {ps : List (String × String)} (hps : ps.Perm b.pairs) :
    ofContent? (String.ofList (Json.textMapText ps)) = .ok b := by
  have h := ofContent?_spellsMap hps (List.forall_mem_nil _) (Json.spellsMap_textMapText ps)
    (List.forall_mem_nil _)
  rwa [List.nil_append, List.append_nil] at h

/-- **A stored bag is read back as it was.** -/
theorem ofContent?_content (b : Bag) : ofContent? b.content = .ok b :=
  ofContent?_textMapText (List.Perm.refl _)

theorem ofContent_of_ok {b : Bag} {s : String} (h : ofContent? s = .ok b) : ofContent s = b := by
  rw [ofContent, h]

theorem ofContent_content (b : Bag) : ofContent b.content = b :=
  ofContent_of_ok (ofContent?_content b)

/-- What is read as a bag gives no cause for a report. -/
theorem contentNotices_of_ok {b : Bag} {s : String} (h : ofContent? s = .ok b) :
    contentNotices s = [] := by
  rw [contentNotices, isDamaged, h]
  rfl

/-- **Storage loses nothing of a bag**: its text is read back as the bag, in whatever order the
names are written and whatever white space stands around the text, and nothing is reported. -/
theorem content_lossless (b : Bag) :
    ofContent b.content = b ∧
      ∀ ps w w', ps.Perm b.pairs → Json.Blank w → Json.Blank w' →
        ∀ s, s = String.ofList (w ++ (Json.textMapText ps ++ w')) →
          ofContent? s = .ok b ∧ ofContent s = b ∧ contentNotices s = [] := by
  constructor
  · exact ofContent_content b
  · rintro ps w w' hps hw hw' s rfl
    have hread := ofContent?_spellsMap hps hw (Json.spellsMap_textMapText ps) hw'
    exact ⟨hread, ofContent_of_ok hread, contentNotices_of_ok hread⟩

/-- A bag with characters that are escaped, and with others that look as if they had to be. -/
def peculiar : Bag :=
  ofList [("", "/"), ("\"\\\x08\x0c\n\r\t", "\x00\x1f\x7f"), ("\u2028", "😀\uffff")]

/-- The names of such a bag may be written in the opposite order, with blanks around the text. -/
theorem content_lossless_peculiar :
    peculiar.pairs.reverse.Perm peculiar.pairs ∧ Json.Blank "\r\n ".toList ∧
      Json.Blank "\t".toList ∧
      ofContent ("\r\n \x7b\"\u2028\":\"😀\uffff\",\"\\\"\\\\\\b\\f\\n\\r\\t\":" ++
        "\"\\u0000\\u001f\x7f\",\"\":\"/\"\x7d\t") = peculiar := by
  have hperm : peculiar.pairs.reverse.Perm peculiar.pairs := List.reverse_perm _
  have hbefore : Json.Blank "\r\n ".toList := by decide
  have hafter : Json.Blank "\t".toList := by decide
  refine ⟨hperm, hbefore, hafter, ?_⟩
  refine ((content_lossless peculiar).2 _ _ _ hperm hbefore hafter _ ?_).2.1
  decide +kernel

end Bag

end ActivityFeed
