import ActivityFeed.Proofs.Content
import ActivityFeed.Proofs.Recovery
import ActivityFeed.Proofs.Work

/-!
# Damaged texts

A stored text is a bag as a whole or not at all. If a bag is read from it, then the text is an
object of texts, with white space around it at most, and the bag holds all of its members
(`ActivityFeed.Bag.ofContent?_eq_ok_iff`). Every other text is read as the empty bag.

So it is enough to know which texts are objects of texts. If one of them is written in front of
another text and the whole is one again, then only white space was added
(`ActivityFeed.Json.ObjectOf.blank_of_append`). As an object ends with its bracket, nothing that
breaks off in front of the bracket is one, and neither is anything that goes on behind it. Where the
text breaks off, within an escape or between two members, is never asked.
-/

namespace ActivityFeed

namespace Json

open Text

/-- The text is an object of texts with the given pairs, with white space around it. -/
def ObjectOf (ps : List (String × String)) (s : List Char) : Prop :=
  ∃ w t w', s = w ++ (t ++ w') ∧ Blank w ∧ SpellsMap ps t ∧ Blank w'

/-! ### From the pairs back to the text -/

/-- A pair stands in the text as a member that spells it. -/
theorem exists_of_scan_pair {s : List Char} {p : String × String} {ts : List Token}
    (h : scan (ofChars s) = bindingTokens (textMember p) ++ ts) :
    ∃ w e s', s = w ++ (Binding.text e ++ s') ∧ Blank w ∧ SpellsPair e p ∧
      scan (ofChars s') = ts := by
  obtain ⟨w, key, s₁, rfl, hw, hkey, h₁⟩ := exists_of_scan_string h
  obtain ⟨u, s₂, rfl, hu, h₂⟩ := exists_of_scan_mark (c := ':') rfl h₁
  obtain ⟨u', value, s₃, rfl, hu', hvalue, h₃⟩ := exists_of_scan_string h₂
  refine ⟨w, ⟨key, u ++ ':' :: u', inQuotes value⟩, s₃, ?_, hw,
    ⟨hkey, ⟨u, u', hu, hu', rfl⟩, value, hvalue, rfl⟩, h₃⟩
  simp only [Binding.text, List.append_assoc, List.cons_append]

/-- **Pairs stand in the text as the members of an object.** -/
theorem exists_of_scan_pairs {ps : List (String × String)} {s : List Char} {ts : List Token}
    (h : scan (ofChars s) =
      separated (ps.map fun p => bindingTokens (textMember p)) ++ .closeBrace :: ts) :
    ∃ es t s', s = t ++ '\x7d' :: s' ∧ Listed (es.map Binding.text) t ∧
      List.Forall₂ SpellsPair es ps ∧ scan (ofChars s') = ts := by
  induction ps generalizing s with
  | nil =>
    obtain ⟨w, s', rfl, hw, hrest⟩ := exists_of_scan_mark (c := '\x7d') rfl h
    exact ⟨[], w, s', rfl, .nil hw, .nil, hrest⟩
  | cons p ps ih =>
    cases ps with
    | nil =>
      rw [List.map_singleton, separated, List.flatMap_nil, List.append_nil] at h
      obtain ⟨w, e, s₁, rfl, hw, he, h₁⟩ := exists_of_scan_pair h
      obtain ⟨w', s', rfl, hw', hrest⟩ := exists_of_scan_mark (c := '\x7d') rfl h₁
      refine ⟨[e], w ++ (e.text ++ w'), s', ?_, .one hw hw', .cons he .nil, hrest⟩
      simp only [List.append_assoc]
    | cons q ps =>
      rw [List.map_cons, List.map_cons, separated_cons_cons, List.append_assoc] at h
      obtain ⟨w, e, s₁, rfl, hw, he, h₁⟩ := exists_of_scan_pair h
      obtain ⟨w', s₂, rfl, hw', h₂⟩ := exists_of_scan_mark (c := ',') rfl h₁
      obtain ⟨es, t, s', rfl, ht, hes, hrest⟩ := ih h₂
      obtain ⟨f, fs, -, -, rfl⟩ := List.forall₂_cons_right_iff.mp hes
      refine ⟨e :: f :: fs, w ++ (e.text ++ (w' ++ ',' :: t)), s', ?_, .more hw hw' ht,
        .cons he hes, hrest⟩
      simp only [List.append_assoc, List.cons_append]

/-- White space is what has no words. -/
theorem blank_of_scan {s : List Char} (h : scan (ofChars s) = []) : Blank s := by
  intro c hc
  exact isSpace_iff.mp (scan_eq_nil_iff.mp h (some c) (List.mem_map_of_mem hc))

/-- **The words of an object of texts are found in its texts only.** -/
theorem objectOf_of_scan {ps : List (String × String)} {s : List Char}
    (h : scan (ofChars s) = (Value.object (ps.map textMember) .closed).tokens) :
    ObjectOf ps s := by
  rw [tokens_object, List.map_map] at h
  obtain ⟨w, s₁, rfl, hw, h₁⟩ := exists_of_scan_mark (c := '\x7b') rfl h
  obtain ⟨es, t, w', rfl, ht, hes, h₂⟩ := exists_of_scan_pairs h₁
  refine ⟨w, inBraces t, w', ?_, hw, .mk ht hes, blank_of_scan h₂⟩
  simp only [inBraces, List.cons_append, List.append_assoc, List.nil_append]

/-! ### Reading an object of texts -/

theorem readText_eq_ok {v : Value} {s : String} (h : readText v = .ok s) :
    v = .string (some s) := by
  unfold readText readTextAs at h
  split at h
  · cases h
    rfl
  · cases h

theorem readTextMembers_eq_ok {ms : List Member} {ps : List (String × String)}
    (h : readTextMembers ms = .ok ps) : ms = ps.map textMember := by
  induction ms generalizing ps with
  | nil =>
    cases h
    rfl
  | cons m ms ih =>
    rcases m with ⟨_ | k, v⟩
    · cases h
    · obtain ⟨s, hs, hrest⟩ := except_bind_eq_ok.mp h
      obtain ⟨qs, hqs, he⟩ := except_bind_eq_ok.mp hrest
      obtain rfl := Except.ok.inj he
      rw [List.map_cons, ← ih hqs, readText_eq_ok hs, textMember]

/-- **Only a closed object of texts is read as pairs of texts.** -/
theorem readTextMap_eq_ok_iff {v : Value} {ps : List (String × String)} :
    readTextMap v = .ok ps ↔ v = .object (ps.map textMember) .closed := by
  constructor
  · intro h
    unfold readTextMap at h
    split at h
    · rename_i ms ending
      obtain ⟨qs, hqs, hrest⟩ := except_bind_eq_ok.mp h
      obtain ⟨⟨⟩, hclosed, he⟩ := except_bind_eq_ok.mp hrest
      obtain rfl := Except.ok.inj he
      cases ending with
      | closed => rw [readTextMembers_eq_ok hqs]
      | cut => cases hclosed
    · cases h
  · rintro rfl
    exact readTextMap_object ps

/-- **Pairs of texts are read from the texts of such objects only.** -/
theorem readString_eq_ok_iff {s : String} {ps : List (String × String)} :
    readString readTextMap s = .ok ps ↔ ObjectOf ps s.toList := by
  constructor
  · intro h
    obtain ⟨qs, hread, hended⟩ := except_bind_eq_ok.mp h
    split at hended
    · rename_i hend
      obtain rfl := Except.ok.inj hended
      have hroot := readTextMap_eq_ok_iff.mp hread
      refine objectOf_of_scan ?_
      rw [← hroot]
      refine (tokens_root_of_ended hend ?_).symm
      rw [Document.ofText] at hroot
      rw [hroot]
      exact id
    · cases hended
  · rintro ⟨w, t, w', hs, hw, ht, hw'⟩
    rw [← String.ofList_toList (s := s), hs]
    exact readString_spellsMap hw ht hw'

/-- **Nothing but white space goes on behind an object of texts**, if the whole is one. -/
theorem ObjectOf.blank_of_append {ps qs : List (String × String)} {s rest : List Char}
    (h : ObjectOf ps s) (hwhole : ObjectOf qs (s ++ rest)) : Blank rest := by
  obtain ⟨w, t, w', rfl, hw, ht, -⟩ := h
  have hread : readString readTextMap (String.ofList ((w ++ (t ++ w')) ++ rest)) = .ok qs := by
    rw [readString_eq_ok_iff, String.toList_ofList]
    exact hwhole
  have hsplit : ofChars ((w ++ (t ++ w')) ++ rest) = ofChars (w ++ t) ++ ofChars (w' ++ rest) := by
    simp only [ofChars_append, List.append_assoc]
  rw [readString, String.toList_ofList, hsplit, read_of_reads hw (reads_spellsMap ht),
    readTextMap_object] at hread
  -- the object is read as its pairs, so what decides is whether anything follows
  have hend : scan (ofChars (w' ++ rest)) = [] := by
    by_contra hne
    have herror : (if scan (ofChars (w' ++ rest)) = [] then Except.ok ps
        else Except.error Fault.malformed) = .ok qs := hread
    rw [if_neg hne] at herror
    cases herror
  exact fun c hc => blank_of_scan hend c (List.mem_append_right w' hc)

theorem objectOf_of_spellsMap {ps : List (String × String)} {t : List Char}
    (h : SpellsMap ps t) : ObjectOf ps t :=
  ⟨[], t, [], by rw [List.append_nil, List.nil_append], List.forall_mem_nil _, h,
    List.forall_mem_nil _⟩

/-- **An object of texts that breaks off is none.** -/
theorem not_objectOf_of_prefix {ps qs : List (String × String)} {t p : List Char}
    (ht : SpellsMap ps t) (hp : p <+: t) (hne : p ≠ t) : ¬ObjectOf qs p := by
  intro h
  obtain ⟨rest, rfl⟩ := hp
  have hblank := h.blank_of_append (objectOf_of_spellsMap ht)
  -- the rest is not empty, so the closing bracket is in it
  have hlast : (p ++ rest).getLast? = some '\x7d' := by
    generalize p ++ rest = t at ht
    obtain ⟨-, -⟩ := ht
    rw [inBraces, List.getLast?_cons, List.getLast?_concat]
    rfl
  rcases List.eq_nil_or_concat rest with rfl | ⟨rest, c, rfl⟩
  · exact hne (List.append_nil p).symm
  · rw [List.concat_eq_append, ← List.append_assoc, List.getLast?_concat] at hlast
    obtain rfl := Option.some.inj hlast
    exact absurd (hblank '\x7d' (by simp)) (by decide)

/-- **An object of texts that goes on is none**, unless it goes on with white space. -/
theorem not_objectOf_append {ps qs : List (String × String)} {t junk : List Char}
    (ht : SpellsMap ps t) (hjunk : ¬Blank junk) : ¬ObjectOf qs (t ++ junk) :=
  fun h => hjunk ((objectOf_of_spellsMap ht).blank_of_append h)

end Json

/-! ### Bags -/

namespace Bag

/-- **A bag is read from an object of texts, and it holds all of its pairs.** -/
theorem ofContent?_eq_ok_iff {s : String} {b : Bag} :
    ofContent? s = .ok b ↔ ∃ ps, Json.ObjectOf ps s.toList ∧ ofList ps = b := by
  rw [ofContent?, except_map_eq_ok]
  simp only [Json.readString_eq_ok_iff]

/-- Every other text is read as the empty bag. -/
theorem ofContent_of_not_objectOf {s : String} (h : ∀ ps, ¬Json.ObjectOf ps s.toList) :
    ofContent s = empty := by
  rw [ofContent]
  cases hread : ofContent? s with
  | error e => rfl
  | ok b =>
    obtain ⟨ps, hps, -⟩ := ofContent?_eq_ok_iff.mp hread
    exact absurd hps (h ps)

/-- **A stored text is read as a whole or not at all.** Take the text of a bag, with its names in any
order. Whatever is left of it in front of a place where it breaks off is read as the empty bag, and
so is the whole text with anything behind it that is not white space. And every text at all is
either an object of texts, and then each name has the last of the texts that stand there for it and
there are no other names, or it is none and read as the empty bag. -/
theorem ofContent_whole_or_empty :
    (∀ (b : Bag) (ps : List (String × String)), ps.Perm b.pairs →
      (∀ p, p <+: Json.textMapText ps → p ≠ Json.textMapText ps →
        ofContent (String.ofList p) = empty) ∧
      ∀ junk, ¬Json.Blank junk →
        ofContent (String.ofList (Json.textMapText ps ++ junk)) = empty) ∧
      ∀ s : String,
        (∃ ps, Json.ObjectOf ps s.toList ∧ ∀ k, (ofContent s).get? k = ps.reverse.lookup k) ∨
          (∀ ps, ¬Json.ObjectOf ps s.toList) ∧ ofContent s = empty := by
  refine ⟨fun b ps _ => ⟨fun p hp hne => ?_, fun junk hjunk => ?_⟩, fun s => ?_⟩
  · refine ofContent_of_not_objectOf fun qs => ?_
    rw [String.toList_ofList]
    exact Json.not_objectOf_of_prefix (Json.spellsMap_textMapText ps) hp hne
  · refine ofContent_of_not_objectOf fun qs => ?_
    rw [String.toList_ofList]
    exact Json.not_objectOf_append (Json.spellsMap_textMapText ps) hjunk
  · by_cases h : ∃ ps, Json.ObjectOf ps s.toList
    · obtain ⟨ps, hps⟩ := h
      refine .inl ⟨ps, hps, fun k => ?_⟩
      rw [ofContent_of_ok (ofContent?_eq_ok_iff.mpr ⟨ps, hps, rfl⟩), get?_ofList]
    · have hnone := not_exists.mp h
      exact .inr ⟨hnone, ofContent_of_not_objectOf hnone⟩

/-- The text of such a bag that breaks off within an escape, and the whole text with a blank behind
it that is none for JSON. -/
theorem ofContent_whole_or_empty_peculiar :
    peculiar.pairs.reverse.Perm peculiar.pairs ∧
      "\x7b\"\u2028\":\"😀\uffff\",\"\\".toList <+: Json.textMapText peculiar.pairs.reverse ∧
      "\x7b\"\u2028\":\"😀\uffff\",\"\\".toList ≠ Json.textMapText peculiar.pairs.reverse ∧
      ofContent "\x7b\"\u2028\":\"😀\uffff\",\"\\" = empty ∧ ¬Json.Blank ['\u00a0'] ∧
      ofContent (String.ofList (Json.textMapText peculiar.pairs.reverse ++ ['\u00a0'])) = empty := by
  have hperm : peculiar.pairs.reverse.Perm peculiar.pairs := List.reverse_perm _
  have hprefix : "\x7b\"\u2028\":\"😀\uffff\",\"\\".toList <+:
      Json.textMapText peculiar.pairs.reverse := by decide +kernel
  have hne : "\x7b\"\u2028\":\"😀\uffff\",\"\\".toList ≠
      Json.textMapText peculiar.pairs.reverse := by decide +kernel
  have hjunk : ¬Json.Blank ['\u00a0'] := by decide
  obtain ⟨hcut, hmore⟩ := ofContent_whole_or_empty.1 peculiar _ hperm
  have hempty := hcut _ hprefix hne
  rw [String.ofList_toList] at hempty
  exact ⟨hperm, hprefix, hne, hempty, hjunk, hmore _ hjunk⟩

end Bag

end ActivityFeed
