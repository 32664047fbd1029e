import ActivityFeed.Json.Typed
import ActivityFeed.Proofs.Grammar
import Mathlib.Data.List.Forall2

/-!
# Values and the texts that stand for them

Above the words of `ActivityFeed.Proofs.Grammar` stand the values. Their grammar comes first:

* `ActivityFeed.Json.Listed` – parts with commas between them and blanks around each;
* `ActivityFeed.Json.Binding` – a member of an object as it is written;
* `ActivityFeed.Json.Sound` – a well-formed value, nested as deep as one likes.

Then it is read. What a text stands for does not depend on where it stands, so
`ActivityFeed.Json.Reads` speaks of every place that waits for a value and of everything that may
follow. Arrays and objects are lists of parts to a reading, and one induction
(`ActivityFeed.Json.along_listed`) goes through both. From it, every well-formed text is read as
some value (`ActivityFeed.Json.exists_reads`), and the place behind it is reached.
-/

namespace ActivityFeed

namespace Json

open Text

/-! ### The grammar of values -/

/-- Parts with commas between them and blanks around each; without a part there may be blanks. -/
inductive Listed : List (List Char) → List Char → Prop where
  /-- There is no part. -/
  | nil {w : List Char} (hw : Blank w) : Listed [] w
  /-- There is one part. -/
  | one {w x w' : List Char} (hw : Blank w) (hw' : Blank w') : Listed [x] (w ++ (x ++ w'))
  /-- There are several parts. -/
  | more {w x w' y t : List Char} {xs : List (List Char)} (hw : Blank w) (hw' : Blank w')
      (h : Listed (y :: xs) t) : Listed (x :: y :: xs) (w ++ (x ++ (w' ++ ',' :: t)))

/-- The colon between a key and its value, with the blanks around it. -/
def IsColon (t : List Char) : Prop := ∃ w w', Blank w ∧ Blank w' ∧ t = w ++ ':' :: w'

/-- A member of an object as it is written. -/
structure Binding where
  /-- The body of the literal of the key. -/
  key : List Char
  /-- The colon with its blanks. -/
  colon : List Char
  /-- The text of the value. -/
  value : List Char

/-- The text of a member. -/
def Binding.text (e : Binding) : List Char := inQuotes e.key ++ (e.colon ++ e.value)

/-- A text in the brackets of an array. -/
def inBrackets (t : List Char) : List Char := '[' :: (t ++ [']'])

/-- A text in the brackets of an object. -/
def inBraces (t : List Char) : List Char := '\x7b' :: (t ++ ['\x7d'])

/-- A well-formed value. -/
inductive Sound : List Char → Prop where
  /-- The null value. -/
  | null : Sound ['n', 'u', 'l', 'l']
  /-- The truth value "true". -/
  | yes : Sound ['t', 'r', 'u', 'e']
  /-- The truth value "false". -/
  | no : Sound ['f', 'a', 'l', 's', 'e']
  /-- A number. -/
  | number {t : List Char} (h : IsNumber t) : Sound t
  /-- A string. -/
  | string {b : List Char} (h : Body b) : Sound (inQuotes b)
  /-- An array. -/
  | array {xs : List (List Char)} {t : List Char} (ht : Listed xs t) (h : ∀ x ∈ xs, Sound x) :
      Sound (inBrackets t)
  /-- An object. -/
  | object {es : List Binding} {t : List Char} (ht : Listed (es.map Binding.text) t)
      (hk : ∀ e ∈ es, Body e.key) (hc : ∀ e ∈ es, IsColon e.colon) (h : ∀ e ∈ es, Sound e.value) :
      Sound (inBraces t)

/-! ### Readings go along texts -/

/-- The reading after the words of a text. -/
def Reading.along (r : Reading) (s : List Glyph) : Reading := (scan s).foldl Reading.step r

theorem along_of_scan {s s' : List Glyph} {t : Token} (h : scan s = t :: scan s') (r : Reading) :
    r.along s = (r.step t).along s' := by
  rw [Reading.along, h, List.foldl_cons]
  rfl

theorem along_blank {w : List Char} (h : Blank w) (r : Reading) (s : List Glyph) :
    r.along (ofChars w ++ s) = r.along s := by
  rw [Reading.along, scan_blank h]
  rfl

theorem along_mark {c : Char} {t : Token} (h : mark? c = some t) (r : Reading) (s : List Glyph) :
    r.along (some c :: s) = (r.step t).along s :=
  along_of_scan (scan_mark h s) r

theorem numberEnds_mark {c : Char} {t : Token} (h : mark? c = some t) (s : List Glyph) :
    NumberEnds (some c :: s) := by
  rintro d r ⟨rfl, -⟩
  unfold mark? at h
  split at h
  case h_7 => cases h
  all_goals decide

theorem numberEnds_blank {w : List Char} (hw : Blank w) {s : List Glyph} (hs : NumberEnds s) :
    NumberEnds (ofChars w ++ s) := by
  cases w with
  | nil => exact hs
  | cons d w =>
    rintro c r ⟨rfl, -⟩
    have hd := hw d List.mem_cons_self
    simp only [List.mem_cons, List.not_mem_nil, or_false] at hd
    rcases hd with rfl | rfl | rfl | rfl <;> decide

/-- **Parts with commas between them are read one after the other.** What a part is, which readings
wait for one and which come after one is left open, since arrays and objects differ in that
alone. -/
theorem along_listed {α : Type} (Part : List Char → α → Prop) (Waits : Reading → List α → Prop)
    (done : List α → Reading)
    (hpart : ∀ {x a r rev s}, Part x a → Waits r rev → NumberEnds s →
      r.along (ofChars x ++ s) = (done (a :: rev)).along s)
    (hcomma : ∀ rev, Waits ((done rev).step .comma) rev) {xs : List (List Char)} {t : List Char}
    (ht : Listed xs t) :
    ∀ {as : List α} {r : Reading} {rev : List α} {s : List Glyph}, xs ≠ [] →
      List.Forall₂ Part xs as → Waits r rev → NumberEnds s →
        r.along (ofChars t ++ s) = (done (as.reverse ++ rev)).along s := by
  induction ht with
  | nil _ => exact fun hne => absurd rfl hne
  | @one w x w' hw hw' =>
    intro as r rev s _ hparts hr hs
    obtain ⟨a, as, ha, hnil, rfl⟩ := List.forall₂_cons_left_iff.mp hparts
    cases hnil
    rw [ofChars_append, ofChars_append, List.append_assoc, List.append_assoc, along_blank hw,
      hpart ha hr (numberEnds_blank hw' hs), along_blank hw']
    rfl
  | @more w x w' y t xs hw hw' _ ih =>
    intro as r rev s _ hparts hr hs
    obtain ⟨a, as, ha, has, rfl⟩ := List.forall₂_cons_left_iff.mp hparts
    have hcommas : ofChars (w ++ (x ++ (w' ++ ',' :: t))) ++ s =
        ofChars w ++ (ofChars x ++ (ofChars w' ++ some ',' :: (ofChars t ++ s))) := by
      simp only [ofChars, List.map_append, List.map_cons, List.append_assoc, List.cons_append]
    have hends : NumberEnds (ofChars w' ++ some ',' :: (ofChars t ++ s)) :=
      numberEnds_blank hw' (numberEnds_mark (t := .comma) rfl _)
    rw [hcommas, along_blank hw, hpart ha hr hends, along_blank hw',
      along_mark (t := .comma) rfl, ih (List.cons_ne_nil y xs) has (hcomma _) hs,
      List.reverse_cons, List.append_assoc]
    rfl

/-! ### What a text stands for -/

/-- The reading goes on with a value, in the given surroundings. -/
def Awaits (r : Reading) (around : List Frame) : Prop :=
  ∀ t r', Reading.begin? around t = some r' → r.step t = r'

theorem awaits_value (around : List Frame) : Awaits (.value around) around := by
  intro t r' h
  rw [Reading.step, Reading.step?, h, Option.getD_some]

theorem awaits_firstItem (around : List Frame) :
    Awaits (.firstItem around) (.items [] :: around) := by
  intro t r' h
  have hne : t ≠ .closeBracket := by
    rintro rfl
    cases h
  have hstep : Reading.step? (.firstItem around) t = Reading.begin? (.items [] :: around) t := by
    cases t with
    | closeBracket => exact absurd rfl hne
    | _ => rfl
  rw [Reading.step, hstep, h, Option.getD_some]

/-- Wherever a value may stand, the text is read as the value `v`, whatever follows. -/
def ReadsClosed (t : List Char) (v : Value) : Prop :=
  ∀ ⦃r : Reading⦄ ⦃around : List Frame⦄, Awaits r around →
    ∀ s, r.along (ofChars t ++ s) = (Reading.plug v around).along s

/-- Wherever a value may stand, the text is read as the value `v`, if what follows does not go on
with a number. -/
def Reads (t : List Char) (v : Value) : Prop :=
  ∀ ⦃r : Reading⦄ ⦃around : List Frame⦄ ⦃s : List Glyph⦄, Awaits r around → NumberEnds s →
    r.along (ofChars t ++ s) = (Reading.plug v around).along s

theorem ReadsClosed.reads {t : List Char} {v : Value} (h : ReadsClosed t v) : Reads t v :=
  fun _ _ s hr _ => h hr s

/-- A single word is read as a value if values can begin and end with it. -/
theorem reads_of_scan {t : List Char} {tok : Token} {v : Value}
    (hscan : ∀ s, NumberEnds s → scan (ofChars t ++ s) = tok :: scan s)
    (hbegin : ∀ around, Reading.begin? around tok = some (Reading.plug v around)) : Reads t v := by
  intro r around s hr hs
  rw [along_of_scan (hscan s hs), hr tok _ (hbegin around)]

theorem reads_word {c : Char} {w : List Char} {tok : Token} {v : Value} (hs : isSpace c = false)
    (hq : c ≠ '"') (hm : mark? c = none) (hw : ∀ s, word? (ofChars (c :: w) ++ s) = some (tok, s))
    (hbegin : ∀ around, Reading.begin? around tok = some (Reading.plug v around)) :
    Reads (c :: w) v := by
  have hscan : ∀ s, scan (ofChars (c :: w) ++ s) = tok :: scan s :=
    fun s => scan_word hs hq hm (hw s)
  exact reads_of_scan (fun s _ => hscan s) hbegin

theorem reads_literal {s : String} {t : List Char} (h : LiteralOf s t) :
    ReadsClosed t (.string (some s)) := by
  obtain ⟨b, hb, rfl⟩ := h
  intro r around hr rest
  rw [along_of_scan (scan_literal hb rest), hr _ _ rfl]

theorem inBrackets_append (t : List Char) (s : List Glyph) :
    ofChars (inBrackets t) ++ s = some '[' :: (ofChars t ++ some ']' :: s) := by
  simp only [inBrackets, ofChars, List.map_cons, List.map_append, List.map_nil, List.cons_append,
    List.append_assoc, List.nil_append]

theorem inBraces_append (t : List Char) (s : List Glyph) :
    ofChars (inBraces t) ++ s = some '\x7b' :: (ofChars t ++ some '\x7d' :: s) := by
  simp only [inBraces, ofChars, List.map_cons, List.map_append, List.map_nil, List.cons_append,
    List.append_assoc, List.nil_append]

/-- **The text in the brackets of an array is read item by item.** -/
theorem reads_array {xs : List (List Char)} {t : List Char} {vs : List Value} (ht : Listed xs t)
    (hvs : List.Forall₂ Reads xs vs) :
    ReadsClosed (inBrackets t) (.array vs .closed) := by
  intro r around hr s
  rw [inBrackets_append, along_mark (t := .openBracket) rfl, hr _ _ rfl]
  cases xs with
  | nil =>
    cases hvs
    cases ht with
    | nil hw =>
      rw [along_blank hw, along_mark (t := .closeBracket) rfl]
      rfl
  | cons x xs =>
    have hends : NumberEnds (some ']' :: s) := numberEnds_mark (t := .closeBracket) rfl s
    have hitems := along_listed Reads (fun r rev => Awaits r (.items rev :: around))
      (fun rev => .afterItem rev around) (fun hx hr hs => hx hr hs)
      (fun rev => awaits_value (.items rev :: around)) ht (List.cons_ne_nil x xs) hvs
      (awaits_firstItem around) hends
    rw [hitems, along_mark (t := .closeBracket) rfl, List.append_nil]
    show (Reading.plug (.array vs.reverse.reverse .closed) around).along s = _
    rw [List.reverse_reverse]

/-- The key of a member is read as the text that it spells, if it spells one. -/
def ReadsKey (b : List Char) (k : Option String) : Prop :=
  ∀ s, scan (ofChars (inQuotes b) ++ s) = .string k :: scan s

/-- A member as it is written is read as the given member. -/
structure ReadsBinding (e : Binding) (m : Member) : Prop where
  /-- The key is read. -/
  key : ReadsKey e.key m.1
  /-- A colon follows. -/
  colon : IsColon e.colon
  /-- The value is read. -/
  value : Reads e.value m.2

/-- The text of a member is read as the given member. -/
def ReadsMember (t : List Char) (m : Member) : Prop := ∃ e : Binding, t = e.text ∧ ReadsBinding e m

/-- The reading goes on with a key. -/
def AwaitsKey (around : List Frame) (r : Reading) (rev : List Member) : Prop :=
  ∀ k, r.step (.string k) = .colon rev k around

/-- A member is read with its key, its colon and its value. -/
theorem along_member {t : List Char} {m : Member} {around : List Frame} {r : Reading}
    {rev : List Member} {s : List Glyph} (ht : ReadsMember t m) (hr : AwaitsKey around r rev)
    (hs : NumberEnds s) :
    r.along (ofChars t ++ s) = (Reading.afterMember (m :: rev) around).along s := by
  obtain ⟨e, rfl, he⟩ := ht
  obtain ⟨w, w', hw, hw', hcolon⟩ := he.colon
  have htext : ofChars e.text ++ s = ofChars (inQuotes e.key) ++
      (ofChars w ++ some ':' :: (ofChars w' ++ (ofChars e.value ++ s))) := by
    rw [Binding.text, hcolon]
    simp only [ofChars, List.map_append, List.map_cons, List.append_assoc, List.cons_append]
  rw [htext, along_of_scan (he.key _), hr, along_blank hw,
    along_mark (t := .colon) rfl, along_blank hw']
  exact he.value (awaits_value (.members rev m.1 :: around)) hs

/-- **The text in the brackets of an object is read member by member.** -/
theorem reads_object {es : List Binding} {t : List Char} {ms : List Member}
    (ht : Listed (es.map Binding.text) t) (hms : List.Forall₂ ReadsBinding es ms) :
    ReadsClosed (inBraces t) (.object ms .closed) := by
  intro r around hr s
  rw [inBraces_append, along_mark (t := .openBrace) rfl, hr _ _ rfl]
  cases hms with
  | nil =>
    cases ht with
    | nil hw =>
      rw [along_blank hw, along_mark (t := .closeBrace) rfl]
      rfl
  | @cons e m es ms he hms =>
    have hends : NumberEnds (some '\x7d' :: s) := numberEnds_mark (t := .closeBrace) rfl s
    have hparts : List.Forall₂ ReadsMember ((e :: es).map Binding.text) (m :: ms) :=
      List.forall₂_map_left_iff.mpr ((List.Forall₂.cons he hms).imp fun _ _ h => ⟨_, rfl, h⟩)
    have hfirst : AwaitsKey around (.firstKey around) [] := fun k => rfl
    have hmembers := along_listed ReadsMember (AwaitsKey around)
      (fun rev => .afterMember rev around) along_member (fun rev k => rfl) ht
      (List.cons_ne_nil _ _) hparts hfirst hends
    rw [hmembers, along_mark (t := .closeBrace) rfl, List.append_nil]
    show (Reading.plug (.object (m :: ms).reverse.reverse .closed) around).along s = _
    rw [List.reverse_reverse]

/-- What exists for each exists for all in their order. -/
theorem exists_forall₂ {α β : Type} {R : α → β → Prop} {xs : List α} (h : ∀ x ∈ xs, ∃ y, R x y) :
    ∃ ys, List.Forall₂ R xs ys := by
  induction xs with
  | nil => exact ⟨[], .nil⟩
  | cons x xs ih =>
    obtain ⟨y, hy⟩ := h x List.mem_cons_self
    obtain ⟨ys, hys⟩ := ih fun z hz => h z (List.mem_cons_of_mem x hz)
    exact ⟨y :: ys, .cons hy hys⟩

/-- Two lists that are related through something for each place are related through a list. -/
theorem exists_between {α β γ : Type} {R : α → β → Prop} {S : β → γ → Prop} {T : α → γ → Prop}
    {as : List α} {bs : List β} (h : List.Forall₂ R as bs)
    (hR : ∀ a b, R a b → ∃ c, S b c ∧ T a c) :
    ∃ cs, List.Forall₂ S bs cs ∧ List.Forall₂ T as cs := by
  induction h with
  | nil => exact ⟨[], .nil, .nil⟩
  | cons hab _ ih =>
    obtain ⟨c, hs, ht⟩ := hR _ _ hab
    obtain ⟨cs, hss, hts⟩ := ih
    exact ⟨c :: cs, .cons hs hss, .cons ht hts⟩

/-- A well-formed key is read, whether it spells a text or not. -/
theorem exists_readsKey {b : List Char} (h : Body b) : ∃ k, ReadsKey b k := by
  obtain ⟨ps, hps⟩ := h
  exact ⟨_, scan_inQuotes hps⟩

/-- **Every well-formed value is read as some value**, however deep it is nested. -/
theorem exists_reads {t : List Char} (h : Sound t) : ∃ v, Reads t v := by
  induction h with
  | null => exact ⟨.null, reads_word (by decide) (by decide) rfl (fun _ => rfl) fun _ => rfl⟩
  | yes => exact ⟨.bool true, reads_word (by decide) (by decide) rfl (fun _ => rfl) fun _ => rfl⟩
  | no => exact ⟨.bool false, reads_word (by decide) (by decide) rfl (fun _ => rfl) fun _ => rfl⟩
  | number h =>
    obtain ⟨n, hn⟩ := scan_number h
    exact ⟨.number n, reads_of_scan hn fun _ => rfl⟩
  | string h =>
    obtain ⟨k, hk⟩ := exists_readsKey h
    exact ⟨.string k, reads_of_scan (fun s _ => hk s) fun _ => rfl⟩
  | array ht _ ih =>
    obtain ⟨vs, hvs⟩ := exists_forall₂ ih
    exact ⟨_, (reads_array ht hvs).reads⟩
  | @object es t ht hk hc _ ih =>
    have hmember : ∀ e ∈ es, ∃ m, ReadsBinding e m := by
      intro e he
      obtain ⟨k, hk⟩ := exists_readsKey (hk e he)
      obtain ⟨v, hv⟩ := ih e he
      exact ⟨(k, v), hk, hc e he, hv⟩
    obtain ⟨ms, hms⟩ := exists_forall₂ hmember
    exact ⟨_, (reads_object ht hms).reads⟩

/-! ### Whole texts -/

/-- A word begins with every character that is no white space, be it a broken one. -/
theorem scan_ne_nil {c : Char} (hc : ¬isSpace c = true) (s : List Glyph) :
    scan (some c :: s) ≠ [] := by
  rw [scan, if_neg hc]
  -- a string, a mark, a word of letters, or a number
  split
  · split <;> exact List.cons_ne_nil _ _
  · split
    · exact List.cons_ne_nil _ _
    · split
      · exact List.cons_ne_nil _ _
      · split <;> exact List.cons_ne_nil _ _

/-- There are no words in a text exactly if all of it is white space. -/
theorem scan_eq_nil_iff {s : List Glyph} : scan s = [] ↔ ∀ g ∈ s, g.any isSpace = true := by
  induction s with
  | nil => simp [scan]
  | cons g s ih =>
    rw [List.forall_mem_cons, ← ih]
    cases g with
    | none => simp [scan]
    | some c =>
      by_cases hc : isSpace c = true
      · rw [scan_space hc]
        exact (and_iff_right hc).symm
      · exact iff_of_false (scan_ne_nil hc s) fun h => hc h.1

theorem foldl_step_trailing (v : Value) (ts : List Token) :
    ts.foldl Reading.step (.trailing v) = .trailing v := by
  induction ts with
  | nil => rfl
  | cons t ts ih => exact ih

/-- Behind a complete value only white space leaves it complete. -/
theorem along_complete (v : Value) (s : List Glyph) :
    (Reading.complete v).along s = if scan s = [] then .complete v else .trailing v := by
  rw [Reading.along]
  cases scan s with
  | nil => rfl
  | cons t ts => exact foldl_step_trailing v ts

/-- **The document of a text is its value**, and whether anything follows it. -/
theorem ofText_of_reads {w t : List Char} {v : Value} (hw : Blank w) (ht : ReadsClosed t v)
    (s : List Glyph) : Document.ofText (ofChars (w ++ t) ++ s) = ⟨v, (scan s).isEmpty⟩ := by
  have hread : (scan (ofChars (w ++ t) ++ s)).foldl Reading.step (.value []) =
      if scan s = [] then .complete v else .trailing v := by
    rw [ofChars_append, List.append_assoc]
    exact (along_blank hw _ _).trans ((ht (awaits_value []) s).trans (along_complete v s))
  rw [Document.ofText, Document.ofTokens, hread]
  cases scan s <;> rfl

/-- **A text is read as its value**, and then it is asked whether anything follows. -/
theorem read_of_reads {α : Type} {w t : List Char} {v : Value} (hw : Blank w)
    (ht : ReadsClosed t v) (reader : Value → Except Fault α) (s : List Glyph) :
    read reader (ofChars (w ++ t) ++ s) =
      (reader v).bind fun a => if scan s = [] then .ok a else .error .malformed := by
  rw [read, ofText_of_reads hw ht, Document.read]
  cases scan s <;> rfl

end Json

end ActivityFeed
