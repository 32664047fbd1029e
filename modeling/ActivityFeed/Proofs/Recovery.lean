import ActivityFeed.Proofs.Parsing

/-!
# From a value back to its text

Reading goes from the characters over the words to the value. This file goes the other way: what was
read says what was written, apart from blanks and from the spelling of strings.

* `ActivityFeed.Json.Value.tokens` – the words of a value. A reading remembers all words that it went
  through (`ActivityFeed.Json.Reading.Behind`), until something is wrong; so a text that was read to
  its end as a value consists of the words of that value
  (`ActivityFeed.Json.tokens_root_of_ended`).
* A mark among the words stands as it is in the text (`ActivityFeed.Json.exists_of_scan_mark`), and a
  string as a literal that spells it (`ActivityFeed.Json.exists_of_scan_string`).

Reading forgets nothing in between, so nothing can be dropped from a text and nothing can be added
without a change of the words.
-/

namespace ActivityFeed

namespace Json

open Text

/-! ### The words of a value -/

/-- Parts with commas between them. -/
def separated : List (List Token) → List Token
  | [] => []
  | x :: xs => x ++ xs.flatMap (.comma :: ·)

/-- Parts with a comma behind each. -/
def continued (xs : List (List Token)) : List Token := xs.flatMap (· ++ [.comma])

theorem separated_cons_cons (x y : List Token) (xs : List (List Token)) :
    separated (x :: y :: xs) = x ++ .comma :: separated (y :: xs) := rfl

/-- The commas in front of the parts are those behind the parts, but for one. -/
theorem comma_continued (xs : List (List Token)) (x : List Token) :
    .comma :: (continued xs ++ x) = (xs ++ [x]).flatMap (.comma :: ·) := by
  induction xs with
  | nil => simp [continued]
  | cons y xs ih =>
    rw [List.cons_append, List.flatMap_cons, ← ih, continued, List.flatMap_cons]
    simp [continued]

theorem separated_concat (xs : List (List Token)) (x : List Token) :
    separated (xs ++ [x]) = continued xs ++ x := by
  cases xs with
  | nil => simp [separated, continued]
  | cons y xs =>
    rw [List.cons_append, separated, ← comma_continued, continued, continued, List.flatMap_cons]
    simp

theorem continued_concat (xs : List (List Token)) (x : List Token) :
    continued (xs ++ [x]) = continued xs ++ (x ++ [.comma]) := by
  simp [continued]

mutual

/-- The words of a value. -/
def Value.tokens : Value → List Token
  | .null => [.null]
  | .bool b => [.bool b]
  | .number n => [.number n]
  | .string s => [.string s]
  | .array items _ => .openBracket :: (separated (itemTokens items) ++ [.closeBracket])
  | .object members _ => .openBrace :: (separated (memberTokens members) ++ [.closeBrace])
  | .broken => []

/-- The words of the items of an array. -/
def itemTokens : List Value → List (List Token)
  | [] => []
  | v :: vs => v.tokens :: itemTokens vs

/-- The words of the members of an object. -/
def memberTokens : List (Option String × Value) → List (List Token)
  | [] => []
  | (k, v) :: ms => (.string k :: .colon :: v.tokens) :: memberTokens ms

end

theorem itemTokens_eq_map (vs : List Value) : itemTokens vs = vs.map Value.tokens := by
  induction vs with
  | nil => rfl
  | cons v vs ih => rw [itemTokens, ih, List.map_cons]

/-- The words of a member. -/
def bindingTokens (m : Member) : List Token := .string m.1 :: .colon :: m.2.tokens

theorem memberTokens_eq_map (ms : List Member) : memberTokens ms = ms.map bindingTokens := by
  induction ms with
  | nil => rfl
  | cons m ms ih => rw [memberTokens, ih, List.map_cons, bindingTokens]

theorem tokens_array (vs : List Value) (e : Ending) :
    (Value.array vs e).tokens =
      .openBracket :: (separated (vs.map Value.tokens) ++ [.closeBracket]) := by
  rw [Value.tokens, itemTokens_eq_map]

theorem tokens_object (ms : List Member) (e : Ending) :
    (Value.object ms e).tokens =
      .openBrace :: (separated (ms.map bindingTokens) ++ [.closeBrace]) := by
  rw [Value.tokens, memberTokens_eq_map]

/-! ### What a reading remembers -/

/-- The words of what is open, up to the value that is waited for. -/
def Frame.tokens : Frame → List Token
  | .items rev => .openBracket :: continued (rev.reverse.map Value.tokens)
  | .members rev k =>
    .openBrace :: (continued (rev.reverse.map bindingTokens) ++ [.string k, .colon])

/-- The words of all that is open, from the outermost place on. -/
def opened (around : List Frame) : List Token := around.reverse.flatMap Frame.tokens

@[simp]
theorem opened_cons (f : Frame) (around : List Frame) :
    opened (f :: around) = opened around ++ f.tokens := by
  simp [opened]

/-- What stands behind the words of the innermost open place stands behind all. -/
theorem opened_cons_append (f : Frame) (around : List Frame) (us : List Token) (t : Token) :
    opened (f :: around) ++ us ++ [t] = opened around ++ (f.tokens ++ (us ++ [t])) := by
  rw [opened_cons, List.append_assoc, List.append_assoc]

/-- With one item more, its words and a comma stand behind the others. -/
theorem frame_items_cons (v : Value) (rev : List Value) :
    (Frame.items (v :: rev)).tokens = (Frame.items rev).tokens ++ (v.tokens ++ [.comma]) := by
  rw [Frame.tokens, Frame.tokens, List.reverse_cons, List.map_append, List.map_singleton,
    continued_concat, List.cons_append]

/-- With one member more, the words of its value and a comma stand behind its key. -/
theorem openBrace_members_cons (k : Option String) (v : Value) (rev : List Member) :
    .openBrace :: continued (((k, v) :: rev).reverse.map bindingTokens) =
      (Frame.members rev k).tokens ++ (v.tokens ++ [.comma]) := by
  rw [Frame.tokens, List.reverse_cons, List.map_append, List.map_singleton, continued_concat,
    bindingTokens]
  simp only [List.cons_append, List.append_assoc, List.nil_append]

/-- The colon is the last word in front of a value. -/
theorem frame_members (rev : List Member) (k : Option String) :
    (Frame.members rev k).tokens =
      .openBrace :: (continued (rev.reverse.map bindingTokens) ++ [.string k]) ++ [.colon] := by
  rw [Frame.tokens, List.cons_append, List.append_assoc]
  rfl

/-- At the end, the closing bracket stands in the place of a comma. -/
theorem tokens_array_reverse_cons (v : Value) (rev : List Value) (e : Ending) :
    (Value.array (v :: rev).reverse e).tokens =
      (Frame.items rev).tokens ++ (v.tokens ++ [.closeBracket]) := by
  rw [tokens_array, Frame.tokens, List.reverse_cons, List.map_append, List.map_singleton,
    separated_concat, List.append_assoc, List.cons_append]

theorem tokens_object_reverse_cons (k : Option String) (v : Value) (rev : List Member)
    (e : Ending) :
    (Value.object ((k, v) :: rev).reverse e).tokens =
      (Frame.members rev k).tokens ++ (v.tokens ++ [.closeBrace]) := by
  rw [tokens_object, Frame.tokens, List.reverse_cons, List.map_append, List.map_singleton,
    separated_concat, bindingTokens]
  simp only [List.cons_append, List.append_assoc, List.nil_append]

/-- A value that is not read to its end. -/
def Value.Unfinished : Value → Prop
  | .broken => True
  | .array _ .cut => True
  | .object _ .cut => True
  | _ => False

/-- **The reading stands behind the words**: they are those of what is open and of what was read
there. Nothing is said about words behind a problem or behind the outermost value. -/
inductive Reading.Behind : Reading → List Token → Prop where
  /-- Nothing was read of the value that must follow. -/
  | value (around : List Frame) : Behind (.value around) (opened around)
  /-- A bracket was read. -/
  | firstItem (around : List Frame) : Behind (.firstItem around) (opened around ++ [.openBracket])
  /-- The last item was read. -/
  | afterItem (v : Value) (rev : List Value) (around : List Frame) :
    Behind (.afterItem (v :: rev) around) (opened (.items rev :: around) ++ v.tokens)
  /-- A bracket was read. -/
  | firstKey (around : List Frame) : Behind (.firstKey around) (opened around ++ [.openBrace])
  /-- Members were read, with a comma behind the last. -/
  | key (m : Member) (rev : List Member) (around : List Frame) :
    Behind (.key (m :: rev) around)
      (opened around ++ .openBrace :: continued ((m :: rev).reverse.map bindingTokens))
  /-- A key was read. -/
  | colon (rev : List Member) (k : Option String) (around : List Frame) :
    Behind (.colon rev k around)
      (opened around ++ .openBrace :: (continued (rev.reverse.map bindingTokens) ++ [.string k]))
  /-- The value of the last member was read. -/
  | afterMember (k : Option String) (v : Value) (rev : List Member) (around : List Frame) :
    Behind (.afterMember ((k, v) :: rev) around) (opened (.members rev k :: around) ++ v.tokens)
  /-- The outermost value was read. -/
  | complete (v : Value) : Behind (.complete v) v.tokens
  /-- More was read than the outermost value. -/
  | trailing (v : Value) (ts : List Token) : Behind (.trailing v) ts
  /-- A problem was met, within the outermost value. -/
  | stopped {v : Value} (hv : v.Unfinished) (ts : List Token) : Behind (.stopped v) ts

namespace Reading

variable {r r' : Reading} {ts : List Token} {t : Token}

theorem behind_plug (v : Value) (around : List Frame) :
    (plug v around).Behind (opened around ++ v.tokens) := by
  rcases around with _ | ⟨f | ⟨rev, k⟩, around⟩
  · exact .complete v
  · exact .afterItem v f around
  · exact .afterMember k v rev around

theorem behind_begin? {around : List Frame} (h : begin? around t = some r) :
    r.Behind (opened around ++ [t]) := by
  cases t with
  | null => exact Option.some.inj h ▸ behind_plug .null around
  | bool b => exact Option.some.inj h ▸ behind_plug (.bool b) around
  | number n => exact Option.some.inj h ▸ behind_plug (.number n) around
  | string s => exact Option.some.inj h ▸ behind_plug (.string s) around
  | openBracket => exact Option.some.inj h ▸ .firstItem around
  | openBrace => exact Option.some.inj h ▸ .firstKey around
  | _ => cases h

/-- **A reading remembers the next word**, if it may stand there. -/
theorem Behind.step? (h : r.Behind ts) (hstep : r.step? t = some r') : r'.Behind (ts ++ [t]) := by
  cases h with
  | value around => exact behind_begin? hstep
  | firstItem around =>
    cases t with
    | closeBracket =>
      cases hstep
      have hplug := behind_plug (.array [] .closed) around
      rwa [tokens_array, List.append_cons] at hplug
    | _ =>
      -- an array without items is what the first item is waited for in
      have hopened : opened (.items [] :: around) = opened around ++ [.openBracket] :=
        opened_cons _ _
      rw [← hopened]
      exact behind_begin? hstep
  | afterItem v rev around =>
    cases t with
    | comma =>
      cases hstep
      have hvalue := Behind.value (.items (v :: rev) :: around)
      rwa [opened_cons, frame_items_cons, ← opened_cons_append] at hvalue
    | closeBracket =>
      cases hstep
      have hplug := behind_plug (.array (v :: rev).reverse .closed) around
      rwa [tokens_array_reverse_cons, ← opened_cons_append] at hplug
    | _ => cases hstep
  | firstKey around =>
    cases t with
    | closeBrace =>
      cases hstep
      have hplug := behind_plug (.object [] .closed) around
      rwa [tokens_object, List.append_cons] at hplug
    | string s =>
      cases hstep
      have hcolon := Behind.colon [] s around
      rwa [List.append_cons] at hcolon
    | _ => cases hstep
  | key m rev around =>
    cases t with
    | string s =>
      cases hstep
      have hcolon := Behind.colon (m :: rev) s around
      rwa [← List.cons_append, ← List.append_assoc] at hcolon
    | _ => cases hstep
  | colon rev k around =>
    cases t with
    | colon =>
      cases hstep
      have hvalue := Behind.value (.members rev k :: around)
      rwa [opened_cons, frame_members, ← List.append_assoc] at hvalue
    | _ => cases hstep
  | afterMember k v rev around =>
    cases t with
    | comma =>
      cases hstep
      have hkey := Behind.key (k, v) rev around
      rwa [openBrace_members_cons, ← opened_cons_append] at hkey
    | closeBrace =>
      cases hstep
      have hplug := behind_plug (.object ((k, v) :: rev).reverse .closed) around
      rwa [tokens_object_reverse_cons, ← opened_cons_append] at hplug
    | _ => cases hstep
  | complete v =>
    cases hstep
    exact .trailing v _
  | trailing v ts =>
    cases hstep
    exact .trailing v _
  | stopped hv ts =>
    cases hstep
    exact .stopped hv _

/-- What is open makes the outermost value unfinished. -/
theorem unfinished_abandon {v : Value} (hv : v.Unfinished) (around : List Frame) :
    (abandon v around).Unfinished := by
  induction around generalizing v with
  | nil => exact hv
  | cons f around ih =>
    cases f with
    | items rev => exact ih trivial
    | members rev k => exact ih trivial

/-- A reading that cannot take a word stands at an open place. -/
theorem unfinished_root (h : r.step? t = none) : r.root.Unfinished := by
  cases r with
  | complete v => cases h
  | trailing v => cases h
  | stopped v => cases h
  | _ =>
    apply unfinished_abandon
    trivial

theorem Behind.step (h : r.Behind ts) (t : Token) : (r.step t).Behind (ts ++ [t]) := by
  rw [Reading.step]
  cases hstep : r.step? t with
  | none => exact .stopped (unfinished_root hstep) _
  | some r' => exact h.step? hstep

/-- **A reading remembers the words that it went through.** -/
theorem Behind.foldl (h : r.Behind ts) (us : List Token) :
    (us.foldl Reading.step r).Behind (ts ++ us) := by
  induction us generalizing r ts with
  | nil => rwa [List.append_nil]
  | cons u us ih =>
    rw [List.append_cons]
    exact ih (h.step u)

end Reading

/-- **A document that ends behind a finished value consists of the words of that value.** -/
theorem tokens_root_of_ended {ts : List Token} (hended : (Document.ofTokens ts).ended = true)
    (hroot : ¬(Document.ofTokens ts).root.Unfinished) :
    (Document.ofTokens ts).root.tokens = ts := by
  have hbehind : (ts.foldl Reading.step (.value [])).Behind ts := (Reading.Behind.value []).foldl ts
  rw [Document.ofTokens] at hended hroot ⊢
  generalize ts.foldl Reading.step (.value []) = r at *
  cases hbehind with
  | complete v => rfl
  | trailing v ts => cases hended
  | stopped hv ts => exact absurd hv hroot
  | _ =>
    refine absurd ?_ hroot
    apply Reading.unfinished_abandon
    trivial

/-! ### The characters of a literal -/

theorem isHexDigit_of_hexValue? {p : Char} {n : ℕ} (h : hexValue? p = some n) :
    IsHexDigit p n := by
  have hall : ∀ m < 103, ∀ n ∈ hexValue? (Char.ofNat m),
      n < 16 ∧ (Char.ofNat m = Nat.digitChar n ∨ Char.ofNat m = (Nat.digitChar n).toUpper) := by
    decide
  have hp : p.toNat < 103 := by
    unfold hexValue? at h
    split_ifs at h with hd ha hA
    · simp only [Char.isDigit, Bool.and_eq_true, decide_eq_true_eq] at hd
      have hle : p.toNat ≤ 57 := hd.2
      omega
    · have hle : p.toNat ≤ 102 := ha.2
      omega
    · have hle : p.toNat ≤ 70 := hA.2
      omega
  rw [← Char.ofNat_toNat p] at h ⊢
  exact hall _ hp n h

theorem mem_shortEscapes_of_shortEscape? {e c : Char} (h : shortEscape? (some e) = some c) :
    (e, c) ∈ shortEscapes := by
  unfold shortEscape? at h
  split at h
  case h_9 => cases h
  all_goals
    rename_i heq
    cases heq
    cases h
    decide

theorem ofChars_eq_cons_iff {s : List Char} {g : Glyph} {gs : List Glyph} :
    ofChars s = g :: gs ↔ ∃ c s', s = c :: s' ∧ some c = g ∧ ofChars s' = gs :=
  List.map_eq_cons_iff

/-- A unit is read from its digits only. -/
theorem writes_of_unit? {p q r t : Char} {u : ℕ}
    (h : unit? (some p) (some q) (some r) (some t) = some u) :
    Writes (.unit u) ['\\', 'u', p, q, r, t] := by
  simp only [unit?, Option.bind_eq_bind, Option.bind_some, Option.bind_eq_some_iff,
    Option.some.injEq] at h
  obtain ⟨i, hi, j, hj, k, hk, l, hl, hu⟩ := h
  have hvalue : u = i * 4096 + j * 256 + k * 16 + l := by omega
  rw [hvalue]
  exact .unit (isHexDigit_of_hexValue? hi) (isHexDigit_of_hexValue? hj)
    (isHexDigit_of_hexValue? hk) (isHexDigit_of_hexValue? hl)

/-- **What is read as a literal is written piece by piece**, up to a closing quote. -/
theorem exists_pieces_of_quoted? {s : List Char} {ps : List Piece} {gs : List Glyph}
    (h : quoted? (ofChars s) = some (ps, gs)) :
    ∃ b s', s = b ++ '"' :: s' ∧ gs = ofChars s' ∧ Pieces ps b := by
  generalize hs : ofChars s = t at h
  fun_induction quoted? t generalizing s ps gs with
  | case1 => cases h
  | case2 t ih =>
    obtain ⟨c, s', -, hc, -⟩ := ofChars_eq_cons_iff.mp hs
    cases hc
  | case3 t =>
    obtain ⟨c, s', rfl, hc, rfl⟩ := ofChars_eq_cons_iff.mp hs
    cases hc
    cases h
    exact ⟨[], s', rfl, rfl, .nil⟩
  | case4 => cases h
  | case5 _ a b c d t ih =>
    obtain ⟨_, _, rfl, hslash, h₁⟩ := ofChars_eq_cons_iff.mp hs
    obtain ⟨_, _, rfl, hu, h₂⟩ := ofChars_eq_cons_iff.mp h₁
    obtain ⟨p, _, rfl, rfl, h₃⟩ := ofChars_eq_cons_iff.mp h₂
    obtain ⟨q, _, rfl, rfl, h₄⟩ := ofChars_eq_cons_iff.mp h₃
    obtain ⟨r, _, rfl, rfl, h₅⟩ := ofChars_eq_cons_iff.mp h₄
    obtain ⟨x, _, rfl, rfl, h₆⟩ := ofChars_eq_cons_iff.mp h₅
    cases hslash
    cases hu
    obtain ⟨u, hunit, h⟩ := Option.bind_eq_some_iff.mp h
    obtain ⟨⟨ps, gs⟩, hrest, he⟩ := Option.map_eq_some_iff.mp h
    cases he
    obtain ⟨b, s', rfl, rfl, hps⟩ := ih h₆ hrest
    exact ⟨['\\', 'u', p, q, r, x] ++ b, s', rfl, rfl, .cons (writes_of_unit? hunit) hps⟩
  | case6 => cases h
  | case7 _ e t hu ih =>
    obtain ⟨_, _, rfl, hslash, h₁⟩ := ofChars_eq_cons_iff.mp hs
    obtain ⟨e, _, rfl, rfl, h₂⟩ := ofChars_eq_cons_iff.mp h₁
    cases hslash
    obtain ⟨c, hc, h⟩ := Option.bind_eq_some_iff.mp h
    obtain ⟨⟨ps, gs⟩, hrest, he⟩ := Option.map_eq_some_iff.mp h
    cases he
    obtain ⟨b, s', rfl, rfl, hps⟩ := ih h₂ hrest
    exact ⟨['\\', e] ++ b, s', rfl, rfl, .cons (.short (mem_shortEscapes_of_shortEscape? hc)) hps⟩
  | case8 => cases h
  | case9 c t hq hb hc ih =>
    obtain ⟨_, _, rfl, hplain, h₁⟩ := ofChars_eq_cons_iff.mp hs
    cases hplain
    obtain ⟨⟨ps, gs⟩, hrest, he⟩ := Option.map_eq_some_iff.mp h
    cases he
    obtain ⟨b, s', rfl, rfl, hps⟩ := ih h₁ hrest
    exact ⟨[c] ++ b, s', rfl, rfl, .cons (.plain hq hb hc) hps⟩

/-! ### The characters of a word -/

/-- In front of the first word there is white space only. -/
theorem exists_blank_of_scan {s : List Char} {t : Token} {ts : List Token}
    (h : scan (ofChars s) = t :: ts) :
    ∃ w c s', s = w ++ c :: s' ∧ Blank w ∧ isSpace c = false ∧
      scan (some c :: ofChars s') = t :: ts := by
  induction s with
  | nil =>
    rw [ofChars, List.map_nil, scan] at h
    cases h
  | cons c s ih =>
    cases hc : isSpace c with
    | false => exact ⟨[], c, s, rfl, List.forall_mem_nil _, hc, h⟩
    | true =>
      have hrest : scan (ofChars s) = t :: ts := (scan_space hc (ofChars s)).symm.trans h
      obtain ⟨w, d, s', rfl, hw, hd, hscan⟩ := ih hrest
      exact ⟨c :: w, d, s', rfl, List.forall_mem_cons.mpr ⟨isSpace_iff.mp hc, hw⟩, hd, hscan⟩

/-- The words that are a single character. -/
def Token.isMark : Token → Bool
  | .openBrace => true
  | .closeBrace => true
  | .openBracket => true
  | .closeBracket => true
  | .colon => true
  | .comma => true
  | _ => false

theorem isMark_of_mark? {c : Char} {t : Token} (h : mark? c = some t) : t.isMark = true := by
  unfold mark? at h
  split at h <;> cases h <;> rfl

/-- Every mark is one character. -/
theorem eq_of_mark? {c d : Char} {t : Token} (hc : mark? c = some t) (hd : mark? d = some t) :
    c = d := by
  unfold mark? at hc hd
  split at hc <;> cases hc <;> split at hd <;> cases hd <;> rfl

/-- **What the first word can be**: a literal, a mark, or something else that is neither. -/
theorem scan_cons_cases {c : Char} (hc : isSpace c = false) (s : List Glyph) :
    (∃ ps r, c = '"' ∧ quoted? s = some (ps, r) ∧ scan (some c :: s) = literal ps :: scan r) ∨
      (∃ t, mark? c = some t ∧ scan (some c :: s) = t :: scan s) ∨
      ∃ t ts, scan (some c :: s) = t :: ts ∧ t.isMark = false ∧ ∀ k, t ≠ .string k := by
  have hbroken : ∀ k, Token.broken ≠ .string k := fun _ => Token.noConfusion
  rw [scan, if_neg (by rw [hc]; decide)]
  by_cases hq : c = '"'
  · rw [if_pos hq]
    split
    · rename_i ps r hread
      exact .inl ⟨ps, r, hq, hread, rfl⟩
    · exact .inr (.inr ⟨.broken, [], rfl, rfl, hbroken⟩)
  · rw [if_neg hq]
    right
    split
    · rename_i t hmark
      exact .inl ⟨t, hmark, rfl⟩
    · right
      split
      · rename_i t r hword
        have hother : t.isMark = false ∧ ∀ k, t ≠ .string k := by
          unfold word? at hword
          split at hword <;> cases hword <;> exact ⟨rfl, fun _ => Token.noConfusion⟩
        exact ⟨t, scan r, rfl, hother⟩
      · split
        · rename_i n r hnumber
          exact ⟨.number n, scan r, rfl, rfl, fun _ => Token.noConfusion⟩
        · exact ⟨.broken, [], rfl, rfl, hbroken⟩

/-- **A mark stands in the text as it is.** -/
theorem exists_of_scan_mark {s : List Char} {c : Char} {t : Token} {ts : List Token}
    (ht : mark? c = some t) (h : scan (ofChars s) = t :: ts) :
    ∃ w s', s = w ++ c :: s' ∧ Blank w ∧ scan (ofChars s') = ts := by
  obtain ⟨w, d, s', rfl, hw, hd, hscan⟩ := exists_blank_of_scan h
  have hmark := isMark_of_mark? ht
  rcases scan_cons_cases hd (ofChars s') with
    ⟨ps, r, -, -, hfirst⟩ | ⟨t', ht', hfirst⟩ | ⟨t', ts', hfirst, hno, -⟩
  · obtain ⟨rfl, -⟩ := List.cons.inj (hfirst.symm.trans hscan)
    cases hmark
  · obtain ⟨rfl, hrest⟩ := List.cons.inj (hfirst.symm.trans hscan)
    obtain rfl := eq_of_mark? ht ht'
    exact ⟨w, s', rfl, hw, hrest⟩
  · obtain ⟨rfl, -⟩ := List.cons.inj (hfirst.symm.trans hscan)
    rw [hno] at hmark
    cases hmark

/-- **A string stands in the text as a literal that spells it.** -/
theorem exists_of_scan_string {s : List Char} {k : String} {ts : List Token}
    (h : scan (ofChars s) = .string (some k) :: ts) :
    ∃ w b s', s = w ++ (inQuotes b ++ s') ∧ Blank w ∧ Spells b k.toList ∧
      scan (ofChars s') = ts := by
  obtain ⟨w, d, s', rfl, hw, hd, hscan⟩ := exists_blank_of_scan h
  rcases scan_cons_cases hd (ofChars s') with
    ⟨ps, r, rfl, hread, hfirst⟩ | ⟨t', ht', hfirst⟩ | ⟨t', ts', hfirst, -, hno⟩
  · obtain ⟨hword, hrest⟩ := List.cons.inj (hfirst.symm.trans hscan)
    obtain ⟨b, s', rfl, rfl, hps⟩ := exists_pieces_of_quoted? hread
    obtain ⟨t, ht, hk⟩ := Option.map_eq_some_iff.mp (Token.string.inj hword)
    have hspells := spells_of_assemble hps ht
    rw [← hk, String.toList_ofList]
    refine ⟨w, b, s', ?_, hw, hspells, hrest⟩
    rw [inQuotes, List.cons_append, List.append_assoc, List.singleton_append]
  · obtain ⟨rfl, -⟩ := List.cons.inj (hfirst.symm.trans hscan)
    cases isMark_of_mark? ht'
  · obtain ⟨rfl, -⟩ := List.cons.inj (hfirst.symm.trans hscan)
    exact absurd rfl (hno _)

end Json

end ActivityFeed
