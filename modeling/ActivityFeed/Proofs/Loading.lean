import ActivityFeed.Proofs.Integers
import ActivityFeed.Proofs.Joining

/-!
# Settings from a source

A source has a text for some of the settings. The settings that it stands for are said without
reading anything in turn (`ActivityFeed.Settings.Follows`): a setting of which the source has a text
is the integer that the text spells, and any other setting keeps its usual value. They are settings
to work with if they are coherent (`ActivityFeed.Settings.Coherent`), and then they are what is
loaded.

If nothing is loaded, there is one error (`ActivityFeed.Settings.Refused`), which names a key: that
of the first text, in the order of reading, that spells no integer of its range, or, if all texts
do, that of the first condition that the settings violate. The order of the seven readings and the
order of the three conditions decide nothing else (`ActivityFeed.Settings.ofSource_exact`).

One of the conditions is compared in signed numbers of 64 bits, into which a limit may not fit. That
it says what it should say rests on the threshold, which always fits.
-/

namespace ActivityFeed

open Text

/-! ### What a source says -/

namespace Setting

/-- The value that settings have for a key. -/
def value : Setting → Settings → ℤ
  | fanoutThreshold, s => s.policy.threshold
  | followeeLimit, s => s.policy.followeeLimit
  | pushFanoutLimit, s => s.policy.pushLimit
  | readTimeout, s => s.readTimeout
  | writeTimeout, s => s.writeTimeout
  | defaultPageSize, s => s.defaultPageSize
  | maxPageSize, s => s.maxPageSize

/-- **What becomes of a value**: it is replaced if the source has a text for it. -/
inductive Gets (source : String → Option String) (k : Setting) (before : ℤ) : ℤ → Prop where
  /-- The source says nothing. -/
  | kept (h : source k.key = none) : Gets source k before before
  /-- The source has a text, which spells the new value. -/
  | given {text : String} {v : ℤ} (h : source k.key = some text)
      (hv : SpellsInteger k.range text.toList v) : Gets source k before v

/-- If the source has a text for the setting, it spells an integer of the range. -/
def Readable (source : String → Option String) (k : Setting) : Prop :=
  ∀ text, source k.key = some text → ∃ v, SpellsInteger k.range text.toList v

/-- The source has a text for the setting that spells no integer of the range, and this is the
error: it names the key, and says the text and the first problem of the text without the blanks at
its ends. -/
def FailsWith (source : String → Option String) (k : Setting) (e : ServiceError) : Prop :=
  ∃ text t fault, source k.key = some text ∧ (∀ v, ¬SpellsInteger k.range text.toList v) ∧
    Trimmed text.toList t ∧ Misspelt k.range t fault ∧
    e = .setting k.key ("`" ++ text ++ "`: " ++ fault.message)

end Setting

namespace Settings

/-- **The settings are what the source says**, and the usual ones where it says nothing. -/
def Follows (source : String → Option String) (s : Settings) : Prop :=
  ∀ k : Setting, k.Gets source (k.value {}) (k.value s)

/-- **The settings go together.** -/
structure Coherent (s : Settings) : Prop where
  /-- There are pages. -/
  pages : 1 ≤ s.maxPageSize
  /-- Pushing reaches everybody up to the threshold. -/
  pushes : s.policy.threshold ≤ (s.policy.pushLimit : ℤ)
  /-- The usual page is one that may be asked for. -/
  usual : 1 ≤ s.defaultPageSize ∧ s.defaultPageSize ≤ s.maxPageSize

/-- The first of the conditions that the settings violate, and the error that names its key. -/
inductive Violates (s : Settings) : ServiceError → Prop where
  /-- There are no pages. -/
  | noPages (h : s.maxPageSize = 0) :
    Violates s (.setting "FEED_MAX_PAGE_SIZE" "must be positive")
  /-- There are pages, but pushing does not reach everybody. -/
  | policy (hpages : 1 ≤ s.maxPageSize) (h : (s.policy.pushLimit : ℤ) < s.policy.threshold) :
    Violates s (.setting "FEED_PUSH_FANOUT_LIMIT"
      ("missing or invalid field: key=push_fanout_limit, reason=push_fanout_limit " ++
        natText s.policy.pushLimit ++ " is below fanout_threshold " ++ intText s.policy.threshold))
  /-- It does, but the usual page is none that may be asked for. -/
  | usualPage (hpages : 1 ≤ s.maxPageSize)
      (hpushes : s.policy.threshold ≤ (s.policy.pushLimit : ℤ))
      (h : s.defaultPageSize = 0 ∨ s.maxPageSize < s.defaultPageSize) :
    Violates s (.setting "FEED_DEFAULT_PAGE_SIZE" ("must be within 1..=" ++ natText s.maxPageSize))

/-- **Why a source is refused**, and with which error: because of the first text that cannot be
read, or because all can and the settings violate a condition. -/
inductive Refused (source : String → Option String) : ServiceError → Prop where
  /-- A text cannot be read, and all earlier ones can. -/
  | unreadable {earlier later : List Setting} {k : Setting} {e : ServiceError}
      (hall : Setting.all = earlier ++ k :: later) (hearlier : ∀ j ∈ earlier, j.Readable source)
      (hk : k.FailsWith source e) : Refused source e
  /-- The settings that the source stands for do not go together. -/
  | incoherent {s : Settings} {e : ServiceError} (hs : s.Follows source) (he : s.Violates e) :
      Refused source e

end Settings

/-! ### Values and settings -/

namespace Setting

variable {k : Setting} {s s' : Settings}

/-- Every setting is read. -/
theorem mem_all (k : Setting) : k ∈ all := by
  cases k <;> decide

/-- A value of the range is found again. -/
theorem value_put_self {v : ℤ} (h : k.range.Holds v) : k.value (k.put v s) = v := by
  have hunsigned : IntegerRange.unsigned64.Holds v → (v.toNat : ℤ) = v :=
    fun hv => Int.toNat_of_nonneg hv.1
  cases k with
  | fanoutThreshold => rfl
  | _ => exact hunsigned h

/-- All other values are left alone. -/
theorem value_put_of_ne {j : Setting} (h : j ≠ k) (v : ℤ) : j.value (k.put v s) = j.value s := by
  cases j <;> cases k <;> first | rfl | exact absurd rfl h

/-- Settings are known by their values. -/
theorem eq_of_value (h : ∀ k : Setting, k.value s = k.value s') : s = s' := by
  obtain ⟨⟨threshold, followees, pushes⟩, reads, writes, usual, largest⟩ := s
  obtain ⟨⟨threshold', followees', pushes'⟩, reads', writes', usual', largest'⟩ := s'
  have h₁ : threshold = threshold' := h .fanoutThreshold
  have h₂ : followees = followees' := Int.ofNat.inj (h .followeeLimit)
  have h₃ : pushes = pushes' := Int.ofNat.inj (h .pushFanoutLimit)
  have h₄ : reads = reads' := Int.ofNat.inj (h .readTimeout)
  have h₅ : writes = writes' := Int.ofNat.inj (h .writeTimeout)
  have h₆ : usual = usual' := Int.ofNat.inj (h .defaultPageSize)
  have h₇ : largest = largest' := Int.ofNat.inj (h .maxPageSize)
  rw [h₁, h₂, h₃, h₄, h₅, h₆, h₇]

end Setting

/-! ### Reading -/

section Reading

variable {source : String → Option String} {k : Setting} {s s' : Settings} {e : ServiceError}

theorem Setting.Gets.unique {before v v' : ℤ} (h : k.Gets source before v)
    (h' : k.Gets source before v') : v = v' := by
  cases h with
  | kept hnone =>
    cases h' with
    | kept _ => rfl
    | given hsome _ => cases hnone.symm.trans hsome
  | given hsome hv =>
    cases h' with
    | kept hnone => cases hnone.symm.trans hsome
    | given hsome' hv' =>
      obtain rfl := Option.some.inj (hsome.symm.trans hsome')
      exact hv.unique hv'

/-- Where a value comes from the source, the text can be read. -/
theorem Setting.Gets.readable {before v : ℤ} (h : k.Gets source before v) : k.Readable source := by
  intro text htext
  cases h with
  | kept hnone => cases hnone.symm.trans htext
  | given hsome hv =>
    obtain rfl := Option.some.inj (hsome.symm.trans htext)
    exact ⟨v, hv⟩

/-- A value stays in its range. -/
theorem Setting.Gets.holds {before v : ℤ} (h : k.Gets source before v)
    (hbefore : k.range.Holds before) : k.range.Holds v := by
  cases h with
  | kept _ => exact hbefore
  | given _ hv => exact hv.holds

/-- A source stands for one choice of settings at most. -/
theorem Settings.Follows.unique (h : s.Follows source) (h' : s'.Follows source) : s = s' :=
  Setting.eq_of_value fun k => (h k).unique (h' k)

/-- A text with a problem spells nothing. -/
theorem Setting.failsWith_of_misspelt {text : String} {t : List Char} {fault : IntegerFault}
    (htext : source k.key = some text) (ht : Trimmed text.toList t)
    (hfault : Misspelt k.range t fault) :
    k.FailsWith source (.setting k.key ("`" ++ text ++ "`: " ++ fault.message)) := by
  refine ⟨text, t, fault, htext, fun v hv => ?_, ht, hfault, rfl⟩
  have hread := readInteger_trim_eq_ok_iff.mpr hv
  rw [ht.trim_eq, readInteger_eq_error_iff.mpr hfault] at hread
  cases hread

/-- The text determines its first problem, and so the error. -/
theorem Setting.FailsWith.unique {e' : ServiceError} (h : k.FailsWith source e)
    (h' : k.FailsWith source e') : e = e' := by
  obtain ⟨text, t, fault, htext, -, ht, hfault, rfl⟩ := h
  obtain ⟨text', t', fault', htext', -, ht', hfault', rfl⟩ := h'
  obtain rfl := Option.some.inj (htext.symm.trans htext')
  obtain rfl := ht.trim_eq.symm.trans ht'.trim_eq
  rw [← readInteger_eq_error_iff] at hfault hfault'
  rw [Except.error.inj (hfault.symm.trans hfault')]

/-- A setting that fails cannot be read. -/
theorem Setting.FailsWith.not_readable (h : k.FailsWith source e) : ¬k.Readable source := by
  obtain ⟨text, -, -, htext, hnot, -⟩ := h
  intro hreadable
  obtain ⟨v, hv⟩ := hreadable text htext
  exact hnot v hv

namespace Settings

/-- What comes of reading one setting. -/
theorem readOne_cases (source : String → Option String) (s : Settings) (k : Setting) :
    (source k.key = none ∧ readOne source s k = .ok s) ∨
      (∃ text v, source k.key = some text ∧ SpellsInteger k.range text.toList v ∧
        readOne source s k = .ok (k.put v s)) ∨
      ∃ f : SettingFault, k.FailsWith source f.toError ∧ readOne source s k = .error f := by
  unfold readOne
  cases hsource : source k.key with
  | none => exact .inl ⟨rfl, rfl⟩
  | some text =>
    right
    cases hread : readInteger k.range (trim text.toList) with
    | ok v => exact .inl ⟨text, v, rfl, readInteger_trim_eq_ok_iff.mp hread, by simp only [hread]⟩
    | error fault =>
      refine .inr ⟨.unreadable k text fault, ?_, by simp only [hread]⟩
      exact Setting.failsWith_of_misspelt hsource (trimmed_trim text.toList)
        (readInteger_eq_error_iff.mp hread)

/-- **Reading one setting** gives it its value and leaves the others alone. -/
theorem gets_of_readOne (h : readOne source s k = .ok s') :
    k.Gets source (k.value s) (k.value s') ∧ ∀ j : Setting, j ≠ k → j.value s' = j.value s := by
  rcases readOne_cases source s k with ⟨hnone, hok⟩ | ⟨text, v, htext, hv, hok⟩ | ⟨f, -, herror⟩
  · obtain rfl := Except.ok.inj (hok.symm.trans h)
    exact ⟨.kept hnone, fun j _ => rfl⟩
  · obtain rfl := Except.ok.inj (hok.symm.trans h)
    refine ⟨?_, fun j hj => Setting.value_put_of_ne hj v⟩
    rw [Setting.value_put_self hv.holds]
    exact .given htext hv
  · cases herror.symm.trans h

theorem exists_readOne (h : k.Readable source) (s : Settings) :
    ∃ s', readOne source s k = .ok s' := by
  rcases readOne_cases source s k with ⟨-, hok⟩ | ⟨text, v, -, -, hok⟩ | ⟨f, hf, -⟩
  · exact ⟨_, hok⟩
  · exact ⟨_, hok⟩
  · exact absurd h hf.not_readable

theorem exists_readOne_eq_error_iff :
    (∃ f : SettingFault, readOne source s k = .error f ∧ f.toError = e) ↔ k.FailsWith source e := by
  constructor
  · rintro ⟨f, herror, rfl⟩
    rcases readOne_cases source s k with ⟨-, hok⟩ | ⟨text, v, -, -, hok⟩ | ⟨f', hf', herror'⟩
    · cases hok.symm.trans herror
    · cases hok.symm.trans herror
    · obtain rfl := Except.error.inj (herror'.symm.trans herror)
      exact hf'
  · intro he
    rcases readOne_cases source s k with ⟨hnone, -⟩ | ⟨text, v, htext, hv, -⟩ | ⟨f, hf, herror⟩
    · exact absurd (fun text htext => nomatch hnone.symm.trans htext) he.not_readable
    · have hgets : k.Gets source (k.value s) v := .given htext hv
      exact absurd hgets.readable he.not_readable
    · exact ⟨f, herror, hf.unique he⟩

/-- **Reading several settings** gives each of them its value and leaves the others alone. -/
theorem gets_of_foldlM {ks : List Setting} (hks : ks.Nodup)
    (h : ks.foldlM (readOne source) s = .ok s') :
    (∀ k ∈ ks, k.Gets source (k.value s) (k.value s')) ∧
      ∀ j : Setting, j ∉ ks → j.value s' = j.value s := by
  induction ks generalizing s with
  | nil =>
    obtain rfl := Except.ok.inj h
    exact ⟨List.forall_mem_nil _, fun j _ => rfl⟩
  | cons k ks ih =>
    obtain ⟨hk, hks⟩ := List.nodup_cons.mp hks
    rw [List.foldlM_cons] at h
    obtain ⟨s₁, hone, hrest⟩ := except_bind_eq_ok.mp h
    obtain ⟨hgets, hothers⟩ := gets_of_readOne hone
    obtain ⟨hall, hrests⟩ := ih hks hrest
    refine ⟨List.forall_mem_cons.mpr ⟨?_, fun j hj => ?_⟩, fun j hj => ?_⟩
    · rwa [hrests k hk]
    · rw [← hothers j fun he => hk (he ▸ hj)]
      exact hall j hj
    · rw [List.mem_cons, not_or] at hj
      rw [hrests j hj.2, hothers j hj.1]

/-- If all texts can be read, all of them are. -/
theorem exists_foldlM {ks : List Setting} (h : ∀ k ∈ ks, k.Readable source) (s : Settings) :
    ∃ s', ks.foldlM (readOne source) s = .ok s' := by
  induction ks generalizing s with
  | nil => exact ⟨s, rfl⟩
  | cons k ks ih =>
    obtain ⟨hk, hks⟩ := List.forall_mem_cons.mp h
    obtain ⟨s₁, hone⟩ := exists_readOne hk s
    obtain ⟨s', hrest⟩ := ih hks s₁
    refine ⟨s', ?_⟩
    rw [List.foldlM_cons, hone]
    exact hrest

/-- **Reading several settings fails at the first text that cannot be read.** -/
theorem exists_foldlM_eq_error_iff {ks : List Setting} :
    (∃ f : SettingFault, ks.foldlM (readOne source) s = .error f ∧ f.toError = e) ↔
      ∃ earlier k later, ks = earlier ++ k :: later ∧ (∀ j ∈ earlier, j.Readable source) ∧
        k.FailsWith source e := by
  constructor
  · rintro ⟨f, h, rfl⟩
    induction ks generalizing s with
    | nil => cases h
    | cons k ks ih =>
      rw [List.foldlM_cons] at h
      cases hone : readOne source s k with
      | error f' =>
        rw [hone] at h
        obtain rfl : f' = f := Except.error.inj h
        exact ⟨[], k, ks, rfl, List.forall_mem_nil _,
          exists_readOne_eq_error_iff.mp ⟨f', hone, rfl⟩⟩
      | ok s₁ =>
        rw [hone] at h
        obtain ⟨earlier, k', later, rfl, hearlier, hk'⟩ := ih h
        exact ⟨k :: earlier, k', later, rfl,
          List.forall_mem_cons.mpr ⟨(gets_of_readOne hone).1.readable, hearlier⟩, hk'⟩
  · rintro ⟨earlier, k, later, rfl, hearlier, hk⟩
    obtain ⟨s₁, hread⟩ := exists_foldlM hearlier s
    obtain ⟨f, herror, hf⟩ := (exists_readOne_eq_error_iff (s := s₁)).mpr hk
    refine ⟨f, ?_, hf⟩
    rw [List.foldlM_append, hread]
    show (k :: later).foldlM (readOne source) s₁ = _
    rw [List.foldlM_cons, herror]
    rfl

/-- **Reading all settings gives the settings that the source stands for.** -/
theorem foldlM_all_eq_ok_iff :
    Setting.all.foldlM (readOne source) {} = .ok s ↔ s.Follows source := by
  have hfollows : ∀ {s}, Setting.all.foldlM (readOne source) {} = .ok s → s.Follows source :=
    fun h k => (gets_of_foldlM (by decide) h).1 k (Setting.mem_all k)
  refine ⟨hfollows, fun h => ?_⟩
  obtain ⟨s', hs'⟩ := exists_foldlM (fun k _ => (h k).readable) {}
  rw [hs', (hfollows hs').unique h]

/-! ### The conditions -/

/-- A threshold that was read is a number of 64 bits, and so is the usual one. -/
theorem Follows.holds_threshold (h : s.Follows source) :
    IntegerRange.signed64.Holds s.policy.threshold :=
  (h .fanoutThreshold).holds (by decide)

/-- **The conditions are looked at in their order.** -/
theorem check_cases (h : IntegerRange.signed64.Holds s.policy.threshold) :
    (s.Coherent ∧ s.check = .ok ()) ∨
      ∃ f : SettingFault, s.Violates f.toError ∧ s.check = .error f := by
  unfold check
  by_cases hpages : s.maxPageSize = 0
  · rw [if_pos hpages]
    exact .inr ⟨.noPages, .noPages hpages, rfl⟩
  · have hpages' : 1 ≤ s.maxPageSize := Nat.one_le_iff_ne_zero.mpr hpages
    rw [if_neg hpages]
    by_cases hpushes : s.policy.threshold ≤ (s.policy.pushLimit : ℤ)
    · rw [(FanoutPolicy.validate_eq_ok_iff h).mpr hpushes]
      by_cases husual : s.defaultPageSize = 0 ∨ s.maxPageSize < s.defaultPageSize
      · rw [if_pos husual]
        exact .inr ⟨.usualPage s.maxPageSize, .usualPage hpages' hpushes husual, rfl⟩
      · rw [if_neg husual]
        exact .inl ⟨⟨hpages', hpushes, by omega⟩, rfl⟩
    · have hvalid : s.policy.validate = .error (.field "push_fanout_limit"
          (.pushLimitBelowThreshold s.policy.pushLimit s.policy.threshold)) :=
        if_pos ((FanoutPolicy.signedPushLimit_lt_iff h).mpr (not_le.mp hpushes))
      rw [hvalid]
      exact .inr ⟨.policy (.field "push_fanout_limit" (.pushLimitBelowThreshold s.policy.pushLimit
        s.policy.threshold)), .policy hpages' (not_le.mp hpushes), rfl⟩

/-- Coherent settings violate nothing. -/
theorem Coherent.not_violates (h : s.Coherent) : ¬s.Violates e := by
  rintro (he | ⟨-, he⟩ | ⟨-, -, he⟩)
  · exact absurd h.pages (by omega)
  · exact absurd h.pushes (not_le.mpr he)
  · exact absurd h.usual (by omega)

/-- Settings violate one condition first. -/
theorem Violates.unique {e' : ServiceError} (h : s.Violates e) (h' : s.Violates e') : e = e' := by
  cases h <;> cases h' <;> first | rfl | omega

theorem check_eq_ok_iff (h : IntegerRange.signed64.Holds s.policy.threshold) :
    s.check = .ok () ↔ s.Coherent := by
  rcases check_cases h with ⟨hcoherent, hok⟩ | ⟨f, hf, herror⟩
  · exact iff_of_true hok hcoherent
  · exact iff_of_false (fun hok => nomatch herror.symm.trans hok) fun hc => hc.not_violates hf

theorem exists_check_eq_error_iff (h : IntegerRange.signed64.Holds s.policy.threshold) :
    (∃ f : SettingFault, s.check = .error f ∧ f.toError = e) ↔ s.Violates e := by
  constructor
  · rintro ⟨f, herror, rfl⟩
    rcases check_cases h with ⟨-, hok⟩ | ⟨f', hf', herror'⟩
    · cases hok.symm.trans herror
    · obtain rfl := Except.error.inj (herror'.symm.trans herror)
      exact hf'
  · intro he
    rcases check_cases h with ⟨hcoherent, -⟩ | ⟨f, hf, herror⟩
    · exact absurd he hcoherent.not_violates
    · exact ⟨f, herror, hf.unique he⟩

/-! ### Loading -/

theorem ofSource_eq (source : String → Option String) :
    ofSource source =
      (Setting.all.foldlM (readOne source) {} >>= fun s => s.check >>= fun _ => .ok s) := rfl

/-- **What is loaded is what the source stands for**, if that goes together. -/
theorem ofSource_eq_ok_iff : ofSource source = .ok s ↔ s.Follows source ∧ s.Coherent := by
  rw [ofSource_eq, except_bind_eq_ok]
  constructor
  · rintro ⟨s', hread, hcheck⟩
    have hfollows := foldlM_all_eq_ok_iff.mp hread
    obtain ⟨⟨⟩, hok, hs⟩ := except_bind_eq_ok.mp hcheck
    obtain rfl := Except.ok.inj hs
    exact ⟨hfollows, (check_eq_ok_iff hfollows.holds_threshold).mp hok⟩
  · rintro ⟨hfollows, hcoherent⟩
    refine ⟨s, foldlM_all_eq_ok_iff.mpr hfollows, ?_⟩
    rw [(check_eq_ok_iff hfollows.holds_threshold).mpr hcoherent]
    rfl

/-- **A refusal has one reason**, and the error names the key to blame. -/
theorem ofSource_mapError_eq_error_iff :
    (ofSource source).mapError SettingFault.toError = .error e ↔ Refused source e := by
  rw [except_mapError_eq_error, ofSource_eq]
  constructor
  · rintro ⟨f, h, rfl⟩
    cases hread : Setting.all.foldlM (readOne source) {} with
    | error f' =>
      rw [hread] at h
      obtain rfl : f' = f := Except.error.inj h
      obtain ⟨earlier, k, later, hall, hearlier, hk⟩ :=
        exists_foldlM_eq_error_iff.mp ⟨f', hread, rfl⟩
      exact .unreadable hall hearlier hk
    | ok s =>
      have hfollows := foldlM_all_eq_ok_iff.mp hread
      rw [hread] at h
      have herror : (s.check >>= fun _ => Except.ok s) = .error f := h
      cases hcheck : s.check with
      | error f' =>
        rw [hcheck] at herror
        obtain rfl : f' = f := Except.error.inj herror
        exact .incoherent hfollows
          ((exists_check_eq_error_iff hfollows.holds_threshold).mp ⟨f', hcheck, rfl⟩)
      | ok u =>
        rw [hcheck] at herror
        cases herror
  · rintro (⟨hall, hearlier, hk⟩ | @⟨s, _, hs, he⟩)
    · obtain ⟨f, hread, hf⟩ := (exists_foldlM_eq_error_iff (s := {})).mpr
        ⟨_, _, _, hall, hearlier, hk⟩
      exact ⟨f, by rw [hread]; rfl, hf⟩
    · obtain ⟨f, hcheck, hf⟩ := (exists_check_eq_error_iff hs.holds_threshold).mpr he
      refine ⟨f, ?_, hf⟩
      rw [foldlM_all_eq_ok_iff.mpr hs]
      show (s.check >>= fun _ => Except.ok s) = _
      rw [hcheck]
      rfl

/-- If all texts can be read, the source stands for settings. -/
theorem exists_follows_iff :
    (∃ s : Settings, s.Follows source) ↔ ∀ k : Setting, k.Readable source := by
  constructor
  · rintro ⟨s, hs⟩ k
    exact (hs k).readable
  · intro h
    have hall : ∀ k ∈ Setting.all, k.Readable source := fun k _ => h k
    obtain ⟨s, hs⟩ := exists_foldlM hall {}
    exact ⟨s, foldlM_all_eq_ok_iff.mp hs⟩

end Settings

end Reading

/-! ### Pages of the usual size -/

/-- **A page that is accepted is not refused later on**, whatever becomes of it. -/
theorem Service.timeline_ne_validation {s : Service} {c : Collaborators} {context : CallContext}
    {r : Service.Request} (h : (s.query c.now r).validate = .ok ()) (reason : String) :
    (s.timeline c context r).outcome ≠ .error (.validation reason) := by
  obtain ⟨order, horder, houtcome⟩ := exists_endingOrder_of_timeline h
  rw [houtcome]
  intro herror
  rcases cases_of_timelineIn_eq_error horder herror with
    ⟨_, _, failure, _, he, _⟩ | ⟨he, _⟩
  · cases failure <;> cases he
  · cases he

/-- Under coherent settings a page of the usual size may be asked for. -/
theorem Settings.Coherent.validate_query {s : Service} (h : s.settings.Coherent) {now : Instant}
    {r : Service.Request} (hlimit : r.limit = none) : (s.query now r).validate = .ok () := by
  rw [PageQuery.validate_eq_ok_iff, Service.query, hlimit, Option.getD_none]
  exact h.usual

namespace Settings

/-- **Loading is exact.** A source is accepted exactly if what it says are coherent settings, and
these are loaded; it says what settings are, and only one choice of them, exactly if every text that
it has spells an integer of its range. It is refused because of the first text in the order of
reading that does not, or, if all do, because of the first condition that the settings violate, and
the error that callers see names the key of that text or condition, and what is wrong. And a service
with settings that were loaded never refuses a page of the usual size, whatever its handlers do. -/
theorem ofSource_exact (source : String → Option String) :
    (∀ s, ofSource source = .ok s ↔ s.Follows source ∧ s.Coherent) ∧
      ((∃ s : Settings, s.Follows source) ↔ ∀ k : Setting, k.Readable source) ∧
      (∀ s s' : Settings, s.Follows source → s'.Follows source → s = s') ∧
      (∀ e, (ofSource source).mapError SettingFault.toError = .error e ↔ Refused source e) ∧
      ∀ s, ofSource source = .ok s → ∀ (registry : Registry) (c : Collaborators)
        (context : CallContext) (r : Service.Request), r.limit = none → ∀ reason,
          ((⟨registry, s⟩ : Service).timeline c context r).outcome ≠
            .error (.validation reason) := by
  refine ⟨fun s => ofSource_eq_ok_iff, exists_follows_iff, fun s s' h h' => h.unique h',
    fun e => ofSource_mapError_eq_error_iff, fun s hs registry c context r hlimit reason => ?_⟩
  have hcoherent : s.Coherent := (ofSource_eq_ok_iff.mp hs).2
  exact Service.timeline_ne_validation
    (Coherent.validate_query (s := ⟨registry, s⟩) hcoherent hlimit) reason

/-- The least threshold, the largest limit, and pages of one event only. -/
def extremeSource (key : String) : Option String :=
  [("FEED_FANOUT_THRESHOLD", " -9223372036854775808\u3000"),
    ("FEED_PUSH_FANOUT_LIMIT", "+18446744073709551615"),
    ("FEED_DEFAULT_PAGE_SIZE", "\u00a0001"), ("FEED_MAX_PAGE_SIZE", "1")].lookup key

/-- What that says, with three usual values. -/
def extreme : Settings where
  policy := { threshold := -9223372036854775808, pushLimit := 18446744073709551615 }
  defaultPageSize := 1
  maxPageSize := 1

/-- A negative number of milliseconds between blanks, a text that comes later in the order of
reading, and no pages. -/
def garbledSource (key : String) : Option String :=
  [("FEED_MAX_PAGE_SIZE", "0"), ("FEED_DEFAULT_PAGE_SIZE", "ten"),
    ("FEED_READ_TIMEOUT_MS", "\u3000-1 ")].lookup key

/-- A threshold above the usual limit, and an empty usual page. -/
def contradictorySource (key : String) : Option String :=
  [("FEED_DEFAULT_PAGE_SIZE", "0"), ("FEED_FANOUT_THRESHOLD", "20001")].lookup key

/-- The first source is loaded, and a page of the usual size is not refused although nothing else
works. The others are refused, each with the first key to blame. -/
theorem ofSource_exact_extreme :
    ofSource extremeSource = .ok extreme ∧ extreme.Follows extremeSource ∧ extreme.Coherent ∧
      (∀ reason, ((⟨.standard extreme.policy, extreme⟩ : Service).timeline
          ⟨.epoch, fun _ => .fail .crash, fun _ => .fail .crash⟩ {} ⟨1, none, none⟩).outcome ≠
        .error (.validation reason)) ∧
      (ofSource garbledSource).mapError SettingFault.toError = .error (.setting
        "FEED_READ_TIMEOUT_MS" "`\u3000-1 `: invalid digit found in string") ∧
      (ofSource contradictorySource).mapError SettingFault.toError = .error (.setting
        "FEED_PUSH_FANOUT_LIMIT" ("missing or invalid field: key=push_fanout_limit, " ++
          "reason=push_fanout_limit 10000 is below fanout_threshold 20001")) := by
  have hloaded : ofSource extremeSource = .ok extreme := by decide +kernel
  obtain ⟨hok, -, -, -, hpage⟩ := ofSource_exact extremeSource
  obtain ⟨hfollows, hcoherent⟩ := (hok extreme).mp hloaded
  obtain ⟨-, -, -, hgarbled, -⟩ := ofSource_exact garbledSource
  obtain ⟨-, -, -, hcontradictory, -⟩ := ofSource_exact contradictorySource
  refine ⟨hloaded, hfollows, hcoherent, hpage extreme hloaded _ _ _ _ rfl, (hgarbled _).mpr ?_,
    (hcontradictory _).mpr ?_⟩
  · -- the first three keys are not there, and the fourth has no sign that could be read
    have habsent : ∀ j ∈ [Setting.fanoutThreshold, .followeeLimit, .pushFanoutLimit],
        garbledSource j.key = none := by decide +kernel
    have htext : garbledSource Setting.readTimeout.key = some "\u3000-1 " := by decide +kernel
    have htrim : trim "\u3000-1 ".toList = ['-', '1'] := by decide +kernel
    have hproblem : Misspelt IntegerRange.unsigned64 ['-', '1'] .invalidDigit :=
      .plain (by decide) (fun _ => rfl) (@DigitProblem.strange _ _ _ [] ['1'] '-'
        (List.forall_mem_nil _) (by decide) (by decide))
    refine .unreadable (k := .readTimeout) rfl
      (fun j hj text htext => nomatch (habsent j hj).symm.trans htext) ?_
    exact Setting.failsWith_of_misspelt htext (htrim ▸ trimmed_trim _) hproblem
  · have hread : Setting.all.foldlM (readOne contradictorySource) {} =
        .ok { policy := { threshold := 20001 }, defaultPageSize := 0 } := by decide +kernel
    exact .incoherent (foldlM_all_eq_ok_iff.mp hread) (.policy (by decide) (by decide))

end Settings

end ActivityFeed
