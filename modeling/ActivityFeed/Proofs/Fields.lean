import ActivityFeed.Field
import ActivityFeed.Proofs.Integers
import ActivityFeed.Proofs.Work

/-!
# Integers in fields

A handler finds the user whom an event concerns in a field of its bag, as a text. If the text were
read as another number than it stands for, somebody else would be told. This does not happen: the
number of a field is the one that its text stands for, without the blanks around it, and it is a
number of 64 bits. In every other case there is an error, which names the field, quotes the text with
its blanks, and gives the first problem of what stands between them
(`ActivityFeed.Bag.int64_exact`).

The range is not symmetric: the least number is read although its negation is not a number of the
range. Zeros in front of a number do not count, so a text of any length may stand for a number.
-/

namespace ActivityFeed

namespace Bag

open Text

variable {b : Bag} {key s : String}

theorem int64_of_absent (h : b.get? key = none) : b.int64 key = .error (.field key .absent) := by
  rw [int64, text, h]
  rfl

/-- A text is trimmed and read, and an error is traced to the text and the field. -/
theorem int64_of_present (h : b.get? key = some s) :
    b.int64 key = (int64OfText s).mapError (.field key) := by
  rw [int64, text, h]
  rfl

/-- **The number of a field is the one that its text stands for.** -/
theorem int64_eq_ok_iff (h : b.get? key = some s) {n : ℤ} :
    b.int64 key = .ok n ↔
      IntegerText .signed64 (trim s.toList) n ∧ IntegerRange.signed64.Holds n := by
  rw [int64_of_present h, except_mapError_eq_ok, int64OfText, except_mapError_eq_ok,
    readInteger_eq_ok_iff]

/-- **A text that stands for no number is refused because of its first problem.** -/
theorem int64_eq_error_iff (h : b.get? key = some s) {e : FeedError} :
    b.int64 key = .error e ↔
      ∃ fault, Misspelt .signed64 (trim s.toList) fault ∧ e = .field key (.notInteger s fault) := by
  rw [int64_of_present h, except_mapError_eq_error]
  constructor
  · rintro ⟨_, herror, rfl⟩
    obtain ⟨fault, hread, rfl⟩ := except_mapError_eq_error.mp herror
    exact ⟨fault, readInteger_eq_error_iff.mp hread, rfl⟩
  · rintro ⟨fault, hfault, rfl⟩
    exact ⟨_, except_mapError_eq_error.mpr ⟨fault, readInteger_eq_error_iff.mpr hfault, rfl⟩, rfl⟩

/-- A number that was written is read again, whatever blanks stand around it. -/
theorem int64_insert_signed {n : ℤ} (hn : IntegerRange.signed64.Holds n) {w w' : List Char}
    (hw : ∀ c ∈ w, isBlank c = true) (hw' : ∀ c ∈ w', isBlank c = true) :
    (b.insert key (String.ofList (w ++ (signed n ++ w')))).int64 key = .ok n := by
  have htext : IntegerText .signed64 (signed n) n := integerText_signed (by decide) n
  have hget : (b.insert key (String.ofList (w ++ (signed n ++ w')))).get? key =
      some (String.ofList (w ++ (signed n ++ w'))) := by
    rw [get?_insert, if_pos rfl]
  rw [int64_eq_ok_iff hget, String.toList_ofList, trim_append hw htext.not_isBlank hw']
  exact ⟨htext, hn⟩

/-- **The integer of a field is read exactly.** A field that is not there is an error. If there is a
text, what counts is the part of it without the blanks at its two ends. The field has a number exactly
if this part is an optional sign and digits that make up a number of 64 bits, and it is that number.
In every other case the part has a first problem, and there is an error with the name of the field,
the text and the problem. And what is put into the bag as the decimal text of a number of 64 bits,
with any blanks around it, is read as that number. -/
theorem int64_exact (b : Bag) (key : String) :
    (b.get? key = none → b.int64 key = .error (.field key .absent)) ∧
      (∀ s, b.get? key = some s → ∃ t, Trimmed s.toList t ∧
        (∀ n, b.int64 key = .ok n ↔ IntegerText .signed64 t n ∧ IntegerRange.signed64.Holds n) ∧
        (∀ fault, b.int64 key = .error (.field key (.notInteger s fault)) ↔
          Misspelt .signed64 t fault) ∧
        ((∀ n, ¬(IntegerText .signed64 t n ∧ IntegerRange.signed64.Holds n)) →
          ∃ fault, Misspelt .signed64 t fault)) ∧
      ∀ n, IntegerRange.signed64.Holds n → ∀ w w' : List Char, (∀ c ∈ w, isBlank c = true) →
        (∀ c ∈ w', isBlank c = true) →
          (b.insert key (String.ofList (w ++ (signed n ++ w')))).int64 key = .ok n := by
  refine ⟨int64_of_absent, fun s hs => ?_, fun n hn w w' hw hw' => int64_insert_signed hn hw hw'⟩
  refine ⟨trim s.toList, trimmed_trim s.toList, fun n => int64_eq_ok_iff hs, fun fault => ?_,
    fun hnone => ?_⟩
  · rw [int64_eq_error_iff hs]
    constructor
    · rintro ⟨fault, hfault, he⟩
      cases he
      exact hfault
    · exact fun hfault => ⟨fault, hfault, rfl⟩
  · cases hread : b.int64 key with
    | ok n => exact absurd ((int64_eq_ok_iff hs).mp hread) (hnone n)
    | error e =>
      obtain ⟨fault, hfault, -⟩ := (int64_eq_error_iff hs).mp hread
      exact ⟨fault, hfault⟩

/-- A text of the least number, with more zeros than digits and blanks that are not ASCII. -/
def leastText : String := "\u2003-000000000000000000000009223372036854775808\u3000\n"

/-- The negation of the least number, which is no number of 64 bits. -/
def negatedText : String := "\u00a09223372036854775808"

/-- A bag with the two. -/
def extremes : Bag := ofList [("liked", leastText), ("uid", negatedText)]

/-- The first is read, the second is refused at its last digit, and a third one is not there. The
second may be replaced by the least number, written between other blanks. -/
theorem int64_exact_extremes :
    extremes.get? "liked" = some leastText ∧
      extremes.int64 "liked" = .ok (-9223372036854775808) ∧
      extremes.get? "uid" = some negatedText ∧
      (∀ n, ¬(IntegerText .signed64 "9223372036854775808".toList n ∧
        IntegerRange.signed64.Holds n)) ∧
      extremes.int64 "uid" = .error (.field "uid" (.notInteger negatedText .tooLarge)) ∧
      extremes.get? "followee" = none ∧
      extremes.int64 "followee" = .error (.field "followee" .absent) ∧
      IntegerRange.signed64.Holds (-9223372036854775808) ∧
      isBlank '\u0085' = true ∧
      (extremes.insert "uid" (String.ofList (['\u0085'] ++
        (signed (-9223372036854775808) ++ [])))).int64 "uid" = .ok (-9223372036854775808) := by
  obtain ⟨-, hliked, -⟩ := int64_exact extremes "liked"
  obtain ⟨-, huid, hwritten⟩ := int64_exact extremes "uid"
  obtain ⟨hfollowee, -, -⟩ := int64_exact extremes "followee"
  have hleast : extremes.get? "liked" = some leastText := by decide +kernel
  have hnegated : extremes.get? "uid" = some negatedText := by decide +kernel
  have habsent : extremes.get? "followee" = none := by decide +kernel
  have hrange : IntegerRange.signed64.Holds (-9223372036854775808) := by decide
  have hblank : isBlank '\u0085' = true := by decide
  obtain ⟨t, ht, hok, -, -⟩ := hliked _ hleast
  obtain ⟨t', ht', hok', hfault, hother⟩ := huid _ hnegated
  obtain rfl : t = '-' :: "000000000000000000000009223372036854775808".toList :=
    ht.trim_eq.symm.trans (by decide +kernel)
  obtain rfl : t' = "9223372036854775808".toList := ht'.trim_eq.symm.trans (by decide +kernel)
  have hminus : IntegerText .signed64 ('-' :: "000000000000000000000009223372036854775808".toList)
      (-9223372036854775808) :=
    .minus (by decide) ⟨by decide, List.all_eq_true.mp (by decide)⟩
  -- all digits but the last one stay in the bound
  have hproblem : DigitProblem 9223372036854775807 .tooLarge 0 "9223372036854775808".toList
      .tooLarge :=
    @DigitProblem.leaving _ _ _ "922337203685477580".toList [] '8'
      (List.all_eq_true.mp (by decide)) (by decide) (by decide) (by decide)
  have herror := (hfault .tooLarge).mpr (.plain (by decide) (by decide) hproblem)
  refine ⟨hleast, (hok _).mpr ⟨hminus, hrange⟩, hnegated, fun n hn => ?_, herror, habsent,
    hfollowee habsent, hrange, hblank, hwritten _ hrange ['\u0085'] [] ?_ (List.forall_mem_nil _)⟩
  · cases herror.symm.trans ((hok' n).mpr hn)
  · exact List.forall_mem_singleton.mpr hblank

end Bag

end ActivityFeed
