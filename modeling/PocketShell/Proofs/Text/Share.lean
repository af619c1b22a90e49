import PocketShell.Proofs.Text.RangeTable
import PocketShell.Text.Columns
import Mathlib.Algebra.Order.Group.Unbundled.Int
import Mathlib.Tactic.SplitIfs

/-!
# The share of a character

In a text a character takes no more columns than on its own, apart from two kinds: a
control character takes a column and none on its own, and a narrow character takes two
where the selector after it makes a picture of it.  Forms that characters build
together only save columns, and no form saves more than its characters took.  The
letters of flags before a joined picture save some at first that later letters take,
so both bounds are kept with what the text begins with and what was saved there.
-/

namespace PocketShell
namespace Text

/-- The selector that asks for a picture of the character before it. -/
def pictureSelector : Char :=
  '\uFE0F'

/-- How many columns more than on its own a character may take in a text, where a picture
selector may come after it. -/
def excess (char : Char) (selected : Bool) : Nat :=
  (if isControl char && char ≠ '\n' then 1 else 0) +
    (if selected && isVariationBase char then 2 - charColumns char else 0)

namespace Opening

/-- The columns that were saved and may still be taken by a character before. -/
def saved : Opening → Int
  | .joinedFlagsEven => 2
  | _ => 0

/-- The columns that a character before may still save. -/
def savable : Opening → Int
  | .khmerLetter | .tifinaghJoiner | .joinedFlagLetter | .joinedFlagsOdd => 1
  | _ => 0

theorem saved_nonneg (opening : Opening) : 0 ≤ opening.saved := by
  unfold saved
  split <;> decide

theorem savable_nonneg (opening : Opening) : 0 ≤ opening.savable := by
  unfold savable
  split <;> decide

end Opening

section Tables

variable {code : Nat}

theorem emojiRanges_ascending : emojiRanges.Ascending := by decide +kernel

theorem emojiRanges_liesApart_zeroWidthRanges :
    emojiRanges.liesApart zeroWidthRanges = true := by
  decide +kernel

theorem one_le_codeColumns (widthNotZero : zeroWidthRanges.covers code = false) :
    1 ≤ codeColumns code := by
  simp only [codeColumns, widthNotZero, Bool.false_eq_true, if_false]
  split_ifs <;> omega

theorem one_le_codeColumns_of_emoji (emoji : emojiRanges.covers code = true) :
    1 ≤ codeColumns code :=
  one_le_codeColumns (RangeTable.not_covers_of_liesApart emojiRanges_ascending.pairwise
    zeroWidthRanges_ascending.pairwise emojiRanges_liesApart_zeroWidthRanges emoji)

theorem one_le_codeColumns_of_between {first last : Nat}
    (apart : RangeTable.liesApart [(first, last)] zeroWidthRanges = true)
    (lower : first ≤ code) (upper : code ≤ last) : 1 ≤ codeColumns code := by
  have covered : RangeTable.covers [(first, last)] code = true := by
    rw [RangeTable.covers, if_neg (Nat.not_lt.mpr lower), if_pos upper]
  exact one_le_codeColumns (RangeTable.not_covers_of_liesApart (List.pairwise_singleton _ _)
    zeroWidthRanges_ascending.pairwise apart covered)

theorem one_le_codeColumns_of_flagLetter (letter : isFlagLetter code = true) :
    1 ≤ codeColumns code := by
  simp only [isFlagLetter, between, Bool.and_eq_true, decide_eq_true_eq] at letter
  exact one_le_codeColumns_of_between (by decide +kernel) letter.1 letter.2

theorem one_le_codeColumns_of_khmerStacking (letter : isKhmerStacking code = true) :
    1 ≤ codeColumns code := by
  simp only [isKhmerStacking, between, Bool.or_eq_true, Bool.and_eq_true,
    decide_eq_true_eq] at letter
  have lower : 0x1780 ≤ code := by omega
  have upper : code ≤ 0x17AF := by omega
  exact one_le_codeColumns_of_between (by decide +kernel) lower upper

end Tables

/-- The columns that a character takes before a text are no more than allowed and do not undo what
the text took, where the forms that the text begins with may still save or take columns. -/
structure Within (allowed : Nat) (before : Opening) (own : Int) (after : Opening) : Prop where
  lower : after.savable ≤ own + before.savable
  upper : own + after.saved ≤ allowed + before.saved

namespace Within

variable {allowed : Nat} {before after : Opening} {own : Int}

theorem kept (savableLe : after.savable ≤ before.savable) (savedLe : after.saved ≤ before.saved) :
    Within allowed before 0 after := by
  constructor <;> omega

theorem free (nothingSavable : after.savable = 0) (nothingSaved : after.saved = 0) :
    Within allowed before 0 after :=
  kept (nothingSavable ▸ before.savable_nonneg) (nothingSaved ▸ before.saved_nonneg)

theorem column (taken : Nat) (takenLe : taken ≤ allowed) (savableLe : after.savable ≤ taken)
    (nothingSaved : after.saved = 0) : Within allowed before taken after := by
  have := before.savable_nonneg
  have := before.saved_nonneg
  constructor <;> omega

theorem saving (oneSavable : before.savable = 1) (nothingSavable : after.savable = 0)
    (savedLe : after.saved ≤ 1 + allowed) : Within allowed before (-1) after := by
  have := before.saved_nonneg
  constructor <;> omega

theorem of_before {other : Opening} (within : Within allowed other own after)
    (savableLe : other.savable ≤ before.savable) (savedLe : other.saved ≤ before.saved) :
    Within allowed before own after := by
  obtain ⟨lower, upper⟩ := within
  constructor <;> omega

/-- What two characters one after the other take. -/
theorem append {more : Nat} {middle : Opening} {later : Int}
    (first : Within allowed before own middle) (second : Within more middle later after) :
    Within (more + allowed) before (later + own) after := by
  obtain ⟨lower, upper⟩ := first
  obtain ⟨laterLower, laterUpper⟩ := second
  constructor <;> omega

theorem of_le {fewer : Nat} (within : Within fewer before own after) (fewerLe : fewer ≤ allowed) :
    Within allowed before own after := by
  obtain ⟨lower, upper⟩ := within
  constructor <;> omega

end Within

section Share

variable {char : Char} {opening : Opening}

theorem combine_within {allowed : Nat} {result : Int × Following}
    (takesOne : isFlagLetter char.toNat = true ∨ char.toNat = 0x2D7F → 1 ≤ allowed)
    (combined : combine char opening = some result) :
    Within allowed opening result.1 result.2.opening := by
  cases opening with
  | arabicAlef | bugineseSignYa | lisuLowTone | skinTone | picture | joinedTag =>
      simp only [combine] at combined
      split_ifs at combined <;> cases combined <;> exact .free rfl rfl
  | hebrewLamed joined | bugineseYa joined | orkhonI joined =>
      cases joined <;> simp only [combine, reduceCtorEq] at combined
      split_ifs at combined
      cases combined
      exact .free rfl rfl
  | khmerLetter | tifinaghJoiner =>
      simp only [combine] at combined
      split_ifs at combined
      cases combined
      exact .saving rfl rfl (by simp [Opening.saved, Following.plain]; omega)
  | tifinaghLetter joined =>
      simp only [combine] at combined
      split_ifs at combined with joiner letter <;> cases combined
      · exact .column 1 (takesOne (.inr joiner)) (by decide) rfl
      · exact .free rfl rfl
  | flagLetter =>
      simp only [combine] at combined
      split_ifs at combined with letter
      cases combined
      exact .column 1 (takesOne (.inl letter)) (by decide) rfl
  | flagLetters =>
      simp only [combine] at combined
      split_ifs at combined with letter joiner <;> cases combined
      · exact .column 1 (takesOne (.inl letter)) (by decide) rfl
      · exact .free rfl rfl
  | joinedPicture =>
      simp only [combine] at combined
      split_ifs at combined with keycap letter tone tag emoji <;> cases combined
      · exact .free rfl rfl
      · exact .column 1 (takesOne (.inl letter)) (by decide) rfl
      · exact .free rfl rfl
      · exact .free rfl rfl
      · exact .free rfl rfl
  | joinedFlagLetter | joinedFlagsOdd =>
      simp only [combine] at combined
      split_ifs at combined with letter
      cases combined
      have := takesOne (.inl letter)
      exact .saving rfl rfl (by simp [Opening.saved, Following.opened]; omega)
  | joinedFlagsEven =>
      simp only [combine] at combined
      split_ifs at combined with letter joiner <;> cases combined
      · have := takesOne (.inl letter)
        constructor <;> simp [Opening.savable, Opening.saved, Following.opened]
        omega
      · exact .free rfl rfl
  | plain | lineFeed | joinedKeycap => simp [combine] at combined

/-- The form that a character begins saves no more later than the character takes. -/
def Following.Covered (allowed : Nat) (following : Following) : Prop :=
  following.opening.savable ≤ allowed ∧ following.opening.saved = 0

theorem openingOf_covered (char : Char) : (openingOf char).Covered (codeColumns char.toNat) := by
  have free {following : Following} (nothingSavable : following.opening.savable = 0)
      (nothingSaved : following.opening.saved = 0) :
      following.Covered (codeColumns char.toNat) :=
    ⟨nothingSavable ▸ Int.natCast_nonneg _, nothingSaved⟩
  unfold openingOf
  iterate 4
    apply iteInduction
    · exact fun _ => free rfl rfl
    intro _
  apply iteInduction
  · intro khmer
    have takesOne := one_le_codeColumns_of_khmerStacking khmer
    exact ⟨Int.ofNat_le.mpr takesOne, rfl⟩
  intro _
  iterate 7
    apply iteInduction
    · exact fun _ => free rfl rfl
    intro _
  exact free rfl rfl

theorem charColumns_of_lt (above : 0xA0 < char.toNat) :
    charColumns char = codeColumns char.toNat := by
  have notControl : isControl char = false := by
    simp only [isControl, Bool.or_eq_false_iff, Bool.and_eq_false_iff, decide_eq_false_iff_not]
    omega
  rw [charColumns, charColumns?, notControl]
  rfl

namespace Opening

/-- Dropping a form leaves nothing to be saved or taken. -/
theorem ite_plain_le (opening : Opening) (kept : Bool) :
    (if kept then opening else .plain).savable ≤ opening.savable ∧
      (if kept then opening else .plain).saved ≤ opening.saved := by
  cases kept with
  | true => exact ⟨le_rfl, le_rfl⟩
  | false => exact ⟨opening.savable_nonneg, opening.saved_nonneg⟩

theorem withoutSelector_le (opening : Opening) :
    opening.withoutSelector.opening.savable ≤ opening.savable ∧
      opening.withoutSelector.opening.saved ≤ opening.saved := by
  have dropped : opening.withoutSelector.opening =
      if opening.isLetterForm then opening else .plain :=
    apply_ite Following.opening _ _ _
  rw [dropped]
  exact opening.ite_plain_le _

theorem joined_within (opening : Opening) (allowed : Nat) :
    Within allowed opening 0 opening.joined := by
  cases opening <;> exact .kept le_rfl le_rfl

end Opening

theorem shareBefore_within (char : Char) (opening : Opening) :
    Within (codeColumns char.toNat) opening (shareBefore char opening).1
      (shareBefore char opening).2.opening := by
  unfold shareBefore
  split_ifs with picture text joiner mark
  · exact .kept (opening.ite_plain_le _).1 (opening.ite_plain_le _).2
  · exact .kept (opening.ite_plain_le _).1 (opening.ite_plain_le _).2
  · exact opening.joined_within _
  · exact .kept le_rfl le_rfl
  · cases combined : combine char opening with
    | none =>
        obtain ⟨savableLe, nothingSaved⟩ := openingOf_covered char
        exact .column _ le_rfl savableLe nothingSaved
    | some result =>
        refine combine_within ?_ combined
        rintro (letter | joiner)
        · exact one_le_codeColumns_of_flagLetter letter
        · rw [joiner]
          decide +kernel

theorem excess_false_le (char : Char) (selected : Bool) :
    excess char false ≤ excess char selected := by
  simp [excess]

theorem one_le_latin (notAbove : char.toNat ≤ 0xA0) (notLineFeed : char ≠ '\n') :
    1 ≤ charColumns char + excess char false := by
  cases control : isControl char with
  | true => simp [excess, control, notLineFeed]
  | false =>
      have widthNotZero : zeroWidthRanges.covers char.toNat = false :=
        if_pos (by omega : char.toNat < 0xAD)
      have takesOne := one_le_codeColumns widthNotZero
      simp only [charColumns, charColumns?, control]
      exact Nat.le_add_right_of_le takesOne

theorem latinShare_within (notAbove : char.toNat ≤ 0xA0) (next : Following) :
    Within (charColumns char + excess char false) next.opening
      (latinShare char next).1 (latinShare char next).2.opening := by
  unfold latinShare
  split_ifs with lineFeed returns
  · exact .free rfl rfl
  · exact .free rfl rfl
  · exact .column 1 (one_le_latin notAbove lineFeed) (by decide) rfl

theorem one_le_of_textVariationBase (base : isTextVariationBase char = true) :
    1 ≤ codeColumns char.toNat := by
  simp only [isTextVariationBase, Bool.and_eq_true] at base
  exact one_le_codeColumns_of_emoji base.1.2

theorem picture_within {next : Following} (base : isVariationBase char = true) :
    Within (charColumns char + excess char true) next.opening
      (if next.opening.isJoinedPicture then 0 else 2) .picture := by
  split
  · exact .free rfl rfl
  · refine .column 2 ?_ (by decide) rfl
    simp only [excess, base, Bool.and_self, if_true]
    omega

theorem share_within (char : Char) (next : Following) :
    Within (charColumns char + excess char (next.selector = .asPicture)) next.opening
      (share char next).1 (share char next).2.opening := by
  have left : (if next.selector = .asPicture then next.opening.withoutSelector.opening
      else next.opening).savable ≤ next.opening.savable ∧
      (if next.selector = .asPicture then next.opening.withoutSelector.opening
        else next.opening).saved ≤ next.opening.saved := by
    split
    · exact next.opening.withoutSelector_le
    · exact ⟨le_rfl, le_rfl⟩
  simp only [share]
  generalize (if next.selector = .asPicture then next.opening.withoutSelector.opening
    else next.opening) = opening at left ⊢
  by_cases selected : (next.selector = .asPicture && isVariationBase char) = true
  · rw [if_pos selected]
    simp only [Bool.and_eq_true, decide_eq_true_eq] at selected
    rw [decide_eq_true selected.1]
    exact picture_within selected.2
  rw [if_neg selected]
  by_cases latin : char.toNat ≤ 0xA0
  · rw [if_pos latin]
    exact (latinShare_within latin next).of_le (Nat.add_le_add_left (excess_false_le char _) _)
  rw [if_neg latin]
  have allowed : codeColumns char.toNat ≤
      charColumns char + excess char (next.selector = .asPicture) := by
    rw [charColumns_of_lt (Nat.not_le.mp latin)]
    exact Nat.le_add_right _ _
  refine Within.of_le (Within.of_before ?_ left.1 left.2) allowed
  split_ifs with reads base
  · exact shareBefore_within char opening
  · exact .column 1 (one_le_of_textVariationBase base) (by decide) rfl
  · have dropped := opening.withoutSelector_le
    exact (shareBefore_within char _).of_before dropped.1 dropped.2

/-- Only a picture selector in front of a text asks for a picture before it. -/
def Following.BegunBy (char : Char) (following : Following) : Prop :=
  following.selector = .asPicture → char = pictureSelector

theorem Following.begunBy_opened (char : Char) (opening : Opening) :
    (Following.opened opening).BegunBy char :=
  fun selected => by contradiction

theorem combine_begunBy :
    ∀ result ∈ combine char opening, result.2.BegunBy char := by
  fun_cases combine char opening
  all_goals rintro _ ⟨⟩
  all_goals exact Following.begunBy_opened char _

theorem openingOf_begunBy (char : Char) : (openingOf char).BegunBy char := by
  unfold openingOf
  apply iteInduction
  · exact fun code _ => Char.toNat_inj.mp code
  intro _
  iterate 11
    apply iteInduction
    · exact fun _ selected => by contradiction
    intro _
  exact Following.begunBy_opened char _

theorem shareBefore_begunBy (char : Char) (opening : Opening) :
    (shareBefore char opening).2.BegunBy char := by
  unfold shareBefore
  split_ifs with picture text joiner mark
  · exact fun _ => Char.toNat_inj.mp picture
  · exact fun selected => by contradiction
  · exact Following.begunBy_opened char _
  · exact Following.begunBy_opened char _
  · cases combined : combine char opening with
    | none => exact openingOf_begunBy char
    | some result => exact combine_begunBy result combined

theorem latinShare_begunBy (char : Char) (next : Following) :
    (latinShare char next).2.BegunBy char := by
  unfold latinShare
  split_ifs <;> exact Following.begunBy_opened char _

theorem share_begunBy (char : Char) (next : Following) : (share char next).2.BegunBy char := by
  simp only [share]
  generalize (if next.selector = .asPicture then next.opening.withoutSelector.opening
    else next.opening) = opening
  split_ifs
  · exact Following.begunBy_opened char _
  · exact Following.begunBy_opened char _
  · exact latinShare_begunBy char next
  · exact shareBefore_begunBy char _
  · exact Following.begunBy_opened char _
  · exact shareBefore_begunBy char _

end Share

end Text
end PocketShell
