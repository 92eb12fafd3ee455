import LiveTabs.Proofs.Text.TableRows

/-!
# Texts and their characters

The width of a text is not the sum of the widths of its characters. It may be less, where characters
are drawn as one with others, and it may be more in three cases: a control character takes a column
in a text and none alone; a character that a selector makes a picture takes two columns; and so does
a quotation mark for which a selector asks for its wide form. What these three may add is the
surplus of a text, and a text is no wider than its characters one by one and its surplus
(`width_of_list_le`).

A text is measured from its end. `Placed` says what can come of one character in front of others,
and the bound is kept by each of these ways. Only flags need more than the columns that were
counted: two letters of regions that join with a picture take back the column of the first, and a
third letter parts them again, so the columns that may be claimed back (`saved`) are kept beside
those that are taken.
-/

namespace LiveTabs.Text

/-- The columns of characters that are measured one by one. -/
def columnsApart : List Char → Nat
  | [] => 0
  | character :: rest => columnsAlone character + columnsApart rest

/-- Whether a character is a selector of a form of the character before it. -/
def isSelector (character : Char) : Bool :=
  character = pictureSelector || character = textSelector || character = wideSelector

/-- The columns that a character may take in a text beyond those that it takes alone, in front of
certain others: one for a control character, what a picture on request lacks to two, and one for a
quotation mark in its wide form. -/
def surplusBefore (rest : List Char) (character : Char) : Nat :=
  (if isControl character then 1 else 0) +
    (if rest.head? = some pictureSelector ∧ knowsPictureSelector character then
      2 - columnsAlone character else 0) +
    (if wideSelector ∈ rest.takeWhile isSelector ∧ isQuotation character then 1 else 0)

/-- The columns that characters may take as a text beyond those that they take one by one. -/
def surplus : List Char → Nat
  | [] => 0
  | character :: rest => surplusBefore rest character + surplus rest

/-- The columns that a follower has saved and may claim back: two letters of regions that make a
flag which is joined with a picture take no room, but a third one parts them again. -/
def saved (follower : Follower) : Int := if follower = .joinedRegional 2 then 2 else 0

/-- What is asked for after a character is asked for by the selectors that stand there. -/
structure Asked (rest : List Char) (after : After) : Prop where
  picture : after.wantsPicture = true → rest.head? = some pictureSelector
  wide : after.wantsWide = true → wideSelector ∈ rest.takeWhile isSelector

section Character

variable {character : Char}

/-- A control character lies below all that have a width of their own, so it is measured as a plain
one. -/
theorem plain_of_control (control : isControl character = true) : isPlain character = true := by
  simp only [isControl, inRanges, List.any_cons, List.any_nil, Bool.or_false, Bool.or_eq_true,
    Bool.and_eq_true, decide_eq_true_eq] at control
  rw [isPlain, decide_eq_true_eq, Char.le_def]
  show character.toNat ≤ 0xA0
  omega

/-- Other characters take the same room alone as among others, so only plain ones need a case of
their own. -/
theorem columns_alone_of_not_plain (high : isPlain character = false) :
    columnsAlone character = columns character := by
  have shown : isControl character = false := by
    rw [← Bool.not_eq_true]
    intro control
    rw [plain_of_control control] at high
    cases high
  rw [columnsAlone, shown, if_neg Bool.false_ne_true]

/-- A character that is neither plain nor combining has room of its own. It pays for what it may
lose among others. -/
theorem one_le_columns_alone (high : isPlain character = false)
    (upright : isCombining character = false) : 1 ≤ columnsAlone character := by
  rw [columns_alone_of_not_plain high, columns, high, upright]
  simp only [Bool.false_eq_true, if_false]
  split
  · decide
  · split <;> decide

/-- A plain character takes a column in a text, which is surplus if it takes none alone. -/
theorem one_le_of_plain (low : isPlain character = true) (rest : List Char) :
    1 ≤ columnsAlone character + surplusBefore rest character := by
  rw [columnsAlone, surplusBefore]
  split
  · omega
  · rw [columns, if_pos low]
    omega

/-- Only the joining sign of Tifinagh takes a column within a ligature. All other signs take none,
or give some back. -/
theorem ligature_adds {kind : Ligature} {joined : Bool} {added : Int} {rest : Option Ligature}
    (joins : kind.extend joined character = some (added, rest)) :
    added ≤ 0 ∨ added = 1 ∧ character = '\u2d7f' := by
  cases kind <;> simp only [Ligature.extend] at joins
  case consonant =>
    split at joins
    · rename_i sign
      cases joins
      exact .inr ⟨rfl, sign⟩
    · split at joins <;> cases joins
      exact .inl (Int.le_refl 0)
  all_goals
    refine .inl ?_
    repeat' split at joins
    all_goals cases joins
    all_goals decide

/-- Within a ligature a character takes no more room than alone, so ligatures never make a text
wider. -/
theorem ligature_le {kind : Ligature} {joined : Bool} {added : Int} {rest : Option Ligature}
    (high : isPlain character = false)
    (joins : kind.extend joined character = some (added, rest)) :
    added ≤ columnsAlone character := by
  obtain none | ⟨one, rfl⟩ := ligature_adds joins
  · omega
  · have listed : (⟨0x2D7F, 0x2D7F, []⟩ : Row) ∈ uprightRows := by decide
    have room := one_le_columns_alone high
      (upright_not_combining listed (Nat.le_refl _) (Nat.le_refl _))
    omega

/-- Among vowel signs of Kirat Rai only one that was taken for two before takes a column. -/
theorem kirat_adds {double : Bool} {added : Int} {next : Follower}
    (joins : extendKirat double character = some (added, next)) :
    (added = 0 ∨ added = 1 ∧ character.toNat = 0x16D68) ∧ saved next = 0 := by
  simp only [extendKirat] at joins
  split at joins
  · cases joins
    exact ⟨.inl rfl, rfl⟩
  · split at joins
    · cases joins
    · split at joins
      · cases joins
        exact ⟨.inl rfl, rfl⟩
      · split at joins
        · rename_i sign
          cases joins
          exact ⟨.inr ⟨rfl, sign⟩, rfl⟩
        · split at joins <;> cases joins
          exact ⟨.inl rfl, rfl⟩

/-- So a vowel sign takes no more room than alone, whatever it joins. -/
theorem kirat_le {double : Bool} {added : Int} {next : Follower} (high : isPlain character = false)
    (joins : extendKirat double character = some (added, next)) :
    added ≤ columnsAlone character := by
  obtain ⟨none | ⟨one, sign⟩, -⟩ := kirat_adds joins
  · omega
  · have listed : (⟨0x16D68, 0x16D68, []⟩ : Row) ∈ uprightRows := by decide
    have room := one_le_columns_alone high
      (upright_not_combining listed (Nat.le_of_eq sign.symm) (Nat.le_of_eq sign))
    omega

/-- Letters of regions before a joiner and a picture take no more room than alone, but for what two
of them had saved. -/
theorem regions_le {count : Nat} {added : Int} {next : Follower} (room : 1 ≤ columnsAlone character)
    (joins : extendRegional count = (added, next)) :
    added + saved next ≤ columnsAlone character + saved (.joinedRegional count) := by
  rw [extendRegional] at joins
  split at joins
  · rename_i two
    cases joins
    have before : saved (.joinedRegional count) = 2 := by rw [two]; rfl
    have after : saved (.joinedRegional 3) = 0 := rfl
    omega
  · rename_i other
    cases joins
    have before : saved (.joinedRegional count) = 0 := if_neg (by simpa using other)
    have after : saved (.joinedRegional 2) = 2 := rfl
    omega

/-- In front of a follower that it is drawn as one with, a character takes no more room than alone,
but for what the follower had saved. -/
theorem extend_le {follower next : Follower} {added : Int} (high : isPlain character = false)
    (joins : follower.extend character = some (added, next)) :
    added + saved next ≤ columnsAlone character + saved follower := by
  have letter (regional : isRegional character = true) : 1 ≤ columnsAlone character :=
    one_le_columns_alone high (regional_not_combining regional)
  have unsaved (room : added ≤ columnsAlone character) (none : saved next = 0)
      (before : saved follower = 0) :
      added + saved next ≤ columnsAlone character + saved follower := by omega
  cases follower with
  | ligature kind hasJoiner =>
    simp only [Follower.extend] at joins
    split at joins
    · cases joins
      exact unsaved (Int.natCast_nonneg _) rfl rfl
    · split at joins
      · cases joins
        exact unsaved (Int.natCast_nonneg _) rfl rfl
      · obtain ⟨⟨columns, rest⟩, extended, same⟩ := Option.map_eq_some_iff.mp joins
        cases same
        refine unsaved (ligature_le high extended) ?_ rfl
        cases rest <;> rfl
  | modifier =>
    simp only [Follower.extend] at joins
    repeat' split at joins
    all_goals cases joins
    all_goals exact unsaved (Int.natCast_nonneg _) rfl rfl
  | picture =>
    simp only [Follower.extend] at joins
    split at joins <;> cases joins
    exact unsaved (Int.natCast_nonneg _) rfl rfl
  | regional several =>
    simp only [Follower.extend] at joins
    split at joins
    · rename_i regional
      cases joins
      exact unsaved (Int.ofNat_le.mpr (letter regional)) rfl rfl
    · split at joins <;> cases joins
      exact unsaved (Int.natCast_nonneg _) rfl rfl
  | joined =>
    simp only [Follower.extend, extendJoined] at joins
    split at joins
    · cases joins
      exact unsaved (Int.natCast_nonneg _) rfl rfl
    · split at joins
      · rename_i regional
        cases joins
        exact unsaved (Int.ofNat_le.mpr (letter regional)) rfl rfl
      · repeat' split at joins
        all_goals cases joins
        all_goals exact unsaved (Int.natCast_nonneg _) rfl rfl
  | joinedRegional count =>
    simp only [Follower.extend] at joins
    split at joins
    · rename_i regional
      exact regions_le (letter regional) (Option.some.inj joins)
    · split at joins <;> cases joins
      have nothing : saved .joined = 0 := rfl
      have before : 0 ≤ saved (.joinedRegional count) := by
        rw [saved]
        split <;> decide
      omega
  | joinedTags letters digits =>
    obtain ⟨follower, extended, same⟩ := Option.map_eq_some_iff.mp joins
    cases same
    refine unsaved (Int.natCast_nonneg _) ?_ rfl
    simp only [extendTags] at extended
    repeat' split at extended
    all_goals cases extended
    all_goals rfl
  | kiratVowel double => exact unsaved (kirat_le high joins) (kirat_adds joins).2 rfl
  | nothing => cases joins
  | lineFeed => cases joins
  | joinedFrame => cases joins

end Character

section Step

variable {character : Char} {rest : List Char} {after : After}

/-- Nothing is owed to a follower: what is saved before it is never less than none. -/
theorem saved_nonneg (follower : Follower) : 0 ≤ saved follower := by
  rw [saved]
  split <;> decide

/-- The end of a ligature has saved nothing, since none of its characters waits for a selector. -/
theorem saved_of_ligature (ligature : after.isLigature = true) : saved after.follower = 0 := by
  rw [After.isLigature] at ligature
  split at ligature
  · rename_i kind
    rw [kind]
    rfl
  · cases ligature

/-- A picture that is joined has saved nothing, since only a pair of letters of regions does. -/
theorem saved_of_joined (joined : after.isJoined = true) : saved after.follower = 0 := by
  rw [After.isJoined, Bool.or_eq_true, decide_eq_true_eq, decide_eq_true_eq] at joined
  obtain picture | frame := joined
  · rw [picture]
    rfl
  · rw [frame]
    rfl

/-- Where a selector asks for a picture, nothing is saved, because no pair of letters stands behind
it any more. -/
theorem saved_ask_picture (after : After) : saved after.askPicture.follower = 0 := by
  rw [After.askPicture]
  split
  · rename_i ligature
    exact saved_of_ligature ligature
  · split
    · rename_i joined
      exact saved_of_joined joined
    · rfl

/-- Where a selector asks for text, nothing is saved, for the same reason. -/
theorem saved_ask_text (after : After) : saved after.askText.follower = 0 := by
  rw [After.askText]
  split
  · rename_i ligature
    exact saved_of_ligature ligature
  · rfl

/-- Where a selector asks for a wide form, nothing is saved, for the same reason. -/
theorem saved_ask_wide (after : After) : saved after.askWide.follower = 0 := by
  rw [After.askWide]
  split
  · rename_i ligature
    exact saved_of_ligature ligature
  · rfl

/-- What is saved may be lost where a picture was asked for in vain, but it never grows. -/
theorem saved_drop_picture_le (after : After) :
    saved after.dropPicture.follower ≤ saved after.follower := by
  rw [After.dropPicture]
  split
  · split
    · exact Int.le_refl _
    · exact saved_nonneg _
  · exact Int.le_refl _

/-- A character by itself has saved nothing, since a single letter of a region is no pair. -/
theorem saved_of (character : Char) : saved (.of character) = 0 := by
  rw [Follower.of]
  repeat' split
  all_goals rfl

/-- No picture is asked for any more once it was in vain: the request is for the character right
before the selector. -/
theorem wants_picture_drop_picture (after : After) : after.dropPicture.wantsPicture = false := by
  rw [After.dropPicture]
  split
  · split <;> rfl
  · rename_i unwanted
    exact Bool.not_eq_true _ ▸ unwanted

/-- A wide form that is asked for then was asked for before, so a request can be traced to its
selector. -/
theorem wants_wide_drop_picture (wide : after.dropPicture.wantsWide = true) :
    after.wantsWide = true := by
  rw [After.dropPicture] at wide
  split at wide
  · split at wide
    · exact wide
    · cases wide
  · exact wide

/-- What can come of a character in front of others: the columns that it adds, and what stands after
the character before it. -/
inductive Placed (character : Char) (after : After) : Int → After → Prop where
  | picture {added : Int} (within : added ≤ 2) (wants : after.wantsPicture = true)
      (knows : knowsPictureSelector character = true) :
      Placed character after added (.just .picture)
  | plain {added : Int} (within : added ≤ 1) (low : isPlain character = true) {before : After}
      (idle : before = {} ∨ before = .just .lineFeed) : Placed character after added before
  | asksPicture (selects : character = pictureSelector) :
      Placed character after 0 after.dropPicture.askPicture
  | asksText (selects : character = textSelector) :
      Placed character after 0 after.dropPicture.askText
  | asksWide (selects : character = wideSelector) :
      Placed character after 0 after.dropPicture.askWide
  | text (high : isPlain character = false) (soft : isSoftPicture character = true) :
      Placed character after 1 {}
  | quotation (high : isPlain character = false) (wants : after.wantsWide = true)
      (mark : isQuotation character = true) : Placed character after 2 {}
  | drawn (high : isPlain character = false) {added : Int} {next : Follower}
      (joins : after.dropPicture.follower.extend character = some (added, next)) :
      Placed character after added (.just next)
  | apart (high : isPlain character = false) :
      Placed character after (columns character) (.just (.of character))

/-- Every character is placed in one of these ways. They are told apart once here, for all that is
said of a character and what stands behind it. -/
theorem placed (character : Char) (after : After) :
    Placed character after (addColumns character after).1 (addColumns character after).2 := by
  rw [addColumns]
  split
  · rename_i both
    rw [Bool.and_eq_true] at both
    refine .picture ?_ both.1 both.2
    dsimp only
    split <;> decide
  · dsimp only
    split
    · rename_i low
      split
      · exact .plain (Int.le_refl 1) low (.inr rfl)
      · split
        · exact .plain (by decide) low (.inl rfl)
        · exact .plain (Int.le_refl 1) low (.inl rfl)
    · rename_i notLow
      have high : isPlain character = false := Bool.eq_false_iff.mpr notLow
      split
      · rename_i selects
        exact .asksPicture selects
      · split
        · rename_i selects
          exact .asksText selects
        · split
          · rename_i both
            exact .text high (Bool.and_eq_true _ _ ▸ both).2
          · split
            · rename_i selects
              exact .asksWide selects
            · split
              · rename_i both
                rw [Bool.and_eq_true] at both
                exact .quotation high (wants_wide_drop_picture both.1) both.2
              · split
                · rename_i joins
                  exact .drawn high joins
                · exact .apart high

/-- A selector that asks for a picture asks for a wide form only if one was asked for before. -/
theorem wants_wide_ask_picture (wide : after.askPicture.wantsWide = true) :
    after.wantsWide = true := by
  rw [After.askPicture] at wide
  split at wide
  · exact wide
  · split at wide <;> cases wide

/-- So does a selector that asks for text: it makes no request for a wide form. -/
theorem wants_wide_ask_text (wide : after.askText.wantsWide = true) : after.wantsWide = true := by
  rw [After.askText] at wide
  split at wide
  · exact wide
  · cases wide

/-- A selector that asks for text asks for a picture only if one was asked for before. -/
theorem wants_picture_ask_text (picture : after.askText.wantsPicture = true) :
    after.wantsPicture = true := by
  rw [After.askText] at picture
  split at picture
  · exact picture
  · cases picture

/-- So does a selector that asks for a wide form: it makes no request for a picture. -/
theorem wants_picture_ask_wide (picture : after.askWide.wantsPicture = true) :
    after.wantsPicture = true := by
  rw [After.askWide] at picture
  split at picture
  · exact picture
  · cases picture

variable {added : Int} {before : After}

/-- What is asked for is asked for by the selectors that stand there, also after one more
character. -/
theorem Placed.asked (placed : Placed character after added before) (asked : Asked rest after) :
    Asked (character :: rest) before := by
  have unasked {follower : Follower} : Asked (character :: rest) (.just follower) := ⟨nofun, nofun⟩
  have selector {other : Char} (known : isSelector other = true) (selects : character = other) :
      isSelector character = true := by
    rw [selects]
    exact known
  have goesOn (selects : isSelector character = true) (wide : after.dropPicture.wantsWide = true) :
      wideSelector ∈ (character :: rest).takeWhile isSelector := by
    rw [List.takeWhile_cons_of_pos selects]
    exact List.mem_cons_of_mem _ (asked.wide (wants_wide_drop_picture wide))
  have noPicture : ¬after.dropPicture.wantsPicture = true := by
    rw [wants_picture_drop_picture]
    exact Bool.false_ne_true
  cases placed with
  | picture within wants knows => exact unasked
  | plain within low idle =>
    obtain rfl | rfl := idle
    · exact ⟨nofun, nofun⟩
    · exact unasked
  | asksPicture selects =>
    exact ⟨fun _ => congrArg some selects,
      fun wide => goesOn (selector (by decide) selects) (wants_wide_ask_picture wide)⟩
  | asksText selects =>
    exact ⟨fun picture => (noPicture (wants_picture_ask_text picture)).elim,
      fun wide => goesOn (selector (by decide) selects) (wants_wide_ask_text wide)⟩
  | asksWide selects =>
    refine ⟨fun picture => (noPicture (wants_picture_ask_wide picture)).elim, fun _ => ?_⟩
    rw [List.takeWhile_cons_of_pos (selector (by decide) selects), selects]
    exact List.mem_cons_self
  | text high soft => exact ⟨nofun, nofun⟩
  | quotation high wants mark => exact ⟨nofun, nofun⟩
  | drawn high joins => exact unasked
  | apart high => exact unasked

/-- A picture that is asked for takes two columns, which is surplus if it takes fewer alone. -/
theorem two_le_of_picture (asks : rest.head? = some pictureSelector)
    (knows : knowsPictureSelector character = true) :
    2 ≤ columnsAlone character + surplusBefore rest character := by
  have lacking : (if rest.head? = some pictureSelector ∧ knowsPictureSelector character then
      2 - columnsAlone character else 0) = 2 - columnsAlone character := if_pos ⟨asks, knows⟩
  rw [surplusBefore, lacking]
  omega

/-- A quotation mark in its wide form takes a column more than alone. -/
theorem two_le_of_quotation (high : isPlain character = false)
    (asks : wideSelector ∈ rest.takeWhile isSelector) (mark : isQuotation character = true) :
    2 ≤ columnsAlone character + surplusBefore rest character := by
  have room := one_le_columns_alone high (quotation_not_combining mark)
  have wide : (if wideSelector ∈ rest.takeWhile isSelector ∧ isQuotation character then 1 else 0) =
      1 := if_pos ⟨asks, mark⟩
  rw [surplusBefore, wide]
  omega

/-- A character adds no more columns than it takes alone, its surplus, and what had been saved. -/
theorem Placed.le (placed : Placed character after added before) (asked : Asked rest after) :
    added + saved before.follower ≤
      columnsAlone character + surplusBefore rest character + saved after.follower := by
  have free := saved_nonneg after.follower
  have dropped := saved_drop_picture_le after
  cases placed with
  | picture within wants knows =>
    have two := two_le_of_picture (asked.picture wants) knows
    have unsaved : saved (After.just .picture).follower = 0 := rfl
    omega
  | plain within low idle =>
    have one := one_le_of_plain low rest
    have unsaved : saved before.follower = 0 := by
      obtain rfl | rfl := idle <;> rfl
    omega
  | asksPicture selects =>
    have unsaved := saved_ask_picture after.dropPicture
    omega
  | asksText selects =>
    have unsaved := saved_ask_text after.dropPicture
    omega
  | asksWide selects =>
    have unsaved := saved_ask_wide after.dropPicture
    omega
  | text high soft =>
    have room := one_le_columns_alone high (soft_not_combining soft)
    have unsaved : saved ({} : After).follower = 0 := rfl
    omega
  | quotation high wants mark =>
    have two := two_le_of_quotation high (asked.wide wants) mark
    have unsaved : saved ({} : After).follower = 0 := rfl
    omega
  | drawn high joins =>
    exact Int.le_trans (extend_le high joins) (by omega)
  | apart high =>
    have room := columns_alone_of_not_plain high
    have unsaved := saved_of character
    show _ + saved (.of character) ≤ _
    omega

end Step

/-- The columns of a text are those of its characters in front of each other. The induction from the
end takes its step by this. -/
theorem width_before_cons (character : Char) (rest : List Char) :
    widthBefore (character :: rest) =
      ((addColumns character (widthBefore rest).2).1 + (widthBefore rest).1,
        (addColumns character (widthBefore rest).2).2) := rfl

/-- A text takes no more columns than its characters one by one and their surplus.

Proof: by induction from the end of the text. What follows a character may have saved columns that
the character claims back, so the induction keeps them beside the columns that were taken. -/
theorem width_before_le (characters : List Char) :
    Asked characters (widthBefore characters).2 ∧
      (widthBefore characters).1 + saved (widthBefore characters).2.follower ≤
        columnsApart characters + surplus characters := by
  induction characters with
  | nil => exact ⟨⟨nofun, nofun⟩, by decide⟩
  | cons character rest inductionHypothesis =>
    obtain ⟨asked, bound⟩ := inductionHypothesis
    have step := placed character (widthBefore rest).2
    have room := step.le asked
    rw [width_before_cons]
    refine ⟨step.asked asked, ?_⟩
    simp only [columnsApart, surplus] at bound ⊢
    omega

/-- The columns of two parts, character by character, where nothing depends on what stands beside
it. -/
theorem columns_apart_append (first second : List Char) :
    columnsApart (first ++ second) = columnsApart first + columnsApart second := by
  induction first with
  | nil => exact (Nat.zero_add _).symm
  | cons character rest inductionHypothesis =>
    rw [List.cons_append, columnsApart, columnsApart, inductionHypothesis, Nat.add_assoc]

/-- The width of a text is at most that of its characters one by one and their surplus. -/
theorem width_of_list_le (characters : List Char) :
    width (String.ofList characters) ≤ columnsApart characters + surplus characters := by
  have bound := (width_before_le characters).2
  have free := saved_nonneg (widthBefore characters).2.follower
  rw [width, String.toList_ofList]
  omega

end LiveTabs.Text
