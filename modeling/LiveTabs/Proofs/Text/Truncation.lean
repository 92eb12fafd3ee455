import LiveTabs.Proofs.Text.MeasuredText

/-!
# Truncated texts

A text that is wider than a limit should be cut so that it fits with an ellipsis at its end. What is
kept is measured character by character, though, and whether the text fits is asked of the text as a
whole. So the result may be wider than the limit, by no more than the surplus of what was kept, and
nothing may be cut off at all. Texts without surplus are cut as they should be
(`truncated_within_surplus`).

The bound is reached: plain characters take a column each in a text, and of these the control
characters take none alone, so that any number of them is kept (`control_characters_uncut`).
-/

namespace LiveTabs.Text

/-- A number that is given in more cases is no less. -/
theorem ite_le_of_imp {first second : Prop} [Decidable first] [Decidable second] (number : Nat)
    (more : first → second) : (if first then number else 0) ≤ if second then number else 0 := by
  split
  · rename_i given
    exact Nat.le_of_eq (if_pos (more given)).symm
  · exact Nat.zero_le _

/-- More characters at the end may only add to the surplus of a character, because only selectors
behind it count. -/
theorem surplus_before_append_le (character : Char) (rest more : List Char) :
    surplusBefore rest character ≤ surplusBefore (rest ++ more) character := by
  have first (asks : rest.head? = some pictureSelector) :
      (rest ++ more).head? = some pictureSelector := by
    rw [List.head?_append, asks]
    rfl
  have selected (asks : wideSelector ∈ rest.takeWhile isSelector) :
      wideSelector ∈ (rest ++ more).takeWhile isSelector := by
    rw [List.takeWhile_append]
    split
    · exact List.mem_append_left _ ((List.takeWhile_sublist _).mem asks)
    · exact asks
  rw [surplusBefore, surplusBefore]
  refine Nat.add_le_add (Nat.add_le_add_left ?_ _) ?_
  · exact ite_le_of_imp _ fun asks => ⟨first asks.1, asks.2⟩
  · exact ite_le_of_imp _ fun asks => ⟨selected asks.1, asks.2⟩

/-- The start of a text has no more surplus than the text, so the surplus of what is kept is bounded
by that of the whole. -/
theorem surplus_append_le (first second : List Char) :
    surplus first ≤ surplus (first ++ second) := by
  induction first with
  | nil => exact Nat.zero_le _
  | cons character rest inductionHypothesis =>
    exact Nat.add_le_add (surplus_before_append_le character rest second) inductionHypothesis

/-- A character that is no selector at the end of a text leaves the surplus of the others. -/
theorem surplus_before_concat (character : Char) (rest : List Char) {last : Char}
    (plain : isSelector last = false) :
    surplusBefore (rest ++ [last]) character = surplusBefore rest character := by
  have first :
      (rest ++ [last]).head? = some pictureSelector ↔ rest.head? = some pictureSelector := by
    cases rest with
    | nil =>
      have other : last ≠ pictureSelector := by
        rintro rfl
        exact absurd plain (by decide)
      simp [other]
    | cons next others => rfl
  have selected : (rest ++ [last]).takeWhile isSelector = rest.takeWhile isSelector := by
    rw [List.takeWhile_append, List.takeWhile_cons_of_neg (by simpa using plain), List.append_nil]
    split
    · rename_i all
      exact ((List.takeWhile_prefix isSelector).eq_of_length all).symm
    · rfl
  rw [surplusBefore, surplusBefore, selected]
  simp only [first]

/-- The ellipsis takes a column, for which the cut leaves room. -/
theorem columns_ellipsis : columns ellipsis = 1 := by
  have listed : (⟨0x2018, 0x2026, []⟩ : Row) ∈ uprightRows := by decide
  have upright : isCombining ellipsis = false :=
    upright_not_combining listed (by decide) (by decide)
  have narrow : isWide ellipsis = false :=
    Table.not_contains_of_apart wide_apart_ellipsis List.mem_cons_self (Nat.le_refl _)
      (Nat.le_refl _)
  have high : isPlain ellipsis = false := by decide
  have other : ellipsis ≠ '\u17d8' := by decide
  rw [columns, high, upright, narrow, if_neg Bool.false_ne_true, if_neg Bool.false_ne_true,
    if_neg other, if_neg Bool.false_ne_true]

/-- It takes it alone as well, so it is measured alike by the cut and in the text. -/
theorem columns_apart_ellipsis : columnsApart [ellipsis] = 1 := by
  have alone : columnsAlone ellipsis = 1 :=
    (columns_alone_of_not_plain (by decide)).trans columns_ellipsis
  rw [columnsApart, columnsApart, alone]

/-- The ellipsis has no surplus and gives none to others, because it is neither a picture nor a
selector. -/
theorem surplus_concat_ellipsis (characters : List Char) :
    surplus (characters ++ [ellipsis]) = surplus characters := by
  induction characters with
  | nil => decide
  | cons character rest inductionHypothesis =>
    rw [List.cons_append, surplus, surplus, inductionHypothesis,
      surplus_before_concat character rest (by decide)]

/-- The start of a text that is kept has room, and what comes next has none. So as much as possible
is kept. -/
theorem take_columns_fit (room : Nat) (characters : List Char) :
    ∃ dropped, characters = takeColumns room characters ++ dropped ∧
      columnsApart (takeColumns room characters) ≤ room ∧
      ∀ next ∈ dropped.head?,
        room < columnsApart (takeColumns room characters) + columnsAlone next := by
  induction characters generalizing room with
  | nil => exact ⟨[], rfl, Nat.zero_le _, nofun⟩
  | cons character rest inductionHypothesis =>
    rw [takeColumns]
    split
    · rename_i fits
      obtain ⟨dropped, parts, within, full⟩ := inductionHypothesis (room - columnsAlone character)
      refine ⟨dropped, congrArg _ parts, ?_, ?_⟩
      · simp only [columnsApart] at within ⊢
        omega
      · intro next comes
        have beyond := full next comes
        simp only [columnsApart] at beyond ⊢
        omega
    · rename_i wide
      refine ⟨character :: rest, rfl, Nat.zero_le _, ?_⟩
      rintro _ ⟨⟩
      simpa [columnsApart] using wide

/-- How a text is cut: as many characters are kept as fit one by one with the ellipsis. -/
structure CutAfter (limit : Nat) (text : String) (kept dropped : List Char) : Prop where
  parts : text.toList = kept ++ dropped
  result : truncate limit text = String.ofList (kept ++ [ellipsis])
  fits : columnsApart kept < limit
  full : ∀ next ∈ dropped.head?, limit ≤ columnsApart kept + columnsAlone next

section Cut

variable {limit : Nat} {text : String} {kept dropped : List Char}

/-- A text that does not fit is cut: some start of it is kept, and the rest is dropped for the
ellipsis. -/
theorem cut_of_wide (room : 0 < limit) (wide : limit < width text) :
    ∃ kept dropped, CutAfter limit text kept dropped := by
  obtain ⟨dropped, parts, within, full⟩ := take_columns_fit (limit - 1) text.toList
  refine ⟨takeColumns (limit - 1) text.toList, dropped, ?_⟩
  exact
    { parts := parts
      result := by rw [truncate, if_neg (Nat.not_le.mpr wide)]
      fits := by omega
      full := by
        intro next comes
        have beyond := full next comes
        omega }

/-- What was cut is wider than the limit by no more than the surplus of what was kept. -/
theorem CutAfter.width_le (cut : CutAfter limit text kept dropped) :
    width (truncate limit text) ≤ limit + surplus kept := by
  have fits := cut.fits
  have bound := width_of_list_le (kept ++ [ellipsis])
  rw [surplus_concat_ellipsis, columns_apart_append, columns_apart_ellipsis, ← cut.result] at bound
  omega

/-- If nothing was cut off a text that does not fit, what it has beyond the limit and the ellipsis
is surplus. -/
theorem CutAfter.proper (cut : CutAfter limit text kept dropped) (wide : limit < width text)
    (little : surplus text.toList < 2) : dropped ≠ [] := by
  rintro rfl
  have fits := cut.fits
  have whole := width_of_list_le text.toList
  rw [String.ofList_toList, cut.parts, List.append_nil] at whole
  rw [cut.parts, List.append_nil] at little
  omega

end Cut

section Plain

variable {character : Char} {characters : List Char}

/-- A plain character takes a column in front of others, unless it is a carriage return. -/
theorem add_columns_plain (low : isPlain character = true) (other : character ≠ '\r')
    {after : After} (calm : after.wantsPicture = false) :
    (addColumns character after).1 = 1 ∧ (addColumns character after).2.wantsPicture = false := by
  rw [addColumns, calm, Bool.false_and, if_neg Bool.false_ne_true]
  dsimp only
  rw [if_pos low]
  split
  · exact ⟨rfl, rfl⟩
  · rw [if_neg fun returned => other returned.1]
    exact ⟨rfl, rfl⟩

/-- Plain characters take a column each in a text, control characters among them. -/
theorem width_before_plain
    (plain : ∀ character ∈ characters, isPlain character = true ∧ character ≠ '\r')
    {tail : List Char} (calm : (widthBefore tail).2.wantsPicture = false) :
    (widthBefore (characters ++ tail)).1 = characters.length + (widthBefore tail).1 ∧
      (widthBefore (characters ++ tail)).2.wantsPicture = false := by
  induction characters with
  | nil => exact ⟨(Int.zero_add _).symm, calm⟩
  | cons character rest inductionHypothesis =>
    obtain ⟨⟨low, other⟩, others⟩ := List.forall_mem_cons.mp plain
    obtain ⟨columns, still⟩ := inductionHypothesis others
    obtain ⟨one, calmer⟩ := add_columns_plain low other still
    rw [List.cons_append, width_before_cons]
    refine ⟨?_, calmer⟩
    rw [one, columns, List.length_cons]
    omega

/-- So does the ellipsis behind them, which makes such a text one column wider. -/
theorem width_of_plain_with_ellipsis
    (plain : ∀ character ∈ characters, isPlain character = true ∧ character ≠ '\r') :
    width (String.ofList (characters ++ [ellipsis])) = characters.length + 1 := by
  have last : widthBefore [ellipsis] = ((columns ellipsis : Int) + 0, .just (.of ellipsis)) := rfl
  have calm : (widthBefore [ellipsis]).2.wantsPicture = false := by
    rw [last]
    rfl
  rw [width, String.toList_ofList, (width_before_plain plain calm).1, last, columns_ellipsis]
  omega

/-- Plain characters make a text as wide as they are many, also those that take no column alone. -/
theorem width_of_plain
    (plain : ∀ character ∈ characters, isPlain character = true ∧ character ≠ '\r') :
    width (String.ofList characters) = characters.length := by
  have alone := (width_before_plain plain (show (widthBefore []).2.wantsPicture = false from rfl)).1
  rw [List.append_nil] at alone
  rw [width, String.toList_ofList, alone]
  exact Int.toNat_natCast _

/-- Characters that take no column alone are never cut off, however little room there is. -/
theorem take_columns_of_unseen (room : Nat)
    (unseen : ∀ character ∈ characters, columnsAlone character = 0) :
    takeColumns room characters = characters := by
  induction characters with
  | nil => rfl
  | cons character rest inductionHypothesis =>
    obtain ⟨first, others⟩ := List.forall_mem_cons.mp unseen
    rw [takeColumns, first, if_pos (Nat.zero_le _), Nat.sub_zero, inductionHypothesis others]

/-- However many control characters there are, none is cut off, and each takes a column, as the
ellipsis does. -/
theorem control_characters_uncut {limit : Nat}
    (controls : ∀ character ∈ characters, isControl character = true ∧ character ≠ '\r')
    (more : limit < characters.length) :
    limit < width (String.ofList characters) ∧
      truncate limit (String.ofList characters) = String.ofList (characters ++ [ellipsis]) ∧
      width (truncate limit (String.ofList characters)) = characters.length + 1 := by
  have plain : ∀ character ∈ characters, isPlain character = true ∧ character ≠ '\r' :=
    fun character there => (controls character there).imp_left plain_of_control
  have unseen : ∀ character ∈ characters, columnsAlone character = 0 := by
    intro character there
    rw [columnsAlone, if_pos (controls character there).1]
  have wide : limit < width (String.ofList characters) := by
    rw [width_of_plain plain]
    exact more
  have whole : truncate limit (String.ofList characters) =
      String.ofList (characters ++ [ellipsis]) := by
    rw [truncate, if_neg (Nat.not_le.mpr wide), String.toList_ofList,
      take_columns_of_unseen _ unseen]
  refine ⟨wide, whole, ?_⟩
  rw [whole, width_of_plain_with_ellipsis plain]

end Plain

/-- A text that fits is left as it is. One that does not fit is cut after as many characters as fit
one by one with the ellipsis, and is then wider than the limit by no more than the surplus of what
was kept. So a text without surplus is cut down to the limit, and something is cut off unless the
surplus is two or more.

Proof: a text is no wider than its characters one by one and their surplus, which the ellipsis does
not change. -/
theorem truncated_within_surplus (text : String) {limit : Nat} (room : 0 < limit) :
    (width text ≤ limit → truncate limit text = text) ∧
    (limit < width text → ∃ kept dropped, CutAfter limit text kept dropped ∧
      width (truncate limit text) ≤ limit + surplus kept ∧
      (surplus text.toList < 2 → dropped ≠ [])) ∧
    (surplus text.toList = 0 → width (truncate limit text) ≤ limit) := by
  refine ⟨fun fits => if_pos fits, ?_, ?_⟩
  · intro wide
    obtain ⟨kept, dropped, cut⟩ := cut_of_wide room wide
    exact ⟨kept, dropped, cut, cut.width_le, cut.proper wide⟩
  · intro none
    by_cases fits : width text ≤ limit
    · rw [truncate, if_pos fits]
      exact fits
    · obtain ⟨kept, dropped, cut⟩ := cut_of_wide room (Nat.lt_of_not_le fits)
      have bound := cut.width_le
      have part := surplus_append_le kept dropped
      rw [← cut.parts] at part
      omega

/-- A title with a tab, which takes a column among other characters and none alone. It is cut after
the tab, and then takes a column more than it should. -/
theorem title_with_tab_cut :
    let text := "Fix login\tand logout"
    0 < 10 ∧ width text = 20 ∧ surplus text.toList = 1 ∧
      ∃ kept dropped, CutAfter 10 text kept dropped ∧ kept = "Fix login\t".toList ∧ dropped ≠ [] ∧
        width (truncate 10 text) = 10 + surplus kept := by
  intro text
  have wide : width text = 20 := by decide +kernel
  have one : surplus text.toList = 1 := by decide +kernel
  obtain ⟨-, tooWide, -⟩ := truncated_within_surplus text (show 0 < 10 by decide)
  obtain ⟨kept, dropped, cut, -, proper⟩ := tooWide (by omega)
  have start : kept = "Fix login\t".toList := by
    have taken : truncate 10 text = String.ofList (takeColumns 9 text.toList ++ [ellipsis]) := by
      rw [truncate, if_neg (by omega)]
    have same := String.ofList_injective (cut.result.symm.trans taken)
    rw [List.append_cancel_right same]
    decide +kernel
  have plain : ∀ character ∈ kept, isPlain character = true ∧ character ≠ '\r' := by
    have all : kept.all (fun character => isPlain character && character != '\r') = true := by
      rw [start]
      decide +kernel
    simpa using all
  refine ⟨by decide, wide, one, kept, dropped, cut, start, proper (by omega), ?_⟩
  rw [cut.result, width_of_plain_with_ellipsis plain, start]
  decide +kernel

/-- One tab more than there may be columns: nothing is cut off, and with the ellipsis the text takes
two columns too many. -/
theorem tabs_beyond_limit :
    let tabs := List.replicate 41 '\t'
    let text := String.ofList tabs
    40 < width text ∧ truncate 40 text = String.ofList (tabs ++ [ellipsis]) ∧
      width (truncate 40 text) = 42 := by
  intro tabs text
  have controls : ∀ character ∈ tabs, isControl character = true ∧ character ≠ '\r' := by
    intro character there
    rw [List.eq_of_mem_replicate there]
    decide
  exact control_characters_uncut controls (by decide)

end LiveTabs.Text
