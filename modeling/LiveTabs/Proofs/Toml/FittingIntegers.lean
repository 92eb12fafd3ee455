import LiveTabs.Config.Settings

/-!
# Integers that fit

Every integer in the tables of a settings file is small enough to be written into one. A bare word
is read as an integer only if it fits, and nothing between the word and the tables changes a value:
the grammar puts values into frames and statements (`fits_of_read_token`), and statements put them
into tables (`fits_of_apply`).
-/

namespace LiveTabs.Toml

/-- A scalar that can be written again, as far as it is an integer. -/
def Scalar.Fits : Scalar → Prop
  | .integer value => value ≤ Settings.greatestInteger
  | _ => True

/-- A value of which all integers fit. -/
inductive Node.Fits : Node → Prop where
  | text (content : String) : Fits (.text content)
  | scalar {content : Scalar} (fits : content.Fits) : Fits (.scalar content)
  | array {items : List Node} (fits : ∀ item ∈ items, Fits item) : Fits (.array items)
  | table (origin : Origin) {members : List (String × Node)}
      (fits : ∀ member ∈ members, Fits member.2) : Fits (.table origin members)
  | tables {earlier : List (List (String × Node))} {last : List (String × Node)}
      (fitsEarlier : ∀ members ∈ earlier, ∀ member ∈ members, Fits member.2)
      (fitsLast : ∀ member ∈ last, Fits member.2) : Fits (.tables earlier last)

/-- An integer that was accepted fits: this is the one place at which too large ones are turned
away. -/
theorem fits_of_fitting {value accepted : Int} (fitting : fitting? value = some accepted) :
    accepted ≤ Settings.greatestInteger := by
  unfold fitting? at fitting
  split at fitting
  · rename_i bounds
    cases fitting
    unfold Settings.greatestInteger
    have positive : 0 < Nat.pow 2 63 := by decide
    omega
  · cases fitting

/-- An integer in another base fits, because it is refused beyond 64 bits like a decimal one. -/
theorem fits_of_based {base : Nat} {characters : List Char} {value : Int}
    (read : based? base characters = some value) : value ≤ Settings.greatestInteger := by
  unfold based? at read
  split at read
  · exact fits_of_fitting read
  · cases read

/-- An integer that was read fits, whichever base it is written in. -/
theorem fits_of_integer {characters : List Char} {value : Int}
    (read : integer? characters = some value) : value ≤ Settings.greatestInteger := by
  unfold integer? at read
  split at read
  · exact fits_of_based read
  · exact fits_of_based read
  · exact fits_of_based read
  · dsimp only at read
    split at read
    · exact fits_of_fitting read
    · cases read

/-- A scalar that was read fits: only integers could fail to, and they were checked when they were
read. -/
theorem fits_of_read {characters : List Char} {scalar : Scalar}
    (read : Scalar.read? characters = some scalar) : scalar.Fits := by
  unfold Scalar.read? at read
  split at read
  · cases read
    trivial
  split at read
  · cases read
    trivial
  split at read
  · rename_i value integer
    cases read
    exact fits_of_integer integer
  split at read
  · cases read
    trivial
  split at read
  · cases read
    trivial
  · cases read

/-- A list that is run through keeps what each of its items keeps. Tables are filled by such runs,
in braces and from statements. -/
theorem invariant_of_foldlM {α β : Type} {step : β → α → Option β} {holds : β → Prop}
    (items : List α)
    (keeps : ∀ item ∈ items, ∀ before after, holds before → step before item = some after →
      holds after) {start done : β} (holdsAtStart : holds start)
    (ran : items.foldlM step start = some done) : holds done := by
  induction items generalizing start with
  | nil =>
    cases ran
    exact holdsAtStart
  | cons item items inductionHypothesis =>
    rw [List.forall_mem_cons] at keeps
    rw [List.foldlM_cons] at ran
    obtain ⟨next, stepped, rest⟩ := Option.bind_eq_some_iff.mp ran
    exact inductionHypothesis keeps.2 (keeps.1 start next holdsAtStart stepped) rest

namespace Members

/-- Members of which all integers fit. -/
def Fits (members : Members) : Prop := ∀ member ∈ members, member.2.Fits

/-- A change of a table that keeps all integers fitting. -/
def Change.KeepsFit (change : Change) : Prop :=
  ∀ origin members changed, Fits members → change origin members = some changed → Fits changed

variable {members : Members} {key : String} {node : Node}

/-- What is found in a fitting table fits, so a setting that is read from it does. -/
theorem Fits.get? (fits : members.Fits) (found : members.get? key = some node) : node.Fits := by
  obtain ⟨member, listed, rfl⟩ := Option.map_eq_some_iff.mp found
  exact fits member (List.mem_of_find?_eq_some listed)

/-- A fitting member behind the others fits, which is how new keys come into a table. -/
theorem Fits.append (fits : members.Fits) (fitsNode : node.Fits) :
    Fits (members ++ [(key, node)]) :=
  List.forall_mem_append.mpr ⟨fits, List.forall_mem_singleton.mpr fitsNode⟩

/-- A fitting member in the place of another fits, which is how a table within a table changes. -/
theorem Fits.set (fits : members.Fits) (fitsNode : node.Fits) : Fits (members.set key node) := by
  induction members with
  | nil => simpa [Members.set, Fits] using fitsNode
  | cons member members inductionHypothesis =>
    rw [Fits, List.forall_mem_cons] at fits
    rw [Members.set]
    split
    · exact List.forall_mem_cons.mpr ⟨fitsNode, fits.2⟩
    · exact List.forall_mem_cons.mpr ⟨fits.1, inductionHypothesis fits.2⟩

/-- A change at the end of a path keeps the whole table fitting, if it keeps the table there
fitting.

Proof: by induction on the path. Each step changes one member of the table around it. -/
theorem change_at_keeps_fit (isDotted : Bool) {final : Change} (keeps : final.KeepsFit)
    (path : List String) : (changeAt isDotted final path).KeepsFit := by
  induction path with
  | nil => exact keeps
  | cons key path inductionHypothesis =>
    intro origin members changed fits made
    unfold changeAt at made
    split at made
    · obtain ⟨inner, within, rfl⟩ := Option.map_eq_some_iff.mp made
      have fitsInner := inductionHypothesis _ [] inner (List.forall_mem_nil _) within
      exact fits.set (.table _ fitsInner)
    · rename_i innerOrigin inner found
      split at made
      · cases made
      · obtain ⟨after, within, rfl⟩ := Option.map_eq_some_iff.mp made
        cases fits.get? found with
        | table _ fitsInner =>
          exact fits.set (.table _ (inductionHypothesis _ inner after fitsInner within))
    · rename_i earlier last found
      obtain ⟨after, within, rfl⟩ := Option.map_eq_some_iff.mp made
      cases fits.get? found with
      | tables fitsEarlier fitsLast =>
        exact fits.set (.tables fitsEarlier (inductionHypothesis _ last after fitsLast within))
    · cases made

/-- Adding a fitting member keeps a table fitting. The change is refused where the key is taken. -/
theorem add_keeps_fit (isDotted : Bool) (key : String) (fitsNode : node.Fits) :
    (add isDotted key node).KeepsFit := by
  intro origin members changed fits made
  dsimp only [add] at made
  split at made
  · cases made
  · cases made
    exact fits.append fitsNode

/-- Assigning a fitting value keeps a table fitting, however many tables the key leads through. -/
theorem assign_keeps_fit (path : List String) (fitsNode : node.Fits) :
    (assign path node).KeepsFit := by
  intro origin members changed fits made
  dsimp only [assign] at made
  split at made
  · cases made
  · exact change_at_keeps_fit true (add_keeps_fit _ _ fitsNode) _ origin members changed fits made

/-- Opening a table keeps the table around it fitting: a new one is empty, and an old one stays what
it is. -/
theorem open_table_keeps_fit (key : String) : (openTable key).KeepsFit := by
  intro origin members changed fits made
  dsimp only [openTable] at made
  split at made
  · cases made
    exact fits.append (.table _ (List.forall_mem_nil _))
  · rename_i inner found
    cases made
    cases fits.get? found with
    | table _ fitsInner => exact fits.set (.table _ fitsInner)
  · cases made

/-- Opening the next table of a repeated header keeps the table around it fitting, since what it
adds is an empty table. -/
theorem open_next_keeps_fit (key : String) : (openNext key).KeepsFit := by
  have empty : Fits [] := List.forall_mem_nil _
  intro origin members changed fits made
  dsimp only [openNext] at made
  split at made
  · cases made
    exact fits.append (.tables (List.forall_mem_nil _) empty)
  · rename_i earlier last found
    cases made
    cases fits.get? found with
    | tables fitsEarlier fitsLast =>
      have fitsAll := List.forall_mem_append.mpr
        ⟨fitsEarlier, List.forall_mem_singleton.mpr fitsLast⟩
      exact fits.set (.tables fitsAll empty)
  · cases made

/-- The members of a table in braces fit if the values between the braces do, in whatever order
their keys come. -/
theorem fits_of_braces {given : List (List String × Node)} (fits : ∀ member ∈ given, member.2.Fits)
    (made : ofBraces given = some members) : members.Fits := by
  have keeps : ∀ member ∈ given, ∀ before after, Fits before →
      assign member.1 member.2 .braces before = some after → Fits after :=
    fun member listed before after => assign_keeps_fit member.1 (fits member listed) _ before after
  exact invariant_of_foldlM given keeps (List.forall_mem_nil _) made

end Members

/-- A statement of which all integers fit. -/
def Statement.Fits : Statement → Prop
  | .assign _ node => node.Fits
  | .openTable _ | .openNext _ => True

/-- A frame of which all integers fit. -/
def Frame.Fits : Frame → Prop
  | .line _ => True
  | .array items => ∀ item ∈ items, item.Fits
  | .braces members _ => ∀ member ∈ members, member.2.Fits

/-- A key among fitting values. -/
def KeyPlace.Fits : KeyPlace → Prop
  | .header _ | .line => True
  | .braces members outer => (∀ member ∈ members, member.2.Fits) ∧ ∀ frame ∈ outer, frame.Fits

namespace Stage

/-- A stage of which all integers fit. -/
def Fits : Stage → Prop
  | .line | .header | .headerEnd _ | .lineEnd => True
  | .key place _ | .afterPart place _ => place.Fits
  | .value outer | .braces outer | .bare _ outer | .bareSpace _ outer => ∀ frame ∈ outer, frame.Fits
  | .complete node outer => node.Fits ∧ ∀ frame ∈ outer, frame.Fits

/-- A reading of which all integers fit. -/
structure Reading.Fits (reading : Reading) : Prop where
  stage : Stage.Fits reading.1
  said : ∀ statement ∈ reading.2, statement.Fits

variable {said : List Statement} {outer : List Frame} {word : Token} {next : Reading}

/-- A part of a key leaves the values around it, so reading keys can be passed over in what
follows. -/
theorem fits_of_read_part {place : KeyPlace} {parts : List String} {stage : Stage}
    (fits : place.Fits) (read : readPart place parts word = some stage) : Stage.Fits stage := by
  unfold readPart at read
  split at read
  · cases read
    exact fits
  · obtain ⟨part, -, limited⟩ := Option.bind_eq_some_iff.mp read
    split at limited
    · cases limited
      exact fits
    · cases limited

/-- A complete value among fitting ones fits, be it assigned, an item of an array or a member of a
table in braces. -/
theorem fits_of_finish_value {node : Node} (fitsNode : node.Fits)
    (fitsOuter : ∀ frame ∈ outer, frame.Fits) (fitsSaid : ∀ statement ∈ said, statement.Fits) :
    (finishValue node outer said).Fits := by
  unfold finishValue
  split
  · exact ⟨trivial, List.forall_mem_cons.mpr ⟨fitsNode, fitsSaid⟩⟩
  · exact ⟨⟨fitsNode, fitsOuter⟩, fitsSaid⟩

/-- What follows a part of a key leaves the values around it. -/
theorem fits_of_read_after_part {place : KeyPlace} {parts : List String} (fits : place.Fits)
    (fitsSaid : ∀ statement ∈ said, statement.Fits)
    (read : readAfterPart place parts said word = some next) : next.Fits := by
  unfold readAfterPart at read
  split at read
  · cases read
    exact ⟨fits, fitsSaid⟩
  split at read
  · cases read
    exact ⟨fits, fitsSaid⟩
  split at read
  · cases read
    exact ⟨trivial, List.forall_mem_cons.mpr ⟨trivial, fitsSaid⟩⟩
  · cases read
    exact ⟨trivial, fitsSaid⟩
  · cases read
    exact ⟨List.forall_mem_singleton.mpr trivial, fitsSaid⟩
  · cases read
    exact ⟨List.forall_mem_cons.mpr fits, fitsSaid⟩
  · cases read

/-- The first word of a value keeps all integers fitting: it begins an array or a table, ends an
array, is a text, or begins a bare value. -/
theorem fits_of_read_value (fits : ∀ frame ∈ outer, frame.Fits)
    (fitsSaid : ∀ statement ∈ said, statement.Fits)
    (read : readValue outer said word = some next) : next.Fits := by
  have none : Frame.Fits (.array []) := List.forall_mem_nil _
  unfold readValue at read
  split at read
  · cases read
    exact ⟨fits, fitsSaid⟩
  split at read
  · cases read
    exact fits_of_finish_value (.text _) fits fitsSaid
  · cases read
    exact ⟨fits, fitsSaid⟩
  · cases read
    exact ⟨fits, fitsSaid⟩
  · cases read
    rw [List.forall_mem_cons] at fits
    exact fits_of_finish_value (.array fun item listed => fits.1 item (List.mem_reverse.mp listed))
      fits.2 fitsSaid
  · split at read
    · cases read
      exact ⟨List.forall_mem_cons.mpr ⟨none, fits⟩, fitsSaid⟩
    · cases read
  · split at read
    · cases read
      exact ⟨fits, fitsSaid⟩
    · cases read
  · cases read

/-- What follows a value in brackets or braces keeps all integers fitting: the next value comes, or
the brackets or braces around it are closed. -/
theorem fits_of_read_complete {node : Node} (fitsNode : node.Fits)
    (fits : ∀ frame ∈ outer, frame.Fits) (fitsSaid : ∀ statement ∈ said, statement.Fits)
    (read : readComplete node outer said word = some next) : next.Fits := by
  unfold readComplete at read
  split at read
  · cases read
    exact ⟨⟨fitsNode, fits⟩, fitsSaid⟩
  split at read
  · cases read
    exact ⟨⟨fitsNode, fits⟩, fitsSaid⟩
  · cases read
    rw [List.forall_mem_cons] at fits
    exact ⟨List.forall_mem_cons.mpr ⟨List.forall_mem_cons.mpr ⟨fitsNode, fits.1⟩, fits.2⟩, fitsSaid⟩
  · cases read
    rw [List.forall_mem_cons] at fits
    refine fits_of_finish_value (.array fun item listed => ?_) fits.2 fitsSaid
    exact List.forall_mem_cons.mpr ⟨fitsNode, fits.1⟩ item (List.mem_reverse.mp listed)
  · cases read
    rw [List.forall_mem_cons] at fits
    exact ⟨⟨List.forall_mem_cons.mpr ⟨fitsNode, fits.1⟩, fits.2⟩, fitsSaid⟩
  · rename_i members path rest _
    rw [List.forall_mem_cons] at fits
    have fitsAll : ∀ member ∈ (path, node) :: members, member.2.Fits :=
      List.forall_mem_cons.mpr ⟨fitsNode, fits.1⟩
    obtain ⟨made, braces, rfl⟩ := Option.map_eq_some_iff.mp read
    have fitsMade : Members.Fits made := Members.fits_of_braces
      (fun member listed => fitsAll member (List.mem_reverse.mp listed)) braces
    exact fits_of_finish_value (.table _ fitsMade) fits.2 fitsSaid
  · cases read

/-- The end of a line keeps all integers fitting, because it only closes the statement. -/
theorem fits_of_read_line_end (fitsSaid : ∀ statement ∈ said, statement.Fits)
    (read : readLineEnd said word = some next) : next.Fits := by
  unfold readLineEnd at read
  split at read
  · cases read
    exact ⟨trivial, fitsSaid⟩
  split at read
  · cases read
    exact ⟨trivial, fitsSaid⟩
  · cases read

/-- The end of a bare value keeps all integers fitting. This is where its characters are read as a
scalar, which fits. -/
theorem fits_of_finish_bare {written : List Char} (fits : ∀ frame ∈ outer, frame.Fits)
    (fitsSaid : ∀ statement ∈ said, statement.Fits)
    (read : finishBare written outer said = some next) : next.Fits := by
  obtain ⟨scalar, value, rfl⟩ := Option.map_eq_some_iff.mp read
  exact fits_of_finish_value (.scalar (fits_of_read value)) fits fitsSaid

/-- The word after a bare value keeps all integers fitting: it goes on with the value, or ends it
and is taken after it. -/
theorem fits_of_read_after_bare {written : List Char} (fits : ∀ frame ∈ outer, frame.Fits)
    (fitsSaid : ∀ statement ∈ said, statement.Fits)
    (read : readAfterBare written outer said word = some next) : next.Fits := by
  obtain ⟨⟨stage, more⟩, finished, onward⟩ := Option.bind_eq_some_iff.mp read
  obtain ⟨fitsStage, fitsMore⟩ := fits_of_finish_bare fits fitsSaid finished
  dsimp only at onward
  split at onward
  · exact fits_of_read_line_end fitsMore onward
  · exact fits_of_read_complete fitsStage.1 fitsStage.2 fitsMore onward
  · cases onward

/-- One word keeps all integers fitting, whatever stage the reading is at. This is the step of the
reading of a file. -/
theorem fits_of_read_token {reading : Reading} (fits : reading.Fits)
    (read : readToken reading word = some next) : next.Fits := by
  obtain ⟨stage, said⟩ := reading
  obtain ⟨fitsStage, fitsSaid⟩ := fits
  have part (place : KeyPlace) {parts : List String} (fitsPlace : place.Fits)
      (read : (readPart place parts word).map (fun next => (next, said)) = some next) :
      next.Fits := by
    obtain ⟨stage, part, rfl⟩ := Option.map_eq_some_iff.mp read
    exact ⟨fits_of_read_part fitsPlace part, fitsSaid⟩
  cases stage with
  | line =>
    dsimp only [readToken] at read
    split at read
    · cases read
      exact ⟨trivial, fitsSaid⟩
    split at read
    · cases read
      exact ⟨trivial, fitsSaid⟩
    · exact part .line trivial read
  | header =>
    dsimp only [readToken] at read
    split at read
    · cases read
      exact ⟨trivial, fitsSaid⟩
    · exact part (.header false) trivial read
  | key place parts => exact part place fitsStage read
  | afterPart place parts => exact fits_of_read_after_part fitsStage fitsSaid read
  | headerEnd parts =>
    dsimp only [readToken] at read
    split at read
    · cases read
      exact ⟨trivial, List.forall_mem_cons.mpr ⟨trivial, fitsSaid⟩⟩
    · cases read
  | value outer => exact fits_of_read_value fitsStage fitsSaid read
  | braces outer =>
    dsimp only [readToken] at read
    split at read
    · cases read
      exact fits_of_finish_value (.table _ (List.forall_mem_nil _))
        fitsStage fitsSaid
    split at read
    · cases read
      exact ⟨fitsStage, fitsSaid⟩
    · exact part (.braces [] outer)
        ⟨List.forall_mem_nil _, fitsStage⟩ read
  | bare written outer =>
    dsimp only [readToken] at read
    split at read
    · cases read
      exact ⟨fitsStage, fitsSaid⟩
    · cases read
      exact ⟨fitsStage, fitsSaid⟩
    · split at read
      · cases read
        exact ⟨fitsStage, fitsSaid⟩
      · exact fits_of_read_after_bare fitsStage fitsSaid read
    · exact fits_of_read_after_bare fitsStage fitsSaid read
  | bareSpace written outer =>
    dsimp only [readToken] at read
    split at read
    · cases read
      exact ⟨fitsStage, fitsSaid⟩
    · exact fits_of_read_after_bare fitsStage fitsSaid read
  | complete node outer => exact fits_of_read_complete fitsStage.1 fitsStage.2 fitsSaid read
  | lineEnd => exact fits_of_read_line_end fitsSaid read

/-- All words keep all integers fitting.

Proof: by induction on the words, each of which keeps them so. -/
theorem fits_of_read_tokens {reading : Reading} (words : List Token) (fits : reading.Fits)
    (read : readTokens reading words = some next) : next.Fits := by
  induction words generalizing reading with
  | nil =>
    cases read
    exact fits
  | cons word words inductionHypothesis =>
    unfold readTokens at read
    split at read
    · rename_i after step
      exact inductionHypothesis (fits_of_read_token fits step) read
    · cases read

/-- The statements of a fitting reading fit, with the one that the end of the file completes. -/
theorem fits_of_finish {reading : Reading} (fits : reading.Fits)
    (finished : finish reading = some said) : ∀ statement ∈ said, statement.Fits := by
  obtain ⟨stage, before⟩ := reading
  obtain ⟨fitsStage, fitsSaid⟩ := fits
  have fitsReversed {more : List Statement} (fitsMore : ∀ statement ∈ more, statement.Fits) :
      ∀ statement ∈ more.reverse, statement.Fits :=
    fun statement listed => fitsMore statement (List.mem_reverse.mp listed)
  cases stage with
  | line | lineEnd =>
    cases finished
    exact fitsReversed fitsSaid
  | bare written outer | bareSpace written outer =>
    obtain ⟨⟨stage, more⟩, ended, onward⟩ := Option.bind_eq_some_iff.mp finished
    have fitsMore := (fits_of_finish_bare fitsStage fitsSaid ended).said
    dsimp only at onward
    split at onward
    · cases onward
      exact fitsReversed fitsMore
    · cases onward
  | _ => cases finished

end Stage

/-- A statement with a fitting value keeps the tables fitting. A header brings no value, and an
assignment the one that was read. -/
theorem Statement.fits_of_apply {draft next : Draft} {statement : Statement}
    (fitsStatement : statement.Fits) (fits : Members.Fits draft.root)
    (applied : apply draft statement = some next) : Members.Fits next.root := by
  have opened {path : List String} {change : String → Members.Change}
      (keeps : ∀ key, (change key).KeepsFit) (applied : draft.openAt path change = some next) :
      Members.Fits next.root := by
    obtain ⟨key, -, changed⟩ := Option.bind_eq_some_iff.mp applied
    obtain ⟨root, made, rfl⟩ := Option.map_eq_some_iff.mp changed
    exact Members.change_at_keeps_fit false (keeps key) _ _ _ root fits made
  cases statement with
  | openTable path => exact opened Members.open_table_keeps_fit applied
  | openNext path => exact opened Members.open_next_keeps_fit applied
  | assign path node =>
    obtain ⟨root, made, rfl⟩ := Option.map_eq_some_iff.mp applied
    exact Members.change_at_keeps_fit false (Members.assign_keeps_fit path fitsStatement) _ _ _ root
      fits made

/-- All integers in the tables of a settings file fit. So an interval that was read from a file can
be written again. -/
theorem Members.fits_of_text {text : String} {members : Members}
    (read : ofText text = some members) : members.Fits := by
  obtain ⟨words, -, read⟩ := Option.bind_eq_some_iff.mp read
  obtain ⟨statements, grammatical, read⟩ := Option.bind_eq_some_iff.mp read
  obtain ⟨draft, filled, same⟩ := Option.bind_eq_some_iff.mp read
  cases same
  obtain ⟨reading, tokens, finished⟩ := Option.bind_eq_some_iff.mp grammatical
  have nothing : Stage.Reading.Fits (.line, []) :=
    ⟨trivial, List.forall_mem_nil _⟩
  have fitsSaid := Stage.fits_of_finish (Stage.fits_of_read_tokens words nothing tokens) finished
  have keeps : ∀ statement ∈ statements, ∀ before after : Statement.Draft, Fits before.root →
      Statement.apply before statement = some after → Fits after.root :=
    fun statement listed before after fits =>
      Statement.fits_of_apply (fitsSaid statement listed) fits
  have empty : Fits (Statement.Draft.root {}) := List.forall_mem_nil _
  exact invariant_of_foldlM statements keeps empty filled

end LiveTabs.Toml
