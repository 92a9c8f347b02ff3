import Mathlib.Tactic.SplitIfs
import StackPanel.Text.Columns

/-! The columns of a text and those of its characters one by one: by how much the two measures can
differ, and texts for which they agree. -/

namespace StackPanel.Text

/-- The columns of characters, each measured alone. -/
def characterColumns : List Char → Nat
  | [] => 0
  | c :: rest => charColumns c + characterColumns rest

/-- Characters one after another take the columns of both. -/
theorem characterColumns_append (first second : List Char) :
    characterColumns (first ++ second) = characterColumns first + characterColumns second := by
  -- The columns are added up from the first character on.
  induction first with
  | nil => simp [characterColumns]
  | cons c rest ih => simp [characterColumns, ih, Nat.add_assoc]

/-- Characters of one column each take as many columns as there are of them. -/
theorem characterColumns_of_single {cs : List Char} (single : ∀ c ∈ cs, charColumns c = 1) :
    characterColumns cs = cs.length := by
  induction cs with
  | nil => rfl
  -- Each character adds the one column that the length counts it with.
  | cons c rest ih =>
    have others := ih fun d member => single d (List.mem_cons_of_mem c member)
    rw [characterColumns, single c List.mem_cons_self, others, List.length_cons, Nat.add_comm]

/-- The selector that asks for the emoji before it to be drawn as a picture. -/
def pictureSelector : Char := '\uFE0F'

/-- An emoji that takes more columns as a picture than alone. -/
def widens (c : Char) : Bool :=
  takesPictureSelector c && charColumns c < 2

/-- The characters of a text that can take one column more in it than alone: control characters, and
emoji that are widened by the selector behind them. -/
def surplus : List Char → Nat
  | [] => 0
  | c :: rest =>
    (if isControl c || (widens c && rest.head? = some pictureSelector) then 1 else 0) + surplus rest

/-- A character whose columns are the same alone and in any text, and which leaves those of the
character before it as they are. -/
def isSteady (c : Char) : Bool :=
  !isControl c && followingOf c = .plain

section Ranges

variable {ranges others : List (Nat × Nat)} {c : Char}

/-- A character in ranges is in one of them. -/
theorem inRanges_iff : inRanges ranges c = true ↔
    ∃ range ∈ ranges, range.1 ≤ c.toNat ∧ c.toNat ≤ range.2 := by
  simp [inRanges]

/-- Whether no code point lies in ranges of both lists. -/
def disjoint (ranges others : List (Nat × Nat)) : Bool :=
  ranges.all fun range => others.all fun other =>
    Nat.blt range.2 other.1 || Nat.blt other.2 range.1

/-- A character in one of two disjoint lists of ranges is not in the other. -/
theorem inRanges_eq_false (apart : disjoint ranges others = true)
    (found : inRanges ranges c = true) : inRanges others c = false := by
  rw [Bool.eq_false_iff]
  intro again
  -- Being in a range of both lists would put the character between the ends of two ranges.
  obtain ⟨range, member, low, high⟩ := inRanges_iff.mp found
  obtain ⟨other, among, least, most⟩ := inRanges_iff.mp again
  -- Of two disjoint ranges one ends before the other starts.
  simp only [disjoint, List.all_eq_true, Bool.or_eq_true, Nat.blt_eq] at apart
  have := apart range member other among
  omega

end Ranges

/-- The control characters as ranges. -/
def controls : List (Nat × Nat) := [(0, 0x1F), (0x7F, 0x9F)]

/-- A control character is one of the ranges. -/
theorem isControl_eq (c : Char) : isControl c = inRanges controls c := by
  rw [Bool.eq_iff_iff, inRanges_iff]
  simp only [isControl, controls, Bool.or_eq_true, Bool.and_eq_true, decide_eq_true_eq,
    List.mem_cons, List.not_mem_nil, or_false, exists_eq_or_imp, exists_eq_left]
  omega

/-- A character outside the tables of invisible ones takes a column at least. -/
theorem standaloneColumns_pos {c : Char} (visible : inRanges Table.zeroWidth c = false) :
    1 ≤ standaloneColumns c := by
  unfold standaloneColumns
  simp only [visible, Bool.false_eq_true, if_false]
  -- The remaining cases are those of the wide characters and of all others.
  split_ifs <;> decide

/-- Characters of a table without controls and invisible characters take a column at least. -/
theorem charColumns_pos {ranges : List (Nat × Nat)} {c : Char}
    (apart : disjoint ranges (controls ++ Table.zeroWidth) = true)
    (found : inRanges ranges c = true) : isControl c = false ∧ 1 ≤ charColumns c := by
  -- A character of the table is neither a control nor invisible, since the tables share nothing.
  have outside := inRanges_eq_false apart found
  simp only [inRanges, List.any_append, Bool.or_eq_false_iff] at outside
  have noControl : isControl c = false := (isControl_eq c).trans outside.1
  refine ⟨noControl, ?_⟩
  simpa [charColumns, noControl] using standaloneColumns_pos outside.2

/-- Emoji that are pictures by themselves take a column at least. -/
theorem charColumns_pos_of_emojiPresentation {c : Char}
    (picture : inRanges Table.emojiPresentation c = true) :
    isControl c = false ∧ 1 ≤ charColumns c :=
  -- The tables are compared range by range, which the kernel can do.
  charColumns_pos (by decide +kernel) picture

/-- Emoji that a selector turns into pictures take a column at least. -/
theorem charColumns_pos_of_takesPictureSelector {c : Char} (takes : takesPictureSelector c = true) :
    isControl c = false ∧ 1 ≤ charColumns c := by
  simp only [takesPictureSelector, Bool.or_eq_true, Bool.and_eq_true] at takes
  -- The two tables of such emoji have been compared with those of invisible characters.
  rcases takes with text | ⟨picture, -⟩
  · exact charColumns_pos (by decide +kernel) text
  · exact charColumns_pos_of_emojiPresentation picture

/-- Behind a code point of one byte there is nothing to look at but whether it is a control. -/
theorem charColumns_of_le {c : Char} (low : c.toNat ≤ 0xA0) :
    charColumns c = if isControl c then 0 else 1 := by
  simp [charColumns, standaloneColumns, low]

/-- A character that stands behind others means what it is, where nothing special follows. -/
theorem followingOf_eq_pictureSelector {c : Char} (selects : followingOf c = .pictureSelector) :
    c = pictureSelector := by
  by_cases same : c.toNat = 0xFE0F
  · exact Char.toNat_inj.mp same
  · -- The other tests give other answers.
    simp only [followingOf, beq_iff_eq, same, if_false] at selects
    split_ifs at selects

/-- The ways in which a character is measured before what follows it: as a picture, not at all, as
one of the code points of a byte, as text in place of a picture, or as it is alone. -/
inductive Measures (c : Char) (following : Following) : Nat × Following → Prop where
  | widened (selected : following = .pictureSelector) (takes : takesPictureSelector c = true) :
    Measures c following (2, .picture)
  | merged (next : Following) (other : next ≠ .pictureSelector) : Measures c following (0, next)
  | low (next : Following) (other : next ≠ .pictureSelector) (byte : c.toNat ≤ 0xA0) :
    Measures c following (1, next)
  | text (picture : inRanges Table.emojiPresentation c = true) : Measures c following (1, .plain)
  | alone (high : ¬c.toNat ≤ 0xA0) : Measures c following (standaloneColumns c, followingOf c)

/-- Every character is measured in one of these ways. -/
theorem measures_columnsBefore (c : Char) (following : Following) :
    Measures c following (columnsBefore c following) := by
  unfold columnsBefore
  dsimp only
  -- The tests are gone through in their order, and each one that succeeds ends in one way.
  by_cases widened : (decide (following = .pictureSelector) && takesPictureSelector c) = true
  · rw [if_pos widened]
    simp only [Bool.and_eq_true, decide_eq_true_eq] at widened
    exact .widened widened.1 widened.2
  rw [if_neg widened]
  by_cases joined : (decide (following = .joinedSelector) && takesPictureSelector c) = true
  · rw [if_pos joined]
    exact .merged .picture (by decide)
  rw [if_neg joined]
  by_cases byte : c.toNat ≤ 0xA0
  · rw [if_pos byte]
    split
    · exact .low .lineFeed (by decide) byte
    split
    · exact .merged .plain (by decide)
    · exact .low .plain (by decide) byte
  rw [if_neg byte]
  by_cases text : (decide (following = .textSelector) && inRanges Table.emojiPresentation c &&
      decide (c.toNat < 0x1F100)) = true
  · rw [if_pos text]
    simp only [Bool.and_eq_true] at text
    exact .text text.1.2
  rw [if_neg text]
  -- Whatever else follows, the character keeps its columns or loses them all.
  split
  all_goals repeat' split
  all_goals first | exact .alone byte | exact .merged _ (by decide)

/-- Only a selector is taken for one by the character before it. -/
theorem eq_pictureSelector {c : Char} {following : Following}
    (selects : (columnsBefore c following).2 = .pictureSelector) : c = pictureSelector := by
  -- The result is made a variable, so that the five ways can be told apart.
  generalize measured : columnsBefore c following = result at selects
  have measures := measures_columnsBefore c following
  rw [measured] at measures
  cases measures with
  | widened | text => contradiction
  -- Merged and low characters are never taken for a selector.
  | merged next other | low next other => exact absurd selects other
  | alone => exact followingOf_eq_pictureSelector selects

/-- In a text a character takes the columns that it takes alone, or fewer, unless it is a control or
an emoji that the selector behind it widens. -/
theorem columnsBefore_le (c : Char) (following : Following) :
    (columnsBefore c following).1 ≤ charColumns c +
      if isControl c || (widens c && following = .pictureSelector) then 1 else 0 := by
  generalize measured : columnsBefore c following = result
  have measures := measures_columnsBefore c following
  rw [measured] at measures
  cases measures with
  | widened selected takes =>
    -- A picture takes two columns, of which the character has one alone.
    have alone := (charColumns_pos_of_takesPictureSelector takes).2
    by_cases narrow : charColumns c < 2
    · simp only [widens, takes, narrow, selected, Bool.true_and, decide_true, Bool.or_true, if_true]
      omega
    · exact Nat.le_add_right_of_le (Nat.not_lt.mp narrow)
  -- A character that loses its columns cannot take more than it has.
  | merged => exact Nat.zero_le _
  | low next other byte =>
    -- A control counts as nothing alone but as one column in a text.
    rw [charColumns_of_le byte]
    cases isControl c <;> simp
  | text picture =>
    -- As text the picture takes one column, and it has one at least.
    exact Nat.le_add_right_of_le (charColumns_pos_of_emojiPresentation picture).2
  | alone high =>
    -- Beyond the first range there are no controls, so the columns are those alone.
    have noControl : isControl c = false := by
      simp only [isControl, Bool.or_eq_false_iff, Bool.and_eq_false_iff, decide_eq_false_iff_not]
      omega
    simp [charColumns, noControl]

/-- A text takes no more columns than its characters alone and its surplus. -/
theorem columns_le (cs : List Char) : columns cs ≤ characterColumns cs + surplus cs := by
  -- What follows a character decides its columns, so the text is measured from its end.
  induction cs with
  | nil => simp [columns, columnsFrom]
  | cons c rest ih =>
    have here := columnsBefore_le c (columnsFrom rest).2
    -- The selector is what comes next if the character is measured before one.
    have next : (columnsFrom rest).2 = .pictureSelector → rest.head? = some pictureSelector := by
      intro selects
      cases rest with
      | nil => simp [columnsFrom] at selects
      | cons d others => exact congrArg some (eq_pictureSelector selects)
    -- The surplus counts the character if it takes more than alone.
    have more : (if isControl c || (widens c && (columnsFrom rest).2 = .pictureSelector)
        then 1 else 0) ≤
        if isControl c || (widens c && rest.head? = some pictureSelector) then 1 else 0 := by
      by_cases selects : (columnsFrom rest).2 = .pictureSelector
      · rw [next selects]
        simp [selects]
      · cases isControl c <;> simp [selects]
    have sum : characterColumns (c :: rest) = charColumns c + characterColumns rest := by
      simp [characterColumns]
    have whole : columns (c :: rest) =
        (columnsBefore c (columnsFrom rest).2).1 + columns rest := rfl
    simp only [surplus]
    omega

/-- The start of a text has no more surplus than the text. -/
theorem surplus_le_of_isPrefix {start cs : List Char} (starts : start <+: cs) :
    surplus start ≤ surplus cs := by
  obtain ⟨rest, rfl⟩ := starts
  -- What stands behind the start can only add to what its last character is counted with.
  induction start with
  | nil => exact Nat.zero_le _
  | cons c others ih =>
    -- A character keeps what follows it, and the last one has nothing to count behind it.
    have here : (if isControl c || (widens c && others.head? = some pictureSelector)
        then 1 else 0) ≤
        if isControl c || (widens c && (others ++ rest).head? = some pictureSelector)
          then 1 else 0 := by
      cases others <;> cases isControl c <;> simp
    simp only [List.cons_append, surplus]
    omega

section Steady

variable {c : Char} {cs : List Char}

/-- A steady character takes the columns that it takes alone. -/
theorem columnsBefore_of_isSteady (steady : isSteady c = true) :
    columnsBefore c .plain = (charColumns c, .plain) := by
  simp only [isSteady, Bool.and_eq_true, Bool.not_eq_true', decide_eq_true_eq] at steady
  obtain ⟨noControl, plain⟩ := steady
  -- A steady character is a visible one of a byte, or it means nothing to its neighbours.
  by_cases byte : c.toNat ≤ 0xA0
  · -- A line feed would be a control.
    have noFeed : ¬c.toNat = 10 := by
      intro feed
      simp [isControl, feed] at noControl
    simp [columnsBefore, charColumns_of_le byte, noControl, byte, noFeed]
  · simp [columnsBefore, charColumns, noControl, byte, plain]

/-- A steady text takes the columns of its characters. -/
theorem columnsFrom_of_isSteady (steady : ∀ c ∈ cs, isSteady c = true) :
    columnsFrom cs = (characterColumns cs, .plain) := by
  -- What is behind a steady character means nothing to it, as at the end of a text.
  induction cs with
  | nil => rfl
  | cons c rest ih =>
    have others := ih fun d member => steady d (List.mem_cons_of_mem c member)
    simp [columnsFrom, others, columnsBefore_of_isSteady (steady c List.mem_cons_self),
      characterColumns]

/-- A steady text takes as many columns as its characters alone. -/
theorem columns_of_isSteady (steady : ∀ c ∈ cs, isSteady c = true) :
    columns cs = characterColumns cs := by
  rw [columns, columnsFrom_of_isSteady steady]

/-- A steady text has no surplus. -/
theorem surplus_of_isSteady (steady : ∀ c ∈ cs, isSteady c = true) : surplus cs = 0 := by
  -- Neither of the two reasons for a surplus applies to the first character.
  induction cs with
  | nil => rfl
  | cons c rest ih =>
    have others := ih fun d member => steady d (List.mem_cons_of_mem c member)
    have noControl : isControl c = false := by
      have here := steady c List.mem_cons_self
      simp only [isSteady, Bool.and_eq_true, Bool.not_eq_true'] at here
      exact here.1
    -- The selector is not steady itself.
    have noSelector : rest.head? ≠ some pictureSelector := by
      intro first
      have selector := steady pictureSelector (List.mem_cons_of_mem c (List.mem_of_mem_head? first))
      exact absurd selector (by decide +kernel)
    simp [surplus, noControl, noSelector, others]

end Steady

/-- The clusters of what is left follow the one that is still open. -/
theorem flatten_clustersFrom (state : ClusterState) (pending cs : List Char) :
    (clustersFrom state pending cs).flatten = pending.reverse ++ cs := by
  -- The cluster that is open takes characters on until it is closed in front of the rest.
  induction cs generalizing state pending with
  | nil => simp [clustersFrom]
  | cons c rest ih =>
    unfold clustersFrom
    split <;> simp [ih]

/-- A text is made of its clusters. -/
theorem flatten_clusters (cs : List Char) : (clusters cs).flatten = cs := by
  -- The first character opens the first cluster.
  cases cs with
  | nil => rfl
  | cons c rest => simp [clusters, flatten_clustersFrom]

end StackPanel.Text
