import StackPanel.Proofs.Text.Columns
import StackPanel.Text.Truncate

/-! What is left of a text that is cut to a number of columns. -/

namespace StackPanel.Text

/-- The mark of a cut adds one column to the text before it. -/
theorem columns_append_ellipsis (cs : List Char) : columns (cs ++ ['…']) = columns cs + 1 := by
  -- It means nothing to the character before it, which is measured as at the end of the text.
  have from_append : columnsFrom (cs ++ ['…']) = ((columnsFrom cs).1 + 1, (columnsFrom cs).2) := by
    -- The text is measured from its end, which is where the mark is put.
    induction cs with
    | nil => decide +kernel
    | cons c rest ih => simp [columnsFrom, ih, Nat.add_assoc]
  rw [columns, from_append, columns]

/-- Whether a start of a text is the longest whose characters leave a column free. -/
structure IsKept (room : Nat) (text kept : List Char) : Prop where
  starts : kept <+: text
  fits : characterColumns kept + 1 ≤ room
  longest : ∀ start, start <+: text → characterColumns start + 1 ≤ room → start <+: kept

/-- What is kept of a text in some columns is the longest start that leaves one of them free. -/
theorem isKept_keepColumns {room : Nat} (positive : 1 ≤ room) (text : List Char) :
    IsKept room text (keepColumns room text) := by
  -- The room that is left varies, since each character that is kept takes some of it.
  induction text generalizing room with
  | nil => exact ⟨List.prefix_rfl, positive, fun start starts _ => starts⟩
  | cons c rest ih =>
    unfold keepColumns
    split
    · next enough =>
      have left : 1 ≤ room - charColumns c := by omega
      obtain ⟨starts, fits, longest⟩ := ih left
      refine ⟨List.cons_prefix_cons.mpr ⟨rfl, starts⟩, ?_, ?_⟩
      · -- The columns of the first character come on top of those of the rest.
        simp only [characterColumns] at fits ⊢
        omega
      · intro start begins small
        -- No start of a text is longer than one that begins with the same character.
        cases start with
        | nil => exact List.nil_prefix
        | cons d others =>
          obtain ⟨rfl, follows⟩ := List.cons_prefix_cons.mp begins
          refine List.cons_prefix_cons.mpr ⟨rfl, longest others follows ?_⟩
          simp only [characterColumns] at small ⊢
          omega
    · next tooWide =>
      refine ⟨List.nil_prefix, positive, ?_⟩
      intro start begins small
      cases start with
      | nil => exact List.nil_prefix
      | cons d others =>
        -- Its first character alone leaves no column free.
        obtain ⟨rfl, follows⟩ := List.cons_prefix_cons.mp begins
        simp only [characterColumns] at small
        omega

/-- What is kept of a text without surplus leaves a column free as a whole. -/
theorem IsKept.columns_lt {room : Nat} {text kept : List Char} (keeps : IsKept room text kept)
    (even : surplus text = 0) : columns kept < room := by
  -- What is counted in columns but not by characters is no more than the surplus of the text.
  have less := surplus_le_of_isPrefix keeps.starts
  have bound := columns_le kept
  have fits := keeps.fits
  omega

/-- A text that fits stays as it is, and of any other the start that is kept is marked as cut. -/
theorem truncate_eq (text : List Char) (max : Nat) :
    truncate text max = if columns text ≤ max then text else keepColumns max text ++ ['…'] := rfl

/-- A text fits when it is cut, if it fits as it is or what is kept of it leaves a column free. -/
theorem columns_truncate_le_iff {text : List Char} {max : Nat} :
    columns (truncate text max) ≤ max ↔
      columns text ≤ max ∨ columns (keepColumns max text) < max := by
  rw [truncate_eq]
  by_cases fits : columns text ≤ max
  · simp [fits]
  · -- What is kept and the mark fit exactly if a column is free before the mark.
    rw [if_neg fits, columns_append_ellipsis]
    exact (or_iff_right fits).symm

/-- A text is cut only if it is too wide, unless it is too wide again when it is cut. -/
theorem truncate_eq_self_iff {text : List Char} {max : Nat}
    (fits : columns (truncate text max) ≤ max) :
    truncate text max = text ↔ columns text ≤ max := by
  refine ⟨fun same => ?_, fun within => if_pos within⟩
  -- A text that stays as it is fits if the cut text does.
  rw [same] at fits
  exact fits

/-- A steady text stays steady when it is cut. -/
theorem isSteady_truncate {max : Nat} (positive : 1 ≤ max) {text : List Char}
    (steady : ∀ c ∈ text, isSteady c = true) : ∀ c ∈ truncate text max, isSteady c = true := by
  rw [truncate_eq]
  split
  · exact steady
  · intro c member
    -- A character is kept from the text, or it is the mark.
    rcases List.mem_append.mp member with before | mark
    · exact steady c ((isKept_keepColumns positive text).starts.subset before)
    · obtain rfl := List.mem_singleton.mp mark
      decide +kernel

end StackPanel.Text
