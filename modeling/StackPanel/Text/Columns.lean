import StackPanel.Text.Cluster
import StackPanel.Text.Table.Columns
import StackPanel.Text.Table.Emoji

/-! The number of terminal columns that text takes. -/

namespace StackPanel.Text

/-- Control characters, which have no width of their own. -/
def isControl (c : Char) : Bool :=
  c.toNat < 0x20 || (0x7F ≤ c.toNat && c.toNat < 0xA0)

/-- The columns of a character that stands alone. -/
def standaloneColumns (c : Char) : Nat :=
  let code := c.toNat
  if code ≤ 0xA0 then 1
  else if code == 0x115F || code == 0x17A4 then 2
  else if code == 0x17D8 then 3
  else if inRanges Table.zeroWidth c then 0
  else if inRanges Table.wide c then 2
  else 1

/-- The columns of a single character, where a control character takes none. -/
def charColumns (c : Char) : Nat :=
  if isControl c then 0 else standaloneColumns c

/-- What comes after a character, as far as it changes how wide the character is drawn. -/
inductive Following where
  | plain
  | lineFeed
  | skinTone
  | regional
  | picture
  | joinedPicture
  | joinedKeycap
  | textSelector
  | pictureSelector
  | joinedSelector
  | alef
  deriving DecidableEq

/-- Arabic letters of the Alef group, which merge with a Lam before them. -/
def isAlef (c : Char) : Bool :=
  let code := c.toNat
  code == 0x622 || code == 0x623 || code == 0x625 || code == 0x627 ||
    (0x671 ≤ code && code ≤ 0x673) || code == 0x675 || code == 0x773 || code == 0x774

/-- Arabic letters of the Lam group. -/
def isLam (c : Char) : Bool :=
  let code := c.toNat
  code == 0x644 || (0x6B5 ≤ code && code ≤ 0x6B8) || code == 0x76A || code == 0x8A6 || code == 0x8C7

/-- An emoji that a variation selector turns into a picture two columns wide. -/
def takesPictureSelector (c : Char) : Bool :=
  inRanges Table.emojiTextStyle c || inRanges Table.emojiPresentation c && !isRegional c

/-- What a character means for the one before it, when nothing special follows. -/
def followingOf (c : Char) : Following :=
  let code := c.toNat
  if code == 0xFE0F then .pictureSelector
  else if code == 0xFE0E then .textSelector
  else if isRegional c then .regional
  else if isSkinTone c then .skinTone
  else if isAlef c then .alef
  else if inRanges Table.emojiPresentation c then .picture
  else .plain

/-- The columns a character adds before what follows it, and what it means for its predecessor. Of
the sequences that belong to one script only Lam and Alef are taken as one letter. Those of others
are left out, so that each of their characters counts by itself: the Khmer coeng with its consonant,
pairs of Lisu tone letters, Hebrew Alef and Lamed around a joiner, the Buginese and Kirat Rai vowel
signs that merge, Tifinagh letters around a joiner, and Old Turkic ligatures. -/
def columnsBefore (c : Char) (following : Following) : Nat × Following :=
  let code := c.toNat
  -- A selector asks the character before it to be drawn as a picture.
  if following = .pictureSelector && takesPictureSelector c then (2, .picture)
  else if following = .joinedSelector && takesPictureSelector c then (0, .picture)
  else if code ≤ 0xA0 then
    if code == 0x0A then (1, .lineFeed)
    -- A carriage return and its line feed are one line end.
    else if code == 0x0D && following = .lineFeed then (0, .plain)
    else (1, .plain)
  else if following = .textSelector && inRanges Table.emojiPresentation c && code < 0x1F100 then
    (1, .plain)
  else match following with
    | .skinTone =>
      if inRanges Table.emojiModifierBase c then (0, .picture)
      else if code == 0x200D then (0, .joinedPicture)
      else (standaloneColumns c, followingOf c)
    | .picture =>
      if code == 0x200D then (0, .joinedPicture) else (standaloneColumns c, followingOf c)
    | .joinedPicture =>
      if code == 0xFE0F then (0, .joinedSelector)
      else if code == 0x20E3 then (0, .joinedKeycap)
      else if isSkinTone c then (0, .skinTone)
      else if followingOf c = .picture then (0, .picture)
      else (standaloneColumns c, followingOf c)
    | .joinedKeycap =>
      if code == 0xFE0F then (0, .joinedSelector) else (standaloneColumns c, followingOf c)
    | .alef =>
      if isLam c then (0, .plain)
      else if inRanges Table.zeroWidth c then (0, .alef)
      else (standaloneColumns c, followingOf c)
    | _ => (standaloneColumns c, followingOf c)

/-- The columns of a text and what its first character means for one before it. -/
def columnsFrom : List Char → Nat × Following
  | [] => (0, .plain)
  | c :: rest =>
    let later := columnsFrom rest
    let here := columnsBefore c later.2
    (here.1 + later.1, here.2)

/-- The terminal columns of a text, emoji sequences and merged letters counted as drawn. -/
def columns (cs : List Char) : Nat :=
  (columnsFrom cs).1

end StackPanel.Text
