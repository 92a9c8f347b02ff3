import StackPanel.Text.Ranges
import StackPanel.Text.Table.Clusters
import StackPanel.Text.Table.Extending

/-! User-perceived characters: extended grapheme clusters. -/

namespace StackPanel.Text

/-- The classes that decide whether two neighbouring characters stay together. -/
inductive ClusterClass where
  | carriageReturn
  | lineFeed
  | control
  | extending
  | joiner
  | regional
  | prepended
  | spacing
  | hangulLead
  | hangulVowel
  | hangulTail
  | hangulOpen
  | hangulClosed
  | other
  deriving DecidableEq

/-- A regional indicator, two of which make a flag. -/
def isRegional (c : Char) : Bool :=
  0x1F1E6 ≤ c.toNat && c.toNat ≤ 0x1F1FF

/-- An emoji skin tone. -/
def isSkinTone (c : Char) : Bool :=
  0x1F3FB ≤ c.toNat && c.toNat ≤ 0x1F3FF

/-- The class of a character. -/
def clusterClass (c : Char) : ClusterClass :=
  let code := c.toNat
  if code == 0x0D then .carriageReturn
  else if code == 0x0A then .lineFeed
  else if code < 0x20 then .control
  else if code < 0x7F then .other
  else if code == 0x200D then .joiner
  else if isRegional c then .regional
  else if 0xAC00 ≤ code && code ≤ 0xD7A3 then
    -- A precomposed syllable without a final consonant comes first in each group of twenty-eight.
    if (code - 0xAC00) % 28 == 0 then .hangulOpen else .hangulClosed
  else if (0x1100 ≤ code && code ≤ 0x115F) || (0xA960 ≤ code && code ≤ 0xA97C) then .hangulLead
  else if (0x1160 ≤ code && code ≤ 0x11A7) || (0xD7B0 ≤ code && code ≤ 0xD7C6) then .hangulVowel
  else if (0x11A8 ≤ code && code ≤ 0x11FF) || (0xD7CB ≤ code && code ≤ 0xD7FB) then .hangulTail
  else if isSkinTone c || inRanges Table.graphemeExtend c then .extending
  else if inRanges Table.clusterControl c then .control
  else if inRanges Table.clusterPrepend c then .prepended
  else if inRanges Table.spacingMark c then .spacing
  else .other

/-- How far a sequence that needs more than its last character has come. -/
inductive ClusterRun where
  | idle
  | started
  | joined
  deriving DecidableEq

/-- What the characters so far mean for the next one. -/
structure ClusterState where
  /-- The class of the last character. -/
  last : ClusterClass
  /-- A pictograph and its marks, joined once a joiner follows them. -/
  picture : ClusterRun
  /-- A consonant and its marks, joined once a linker follows it. -/
  conjunct : ClusterRun
  /-- Whether the last character is a regional indicator still waiting for its partner. -/
  oddRegional : Bool

/-- A pictograph starts a run, marks keep it, and a joiner completes it. -/
def nextPicture (run : ClusterRun) (kind : ClusterClass) (c : Char) : ClusterRun :=
  if inRanges Table.pictographic c then .started
  else match run, kind with
    | .started, .extending => .started
    | .started, .joiner => .joined
    | _, _ => .idle

/-- A consonant starts a run, marks keep it, and a linker completes it. -/
def nextConjunct (run : ClusterRun) (kind : ClusterClass) (c : Char) : ClusterRun :=
  if inRanges Table.conjunctConsonant c then .started
  else if inRanges Table.conjunctLinker c then (if run = .idle then .idle else .joined)
  else match kind with
    | .extending | .joiner => run
    | _ => .idle

/-- The state after one more character. -/
def ClusterState.next (state : Option ClusterState) (c : Char) : ClusterState :=
  let kind := clusterClass c
  match state with
  | none =>
    { last := kind
      picture := nextPicture .idle kind c
      conjunct := nextConjunct .idle kind c
      oddRegional := kind = .regional }
  | some state =>
    { last := kind
      picture := nextPicture state.picture kind c
      conjunct := nextConjunct state.conjunct kind c
      oddRegional := kind = .regional && !(state.last = .regional && state.oddRegional) }

/-- Whether the next character belongs to the same cluster. -/
def ClusterState.continues (state : ClusterState) (c : Char) : Bool :=
  match state.last, clusterClass c with
  | .carriageReturn, .lineFeed => true
  | .carriageReturn, _ | .lineFeed, _ | .control, _ => false
  | _, .carriageReturn | _, .lineFeed | _, .control => false
  | .hangulLead, .hangulLead | .hangulLead, .hangulVowel
  | .hangulLead, .hangulOpen | .hangulLead, .hangulClosed => true
  | .hangulOpen, .hangulVowel | .hangulOpen, .hangulTail
  | .hangulVowel, .hangulVowel | .hangulVowel, .hangulTail => true
  | .hangulClosed, .hangulTail | .hangulTail, .hangulTail => true
  | _, .extending | _, .joiner | _, .spacing => true
  | .prepended, _ => true
  | _, .regional => state.oddRegional
  | _, _ =>
    (state.conjunct = .joined && inRanges Table.conjunctConsonant c) ||
      (state.picture = .joined && inRanges Table.pictographic c)

/-- Clusters of the remaining characters, given the reversed cluster that is still open. -/
def clustersFrom (state : ClusterState) (pending : List Char) : List Char → List (List Char)
  | [] => [pending.reverse]
  | c :: rest =>
    if state.continues c then
      clustersFrom (ClusterState.next (some state) c) (c :: pending) rest
    else pending.reverse :: clustersFrom (ClusterState.next (some state) c) [c] rest

/-- The clusters of a text in order; none of them is empty. -/
def clusters : List Char → List (List Char)
  | [] => []
  | c :: rest => clustersFrom (ClusterState.next none c) [c] rest

end StackPanel.Text
