import StackPanel.Proofs.Service.Connection
import StackPanel.Service.Request

/-! Addresses have a single slash between base and path, whatever slashes and white space stand
around the two. -/

namespace StackPanel.Connection

/-- A number of slashes. -/
def slashes (count : Nat) : List Char :=
  List.replicate count '/'

/-- Whether a text is another one without the white space around it and without the slashes that are
then at its end. -/
def IsBaseOf (base text : List Char) : Prop :=
  base.getLast? ≠ some '/' ∧ ∃ count before after,
    text = before ++ (base ++ slashes count ++ after) ∧ Text.IsTrimmed (base ++ slashes count) ∧
    (∀ c ∈ before, Text.isBlank c = true) ∧ ∀ c ∈ after, Text.isBlank c = true

/-- Whether a text is another one without the slashes at its start. -/
def IsBelow (below path : List Char) : Prop :=
  below.head? ≠ some '/' ∧ ∃ count, path = slashes count ++ below

/-- The base address that a text stands for. -/
def baseOf (text : String) : String :=
  String.ofList (Text.dropEndWhile (· = '/') (Text.trimChars text.toList))

/-- All characters among slashes are slashes. -/
theorem eq_slash_of_mem_slashes {count : Nat} : ∀ c ∈ slashes count, decide (c = '/') = true := by
  intro c member
  simp [List.eq_of_mem_replicate member]

/-- A text of slashes alone has as many as it has characters. -/
theorem eq_slashes {cs : List Char} (each : ∀ c ∈ cs, c = '/') : cs = slashes cs.length :=
  List.eq_replicate_of_mem each

/-- A base address lost white space first and slashes after that. -/
theorem isBaseOf_baseOf (text : String) : IsBaseOf (baseOf text).toList text.toList := by
  -- Trimming splits the text in three, of which the middle part is trimmed.
  obtain ⟨before, after, split, trimmed, front, back⟩ :=
    Text.exists_trimChars_surrounded text.toList
  -- The slashes at the end are all that the second step takes.
  obtain ⟨count, whole⟩ : ∃ count, (baseOf text).toList ++ slashes count =
      Text.trimChars text.toList := by
    refine ⟨((Text.trimChars text.toList).rtakeWhile (· = '/')).length, ?_⟩
    rw [← eq_slashes fun c member => by simpa using List.mem_rtakeWhile_imp member, baseOf,
      String.toList_ofList]
    exact List.rdropWhile_append_rtakeWhile
  refine ⟨?_, count, before, after, ?_, ?_, front, back⟩
  · -- A slash at the end of the base would have been taken as well.
    intro last
    rw [baseOf, String.toList_ofList] at last
    have kept := Text.not_drops_of_getLast? last
    simp at kept
  · rw [whole]
    exact split
  · rw [whole]
    exact trimmed

/-- What follows the base in an address is the path without its first slashes. -/
theorem isBelow_dropWhile (path : List Char) : IsBelow (path.dropWhile (· = '/')) path := by
  -- The slashes in front are what is taken from the path.
  refine ⟨?_, (path.takeWhile (· = '/')).length, ?_⟩
  · intro first
    obtain ⟨rest, shape⟩ := List.head?_eq_some_iff.mp first
    have kept := List.head_dropWhile_not (· = '/') (l := path) (by simp [shape])
    simp [shape] at kept
  · rw [← eq_slashes fun c member => by simpa using List.mem_takeWhile_imp member,
      List.takeWhile_append_dropWhile]

/-- What is typed counts if it is not blank, and the origin otherwise. -/
theorem resolveBaseUrl_eq (typed origin : String) :
    resolveBaseUrl typed origin = baseOf (if Text.blank typed then origin else typed) := by
  -- Only one of the two texts is ever looked at.
  by_cases blank : Text.blank typed = true <;> simp [resolveBaseUrl, baseOf, blank]

/-- Blank texts stand for the empty base address. -/
theorem baseOf_of_blank {text : String} (blank : Text.blank text = true) : baseOf text = "" := by
  -- Nothing of a blank text is left once it is trimmed.
  have nothing : Text.trimChars text.toList = [] :=
    Text.trimChars_eq_nil_iff.mpr (List.all_eq_true.mp blank)
  simp [baseOf, nothing, Text.dropEndWhile]

/-- Joining adds one slash and the path without its first slashes. -/
theorem joinUrl_baseOf (text path : String) : joinUrl (baseOf text) path =
    String.ofList ((baseOf text).toList ++ '/' :: path.toList.dropWhile (· = '/')) := by
  simp [joinUrl, baseOf]

/-- The path that is joined starts with one slash, whatever number of them there was. -/
theorem joinUrl_slashes (base path : String) (count : Nat) :
    joinUrl base (String.ofList (slashes count) ++ path) = joinUrl base ("/" ++ path) := by
  -- Addresses on one base are the same if the paths are without their first slashes.
  apply joinUrl_inj.mpr
  rw [String.toList_append, String.toList_ofList,
    List.dropWhile_append_of_pos eq_slash_of_mem_slashes]
  simp

/-- A text with white space around it, and before that with slashes at its end. -/
def surrounded (before base : String) (count : Nat) (after : String) : String :=
  before ++ (base ++ String.ofList (slashes count) ++ after)

section Surrounded

variable {before base after : String} (filled : Text.blank base = false)
  (trimmed : Text.IsTrimmed base.toList) (front : Text.blank before = true)
  (back : Text.blank after = true) (count : Nat)

include filled

/-- A text that is not blank is not blank with something around it. -/
theorem blank_surrounded : Text.blank (surrounded before base count after) = false := by
  -- The character that is not white space is still there in the middle.
  obtain ⟨c, member, solid⟩ := List.all_eq_false.mp filled
  refine List.all_eq_false.mpr ⟨c, ?_, solid⟩
  simp [surrounded, member]

include trimmed

/-- Slashes after a text that has no white space at its ends leave it so. -/
theorem isTrimmed_append_slashes : Text.IsTrimmed (base.toList ++ slashes count) where
  first c first := by
    -- The first character is that of the text, which has one.
    have nonempty : base.toList ≠ [] := by
      intro nothing
      simp [Text.blank, nothing] at filled
    obtain ⟨head, rest, shape⟩ := List.exists_cons_of_ne_nil nonempty
    exact trimmed.first c (by simpa [shape] using first)
  last c last := by
    -- The last character is that of the text or a slash, and neither is white space.
    cases count with
    | zero => exact trimmed.last c (by simpa [slashes] using last)
    | succ count =>
      obtain rfl : '/' = c := by simpa [slashes, List.getLast?_replicate] using last
      decide

include front back

/-- Trimming leaves the text and its slashes. -/
theorem trimChars_surrounded :
    Text.trimChars (surrounded before base count after).toList = base.toList ++ slashes count := by
  -- The white space around is all that trimming takes.
  have whole := Text.trimChars_surrounded (isTrimmed_append_slashes filled trimmed count)
    (List.all_eq_true.mp front) (List.all_eq_true.mp back)
  simpa [surrounded] using whole

/-- What stands around a text makes no difference to the base address that it stands for. -/
theorem baseOf_surrounded : baseOf (surrounded before base count after) = baseOf base := by
  -- The text alone is trimmed already, so both sides come down to it.
  have alone : Text.trimChars base.toList = base.toList := by
    have nothing : ∀ c ∈ ([] : List Char), Text.isBlank c = true := by simp
    simpa using Text.trimChars_surrounded trimmed nothing nothing
  -- Behind the text there are only slashes, which are dropped from its end.
  rw [baseOf, trimChars_surrounded filled trimmed front back, baseOf, alone,
    Text.dropEndWhile_append _ eq_slash_of_mem_slashes]

end Surrounded

/-- A request goes to the base address, one slash and the path, of which neither the base ends in a
slash nor the path starts with one. A blank override stands for the origin. White space around the
base, slashes at its end and slashes in front of the path make no difference to a request. -/
theorem request_joins_with_one_slash :
    (∀ typed origin apiKey sendsKey (call : Call), ∃ base below,
      IsBaseOf base (if Text.blank typed then origin else typed).toList ∧
      IsBelow below call.path.toList ∧ (resolveBaseUrl typed origin).toList = base ∧
      (call.request (ofSettings typed origin apiKey sendsKey)).url =
        String.ofList (base ++ '/' :: below)) ∧
    (∀ typed origin other apiKey sendsKey (call : Call), Text.blank typed = true →
      (Text.blank origin = true → Text.blank other = true) →
      call.request (ofSettings typed origin apiKey sendsKey) =
        call.request (ofSettings origin other apiKey sendsKey)) ∧
    ∀ before base after count starts apiKey sendsKey (call : Call), Text.blank base = false →
      Text.IsTrimmed base.toList → Text.blank before = true → Text.blank after = true →
      let plain : Call := { call with path := "/" ++ call.path }
      let around : Call := { call with path := String.ofList (slashes starts) ++ call.path }
      (∀ origin,
        around.request (ofSettings (surrounded before base count after) origin apiKey sendsKey) =
          plain.request (ofSettings base origin apiKey sendsKey)) ∧
      ∀ typed, Text.blank typed = true →
        around.request (ofSettings typed (surrounded before base count after) apiKey sendsKey) =
          plain.request (ofSettings base typed apiKey sendsKey) := by
  refine ⟨?_, ?_, ?_⟩
  · intro typed origin apiKey sendsKey call
    -- The base that was resolved and the path below it are the two parts of the address.
    refine ⟨_, _, isBaseOf_baseOf _, isBelow_dropWhile _, by rw [resolveBaseUrl_eq], ?_⟩
    rw [Call.request, ofSettings, resolveBaseUrl_eq, joinUrl_baseOf]
  · intro typed origin other apiKey sendsKey call blank both
    -- A blank override leaves the choice to the origin, and a blank origin to the other text.
    have same : resolveBaseUrl typed origin = resolveBaseUrl origin other := by
      rw [resolveBaseUrl_eq, resolveBaseUrl_eq, if_pos blank]
      by_cases nothing : Text.blank origin = true
      · rw [if_pos nothing, baseOf_of_blank nothing, baseOf_of_blank (both nothing)]
      · rw [if_neg nothing]
    rw [ofSettings, ofSettings, same]
  · intro before base after count starts apiKey sendsKey call filled trimmed front back plain around
    -- The text that counts is the surrounded one or the plain one, with the same base.
    have bases := baseOf_surrounded filled trimmed front back count
    have solid : Text.blank (surrounded before base count after) = false :=
      blank_surrounded filled count
    -- Only the addresses can differ, since the headers and the body know of no address.
    have same : ∀ connection other : Connection, connection.apiKey = other.apiKey →
        connection.baseUrl = other.baseUrl → around.request connection = plain.request other := by
      intro connection other keys urls
      simp [Call.request, Call.headers, around, plain, keys, urls, joinUrl_slashes]
    constructor
    · -- Typed text that is not blank comes first.
      intro origin
      refine same _ _ rfl ?_
      simp [ofSettings, resolveBaseUrl_eq, solid, filled, bases]
    · -- Blank text gives way to the origin, which is the surrounded text here.
      intro typed blank
      refine same _ _ rfl ?_
      simp [ofSettings, resolveBaseUrl_eq, blank, filled, bases]

/-- Wide spaces around the base, two slashes at its end and three in front of the path are all left
out, as the override and as the origin of a blank one. -/
theorem wideSpaces_join_with_one_slash :
    let written := "\u3000http://host/a//\u00a0"
    let sent := (Call.get "/stacks").request (ofSettings "http://host/a" " " "key" true)
    (Call.get "///stacks").request (ofSettings written " " "key" true) = sent ∧
      (Call.get "///stacks").request (ofSettings " " written "key" true) = sent ∧
      (Call.get "///stacks").request (ofSettings written "" "key" true) = sent ∧
      sent.url = "http://host/a/stacks" := by
  obtain ⟨-, blank, around⟩ := request_joins_with_one_slash
  -- The base starts and ends with a letter.
  have trimmed : Text.IsTrimmed "http://host/a".toList :=
    ⟨by simpa using show Text.isBlank 'h' = false by decide,
      by simpa using show Text.isBlank 'a' = false by decide⟩
  obtain ⟨typed, origin⟩ := around "\u3000" "http://host/a" "\u00a0" 2 3 "key" true (.get "stacks")
    (by decide) trimmed (by decide) (by decide)
  intro written sent
  -- The theorem settles the override, and then the origin of a blank one.
  have second := origin " " (by decide)
  have first := blank " " written "" "key" true (.get "///stacks") (by decide) (by decide)
  exact ⟨typed " ", second, first.symm.trans second, by decide⟩

end StackPanel.Connection
