import Mathlib.Data.List.Forall2
import StackPanel.Action.Calls
import StackPanel.Proofs.Text.Digits
import StackPanel.Proofs.Text.Pieces
import StackPanel.Proofs.Text.Trim

/-! The lists of ports that are accepted, as a grammar: reading gives exactly the ports that the
grammar says an input lists. -/

namespace StackPanel.PortSpec

/-- Whether a text writes a port number: digits, behind a plus sign or not, of a number from 1 to
65535. -/
def WritesPort (cs : List Char) (port : Nat) : Prop :=
  ∃ digits, (cs = digits ∨ cs = '+' :: digits) ∧ digits ≠ [] ∧ (∀ c ∈ digits, c.isDigit = true) ∧
    Nat.ofDigitChars 10 digits 0 = port ∧ 1 ≤ port ∧ port ≤ 65535

/-- Whether a text is the name of a transport protocol, in capitals or small letters. -/
def WritesTransport (cs : List Char) (transport : Transport) : Prop :=
  cs.map Char.toLower = transport.name.toList.map Char.toLower

/-- The port that an entry spells: a number alone means TCP, and otherwise the first slash divides
the number from the protocol. -/
inductive Spells : List Char → PortSpec → Prop where
  | number {entry : List Char} {port : Nat} (written : WritesPort entry port) :
    Spells entry { port, transport := .tcp }
  | slashed {before after : List Char} {port : Nat} {transport : Transport}
    (first : '/' ∉ before) (written : WritesPort (Text.trimChars before) port)
    (named : WritesTransport (Text.trimChars after) transport) :
    Spells (before ++ '/' :: after) { port, transport }

/-- The pieces of an input between commas that are not blank, without the white space around
them. -/
def pieces (input : String) : List (List Char) :=
  ((input.toList.splitOn ',').map Text.trimChars).filter (· ≠ [])

/-- Whether an input lists ports: each piece spells the port in its place, there are from 1 to 24 of
them, and none is there twice. -/
structure Lists (input : String) (specs : List PortSpec) : Prop where
  spelled : List.Forall₂ Spells (pieces input) specs
  lower : 1 ≤ specs.length
  upper : specs.length ≤ 24
  distinct : specs.Nodup

/-- The port number that digits without a sign stand for. -/
def portOfDigits? (ds : List Char) : Option Nat :=
  match Text.decimal? ds with
  | some n => if 0 < n ∧ n < 65536 then some n else none
  | none => none

/-- Digits are taken for a port exactly if they are the decimal of one. -/
theorem portOfDigits?_eq_some_iff {ds : List Char} {port : Nat} :
    portOfDigits? ds = some port ↔
      ds ≠ [] ∧ (∀ c ∈ ds, c.isDigit = true) ∧ Nat.ofDigitChars 10 ds 0 = port ∧
        1 ≤ port ∧ port ≤ 65535 := by
  unfold portOfDigits?
  constructor
  · intro read
    cases decimal : Text.decimal? ds with
    | none => simp [decimal] at read
    | some n =>
      -- The decimal has the three properties, and the test is for the range.
      obtain ⟨nonempty, digits, worth⟩ := Text.decimal?_eq_some_iff.mp decimal
      simp only [decimal, Option.ite_none_right_eq_some, Option.some.injEq] at read
      obtain ⟨range, rfl⟩ := read
      exact ⟨nonempty, digits, worth, by omega, by omega⟩
  · rintro ⟨nonempty, digits, worth, low, high⟩
    have decimal : Text.decimal? ds = some port :=
      Text.decimal?_eq_some_iff.mpr ⟨nonempty, digits, worth⟩
    have range : 0 < port ∧ port < 65536 := by omega
    simp [decimal, range]

/-- A port number is read exactly from the texts that write it. -/
theorem portNumber?_eq_some_iff {cs : List Char} {port : Nat} :
    portNumber? cs = some port ↔ WritesPort cs port := by
  by_cases signed : ∃ rest, cs = '+' :: rest
  · -- The sign is no digit, so the number can only stand behind it.
    obtain ⟨rest, rfl⟩ := signed
    have behind : portNumber? ('+' :: rest) = portOfDigits? rest := rfl
    rw [behind, portOfDigits?_eq_some_iff]
    constructor
    · intro written
      exact ⟨rest, .inr rfl, written⟩
    · rintro ⟨digits, rfl | same, written⟩
      · -- Read as digits the sign would have to be one.
        have sign : '+'.isDigit = true := written.2.1 '+' List.mem_cons_self
        contradiction
      · rw [(List.cons.inj same).2]
        exact written
  · -- Without a sign the whole text is the number.
    have plain : portNumber? cs = portOfDigits? cs := by
      unfold portNumber?
      split
      · rename_i rest
        exact absurd ⟨rest, rfl⟩ signed
      · rfl
    rw [plain, portOfDigits?_eq_some_iff]
    constructor
    · intro written
      exact ⟨cs, .inl rfl, written⟩
    · rintro ⟨digits, rfl | same, written⟩
      · exact written
      · exact absurd ⟨digits, same⟩ signed

/-- A protocol is read exactly from the texts that name it. -/
theorem transportOf?_eq_ok_iff {cs : List Char} {transport : Transport} :
    transportOf? (some cs) = .ok transport ↔ WritesTransport (Text.trimChars cs) transport := by
  -- Both names are compared in small letters, as they are read.
  have tcp : Transport.tcp.name.toList.map Char.toLower = ['t', 'c', 'p'] := by decide
  have udp : Transport.udp.name.toList.map Char.toLower = ['u', 'd', 'p'] := by decide
  unfold WritesTransport transportOf?
  simp only
  -- The two names differ, so at most one of them is there.
  by_cases first : (Text.trimChars cs).map Char.toLower = ['t', 'c', 'p']
  · cases transport <;> simp [first, tcp, udp]
  · by_cases second : (Text.trimChars cs).map Char.toLower = ['u', 'd', 'p']
    · cases transport <;> simp [second, tcp, udp]
    · cases transport <;> simp [first, second, tcp, udp]

/-- An entry is read exactly as the port that it spells. -/
theorem ofEntry_eq_ok_iff {entry : List Char} {spec : PortSpec} :
    ofEntry entry = .ok spec ↔ Spells entry spec := by
  rcases Text.notMem_or_split '/' entry with absent | ⟨before, after, first, rfl⟩
  · -- Without a slash the entry is the number.
    simp only [ofEntry, Text.splitOnce_of_notMem absent, Option.isSome_none, Bool.false_eq_true,
      if_false, transportOf?]
    constructor
    · intro read
      cases number : portNumber? entry with
      | none => simp [number] at read
      | some port =>
        simp only [number, Except.ok.injEq] at read
        subst read
        exact .number (portNumber?_eq_some_iff.mp number)
    · intro spelled
      cases spelled with
      | number written => simp [portNumber?_eq_some_iff.mpr written]
      | slashed => simp at absent
  · -- With a slash the number stands before it and the protocol behind it.
    simp only [ofEntry, Text.splitOnce_append first, Option.isSome_some, if_true]
    constructor
    · intro read
      cases number : portNumber? (Text.trimChars before) with
      | none => simp [number] at read
      | some port =>
        cases named : transportOf? (some after) with
        | error found => simp [number, named] at read
        | ok transport =>
          simp only [number, named, Except.ok.injEq] at read
          subst read
          exact .slashed first (portNumber?_eq_some_iff.mp number)
            (transportOf?_eq_ok_iff.mp named)
    · intro spelled
      generalize same : before ++ '/' :: after = entry at spelled
      cases spelled with
      | number written =>
        -- A slash is neither a sign nor a digit.
        obtain ⟨digits, shape, -, each, -⟩ := written
        have slash : '/' ∈ entry := by simp [← same]
        have digit : '/'.isDigit = true := by
          rcases shape with rfl | rfl
          · exact each '/' slash
          · exact each '/' (by simpa using slash)
        contradiction
      | slashed otherFirst written named =>
        -- Both divisions are at the first slash, and so the same.
        have once := congrArg (Text.splitOnce '/') same
        rw [Text.splitOnce_append first, Text.splitOnce_append otherFirst] at once
        obtain ⟨rfl, rfl⟩ : before = _ ∧ after = _ := by simpa using once
        simp [portNumber?_eq_some_iff.mpr written, transportOf?_eq_ok_iff.mpr named]

/-- An entry spells one port at most. -/
theorem Spells.unique {entry : List Char} {spec other : PortSpec} (spells : Spells entry spec)
    (again : Spells entry other) : spec = other := by
  -- The reader gives one answer, and that is either port.
  have read : ofEntry entry = .ok spec := ofEntry_eq_ok_iff.mpr spells
  have same : ofEntry entry = .ok other := ofEntry_eq_ok_iff.mpr again
  simpa [read] using same

/-- An entry is read before those after it, which must not repeat it. -/
theorem readEntries_cons (seen : List PortSpec) (entry : List Char) (rest : List (List Char)) :
    readEntries seen (entry :: rest) =
      match ofEntry entry with
      | .error error => .error error
      | .ok spec =>
        if spec ∈ seen then .error (.portRepeated (String.ofList entry))
        else (readEntries (spec :: seen) rest).map (spec :: ·) := by
  -- The first entry decides whether the rest is read at all.
  cases first : ofEntry entry with
  | error error => simp [readEntries, first, Bind.bind, Except.bind]
  | ok spec =>
    by_cases repeated : spec ∈ seen
    · simp [readEntries, first, repeated, Bind.bind, Except.bind]
    · simp only [readEntries, first, repeated, if_false, Bind.bind, Except.bind]
      cases readEntries (spec :: seen) rest <;> rfl

/-- Entries are read exactly as the ports that they spell, if no port is there twice or was seen
before. -/
theorem readEntries_eq_ok_iff {seen : List PortSpec} {found : List (List Char)}
    {specs : List PortSpec} :
    readEntries seen found = .ok specs ↔
      List.Forall₂ Spells found specs ∧ specs.Nodup ∧ ∀ spec ∈ specs, spec ∉ seen := by
  -- Each port that is read is among those seen by the rest, so the induction is for any of these.
  induction found generalizing seen specs with
  -- Nothing is left to read, and nothing is listed.
  | nil =>
    simp only [readEntries, Except.ok.injEq, List.forall₂_nil_left_iff]
    constructor
    · rintro rfl
      simp
    · rintro ⟨rfl, -⟩
      rfl
  | cons entry rest ih =>
    rw [readEntries_cons]
    cases first : ofEntry entry with
    | error error =>
      -- An entry that spells nothing stops the reading.
      simp only [reduceCtorEq, false_iff]
      rintro ⟨spelled, -⟩
      cases spelled with
      | cons spells _ => simp [ofEntry_eq_ok_iff.mpr spells] at first
    | ok spec =>
      have spells : Spells entry spec := ofEntry_eq_ok_iff.mp first
      by_cases repeated : spec ∈ seen
      · -- A port that was seen before is refused, and cannot be among the fresh ones.
        simp only [repeated, if_true, reduceCtorEq, false_iff]
        rintro ⟨spelled, -, fresh⟩
        cases spelled with
        | cons other _ =>
          obtain rfl := spells.unique other
          exact fresh spec List.mem_cons_self repeated
      · simp only [repeated, if_false]
        -- A fresh port is put in front of those that the rest is read as.
        constructor
        · intro read
          cases later : readEntries (spec :: seen) rest with
          | error error => simp [later, Except.map] at read
          | ok more =>
            obtain ⟨spelled, distinct, fresh⟩ := ih.mp later
            obtain rfl : spec :: more = specs := by simpa [later, Except.map] using read
            refine ⟨.cons spells spelled, List.nodup_cons.mpr ⟨?_, distinct⟩, ?_⟩
            · intro again
              exact fresh spec again List.mem_cons_self
            · intro other member
              rcases List.mem_cons.mp member with rfl | member
              · exact repeated
              · exact fun before => fresh other member (List.mem_cons_of_mem spec before)
        · rintro ⟨spelled, distinct, fresh⟩
          cases spelled with
          | cons other spelled =>
            obtain rfl := spells.unique other
            obtain ⟨once, distinct⟩ := List.nodup_cons.mp distinct
            -- What comes later is none of the ports seen, this one included.
            refine congrArg (Except.map (spec :: ·)) (ih.mpr ⟨spelled, distinct, ?_⟩)
            intro later member before
            rcases List.mem_cons.mp before with rfl | before
            · exact once member
            · exact fresh later (List.mem_cons_of_mem spec member) before

/-- The entries of an input are its pieces. -/
theorem entries_eq (input : String) : entries input = pieces input := by
  -- The two differ only in how a piece that is blank is told.
  unfold entries pieces
  rw [Text.splitOn_eq]
  congr 1
  funext piece
  cases piece <;> rfl

/-- An input is read as the ports that it lists, and is refused if it lists none. -/
theorem parse_eq_ok_iff {input : String} {specs : List PortSpec} :
    parse input = .ok specs ↔ Lists input specs := by
  unfold parse
  simp only [entries_eq]
  by_cases nothing : pieces input = []
  · -- Without a piece there is no port, and a list of ports has one.
    simp only [nothing, List.isEmpty_nil, if_true, reduceCtorEq, false_iff]
    intro lists
    have same : (pieces input).length = specs.length := lists.spelled.length_eq
    have positive := lists.lower
    simp only [nothing, List.length_nil] at same
    omega
  · have filled : (pieces input).isEmpty = false := List.isEmpty_eq_false_iff.mpr nothing
    have positive : 0 < (pieces input).length := List.length_pos_iff.mpr nothing
    by_cases many : maxPorts < (pieces input).length
    · -- Each piece is one port, so too many pieces are too many ports.
      simp only [filled, many, Bool.false_eq_true, if_false, if_true, reduceCtorEq, false_iff]
      intro lists
      have same : (pieces input).length = specs.length := lists.spelled.length_eq
      have upper := lists.upper
      simp only [maxPorts] at many
      omega
    · -- The entries are then read, each in its place.
      simp only [filled, many, Bool.false_eq_true, if_false, readEntries_eq_ok_iff]
      constructor
      · rintro ⟨spelled, distinct, -⟩
        have same : (pieces input).length = specs.length := spelled.length_eq
        simp only [maxPorts] at many
        exact ⟨spelled, by omega, by omega, distinct⟩
      · intro lists
        exact ⟨lists.spelled, lists.distinct, by simp⟩

/-- A port as an entry: its number, a slash and its protocol. -/
def entryText (spec : PortSpec) : String :=
  toString spec.port ++ "/" ++ spec.transport.name

/-- Ports as an input, with a comma and a space between them. -/
def listText (specs : List PortSpec) : String :=
  ", ".intercalate (specs.map entryText)

/-- Whether a port has a number that can be opened. -/
def InRange (spec : PortSpec) : Prop :=
  1 ≤ spec.port ∧ spec.port ≤ 65535

variable (spec : PortSpec)

/-- An entry as characters. -/
theorem toList_entryText :
    spec.entryText.toList =
      Nat.toDigits 10 spec.port ++ '/' :: spec.transport.name.toList := by
  simp [entryText]

/-- An entry has neither white space nor a comma in it. -/
theorem plain_of_mem_entryText {c : Char} (member : c ∈ spec.entryText.toList) :
    Text.isBlank c = false ∧ c ≠ ',' := by
  rw [toList_entryText] at member
  rcases List.mem_append.mp member with digit | rest
  · -- All digits stand between two code points.
    have range := Char.isDigit_iff_toNat.mp (Text.isDigit_of_mem_toDigits digit)
    simp only [Char.reduceToNat] at range
    refine ⟨?_, ?_⟩
    · rw [Bool.eq_false_iff]
      intro blank
      simp only [Text.isBlank, Bool.or_eq_true, Bool.and_eq_true, decide_eq_true_eq,
        beq_iff_eq] at blank
      omega
    · rintro rfl
      simp only [Char.reduceToNat] at range
      omega
  · -- The rest is one of two fixed texts.
    obtain ⟨port, transport⟩ := spec
    cases transport <;> simp [Transport.name] at rest <;>
      rcases rest with rfl | rfl | rfl | rfl <;> decide

/-- An entry spells its port. -/
theorem spells_entryText (range : spec.InRange) : Spells spec.entryText.toList spec := by
  -- The number is written by its digits, among which there is no slash.
  have digits : ∀ c ∈ Nat.toDigits 10 spec.port, c.isDigit = true :=
    fun c member => Text.isDigit_of_mem_toDigits member
  have noSlash : '/' ∉ Nat.toDigits 10 spec.port := by
    intro member
    have digit : '/'.isDigit = true := digits '/' member
    contradiction
  have plain : ∀ c ∈ Nat.toDigits 10 spec.port ++ '/' :: spec.transport.name.toList,
      Text.isBlank c = false := by
    intro c member
    rw [← toList_entryText] at member
    exact (spec.plain_of_mem_entryText member).1
  -- Neither side of the slash has white space to trim.
  have number : Text.trimChars (Nat.toDigits 10 spec.port) = Nat.toDigits 10 spec.port :=
    Text.trimChars_of_plain fun c member => plain c (List.mem_append_left _ member)
  have name : Text.trimChars spec.transport.name.toList = spec.transport.name.toList :=
    Text.trimChars_of_plain fun c member =>
      plain c (List.mem_append_right _ (List.mem_cons_of_mem _ member))
  rw [toList_entryText]
  refine .slashed noSlash ?_ ?_
  · rw [number]
    exact ⟨_, .inl rfl, Nat.toDigits_ne_nil, digits,
      Nat.ofDigitChars_toDigits (by decide) (by decide), range⟩
  · rw [name]
    rfl

/-- The pieces of ports as an input are their entries. -/
theorem pieces_listText {specs : List PortSpec} (nonempty : specs ≠ []) :
    pieces (listText specs) = specs.map fun spec => spec.entryText.toList := by
  obtain ⟨first, rest, rfl⟩ := List.exists_cons_of_ne_nil nonempty
  let texts := rest.map fun spec => spec.entryText.toList
  have characters : (listText (first :: rest)).toList =
      [',', ' '].intercalate (first.entryText.toList :: texts) := by
    simp [listText, texts, String.toList_intercalate, Function.comp_def]
  -- No entry has a comma, so cutting at commas gives the entries with their spaces.
  have split : (listText (first :: rest)).toList.splitOn ',' =
      first.entryText.toList :: texts.map (' ' :: ·) := by
    rw [characters, ← Text.splitOn_eq]
    refine Text.splitOn_comma_space ?_
    intro text member comma
    rcases List.mem_cons.mp member with rfl | member
    · exact (first.plain_of_mem_entryText comma).2 rfl
    · -- Every other entry has a space in front, which is no comma either.
      obtain ⟨spec, -, rfl⟩ := List.mem_map.mp member
      exact (spec.plain_of_mem_entryText comma).2 rfl
  -- Trimming takes the spaces away again, and leaves nothing blank.
  have trimmed : ∀ spec : PortSpec, Text.trimChars spec.entryText.toList = spec.entryText.toList :=
    fun spec => Text.trimChars_of_plain fun c member => (spec.plain_of_mem_entryText member).1
  have spaced : ∀ spec : PortSpec,
      Text.trimChars (' ' :: spec.entryText.toList) = spec.entryText.toList :=
    fun spec => (Text.trimChars_cons (by decide) _).trans (trimmed spec)
  have filled : ∀ spec : PortSpec, spec.entryText.toList ≠ [] := by
    intro spec
    simp [toList_entryText]
  unfold pieces
  rw [split]
  simp [texts, Function.comp_def, trimmed, spaced, filled]

/-- Ports written as an input are listed by it. -/
theorem lists_listText {specs : List PortSpec} (lower : 1 ≤ specs.length)
    (upper : specs.length ≤ 24) (distinct : specs.Nodup) (range : ∀ spec ∈ specs, spec.InRange) :
    Lists (listText specs) specs := by
  have nonempty : specs ≠ [] := List.length_pos_iff.mp lower
  refine ⟨?_, lower, upper, distinct⟩
  rw [pieces_listText nonempty, List.forall₂_map_left_iff, List.forall₂_same]
  -- Each entry spells the port it was written for.
  exact fun spec member => spec.spells_entryText (range spec member)

/-- An entry spells only ports that can be opened. -/
theorem Spells.inRange {entry : List Char} {spec : PortSpec} (spells : Spells entry spec) :
    spec.InRange := by
  -- In either form the number is one that can be opened.
  cases spells with
  | number written =>
    obtain ⟨_, -, -, -, -, range⟩ := written
    exact range
  | slashed _ written _ =>
    obtain ⟨_, -, -, -, -, range⟩ := written
    exact range

/-- All ports that entries spell can be opened. -/
theorem inRange_of_spelled {found : List (List Char)} {specs : List PortSpec}
    (spelled : List.Forall₂ Spells found specs) : ∀ spec ∈ specs, spec.InRange := by
  induction spelled with
  | nil => simp
  | cons spells _ ih =>
    intro spec member
    rcases List.mem_cons.mp member with rfl | member
    · exact spells.inRange
    · exact ih spec member

/-- An input is accepted exactly if it lists ports, and is then read as the ports that it lists, in
their order: from 1 to 24 different ones, all of which can be opened. A creation from an input that
is refused ends as one refused before any request, and ports written as an input are read back. -/
theorem parse_accepts_listed :
    (∀ input specs, parse input = .ok specs ↔ Lists input specs) ∧
    (∀ input specs, parse input = .ok specs →
      1 ≤ specs.length ∧ specs.length ≤ 24 ∧ specs.Nodup ∧ ∀ spec ∈ specs, spec.InRange) ∧
    (∀ input error, parse input = .error error →
      ∀ context : ActionContext, context.targetPort = input →
        ActionCalls.create context = .done (.failed (.validation error.message))) ∧
    ∀ specs, 1 ≤ specs.length → specs.length ≤ 24 → specs.Nodup → (∀ spec ∈ specs, spec.InRange) →
      parse (listText specs) = .ok specs := by
  refine ⟨fun input specs => parse_eq_ok_iff, ?_, ?_, ?_⟩
  · intro input specs read
    -- What was read is listed, and what is listed has the properties of a list.
    have lists : Lists input specs := parse_eq_ok_iff.mp read
    exact ⟨lists.lower, lists.upper, lists.distinct, inRange_of_spelled lists.spelled⟩
  · -- The ports are the first thing that a creation looks at.
    intro input error refused context same
    subst same
    have build : CreateRequest.build context.targetPort context.podSpec context.encoding =
        .error error := by
      simp [CreateRequest.build, refused, Bind.bind, Except.bind]
    simp [ActionCalls.create, build, ActionOutcome.refused]
  · intro specs lower upper distinct range
    exact parse_eq_ok_iff.mpr (lists_listText lower upper distinct range)

/-- Signs, zeros, capitals, spaces and blank entries are all read away, and a port may be there once
for each protocol, but not twice for one that the first entry leaves out. -/
theorem signedPorts_accepted :
    Lists "+0080, 53/UDP ,, 53 / tcp" [⟨80, .tcp⟩, ⟨53, .udp⟩, ⟨53, .tcp⟩] ∧
      (∀ spec ∈ [(⟨80, .tcp⟩ : PortSpec), ⟨53, .udp⟩, ⟨53, .tcp⟩], spec.InRange) ∧
      (∀ context : ActionContext, context.targetPort = "53, +053/Tcp" →
        ActionCalls.create context =
          .done (.failed (.validation (InputError.portRepeated "+053/Tcp").message))) ∧
      parse (listText [⟨65535, .udp⟩, ⟨1, .tcp⟩]) = .ok [⟨65535, .udp⟩, ⟨1, .tcp⟩] := by
  obtain ⟨grammar, bounds, refusal, back⟩ := parse_accepts_listed
  -- The reader is run on both inputs.
  have read : parse "+0080, 53/UDP ,, 53 / tcp" = .ok [⟨80, .tcp⟩, ⟨53, .udp⟩, ⟨53, .tcp⟩] := by
    decide +kernel
  have repeated : parse "53, +053/Tcp" = .error (.portRepeated "+053/Tcp") := by
    decide +kernel
  have range : ∀ spec ∈ [(⟨65535, .udp⟩ : PortSpec), ⟨1, .tcp⟩], spec.InRange := by
    simp [InRange]
  exact ⟨(grammar _ _).mp read, (bounds _ _ read).2.2.2, refusal _ _ repeated,
    back _ (by decide) (by decide) (by decide) range⟩

end StackPanel.PortSpec
