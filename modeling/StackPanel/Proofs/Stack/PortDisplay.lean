import StackPanel.Proofs.Stack.PortMapping
import StackPanel.Proofs.Text.Digits
import StackPanel.Proofs.Text.Pieces
import StackPanel.Stack.Card

/-! A card tells all of a stack's port mappings: when they are shown as such, and that they can be
read back from the text. -/

namespace StackPanel.PortMapping

/-- Whether a text tells a mapping: the port and the protocol, which is TCP if it is missing, and
behind an arrow the port on the node exactly if there is one. -/
inductive Tells : String → PortMapping → Prop where
  | unplaced (port : Nat) (transport : Option String) :
    Tells (toString port ++ "/" ++ transport.getD "TCP") ⟨port, transport, none⟩
  | placed (port : Nat) (transport : Option String) (node : Nat) :
    Tells (toString port ++ "/" ++ transport.getD "TCP" ++ " -> " ++ toString node)
      ⟨port, transport, some node⟩

/-- A mapping with its protocol by name, also if it is TCP because none is given. -/
def named (mapping : PortMapping) : PortMapping :=
  { mapping with transport := some (mapping.transport.getD "TCP") }

/-- Whether the protocol of a mapping is none but the two that stacks are created with. -/
def IsKnown (mapping : PortMapping) : Prop :=
  mapping.transport = none ∨ mapping.transport = some "TCP" ∨ mapping.transport = some "UDP"

/-- The mapping that a text tells. -/
def ofLabel? (label : List Char) : Option PortMapping :=
  match Text.splitOnce '/' label with
  | (_, none) => none
  | (port, some rest) => do
    let containerPort ← Text.decimal? port
    match Text.splitOnce ' ' rest with
    | (name, none) => return ⟨containerPort, some (String.ofList name), none⟩
    | (name, some arrow) => match Text.splitOnce ' ' arrow with
      | (['-', '>'], some node) =>
        return ⟨containerPort, some (String.ofList name), some (← Text.decimal? node)⟩
      | _ => none

/-- The mappings that a text tells between commas. -/
def ofLabels? (text : String) : Option (List PortMapping) :=
  ((Text.splitOn ',' text.toList).map (List.dropWhile (· = ' '))).mapM ofLabel?

/-- What a card shows of a mapping tells it. -/
theorem tells_label (mapping : PortMapping) : Tells mapping.label mapping := by
  obtain ⟨port, transport, node⟩ := mapping
  -- The arrow is there exactly if there is a port on the node.
  cases node with
  | none => exact .unplaced port transport
  | some node => exact .placed port transport node

/-- The characters in which a card shows a mapping. -/
theorem toList_label (mapping : PortMapping) : mapping.label.toList =
    Nat.toDigits 10 mapping.containerPort ++ '/' :: (mapping.transport.getD "TCP").toList ++
      mapping.nodePort.elim [] fun port => ' ' :: '-' :: '>' :: ' ' :: Nat.toDigits 10 port := by
  obtain ⟨port, transport, node⟩ := mapping
  -- The text is the same with and without the arrow, which the option tells apart.
  cases node <;> simp [label]

section Known

variable {mapping : PortMapping} (known : mapping.IsKnown)

include known

/-- The name of a known protocol has neither a comma nor a space in it. -/
theorem IsKnown.notMem_name : ',' ∉ (mapping.transport.getD "TCP").toList ∧
    ' ' ∉ (mapping.transport.getD "TCP").toList := by
  -- There are only two names to look at, and a missing one counts as the first.
  rcases known with none | tcp | udp
  · rw [none]; decide
  · rw [tcp]; decide
  · rw [udp]; decide

/-- What a card shows of a mapping has no comma in it. -/
theorem IsKnown.comma_notMem_label : ',' ∉ mapping.label.toList := by
  -- Neither digits nor the signs between them are commas.
  have digits : ∀ n, ',' ∉ Nat.toDigits 10 n := Text.notMem_toDigits rfl
  rw [toList_label]
  cases mapping.nodePort <;> simp [digits, known.notMem_name.1]

/-- A mapping is read back from what a card shows of it. -/
theorem IsKnown.ofLabel?_label : ofLabel? mapping.label.toList = some mapping.named := by
  -- Digits hold no slash, so the first slash is the one behind the port.
  have noSlash : '/' ∉ Nat.toDigits 10 mapping.containerPort := Text.notMem_toDigits rfl _
  have noSpace := known.notMem_name.2
  -- The first slash ends the port, and the first space the protocol, if there is any.
  rw [toList_label, List.append_assoc, List.cons_append]
  simp only [ofLabel?, Text.splitOnce_append noSlash, Text.decimal?_toDigits]
  cases node : mapping.nodePort with
  | none =>
    simp [Text.splitOnce_of_notMem noSpace, named, node]
  | some port =>
    -- Behind the name the arrow stands between two spaces, and digits follow it.
    have arrow : Text.splitOnce ' ' (['-', '>'] ++ ' ' :: Nat.toDigits 10 port) =
        (['-', '>'], some (Nat.toDigits 10 port)) :=
      Text.splitOnce_append (by decide)
    rw [List.cons_append, List.cons_append, List.nil_append] at arrow
    simp [Text.splitOnce_append noSpace, arrow, Text.decimal?_toDigits, named, node]

end Known

/-- What a card shows of a mapping does not start with a space. -/
theorem dropWhile_label (mapping : PortMapping) :
    mapping.label.toList.dropWhile (· = ' ') = mapping.label.toList := by
  -- The text starts with the digits of the port, of which there is one at least.
  obtain ⟨c, rest, shape⟩ := List.exists_cons_of_ne_nil
    (Nat.toDigits_ne_nil : Nat.toDigits 10 mapping.containerPort ≠ [])
  have digit : c ≠ ' ' := by
    rintro rfl
    exact Text.notMem_toDigits rfl mapping.containerPort (shape ▸ List.mem_cons_self)
  rw [toList_label, shape]
  simp [digit]

/-- The characters in which a card shows mappings. -/
theorem toList_intercalate_label (mappings : List PortMapping) :
    (", ".intercalate (mappings.map label)).toList =
      [',', ' '].intercalate (mappings.map fun mapping => mapping.label.toList) := by
  simp [String.toList_intercalate, Function.comp_def]

/-- Mappings are read back from what a card shows of them. -/
theorem ofLabels?_intercalate {mappings : List PortMapping} (filled : mappings ≠ [])
    (known : ∀ mapping ∈ mappings, mapping.IsKnown) :
    ofLabels? (", ".intercalate (mappings.map label)) = some (mappings.map named) := by
  -- There is a first mapping, so the text is not empty.
  obtain ⟨first, rest, rfl⟩ := List.exists_cons_of_ne_nil filled
  have plain : ∀ text ∈ (first :: rest).map fun mapping => mapping.label.toList, ',' ∉ text := by
    intro text member
    obtain ⟨mapping, among, rfl⟩ := List.mem_map.mp member
    exact (known mapping among).comma_notMem_label
  -- Between the commas stand the texts of the mappings, with a space in front of all but the first.
  have pieces : (Text.splitOn ',' (", ".intercalate ((first :: rest).map label)).toList).map
      (List.dropWhile (· = ' ')) = (first :: rest).map fun mapping => mapping.label.toList := by
    rw [toList_intercalate_label, List.map_cons, Text.splitOn_comma_space plain]
    simp [dropWhile_label, Function.comp_def]
  -- Each piece is read back by itself.
  rw [ofLabels?, pieces, mapM_eq_some_iff, List.forall₂_map_left_iff, List.forall₂_map_right_iff,
    List.forall₂_same]
  exact fun mapping among => (known mapping among).ofLabel?_label

end StackPanel.PortMapping

namespace StackPanel

/-- A double is written with a point or an exponent. -/
theorem Decimal.Double.mark_mem_text (x : Decimal.Double) : '.' ∈ x.text ∨ 'e' ∈ x.text := by
  unfold Decimal.Double.text
  -- Zero has a text of its own, which has a point in it.
  by_cases zero : x.significand = 0
  · simp [zero]
  · -- Of the three forms only the one with an exponent can do without a point.
    simp only [if_neg zero]
    split
    · exact .inr (by simp)
    · split <;> exact .inl (by simp)

/-- No value is written as the sign for a missing one. -/
theorem Json.compact_ne_missing (value : Json) : value.compact ≠ Display.missing := by
  -- The sign is a single dash, and the values are gone through by their kinds.
  intro same
  have written : value.print = ['-'] := by
    simpa [Json.compact, Display.missing] using congrArg String.toList same
  -- Each kind of value starts or goes on in another way than a single dash.
  cases value with
  | null => exact absurd written (by decide +kernel)
  | bool b => cases b <;> exact absurd written (by decide +kernel)
  | integer n =>
    -- A minus sign has digits behind it, of which there is at least one.
    cases n with
    | ofNat n =>
      have sign : '-' ∈ Nat.toDigits 10 n := by
        have all : Nat.toDigits 10 n = ['-'] := written
        rw [all]
        exact List.mem_cons_self
      exact Text.notMem_toDigits rfl n sign
    | negSucc n =>
      have digits : '-' :: Nat.toDigits 10 (n + 1) = ['-'] := written
      exact absurd (List.cons.inj digits).2 Nat.toDigits_ne_nil
  | real x =>
    -- Doubles have a point or an exponent, which a dash is neither of.
    have text : x.text = ['-'] := written
    rcases x.mark_mem_text with mark | mark <;> simp [text] at mark
  | text raw => simp [Json.print, Json.printText] at written
  | array items => simp [Json.print] at written
  | object fields => simp [Json.print] at written

namespace Display

open PortMapping (IsKnown Lists Tells ofLabels?)

/-- Whether the ports of a stack are mappings, at least one of them. -/
structure HasMappings (summary : StackSummary) (mappings : List PortMapping) : Prop where
  filled : mappings ≠ []
  listed : ∃ raw, summary.ports = some raw ∧ Lists raw mappings

variable {summary : StackSummary}

/-- Mappings are shown one after another. -/
theorem HasMappings.ports_eq {mappings : List PortMapping} (has : HasMappings summary mappings) :
    ports summary = ", ".intercalate (mappings.map PortMapping.label) := by
  obtain ⟨filled, raw, held, lists⟩ := has
  -- The list is not empty, so the card does not take the case of an empty one.
  obtain ⟨first, rest, rfl⟩ := List.exists_cons_of_ne_nil filled
  have read := PortMapping.listOfJson?_eq_some_iff.mpr lists
  cases lists with
  | array => simp only [ports, held, read]

/-- Ports that are no mappings are shown as they were sent, unless they are missing. -/
theorem ports_of_not_lists {raw : Json} (held : summary.ports = some raw) (present : raw ≠ .null)
    (unknown : ∀ mappings, ¬Lists raw mappings) : ports summary = raw.compact := by
  -- The reader finds no list of mappings, so that the text of the value is shown.
  have unread : PortMapping.listOfJson? raw = none := by
    rw [Option.eq_none_iff_forall_ne_some]
    exact fun mappings read => unknown mappings (PortMapping.listOfJson?_eq_some_iff.mp read)
  cases raw with
  | null => contradiction
  | bool | integer | real | text | array | object => simp only [ports, held, unread]

/-- What is shown of mappings is not the sign for missing ones. -/
theorem HasMappings.ports_ne_missing {mappings : List PortMapping}
    (has : HasMappings summary mappings) : ports summary ≠ missing := by
  -- There is one mapping at least, whose text is part of what is shown.
  obtain ⟨first, rest, rfl⟩ := List.exists_cons_of_ne_nil has.filled
  intro same
  rw [has.ports_eq] at same
  -- The text of the first mapping has a slash in it.
  have slash : '/' ∈ (", ".intercalate ((first :: rest).map PortMapping.label)).toList := by
    rw [PortMapping.toList_intercalate_label, List.map_cons]
    cases rest <;> simp [PortMapping.toList_label]
  rw [same] at slash
  simp [missing] at slash

/-- Ports are missing, or some mappings, or of another shape. -/
theorem ports_cases (summary : StackSummary) :
    (summary.ports = none ∨ summary.ports = some .null ∨ summary.ports = some (.array [])) ∨
    (∃ mappings, HasMappings summary mappings) ∨
    ∃ raw, summary.ports = some raw ∧ raw ≠ .null ∧ ∀ mappings, ¬Lists raw mappings := by
  cases held : summary.ports with
  | none => exact .inl (.inl rfl)
  | some raw =>
    -- Null stands for ports that are missing.
    by_cases null : raw = .null
    · exact .inl (.inr (.inl (by rw [null])))
    by_cases known : ∃ mappings, Lists raw mappings
    · obtain ⟨mappings, lists⟩ := known
      -- An empty list is shown as if there were none, and any other has mappings.
      by_cases filled : mappings = []
      · subst filled
        cases lists with
        | array each => cases each; exact .inl (.inr (.inr rfl))
      · exact .inr (.inl ⟨mappings, filled, raw, held, lists⟩)
    · exact .inr (.inr ⟨raw, rfl, null, not_exists.mp known⟩)

/-- A card shows a dash exactly for ports that are absent, null or an empty list. Mappings are told
all and in their order, and anything else is shown as it was sent. Where the protocols are known the
mappings can be read back from the card, so that two lists with one text are the same list. -/
theorem ports_tells_mappings :
    (∀ summary, ports summary = "-" ↔
      summary.ports = none ∨ summary.ports = some .null ∨ summary.ports = some (.array [])) ∧
    (∀ summary mappings, HasMappings summary mappings →
      ∃ texts, ports summary = ", ".intercalate texts ∧ List.Forall₂ Tells texts mappings) ∧
    (∀ summary raw, summary.ports = some raw → raw ≠ .null → (∀ mappings, ¬Lists raw mappings) →
      ports summary = raw.compact) ∧
    (∀ summary mappings, HasMappings summary mappings → (∀ mapping ∈ mappings, mapping.IsKnown) →
      (Entries.find? "ports" (StackCard.ofSummary summary).fields).bind ofLabels? =
        some (mappings.map PortMapping.named)) ∧
    ∀ first second mappings others, HasMappings first mappings → HasMappings second others →
      (∀ mapping ∈ mappings, mapping.IsKnown) → (∀ mapping ∈ others, mapping.IsKnown) →
      ports first = ports second →
      mappings.map PortMapping.named = others.map PortMapping.named := by
  -- Reading back is the inverse of what a card shows, from which the last two parts follow.
  have back : ∀ summary mappings, HasMappings summary mappings →
      (∀ mapping ∈ mappings, mapping.IsKnown) →
      ofLabels? (ports summary) = some (mappings.map PortMapping.named) := by
    intro summary mappings has known
    rw [has.ports_eq]
    exact PortMapping.ofLabels?_intercalate has.filled known
  refine ⟨?_, ?_, fun _ _ => ports_of_not_lists, ?_, ?_⟩
  · intro summary
    constructor
    · -- The three kinds of ports that are no mappings are gone through, and only the first is a
      -- dash.
      intro dash
      rcases ports_cases summary with none | ⟨mappings, has⟩ | ⟨raw, held, present, unknown⟩
      · exact none
      · exact absurd dash has.ports_ne_missing
      · rw [ports_of_not_lists held present unknown] at dash
        exact absurd dash raw.compact_ne_missing
    · rintro (held | held | held) <;> simp only [ports, held] <;> rfl
  · -- Each mapping has one text, and the texts stand in the order of the mappings.
    intro summary mappings has
    refine ⟨_, has.ports_eq, ?_⟩
    rw [List.forall₂_map_left_iff, List.forall₂_same]
    exact fun mapping _ => mapping.tells_label
  · exact fun summary mappings has known => back summary mappings has known
  · -- Two stacks with the same text are read back as the same mappings.
    intro first second mappings others has hasOthers known knownOthers same
    have read := back first mappings has known
    rw [same, back second others hasOthers knownOthers] at read
    exact (Option.some.inj read).symm

/-- Mappings in both forms, one without a protocol and one without a port on the node, are told like
the ones that name all of it, and text in their place is shown as it is. -/
theorem bothForms_tells_mappings :
    let named : Json := .array [.object [("container_port", .integer 80),
      ("node_port", .integer 31001), ("protocol", .text "TCP")], .array [.integer 53, .text "UDP"]]
    let short : Json := .array [.array [.integer 80, .null, .integer 31001],
      .object [("container_port", .integer 53), ("protocol", .text "UDP"), ("unknown", .null)]]
    let first : StackSummary := { ports := some named }
    let second : StackSummary := { ports := some short }
    let told : List PortMapping := [⟨80, some "TCP", some 31001⟩, ⟨53, some "UDP", none⟩]
    ports first = "80/TCP -> 31001, 53/UDP" ∧ HasMappings first told ∧
      (Entries.find? "ports" (StackCard.ofSummary second).fields).bind ofLabels? = some told ∧
      (∃ texts, ports second = ", ".intercalate texts ∧
        List.Forall₂ Tells texts [⟨80, none, some 31001⟩, ⟨53, some "UDP", none⟩]) ∧
      told.map PortMapping.named =
        [(⟨80, none, some 31001⟩ : PortMapping), ⟨53, some "UDP", none⟩].map PortMapping.named ∧
      ports { ports := some (.text "odd") } = (Json.text "odd").compact := by
  intro named short first second told
  -- Every part of the theorem is applied to one of the two lists or to the text.
  obtain ⟨-, tells, unknown, back, same⟩ := ports_tells_mappings
  have firstHas : HasMappings first told :=
    ⟨by decide, named, rfl, PortMapping.listOfJson?_eq_some_iff.mp rfl⟩
  have secondHas : HasMappings second [⟨80, none, some 31001⟩, ⟨53, some "UDP", none⟩] :=
    ⟨by decide, short, rfl, PortMapping.listOfJson?_eq_some_iff.mp rfl⟩
  -- Both lists name protocols that are known, if any.
  have firstKnown : ∀ mapping ∈ told, mapping.IsKnown := by
    simp [told, PortMapping.IsKnown]
  have secondKnown : ∀ mapping ∈ [(⟨80, none, some 31001⟩ : PortMapping), ⟨53, some "UDP", none⟩],
      mapping.IsKnown := by
    simp [PortMapping.IsKnown]
  have text : ports first = "80/TCP -> 31001, 53/UDP" := by decide +kernel
  have texts : ports first = ports second := by decide +kernel
  -- A text is no array, and so it lists nothing.
  have odd : ∀ mappings, ¬Lists (.text "odd") mappings := by
    rintro mappings ⟨⟩
  exact ⟨text, firstHas, back second _ secondHas secondKnown, tells second _ secondHas,
    same first second _ _ firstHas secondHas firstKnown secondKnown texts,
    unknown _ _ rfl (by simp) odd⟩

end Display

end StackPanel
