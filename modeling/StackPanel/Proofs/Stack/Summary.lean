import Mathlib.Algebra.Ring.Int.Defs
import StackPanel.Proofs.Entries
import StackPanel.Stack.Summary

/-! The fields of a summary: which values each of them takes, what is kept of them, and how a
summary is written down again. -/

namespace StackPanel.StackSummary

/-- What a field of a summary takes. -/
inductive FieldKind where
  | id
  | text
  | integer
  | any

/-- Whether a field of a kind takes a value: an id is a string, and any other field may be null as
well. -/
def FieldKind.Takes (kind : FieldKind) (value : Json) : Prop :=
  match kind with
  | .id => ∃ text, value = .text text
  | .text => value = .null ∨ ∃ text, value = .text text
  | .integer => value = .null ∨ ∃ n, value = .integer n ∧ -2 ^ 63 ≤ n ∧ n < 2 ^ 63
  | .any => True

/-- The kinds of the fields, in the order in which an array lists their values. -/
def fieldKinds : List (String × FieldKind) :=
  [("stack_id", .id), ("namespace", .text), ("pod_id", .text), ("service_name", .text),
    ("node_id", .text), ("node_public_ip", .text), ("ports", .any), ("ttl_expires_at", .text),
    ("created_at", .text), ("updated_at", .text), ("requested_cpu_milli", .integer),
    ("requested_memory_bytes", .integer), ("status", .text)]

/-- Whether a value can stand under a name: names that are no fields take any value. -/
def Fits (name : String) (value : Json) : Prop :=
  ∀ kind, Entries.find? name fieldKinds = some kind → kind.Takes value

/-- A text that may be absent, as it is written down. -/
def textOrNull (text : Option String) : Json :=
  text.elim .null .text

/-- A number that may be absent, as it is written down. -/
def integerOrNull (n : Option Int) : Json :=
  n.elim .null .integer

/-- All fields of a summary with their values, in the order of their names. -/
def entries (summary : StackSummary) : List (String × Json) :=
  [("created_at", textOrNull summary.createdAt), ("namespace", textOrNull summary.space),
    ("node_id", textOrNull summary.nodeId), ("node_public_ip", textOrNull summary.nodePublicIp),
    ("pod_id", textOrNull summary.podId), ("ports", summary.ports.getD .null),
    ("requested_cpu_milli", integerOrNull summary.cpuMilli),
    ("requested_memory_bytes", integerOrNull summary.memoryBytes),
    ("service_name", textOrNull summary.serviceName), ("stack_id", .text summary.stackId),
    ("status", textOrNull summary.status), ("ttl_expires_at", textOrNull summary.ttlExpiresAt),
    ("updated_at", textOrNull summary.updatedAt)]

/-- A summary as an object that has every field. -/
def toJson (summary : StackSummary) : Json :=
  .object summary.entries

/-- Whether a summary can have been read: ports that are null are absent, and numbers have 64
bits. -/
structure IsReadable (summary : StackSummary) : Prop where
  ports : summary.ports ≠ some .null
  cpuMilli : ∀ n, summary.cpuMilli = some n → -2 ^ 63 ≤ n ∧ n < 2 ^ 63
  memoryBytes : ∀ n, summary.memoryBytes = some n → -2 ^ 63 ≤ n ∧ n < 2 ^ 63

/-- Whether a summary is another with a value in one of its fields. -/
def Sets (before : StackSummary) (name : String) (value : Json) (after : StackSummary) : Prop :=
  after.entries =
    before.entries.map fun entry => (entry.1, if entry.1 = name then value else entry.2)

/-- A text is read from what it is written down as, and from nothing else. -/
theorem readOptionalText_cases (value : Json) :
    (∃ text, value = textOrNull text ∧ readOptionalText value = .ok text) ∨
      ¬FieldKind.text.Takes value ∧ ∃ error, readOptionalText value = .error error := by
  -- Null and texts are written down in one way each, and no other value is read.
  cases value with
  | null => exact .inl ⟨none, rfl, rfl⟩
  | text raw => exact .inl ⟨some raw, rfl, rfl⟩
  | bool | integer | real | array | object =>
    exact .inr ⟨by simp [FieldKind.Takes], _, rfl⟩

/-- A number is read from what it is written down as if it has 64 bits, and from nothing else. -/
theorem readOptionalInteger_cases (value : Json) :
    (∃ n, value = integerOrNull n ∧ (∀ m, n = some m → -2 ^ 63 ≤ m ∧ m < 2 ^ 63) ∧
      readOptionalInteger value = .ok n) ∨
      ¬FieldKind.integer.Takes value ∧ ∃ error, readOptionalInteger value = .error error := by
  cases value with
  | null => exact .inl ⟨none, rfl, by simp, rfl⟩
  | integer n =>
    -- A number is read only if it has 64 bits.
    by_cases range : -2 ^ 63 ≤ n ∧ n < 2 ^ 63
    · refine .inl ⟨some n, rfl, ?_, if_pos range⟩
      intro m same
      exact Option.some.inj same ▸ range
    · refine .inr ⟨?_, _, if_neg range⟩
      simpa [FieldKind.Takes] using range
  | text | bool | real | array | object =>
    exact .inr ⟨by simp [FieldKind.Takes], _, rfl⟩

/-- How reading a value into the field of a name can go: a value that fits is all that the summary
changes in, and any other is refused. -/
def ReadsFitting (before : StackSummary) (name : String) (value : Json) : Prop :=
  (Fits name value ∧ ∃ after, readField before (name, value) = .ok after ∧
    before.Sets name value after ∧ (before.IsReadable → after.IsReadable)) ∨
  ¬Fits name value ∧ ∃ error, readField before (name, value) = .error error

variable {before : StackSummary} {name : String} {value : Json}

/-- A field of a known kind fits what its kind takes. -/
theorem fits_iff {kind : FieldKind} (known : Entries.find? name fieldKinds = some kind) :
    Fits name value ↔ kind.Takes value := by
  simp [Fits, known]

/-- A field for a text reads what fits it. -/
theorem readsFitting_text (known : Entries.find? name fieldKinds = some .text)
    (put : Option String → StackSummary)
    (reads : readField before (name, value) = (readOptionalText value).map put)
    (sets : ∀ text, before.Sets name (textOrNull text) (put text))
    (keeps : ∀ text, before.IsReadable → (put text).IsReadable) :
    before.ReadsFitting name value := by
  unfold ReadsFitting
  rw [fits_iff known, reads]
  -- What is read was written down, and null stands for the text that is absent.
  rcases readOptionalText_cases value with ⟨text, rfl, read⟩ | ⟨refused, error, read⟩
  · refine .inl ⟨?_, put text, by rw [read]; rfl, sets text, keeps text⟩
    cases text with
    | none => exact .inl rfl
    | some text => exact .inr ⟨text, rfl⟩
  · exact .inr ⟨refused, error, by rw [read]; rfl⟩

/-- A field for a number reads what fits it. -/
theorem readsFitting_integer (known : Entries.find? name fieldKinds = some .integer)
    (put : Option Int → StackSummary)
    (reads : readField before (name, value) = (readOptionalInteger value).map put)
    (sets : ∀ n, before.Sets name (integerOrNull n) (put n))
    (keeps : ∀ n, (∀ m, n = some m → -2 ^ 63 ≤ m ∧ m < 2 ^ 63) → before.IsReadable →
      (put n).IsReadable) :
    before.ReadsFitting name value := by
  unfold ReadsFitting
  rw [fits_iff known, reads]
  -- The range comes with the number that is read, and only a number that is there has one.
  rcases readOptionalInteger_cases value with ⟨n, rfl, range, read⟩ | ⟨refused, error, read⟩
  · refine .inl ⟨?_, put n, by rw [read]; rfl, sets n, keeps n range⟩
    cases n with
    | none => exact .inl rfl
    | some n => exact .inr ⟨n, rfl, range n rfl⟩
  · exact .inr ⟨refused, error, by rw [read]; rfl⟩

/-- A name that is no field is passed over, whatever stands under it. -/
theorem readsFitting_unknown (before : StackSummary) (unknown : name ∉ fieldNames)
    (value : Json) : before.ReadsFitting name value := by
  -- The name is none of those that the reader looks for, so it gets to the last case.
  have apart : ∀ field ∈ fieldNames, field ≠ name := fun field member same =>
    unknown (same ▸ member)
  simp only [fieldNames, List.mem_cons, List.not_mem_nil, or_false, forall_eq_or_imp,
    forall_eq] at unknown apart
  simp only [not_or] at unknown
  refine .inl ⟨?_, before, ?_, ?_, id⟩
  · simp [Fits, fieldKinds, Entries.find?, unknown]
  · simp [readField, unknown]
  · simp [Sets, entries, apart]

/-- Every field reads the values that fit it and refuses all others. -/
theorem readsFitting (before : StackSummary) (name : String) (value : Json) :
    before.ReadsFitting name value := by
  -- Only three of the fields have a part in whether a summary is readable.
  have kept : ∀ after : StackSummary, after.ports = before.ports →
      after.cpuMilli = before.cpuMilli → after.memoryBytes = before.memoryBytes →
      before.IsReadable → after.IsReadable := by
    intro after ports cpuMilli memoryBytes readable
    exact ⟨ports ▸ readable.ports, cpuMilli ▸ readable.cpuMilli,
      memoryBytes ▸ readable.memoryBytes⟩
  by_cases known : name ∈ fieldNames
  · -- Each known name is a field of its own, most of which differ in the field that is set alone.
    simp only [fieldNames, List.mem_cons, List.not_mem_nil, or_false] at known
    rcases known with
      rfl | rfl | rfl | rfl | rfl | rfl | rfl | rfl | rfl | rfl | rfl | rfl | rfl
    · -- The id is the one field that null does not fit.
      have id : Entries.find? "stack_id" fieldKinds = some .id := rfl
      unfold ReadsFitting
      rw [fits_iff id]
      cases value with
      | text raw =>
        refine .inl ⟨⟨raw, rfl⟩, { before with stackId := raw }, rfl, ?_, kept _ rfl rfl rfl⟩
        simp [Sets, entries]
      | null | bool | integer | real | array | object =>
        exact .inr ⟨by simp [FieldKind.Takes], _, rfl⟩
    · exact readsFitting_text rfl (fun text => { before with space := text }) rfl
        (fun _ => by simp [Sets, entries]) fun _ => kept _ rfl rfl rfl
    · exact readsFitting_text rfl (fun text => { before with podId := text }) rfl
        (fun _ => by simp [Sets, entries]) fun _ => kept _ rfl rfl rfl
    · exact readsFitting_text rfl (fun text => { before with serviceName := text }) rfl
        (fun _ => by simp [Sets, entries]) fun _ => kept _ rfl rfl rfl
    · exact readsFitting_text rfl (fun text => { before with nodeId := text }) rfl
        (fun _ => by simp [Sets, entries]) fun _ => kept _ rfl rfl rfl
    · exact readsFitting_text rfl (fun text => { before with nodePublicIp := text }) rfl
        (fun _ => by simp [Sets, entries]) fun _ => kept _ rfl rfl rfl
    · -- Ports are kept as they are, and are absent if they are null.
      have any : Entries.find? "ports" fieldKinds = some .any := rfl
      refine .inl ⟨(fits_iff any).mpr trivial, { before with ports := readAny value }, rfl, ?_,
        fun readable => ⟨?_, readable.cpuMilli, readable.memoryBytes⟩⟩
      · cases value <;> simp [Sets, entries, readAny]
      · cases value <;> simp [readAny]
    · exact readsFitting_text rfl (fun text => { before with ttlExpiresAt := text }) rfl
        (fun _ => by simp [Sets, entries]) fun _ => kept _ rfl rfl rfl
    · exact readsFitting_text rfl (fun text => { before with createdAt := text }) rfl
        (fun _ => by simp [Sets, entries]) fun _ => kept _ rfl rfl rfl
    · exact readsFitting_text rfl (fun text => { before with updatedAt := text }) rfl
        (fun _ => by simp [Sets, entries]) fun _ => kept _ rfl rfl rfl
    · -- A number is readable by its range, and the other parts are left as they were.
      exact readsFitting_integer rfl (fun n => { before with cpuMilli := n }) rfl
        (fun _ => by simp [Sets, entries])
        fun _ range readable => ⟨readable.ports, range, readable.memoryBytes⟩
    · exact readsFitting_integer rfl (fun n => { before with memoryBytes := n }) rfl
        (fun _ => by simp [Sets, entries])
        fun _ range readable => ⟨readable.ports, readable.cpuMilli, range⟩
    · exact readsFitting_text rfl (fun text => { before with status := text }) rfl
        (fun _ => by simp [Sets, entries]) fun _ => kept _ rfl rfl rfl
  · exact readsFitting_unknown before known value

/-- Fields are read one after another if each fits its name, and then each field of the summary
holds the last value that stands under its name, or what it held before. -/
theorem foldlM_readField (before : StackSummary) (fields : List (String × Json)) :
    ((∀ field ∈ fields, Fits field.1 field.2) ∧ ∃ after,
      fields.foldlM readField before = .ok after ∧
      after.entries = before.entries.map (fun entry =>
        (entry.1, (Entries.find? entry.1 fields.reverse).getD entry.2)) ∧
      (before.IsReadable → after.IsReadable)) ∨
    ¬(∀ field ∈ fields, Fits field.1 field.2) ∧
      ∃ error, fields.foldlM readField before = .error error := by
  -- The fields are read from the first to the last, into a summary that varies on the way.
  induction fields generalizing before with
  | nil => exact .inl ⟨by simp, before, rfl, by simp [Entries.find?], id⟩
  | cons field rest ih =>
    rcases before.readsFitting field.1 field.2 with
      ⟨fits, next, read, sets, keeps⟩ | ⟨refused, error, read⟩
    · -- A field that fits leads to the next summary, with which the others are read.
      have first : (field :: rest).foldlM readField before = rest.foldlM readField next := by
        simp only [List.foldlM_cons, read]
        rfl
      rw [first]
      rcases ih next with ⟨others, after, done, holds, readable⟩ | ⟨refused, error, stopped⟩
      · refine .inl ⟨List.forall_mem_cons.mpr ⟨fits, others⟩, after, done, ?_, readable ∘ keeps⟩
        rw [holds, sets, List.map_map]
        refine List.map_congr_left fun entry _ => ?_
        -- What stands later counts, and before it the first field.
        simp only [Function.comp_apply, List.reverse_cons, Entries.find?_append, Entries.find?]
        cases Entries.find? entry.1 rest.reverse with
        | some later => rfl
        | none => by_cases same : entry.1 = field.1 <;> simp [same]
      · -- A later field that is refused stops the reading as well.
        exact .inr ⟨fun all => refused (List.forall_mem_cons.mp all).2, error, stopped⟩
    · refine .inr ⟨fun all => refused (List.forall_mem_cons.mp all).1, error, ?_⟩
      simp only [List.foldlM_cons, read]
      rfl

/-- A summary that can have been read is read from the object of its fields. -/
theorem ofJson_toJson {summary : StackSummary} (readable : summary.IsReadable) :
    ofJson summary.toJson = .ok summary := by
  -- Each kind of field is read back from what it is written down as.
  have text : ∀ text, readOptionalText (textOrNull text) = .ok text := by
    intro text
    cases text <;> rfl
  have integer : ∀ n, (∀ m, n = some m → -2 ^ 63 ≤ m ∧ m < 2 ^ 63) →
      readOptionalInteger (integerOrNull n) = .ok n := by
    intro n range
    cases n with
    | none => rfl
    | some n => exact if_pos (range n rfl)
  -- Ports that are null would be read as absent, which a readable summary rules out.
  have any : readAny (summary.ports.getD .null) = summary.ports := by
    have present := readable.ports
    cases held : summary.ports with
    | none => rfl
    | some value => cases value <;> simp_all [readAny]
  -- The object has every field once, so each of them is set to what it was.
  simp only [ofJson, toJson, entries, List.foldlM_cons, List.foldlM_nil, readField, readText, text,
    any, integer _ readable.cpuMilli, integer _ readable.memoryBytes, Except.map]
  rfl

end StackPanel.StackSummary
