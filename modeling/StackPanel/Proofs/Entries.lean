import Mathlib.Data.List.Induction
import StackPanel.Entries

/-! Associations in the order of their keys. -/

namespace StackPanel.Entries

variable {α : Type}

/-- An entry whose key comes after all others goes to the end. -/
theorem insert_of_last {key : String} (value : α) {entries : List (String × α)}
    (last : ∀ entry ∈ entries, entry.1 < key) :
    insert key value entries = entries ++ [(key, value)] := by
  induction entries with
  | nil => rfl
  | cons entry rest ih =>
    -- It stands behind the first entry, and so it does behind the others.
    have before : entry.1 < key := last entry List.mem_cons_self
    have notAfter : ¬key < entry.1 := String.lt_asymm before
    have other : key ≠ entry.1 := by
      rintro rfl
      exact String.lt_irrefl _ before
    have later := ih fun entry member => last entry (List.mem_cons_of_mem _ member)
    simp [insert, notAfter, other, later]

/-- Pairs in the order of their keys, each there once, are already the entries. -/
theorem ofPairs_of_sorted {pairs : List (String × α)}
    (sorted : pairs.Pairwise fun first second => first.1 < second.1) : ofPairs pairs = pairs := by
  -- Each pair goes to the end of those before it.
  have general : ∀ (done todo : List (String × α)),
      (done ++ todo).Pairwise (fun first second => first.1 < second.1) →
      todo.foldl (fun entries pair => insert pair.1 pair.2 entries) done = done ++ todo := by
    intro done todo
    induction todo generalizing done with
    | nil => simp
    | cons pair todo ih =>
      intro sorted
      have last : ∀ entry ∈ done, entry.1 < pair.1 := fun entry member =>
        (List.pairwise_append.mp sorted).2.2 entry member pair List.mem_cons_self
      have moved : done ++ pair :: todo = (done ++ [pair]) ++ todo := by simp
      rw [List.foldl_cons, insert_of_last pair.2 last, moved]
      exact ih (done ++ [pair]) (moved ▸ sorted)
  -- At the start no pair has been put down.
  simpa [ofPairs] using general [] pairs sorted

/-- Whether entries stand in the order of their keys, each key there once. -/
def Sorted (entries : List (String × α)) : Prop :=
  entries.Pairwise fun first second => first.1 < second.1

/-- The keys after a value is put under one of them are that key and those before. -/
theorem mem_insert {key : String} {value : α} {entries : List (String × α)} {entry : String × α}
    (member : entry ∈ insert key value entries) : entry = (key, value) ∨ entry ∈ entries := by
  induction entries with
  | nil => exact .inl (List.mem_singleton.mp member)
  | cons first rest ih =>
    unfold insert at member
    split at member
    · -- It stands in front of all others.
      exact List.mem_cons.mp member
    · -- It takes the place of an entry with its key, or goes behind the first one.
      split at member
      · rcases List.mem_cons.mp member with new | old
        · exact .inl new
        · exact .inr (List.mem_cons_of_mem first old)
      · rcases List.mem_cons.mp member with rfl | later
        · exact .inr List.mem_cons_self
        · exact (ih later).imp_right (List.mem_cons_of_mem first)

/-- Putting a value under a key keeps the order. -/
theorem Sorted.insert {entries : List (String × α)} (sorted : Sorted entries) (key : String)
    (value : α) : Sorted (insert key value entries) := by
  induction entries with
  | nil => exact List.pairwise_singleton _ _
  | cons first rest ih =>
    obtain ⟨before, restSorted⟩ := List.pairwise_cons.mp sorted
    unfold Entries.insert
    split
    · next smaller =>
      -- What is smaller than the first key is smaller than all others too.
      refine List.pairwise_cons.mpr ⟨?_, sorted⟩
      intro entry member
      rcases List.mem_cons.mp member with rfl | later
      · exact smaller
      · exact String.lt_trans smaller (before entry later)
    · next notSmaller =>
      split
      · next same =>
        -- The value is another, and the order is one of keys.
        subst same
        exact List.pairwise_cons.mpr ⟨before, restSorted⟩
      · next other =>
        -- The first key stays in front, since the new one is neither smaller nor the same.
        have larger : first.1 < key :=
          Std.lt_of_le_of_ne (String.not_lt.mp notSmaller) (Ne.symm other)
        refine List.pairwise_cons.mpr ⟨?_, ih restSorted⟩
        intro entry member
        rcases mem_insert member with rfl | old
        · exact larger
        · exact before entry old

/-- Entries made from pairs stand in the order of their keys. -/
theorem sorted_ofPairs (pairs : List (String × α)) : Sorted (ofPairs pairs) := by
  -- Each pair is put into entries that are in order already.
  have general : ∀ (todo done : List (String × α)), Sorted done →
      Sorted (todo.foldl (fun entries pair => Entries.insert pair.1 pair.2 entries) done) := by
    -- The entries that are done vary, since each pair adds to them.
    intro todo
    induction todo with
    | nil => intro done sorted; exact sorted
    | cons pair todo ih => intro done sorted; exact ih _ (sorted.insert pair.1 pair.2)
  exact general pairs [] List.Pairwise.nil

/-- A value that is put under a key is found there, and under every other key what was there. -/
theorem find?_insert (name key : String) (value : α) (entries : List (String × α)) :
    find? name (insert key value entries) =
      if name = key then some value else find? name entries := by
  induction entries with
  | nil => rfl
  | cons first rest ih =>
    unfold Entries.insert
    split
    · rfl
    · split
      · next same =>
        -- The old value under the key is gone, and no other key is touched.
        subst same
        by_cases found : name = first.1 <;> simp [find?, found]
      · next other =>
        -- The first entry stays in front, so its key is found there.
        by_cases found : name = first.1
        · have apart : name ≠ key := fun same => other (same.symm.trans found)
          simp [find?, found, found ▸ apart]
        · simp [find?, found, ih]

/-- Under a key of entries made from pairs is the value of the last pair with that key. -/
theorem find?_ofPairs (name : String) (pairs : List (String × α)) :
    find? name (ofPairs pairs) = find? name pairs.reverse := by
  -- The last pair is put in last, over all that was there under its key.
  induction pairs using List.reverseRecOn with
  | nil => rfl
  | append_singleton pairs last ih =>
    have put : ofPairs (pairs ++ [last]) = insert last.1 last.2 (ofPairs pairs) := by
      simp [ofPairs]
    rw [put, find?_insert, ih, List.reverse_append]
    rfl

/-- A key is looked for in the first of two lists of entries, and then in the second. -/
theorem find?_append (key : String) (first second : List (String × α)) :
    find? key (first ++ second) = (find? key first).or (find? key second) := by
  induction first with
  | nil => rfl
  -- The first entry has the key or not, and the others are looked through by induction.
  | cons entry rest ih => by_cases same : key = entry.1 <;> simp [find?, same, ih]

end StackPanel.Entries
