/-
**Writing a block into a buffer, and what a sequence of such writes leaves.**

* `overlay buffer offset data` copies `data` over `buffer` from `offset` on; inside the written
  range the data is read back, outside it nothing changes.
* A log of writes `(offset, data)`, oldest first, determines every cell: `latest writes index` is
  the element of the newest write that covers `index`. `extent writes` is the highest end offset.
* `Shows blank buffer writes` — the buffer holds the newest write at every covered cell and `blank`
  everywhere else. It is kept by growing the buffer with blanks (`Shows.grow`) and by one more
  write (`Shows.write`). Every cell then holds an element of the log exactly when the log covers
  every cell (`Shows.drawn_iff`).
* `Tiles content start writes stop` — the writes put the pieces of a content side by side, in order.
-/

import Mathlib.Tactic

namespace Wolverine.Overlay

variable {α : Type}

/-! ### One write -/

/-- Copy `data` over `buffer` from `offset` on. -/
def overlay (buffer : List α) (offset : Nat) (data : List α) : List α :=
  buffer.take offset ++ data ++ buffer.drop (offset + data.length)

theorem length_overlay {buffer data : List α} {offset : Nat}
    (fits : offset + data.length ≤ buffer.length) :
    (overlay buffer offset data).length = buffer.length := by
  simp only [overlay, List.length_append, List.length_take, List.length_drop]
  omega

/-- **Inside the range the data, outside it the old buffer.** -/
theorem getElem?_overlay {buffer data : List α} {offset : Nat}
    (fits : offset + data.length ≤ buffer.length) (index : Nat) :
    (overlay buffer offset data)[index]? =
      if offset ≤ index ∧ index < offset + data.length then data[index - offset]?
      else buffer[index]? := by
  have front : (buffer.take offset).length = offset := by
    rw [List.length_take]
    omega
  rw [overlay, List.append_assoc]
  by_cases before : index < offset
  · rw [if_neg (by omega), List.getElem?_append_left (by omega), List.getElem?_take_of_lt before]
  · rw [List.getElem?_append_right (by omega), front]
    by_cases inside : index < offset + data.length
    · rw [if_pos ⟨by omega, inside⟩, List.getElem?_append_left (by omega)]
    · rw [if_neg (by omega), List.getElem?_append_right (by omega), List.getElem?_drop]
      congr 1
      omega

/-- A write at a seam replaces what follows the seam. -/
theorem overlay_seam (front back data : List α) :
    overlay (front ++ back) front.length data = front ++ data ++ back.drop data.length := by
  rw [overlay, List.take_left' rfl, List.drop_length_add_append]

theorem overlay_nil (buffer : List α) (offset : Nat) : overlay buffer offset [] = buffer := by
  rw [overlay, List.append_nil, List.length_nil, Nat.add_zero, List.take_append_drop]

/-- Two adjacent writes are one. -/
theorem overlay_overlay {buffer first second : List α} {offset : Nat}
    (fits : offset + first.length + second.length ≤ buffer.length) :
    overlay (overlay buffer offset first) (offset + first.length) second =
      overlay buffer offset (first ++ second) := by
  have front : (buffer.take offset ++ first).length = offset + first.length := by
    rw [List.length_append, List.length_take]
    omega
  rw [overlay.eq_def buffer offset first, ← front, overlay_seam, overlay, List.drop_drop,
    List.length_append, List.append_assoc (buffer.take offset)]
  congr 2
  rw [List.length_append, List.length_take]
  omega

/-- **A header, data and blanks up to a size, written one behind the other.** -/
theorem overlay_filled (front : List α) {back header data : List α} (blank : α) {size : Nat}
    (fits : data.length ≤ size) (room : header.length + size ≤ back.length) :
    overlay (overlay (overlay (front ++ back) front.length header) (front.length + header.length)
        data) (front.length + header.length + data.length)
        (List.replicate (size - data.length) blank) =
      front ++ (header ++ (data ++ List.replicate (size - data.length) blank)) ++
        back.drop (header.length + size) := by
  have blanks : (List.replicate (size - data.length) blank).length = size - data.length :=
    List.length_replicate
  have total : (header ++ (data ++ List.replicate (size - data.length) blank)).length =
      header.length + size := by
    rw [List.length_append, List.length_append, blanks, Nat.add_sub_cancel' fits]
  have whole : (front ++ back).length = front.length + back.length := List.length_append
  have first : overlay (overlay (front ++ back) front.length header)
      (front.length + header.length) data = overlay (front ++ back) front.length (header ++ data) :=
    overlay_overlay (by omega)
  rw [first, Nat.add_assoc, ← List.length_append,
    overlay_overlay (by rw [List.length_append, blanks]; omega), List.append_assoc header,
    overlay_seam, total]

/-! ### A log of writes -/

/-- The element a write puts at `index`, if it covers it. -/
def covered (write : Nat × List α) (index : Nat) : Option α :=
  if write.1 ≤ index then write.2[index - write.1]? else none

/-- The element at `index` of the newest write that covers it; the log is oldest first. -/
def latest (writes : List (Nat × List α)) (index : Nat) : Option α :=
  writes.reverse.findSome? fun write => covered write index

/-- The highest end offset of the log. -/
def extent (writes : List (Nat × List α)) : Nat :=
  writes.foldl (fun high write => max high (write.1 + write.2.length)) 0

theorem latest_concat (writes : List (Nat × List α)) (write : Nat × List α) (index : Nat) :
    latest (writes ++ [write]) index = (covered write index).or (latest writes index) := by
  rw [latest, List.reverse_append, List.reverse_singleton, List.singleton_append,
    List.findSome?_cons]
  cases covered write index <;> rfl

theorem extent_concat (writes : List (Nat × List α)) (write : Nat × List α) :
    extent (writes ++ [write]) = max (extent writes) (write.1 + write.2.length) := by
  rw [extent, List.foldl_append]
  rfl

theorem covered_eq_some_iff {write : Nat × List α} {index : Nat} {element : α} :
    covered write index = some element ↔
      write.1 ≤ index ∧ write.2[index - write.1]? = some element := by
  unfold covered
  split
  · rename_i inside
    exact ⟨fun found => And.intro inside found, fun found => found.2⟩
  · rename_i outside
    exact ⟨nofun, fun found => absurd found.1 outside⟩

theorem covered_lt {write : Nat × List α} {index : Nat} {element : α}
    (found : covered write index = some element) : index < write.1 + write.2.length := by
  obtain ⟨after, inside⟩ := covered_eq_some_iff.mp found
  have bound := (List.getElem?_eq_some_iff.mp inside).1
  omega

/-- The newest write at an index is a member of the log. -/
theorem latest_mem {writes : List (Nat × List α)} {index : Nat} {element : α}
    (found : latest writes index = some element) :
    ∃ write ∈ writes, covered write index = some element := by
  obtain ⟨write, member, here⟩ := List.exists_of_findSome?_eq_some found
  exact ⟨write, List.mem_reverse.mp member, here⟩

/-- An index some write covers has a newest write. -/
theorem latest_isSome {writes : List (Nat × List α)} {write : Nat × List α} {index : Nat}
    {element : α} (member : write ∈ writes) (here : covered write index = some element) :
    ∃ newest, latest writes index = some newest := by
  rw [← Option.isSome_iff_exists, latest, List.findSome?_isSome_iff]
  exact ⟨write, List.mem_reverse.mpr member, by rw [here]; rfl⟩

theorem le_extent {writes : List (Nat × List α)} {write : Nat × List α} (member : write ∈ writes) :
    write.1 + write.2.length ≤ extent writes := by
  induction writes using List.reverseRecOn with
  | nil => cases member
  | append_singleton rest last ih =>
    rw [extent_concat]
    rcases List.mem_append.mp member with earlier | here
    · exact le_max_of_le_left (ih earlier)
    · rw [List.mem_singleton.mp here]
      exact le_max_right _ _

/-- The extent is reached by some write, unless nothing was written. -/
theorem extent_le {writes : List (Nat × List α)} {bound : Nat}
    (below : ∀ write ∈ writes, write.1 + write.2.length ≤ bound) : extent writes ≤ bound := by
  induction writes using List.reverseRecOn with
  | nil => exact Nat.zero_le bound
  | append_singleton rest last ih =>
    rw [extent_concat]
    exact max_le (ih fun write member => below write (List.mem_append_left _ member))
      (below last (List.mem_append_right _ List.mem_cons_self))

/-! ### What the buffer shows -/

/-- Every covered cell holds its newest write, every other cell is blank. -/
structure Shows (blank : α) (buffer : List α) (writes : List (Nat × List α)) : Prop where
  fits : extent writes ≤ buffer.length
  cell : ∀ index, index < buffer.length →
    buffer[index]? = some ((latest writes index).getD blank)

namespace Shows

variable {blank : α} {buffer : List α} {writes : List (Nat × List α)}

theorem initial (blank : α) (count : Nat) : Shows blank (List.replicate count blank) [] := by
  refine ⟨Nat.zero_le _, fun index inside => ?_⟩
  rw [List.length_replicate] at inside
  rw [List.getElem?_replicate, if_pos inside]
  rfl

/-- Nothing is written past the extent. -/
theorem latest_beyond (index : Nat) (beyond : extent writes ≤ index) :
    latest writes index = none := by
  cases found : latest writes index with
  | none => rfl
  | some element =>
    obtain ⟨write, member, here⟩ := latest_mem found
    have inside := covered_lt here
    have bound := le_extent member
    omega

/-- Growing the buffer with blanks. -/
theorem grow (shows_ : Shows blank buffer writes) (count : Nat) :
    Shows blank (buffer ++ List.replicate count blank) writes := by
  refine ⟨?_, fun index inside => ?_⟩
  · rw [List.length_append]
    exact le_trans shows_.fits (Nat.le_add_right _ _)
  · by_cases old : index < buffer.length
    · rw [List.getElem?_append_left old]
      exact shows_.cell index old
    · rw [List.length_append, List.length_replicate] at inside
      rw [List.getElem?_append_right (by omega), List.getElem?_replicate, if_pos (by omega),
        latest_beyond index (le_trans shows_.fits (by omega))]
      rfl

/-- One more write. -/
theorem write (shows_ : Shows blank buffer writes) (offset : Nat) (data : List α)
    (fits : offset + data.length ≤ buffer.length) :
    Shows blank (overlay buffer offset data) (writes ++ [(offset, data)]) := by
  refine ⟨?_, fun index inside => ?_⟩
  · rw [length_overlay fits, extent_concat]
    exact max_le shows_.fits fits
  · rw [length_overlay fits] at inside
    rw [getElem?_overlay fits, latest_concat]
    by_cases range : offset ≤ index ∧ index < offset + data.length
    · have present : index - offset < data.length := by omega
      have here : covered (offset, data) index = some data[index - offset] :=
        covered_eq_some_iff.mpr ⟨range.1, List.getElem?_eq_getElem present⟩
      rw [if_pos range, here, List.getElem?_eq_getElem present]
      rfl
    · have missed : covered (offset, data) index = none := by
        cases found : covered (offset, data) index with
        | none => rfl
        | some element =>
          exact absurd ⟨(covered_eq_some_iff.mp found).1, covered_lt found⟩ range
      rw [if_neg range, missed, Option.none_or]
      exact shows_.cell index inside

/-- **Every cell holds an element of a write that covers it** exactly when the writes cover every
cell. -/
theorem drawn_iff (shows_ : Shows blank buffer writes) :
    (∀ index < buffer.length, ∃ write ∈ writes, ∃ element, buffer[index]? = some element ∧
      covered write index = some element) ↔
    ∀ index < buffer.length, ∃ write ∈ writes,
      write.1 ≤ index ∧ index < write.1 + write.2.length := by
  refine ⟨fun drawn index inside => ?_, fun all index inside => ?_⟩
  · obtain ⟨write, member, element, -, here⟩ := drawn index inside
    exact ⟨write, member, (covered_eq_some_iff.mp here).1, covered_lt here⟩
  · obtain ⟨write, member, after, before⟩ := all index inside
    have present : index - write.1 < write.2.length := by omega
    have here : covered write index = some write.2[index - write.1] :=
      covered_eq_some_iff.mpr ⟨after, List.getElem?_eq_getElem present⟩
    obtain ⟨newest, found⟩ := latest_isSome member here
    obtain ⟨writer, logged, drawn⟩ := latest_mem found
    have shown := shows_.cell index inside
    rw [found] at shown
    exact ⟨writer, logged, newest, shown, drawn⟩

end Shows

/-! ### Writes side by side -/

/-- The writes put consecutive pieces of the content, none of them empty, from `start` to `stop`. -/
inductive Tiles (content : List α) : Nat → List (Nat × List α) → Nat → Prop
  | done (stop : Nat) : Tiles content stop [] stop
  | write {offset stop : Nat} {data : List α} {rest : List (Nat × List α)} :
      data ≠ [] → data = (content.drop offset).take data.length →
      Tiles content (offset + data.length) rest stop →
      Tiles content offset ((offset, data) :: rest) stop

/-- Where the pieces end is determined. -/
theorem Tiles.stop_unique {content : List α} {start stop other : Nat}
    {writes : List (Nat × List α)} (one : Tiles content start writes stop)
    (two : Tiles content start writes other) : stop = other := by
  induction one with
  | done stop =>
    cases two
    rfl
  | write _ _ _ ih =>
    cases two with
    | write _ _ rest => exact ih rest

/-- A piece of the content before others. -/
theorem Tiles.piece {content : List α} {offset size stop : Nat} {rest : List (Nat × List α)}
    (positive : 0 < size) (inside : offset + size ≤ content.length)
    (behind : Tiles content (offset + size) rest stop) :
    Tiles content offset ((offset, (content.drop offset).take size) :: rest) stop := by
  have length : ((content.drop offset).take size).length = size :=
    List.length_take_of_le (by rw [List.length_drop]; omega)
  refine .write (List.ne_nil_of_length_pos (by rw [length]; exact positive)) ?_ ?_
  · rw [length]
  · rw [length]
    exact behind

end Wolverine.Overlay
