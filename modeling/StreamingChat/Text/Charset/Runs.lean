import StreamingChat.Text.Utf8

/-!
# Tables of characters

A large charset counts its characters by places. A table is written as runs, texts whose characters
stand at consecutive places, and kept as an array in which U+FFFD marks a place without a character.
-/

namespace StreamingChat.Text.Charset

/-- Puts characters at consecutive places of a table, from the given one on. -/
def fill (cells : Array Char) (place : Nat) (characters : List Char) : Array Char :=
  (characters.foldl
    (fun (state : Array Char × Nat) character =>
      (state.1.setIfInBounds state.2 character, state.2 + 1))
    (cells, place)).1

/-- The table with so many places that holds the characters of some runs. -/
def ofRuns (size : Nat) (runs : List (Nat × String)) : Array Char :=
  runs.foldl (fun cells run => fill cells run.1 run.2.toList)
    (Array.replicate size Utf8.replacement)

/-- The character at a place of a table. -/
def charAt? (cells : Array Char) (place : Nat) : Option Char :=
  (cells[place]?).filter (· ≠ Utf8.replacement)

/-- The characters among the `count` ones from a code point on that a table does not hold. -/
def missingFrom (cells : Array Char) (first count : Nat) : List Char :=
  let held := cells.foldl
    (fun (marks : Array Bool) character =>
      if first ≤ character.toNat then marks.setIfInBounds (character.toNat - first) true
      else marks)
    (Array.replicate count false)
  ((List.range count).filter fun offset => held[offset]? = some false).map fun offset =>
    Char.ofNat (first + offset)

theorem size_fill (cells : Array Char) (place : Nat) (characters : List Char) :
    (fill cells place characters).size = cells.size := by
  unfold fill
  induction characters generalizing cells place with
  | nil => rfl
  | cons character rest ih => simp [ih]

@[simp]
theorem size_ofRuns (size : Nat) (runs : List (Nat × String)) :
    (ofRuns size runs).size = size := by
  suffices grown : ∀ cells : Array Char,
      (runs.foldl (fun cells run => fill cells run.1 run.2.toList) cells).size = cells.size by
    simp [ofRuns, grown]
  intro cells
  induction runs generalizing cells with
  | nil => rfl
  | cons run rest ih => simp [ih, size_fill]

end StreamingChat.Text.Charset
