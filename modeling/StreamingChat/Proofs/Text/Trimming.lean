import Mathlib.Data.List.DropRight
import StreamingChat.Text.Blank

/-!
# Trimming

What trimming leaves has no blank character at either end, and a text without them at its ends is
left as it is. Trimming the front part of a text leaves a front part of what trimming leaves of the
whole text.
-/

namespace StreamingChat.Text

theorem trimEnd_eq_rdropWhile (text : List Char) : trimEnd text = text.rdropWhile isBlank :=
  rfl

/-- A blank character at the end makes no difference. -/
theorem trim_append_singleton {character : Char} (blank : isBlank character = true)
    (text : List Char) : trim (text ++ [character]) = trim text := by
  rw [trim, trim, trimStart, trimStart, List.dropWhile_append]
  split
  · rename_i nothing
    rw [List.isEmpty_iff.mp nothing, List.dropWhile_cons_of_pos blank]
    rfl
  · rw [trimEnd_eq_rdropWhile, List.rdropWhile_concat_pos _ _ _ blank]
    rfl

theorem trim_append_of_blank {blanks : List Char}
    (blank : ∀ character ∈ blanks, isBlank character = true) (text : List Char) :
    trim (text ++ blanks) = trim text := by
  induction blanks generalizing text with
  | nil => rw [List.append_nil]
  | cons character blanks ih =>
      rcases List.forall_mem_cons.mp blank with ⟨first, others⟩
      rw [List.append_cons, ih others, trim_append_singleton first]

theorem trim_append_of_blank_front {blanks : List Char}
    (blank : ∀ character ∈ blanks, isBlank character = true) (text : List Char) :
    trim (blanks ++ text) = trim text := by
  rw [trim, trimStart, List.dropWhile_append_of_pos blank]
  rfl

/-- A text whose first and last characters are not blank is left as it is. -/
theorem trim_of_visible {first last : Char} (firstVisible : isBlank first = false)
    (lastVisible : isBlank last = false) (middle : List Char) :
    trim (first :: (middle ++ [last])) = first :: (middle ++ [last]) := by
  have ends : ¬isBlank last = true := by simp [lastVisible]
  rw [trim, trimStart, List.dropWhile_cons_of_neg (by simp [firstVisible]), trimEnd_eq_rdropWhile,
    ← List.cons_append, List.rdropWhile_concat_neg _ _ _ ends]

theorem exists_trim_append {last : Char} (visible : isBlank last = false) (text : List Char) :
    ∃ front, trim (text ++ [last]) = front ++ [last] := by
  have ends : ¬isBlank last = true := by simp [visible]
  rw [trim, trimStart, List.dropWhile_append]
  split
  · rw [List.dropWhile_cons_of_neg ends]
    exact ⟨[], List.rdropWhile_concat_neg _ [] _ ends⟩
  · exact ⟨_, List.rdropWhile_concat_neg _ _ _ ends⟩

theorem trim_trim (text : List Char) : trim (trim text) = trim text := by
  have shorter : trim text <+: trimStart text := List.rdropWhile_prefix ..
  have started : trimStart (trim text) = trim text := by
    rw [trimStart, List.dropWhile_eq_self_iff]
    intro nonempty
    have inside : 0 < (trimStart text).length := Nat.lt_of_lt_of_le nonempty shorter.length_le
    have first : (trim text)[0] = (trimStart text)[0] := shorter.getElem nonempty
    rw [first]
    exact List.dropWhile_get_zero_not isBlank text inside
  rw [trim, started, trim, trimEnd_eq_rdropWhile, trimEnd_eq_rdropWhile, List.rdropWhile_idempotent]

/-- What trimming leaves does not end with a blank character. -/
theorem isBlank_of_trim_eq {text front : List Char} {last : Char}
    (trimmed : trim text = front ++ [last]) : isBlank last = false := by
  have nonempty : trim text ≠ [] := by simp [trimmed]
  have visible : ¬isBlank ((trim text).getLast nonempty) = true :=
    List.rdropWhile_last_not isBlank (trimStart text) nonempty
  simpa [trimmed] using visible

theorem trimEnd_prefix_append (front rest : List Char) :
    trimEnd front <+: trimEnd (front ++ rest) := by
  induction rest using List.reverseRecOn with
  | nil => simp
  | append_singleton rest last ih =>
      rw [← List.append_assoc, trimEnd_eq_rdropWhile (_ ++ [last]), List.rdropWhile_concat]
      split
      · exact ih
      · have shorter : trimEnd front <+: front := List.rdropWhile_prefix ..
        exact shorter.trans (by simp [List.append_assoc])

theorem trim_prefix_trim {front text : List Char} (isFront : front <+: text) :
    trim front <+: trim text := by
  rcases isFront with ⟨rest, rfl⟩
  rw [trim, trim, trimStart, trimStart, List.dropWhile_append]
  split
  · rename_i nothing
    rw [List.isEmpty_iff.mp nothing]
    exact List.nil_prefix
  · exact trimEnd_prefix_append _ rest

end StreamingChat.Text
