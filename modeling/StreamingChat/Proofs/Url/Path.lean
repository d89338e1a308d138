import Mathlib.Data.List.Basic
import StreamingChat.Proofs.Url.Authority

/-!
# Paths

A path is read segment by segment. A plain segment, which has nothing to be encoded and is no dot
segment, is added as it stands, and a slash at the end of a text leaves an empty segment. A
reference that begins with a plain segment takes the place of the last segment of its base, so that
it goes on where the text of a base ends with a slash.
-/

namespace StreamingChat.Url

/-! ## Plain segments -/

/-- Whether a character stands for itself in every part of a URL. -/
def isUnreserved (character : Char) : Bool :=
  character.isAlphanum || ['-', '.', '_', '~'].contains character

theorem toNat_lt_of_isUnreserved {character : Char} (unreserved : isUnreserved character = true) :
    character.toNat < 0x80 := by
  have below : ∀ last : Char, last.toNat < 0x80 → character.val ≤ last.val →
      character.toNat < 0x80 :=
    fun last small most => Nat.lt_of_le_of_lt (UInt32.le_iff_toNat_le.mp most) small
  rcases Bool.or_eq_true_iff.mp unreserved with alphanum | mark
  · rcases Bool.or_eq_true_iff.mp alphanum with letter | digit
    · rcases Bool.or_eq_true_iff.mp letter with upper | lower
      · exact below 'Z' (by decide) (of_decide_eq_true upper).2
      · exact below 'z' (by decide) (of_decide_eq_true (Bool.and_eq_true_iff.mp lower).2)
    · exact below '9' (by decide) (of_decide_eq_true (Bool.and_eq_true_iff.mp digit).2)
  · simp only [List.contains_eq_mem, List.mem_cons, List.not_mem_nil, or_false,
      decide_eq_true_eq] at mark
    rcases mark with rfl | rfl | rfl | rfl <;> decide

/-- A character that no reader of paths treats in a special way. -/
structure Neutral (character : Char) : Prop where
  unencoded : pathSet character = false
  inside : endsAuthority .special character = false
  counts : isIgnored character = false
  visible : isC0OrSpace character = false
  noPercent : character.toLower ≠ '%'
  dot : character.toLower = '.' → character = '.'

theorem neutral_of_isUnreserved {character : Char} (unreserved : isUnreserved character = true) :
    Neutral character := by
  have checked : ∀ code < 0x80, isUnreserved (Char.ofNat code) = true →
      let character := Char.ofNat code
      pathSet character = false ∧ endsAuthority .special character = false ∧
        isIgnored character = false ∧ isC0OrSpace character = false ∧
        character.toLower ≠ '%' ∧ (character.toLower = '.' → character = '.') := by
    decide +kernel
  have neutral := checked character.toNat (toNat_lt_of_isUnreserved unreserved)
  rw [Char.ofNat_toNat] at neutral
  rcases neutral unreserved with ⟨unencoded, inside, counts, visible, noPercent, dot⟩
  exact ⟨unencoded, inside, counts, visible, noPercent, dot⟩

/-- A segment that is its own normal form. -/
structure Plain (segment : String) : Prop where
  unreserved : ∀ character ∈ segment.toList, isUnreserved character = true
  noDot : segment ≠ "."
  noDots : segment ≠ ".."

instance (segment : String) : Decidable (Plain segment) :=
  decidable_of_iff
    (segment.toList.all isUnreserved = true ∧ segment ≠ "." ∧ segment ≠ "..")
    ⟨fun ⟨unreserved, noDot, noDots⟩ => ⟨List.all_eq_true.mp unreserved, noDot, noDots⟩,
      fun plain => ⟨List.all_eq_true.mpr plain.unreserved, plain.noDot, plain.noDots⟩⟩

namespace Plain

variable {segment : String}

theorem percentEncode (plain : Plain segment) :
    percentEncode pathSet segment.toList = segment.toList := by
  have single : ∀ character ∈ segment.toList,
      (if pathSet character || 0x80 ≤ character.toNat then
        (String.singleton character).toUTF8.toList.flatMap encodeByte
      else [character]) = [character] := by
    intro character member
    have unreserved := plain.unreserved character member
    have small := Nat.not_le.mpr (toNat_lt_of_isUnreserved unreserved)
    simp only [(neutral_of_isUnreserved unreserved).unencoded, small, decide_false, Bool.or_false,
      Bool.false_eq_true, if_false]
  rw [Url.percentEncode, List.flatMap_congr single, List.flatMap_singleton']

/-- A plain segment that looks like dots in lower case consists of dots. -/
theorem eq_replicate_of_map_toLower (plain : Plain segment) (count : Nat)
    (same : segment.toList.map Char.toLower = List.replicate count '.') :
    segment.toList = List.replicate count '.' := by
  rw [List.eq_replicate_iff, List.length_map, List.forall_mem_map] at same
  refine List.eq_replicate_iff.mpr ⟨same.1, fun character member => ?_⟩
  exact (neutral_of_isUnreserved (plain.unreserved character member)).dot (same.2 character member)

theorem percent_notMem (plain : Plain segment) : '%' ∉ segment.toList.map Char.toLower := by
  intro member
  rcases List.mem_map.mp member with ⟨character, inside, percent⟩
  exact (neutral_of_isUnreserved (plain.unreserved character inside)).noPercent percent

/-- In lower case, a plain segment is none of the spellings of dot segments. -/
theorem contains_toLower (plain : Plain segment) {spellings : List String}
    (dotted : ∀ text ∈ spellings, text = "." ∨ text = ".." ∨ '%' ∈ text.toList) :
    spellings.contains (String.ofList (segment.toList.map Char.toLower)) = false := by
  rw [Bool.eq_false_iff, List.contains_eq_mem, Ne, decide_eq_true_eq]
  intro member
  have lower := dotted _ member
  rw [← String.toList_inj, ← String.toList_inj, String.toList_ofList] at lower
  rcases lower with dot | dots | percent
  · exact plain.noDot (String.toList_inj.mp (plain.eq_replicate_of_map_toLower 1 dot))
  · exact plain.noDots (String.toList_inj.mp (plain.eq_replicate_of_map_toLower 2 dots))
  · exact plain.percent_notMem percent

/-- A plain segment is added as it stands. -/
theorem addSegment (plain : Plain segment) (done : List String) (isLast : Bool) :
    addSegment .special done segment.toList isLast = done ++ [segment] := by
  have single : isSingleDot segment.toList = false := plain.contains_toLower (by decide)
  have double : isDoubleDot segment.toList = false := plain.contains_toLower (by decide)
  have normal : normalSegment .special done.isEmpty segment.toList = segment.toList := by
    rw [normalSegment.eq_def]
    split <;> simp
  rw [Url.addSegment, plain.percentEncode, single, double, normal, String.ofList_toList]
  rfl

end Plain

/-! ## Segments one after the other -/

variable {kind : SchemeKind} {done : List String} {current text rest : List Char}

theorem addSegments_append (noSlash : ∀ character ∈ text, isSlash kind character = false) :
    addSegments kind done current (text ++ rest) =
      addSegments kind done (text.reverse ++ current) rest := by
  induction text generalizing current with
  | nil => rfl
  | cons character text ih =>
      rcases List.forall_mem_cons.mp noSlash with ⟨first, others⟩
      rw [List.cons_append, addSegments, first, if_neg Bool.false_ne_true, ih others,
        List.reverse_cons, List.append_assoc, List.singleton_append]

theorem addSegments_nil (kind : SchemeKind) (done : List String) :
    addSegments kind done [] [] = done ++ [""] := by
  rw [addSegments]
  rfl

/-- A text that ends with a slash leaves an empty segment. -/
theorem exists_addSegments_slash (kind : SchemeKind) (done : List String)
    (current text : List Char) :
    ∃ front, addSegments kind done current (text ++ ['/']) = front ++ [""] := by
  induction text generalizing done current with
  | nil =>
      refine ⟨addSegment kind done current.reverse false, ?_⟩
      rw [List.nil_append, addSegments, if_pos (by simp [isSlash]), addSegments_nil]
  | cons character text ih =>
      rw [List.cons_append, addSegments]
      split
      · exact ih _ _
      · exact ih _ _

section Plain

variable {segment : String}

theorem Plain.noSlash (plain : Plain segment) :
    ∀ character ∈ segment.toList, isSlash .special character = false := by
  intro character member
  have inside := (neutral_of_isUnreserved (plain.unreserved character member)).inside
  simp only [endsAuthority, Bool.or_eq_false_iff] at inside
  exact inside.1.1

theorem Plain.addSegments_cons (plain : Plain segment) (done : List String) (rest : List Char) :
    addSegments .special done [] (segment.toList ++ '/' :: rest) =
      addSegments .special (done ++ [segment]) [] rest := by
  rw [addSegments_append plain.noSlash, addSegments, if_pos (by simp [isSlash]), List.append_nil,
    List.reverse_reverse, plain.addSegment]

theorem Plain.addSegments_last (plain : Plain segment) (done : List String) :
    addSegments .special done [] segment.toList = done ++ [segment] := by
  have parts : addSegments .special done [] (segment.toList ++ []) =
      addSegments .special done (segment.toList.reverse ++ []) [] :=
    addSegments_append plain.noSlash
  rw [List.append_nil, List.append_nil] at parts
  rw [parts, addSegments, List.reverse_reverse, plain.addSegment]

end Plain

/-! ## Paths without query and fragment -/

theorem continuePath_of_unmarked (unmarked : ∀ character ∈ text, endsPath character = false)
    (begun : List Char) :
    continuePath kind done begun text = (addSegments kind done begun.reverse text, []) := by
  have path : (text.takeWhile fun character => !endsPath character) = text :=
    List.takeWhile_eq_self_iff.mpr fun character member => by simp [unmarked character member]
  have rest : (text.dropWhile fun character => !endsPath character) = [] :=
    List.dropWhile_eq_nil_iff.mpr fun character member => by simp [unmarked character member]
  rw [continuePath, path, rest]

/-- The path of a text that ends with a slash has an empty last segment. -/
theorem exists_pathAfterAuthority_slash (begins : Begins (endsAuthority .special) text)
    (unmarked : ∀ character ∈ text, endsPath character = false) :
    ∃ front, pathAfterAuthority .special (text ++ ['/']) = (front ++ [""], []) := by
  cases text with
  | nil =>
      refine ⟨[], ?_⟩
      rw [List.nil_append, pathAfterAuthority, if_pos (by simp [isSlash]),
        continuePath_of_unmarked (by simp)]
      rfl
  | cons first rest =>
      rcases List.forall_mem_cons.mp unmarked with ⟨firstStays, others⟩
      have slash : isSlash .special first = true := by
        have ends := begins first rfl
        rw [endsAuthority_special, firstStays, Bool.or_false] at ends
        simpa [isSlash, SchemeKind.isSpecial] using ends
      rcases exists_addSegments_slash .special [] [] rest with ⟨front, segments⟩
      have unmarkedRest : ∀ character ∈ rest ++ ['/'], endsPath character = false := by
        intro character member
        rcases List.mem_append.mp member with inside | last
        · exact others character inside
        · rw [List.mem_singleton.mp last]
          rfl
      refine ⟨front, ?_⟩
      rw [List.cons_append, pathAfterAuthority, if_pos slash, continuePath_of_unmarked unmarkedRest,
        List.reverse_nil, segments]

/-! ## Relative references -/

/-- A reference that begins with a plain segment, and has no colon in it, goes on after the
segments of its base but the last one. -/
theorem join_of_relative {base : Url} {reference : String} {first : Char} {front : List Char}
    (special : base.kind = .special) (segmented : base.isOpaque = false)
    (counts : significant reference = first :: (front ++ '/' :: rest))
    (unreserved : ∀ character ∈ first :: front, isUnreserved character = true) :
    base.join reference =
      let (path, after) := continuePath .special base.segments.dropLast [] (significant reference)
      .ok (withEnd { base with path := .segments path } after) := by
  have noColon : ':' ∉ first :: front := fun member => by
    have colon := unreserved ':' member
    revert colon
    decide
  have noScheme : splitScheme? (significant reference) = none := by
    rw [counts, ← List.cons_append]
    exact splitScheme?_eq_none noColon
  have inside := (neutral_of_isUnreserved (unreserved first (List.mem_cons_self ..))).inside
  rw [endsAuthority_special] at inside
  simp only [endsPath, Bool.or_eq_false_iff, decide_eq_false_iff_not] at inside
  rw [join]
  dsimp only
  rw [noScheme, segmented, special, counts]
  simp [readRelative, inside, special]

end StreamingChat.Url
