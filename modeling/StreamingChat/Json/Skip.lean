import StreamingChat.Json.Number
import StreamingChat.Json.Text

/-!
# Values that nobody asks for

`skipValue` drops one value and checks its form only: numbers may be of any magnitude, surrogates
may stand alone, and lists and objects may be nested to any depth, since the open brackets are kept
in a list. Every step consumes a part of the text, which is why skipping ends.
-/

namespace StreamingChat.Json

/-- Whether a character may stand between two tokens. -/
def isSpace (character : Char) : Bool :=
  character = ' ' || character = '\t' || character = '\n' || character = '\r'

/-- Drops the space in front of a token. -/
def skipSpace (text : List Char) : List Char :=
  text.dropWhile isSpace

theorem length_skipSpace (text : List Char) : (skipSpace text).length ≤ text.length :=
  (List.dropWhile_sublist isSpace).length_le

/-- Reads the letters that must come next. -/
def scanWord (letters text : List Char) : Except Fault (List Char) :=
  match letters, text with
  | [], _ => .ok text
  | _ :: _, [] => .error (.after .endInValue [])
  | letter :: letters, character :: rest =>
      if letter = character then scanWord letters rest else .error (.upon .expectedWord text)

theorem length_of_scanWord {letters text rest : List Char}
    (read : scanWord letters text = .ok rest) : rest.length ≤ text.length := by
  induction letters generalizing text with
  | nil => simp_all [scanWord]
  | cons letter letters ih =>
      cases text with
      | nil => simp [scanWord] at read
      | cons character tail =>
          simp only [scanWord] at read
          split at read
          · have shorter := ih read
            simp only [List.length_cons]
            omega
          · contradiction

theorem length_spanDigits (text : List Char) : (spanDigits text).2.length ≤ text.length :=
  (List.dropWhile_sublist Char.isDigit).length_le

theorem length_of_skipDigits {text rest : List Char} (read : skipDigits text = .ok rest) :
    rest.length < text.length := by
  unfold skipDigits at read
  split at read
  · rename_i digit tail
    split at read
    · have shorter := length_spanDigits tail
      simp only [Except.ok.injEq] at read
      simp only [← read, List.length_cons]
      omega
    · contradiction
  · contradiction

theorem length_of_skipExponent {text rest : List Char} (read : skipExponent text = .ok rest) :
    rest.length ≤ text.length := by
  unfold skipExponent at read
  split at read
  · split at read
    · split at read
      · have shorter := length_of_skipDigits read
        split at shorter <;> simp only [List.length_cons] at shorter ⊢ <;> omega
      · simp [skipDigits] at read
    · simp_all
  · simp_all

theorem length_of_skipWhole {text rest : List Char} (read : skipWhole text = .ok rest) :
    rest.length < text.length := by
  unfold skipWhole at read
  split at read
  · split at read
    · contradiction
    · simp only [Except.ok.injEq] at read
      simp [← read]
  · exact length_of_skipDigits read

theorem length_of_skipFraction {text rest : List Char} (read : skipFraction text = .ok rest) :
    rest.length ≤ text.length := by
  unfold skipFraction at read
  split at read
  · have shorter := length_of_skipDigits read
    simp only [List.length_cons]
    omega
  · simp_all

theorem length_of_skipNumber {text rest : List Char} (read : skipNumber text = .ok rest) :
    rest.length < text.length := by
  unfold skipNumber at read
  cases whole : skipWhole text with
  | error fault => simp [whole, bind, Except.bind] at read
  | ok afterWhole =>
      cases fraction : skipFraction afterWhole with
      | error fault => simp [whole, fraction, bind, Except.bind] at read
      | ok afterFraction =>
          simp only [whole, fraction, bind, Except.bind] at read
          have first := length_of_skipWhole whole
          have second := length_of_skipFraction fraction
          have third := length_of_skipExponent read
          omega

theorem length_of_skipString {text rest : List Char} (read : skipString text = .ok rest) :
    rest.length < text.length := by
  fun_induction skipString text with
  | case1 => contradiction
  | case2 tail =>
      simp only [Except.ok.injEq] at read
      simp [← read]
  | case3 => contradiction
  | case4 tail after skipped shorter ih =>
      have shorterStill := ih read
      simp only [List.length_cons]
      omega
  | case5 => contradiction
  | case6 character tail _ _ _ ih =>
      have shorter := ih read
      simp only [List.length_cons]
      omega

/-- Drops a value that is neither a list nor an object. -/
def skipScalar (text : List Char) : Except Fault (List Char) :=
  match text with
  | [] => .error (.after .endInValue [])
  | 'n' :: rest => scanWord ['u', 'l', 'l'] rest
  | 't' :: rest => scanWord ['r', 'u', 'e'] rest
  | 'f' :: rest => scanWord ['a', 'l', 's', 'e'] rest
  | '-' :: rest => skipNumber rest
  | '"' :: rest => skipString rest
  | character :: _ =>
      if character.isDigit then skipNumber text else .error (.upon .expectedValue text)

theorem length_of_skipScalar {text rest : List Char} (read : skipScalar text = .ok rest) :
    rest.length < text.length := by
  unfold skipScalar at read
  split at read
  · contradiction
  · have shorter := length_of_scanWord read
    simp only [List.length_cons]
    omega
  · have shorter := length_of_scanWord read
    simp only [List.length_cons]
    omega
  · have shorter := length_of_scanWord read
    simp only [List.length_cons]
    omega
  · have shorter := length_of_skipNumber read
    simp only [List.length_cons]
    omega
  · have shorter := length_of_skipString read
    simp only [List.length_cons]
    omega
  · split at read
    · exact length_of_skipNumber read
    · contradiction

/-- A bracket that has been opened. -/
inductive Bracket where
  | list
  | object
  deriving DecidableEq, Repr

/-- The refusal of a text that ends inside a bracket. -/
def Bracket.endCause : Bracket → Cause
  | .list => .endInList
  | .object => .endInObject

/-- The refusal of a text that goes on wrongly after an element or a member. -/
def Bracket.nextCause : Bracket → Cause
  | .list => .expectedListCommaOrEnd
  | .object => .expectedObjectCommaOrEnd

/-- The character that closes a bracket. -/
def Bracket.closing : Bracket → Char
  | .list => ']'
  | .object => '\x7d'

/-- What must come next. -/
inductive Want where
  /-- A value. -/
  | value
  /-- The key of a member. -/
  | key
  /-- What follows the innermost bracket: its first element, or its end. -/
  | first
  /-- What follows a value inside the innermost bracket: a comma, or its end. -/
  | next
  deriving DecidableEq, Repr

/-- Drops what is wanted, and after it all that the open brackets need. -/
def skip (want : Want) (brackets : List Bracket) (text : List Char) : Except Fault (List Char) :=
  match want with
  | .value =>
      match _spaced : skipSpace text with
      | '[' :: rest => skip .first (.list :: brackets) rest
      | '\x7b' :: rest => skip .first (.object :: brackets) rest
      | scalar =>
          match _skipped : skipScalar scalar with
          | .error fault => .error fault
          | .ok rest => skip .next brackets rest
  | .key =>
      match _spaced : skipSpace text with
      | [] => .error (.after .endInObject [])
      | '"' :: rest =>
          match _skipped : skipString rest with
          | .error fault => .error fault
          | .ok after =>
              match _colon : skipSpace after with
              | [] => .error (.after .endInObject [])
              | ':' :: value => skip .value brackets value
              | other => .error (.upon .expectedColon other)
      | other => .error (.upon .keyNotString other)
  | .first =>
      match brackets with
      | [] => .ok text
      | bracket :: outer =>
          match _spaced : skipSpace text with
          | [] => .error (.after bracket.endCause [])
          | character :: rest =>
              if character = bracket.closing then skip .next outer rest
              else if bracket = .list then skip .value brackets text
              else skip .key brackets text
  | .next =>
      match brackets with
      | [] => .ok text
      | bracket :: outer =>
          match _spaced : skipSpace text with
          | [] => .error (.after bracket.endCause [])
          | character :: rest =>
              if character = bracket.closing then skip .next outer rest
              else if character ≠ ',' then .error (.upon bracket.nextCause (character :: rest))
              else if bracket = .list then skip .value brackets rest
              else skip .key brackets rest
termination_by 2 * text.length + (if want = .first then 1 else 0)
decreasing_by
  all_goals
    have spacedLength := length_skipSpace text
    simp only [_spaced, List.length_cons] at spacedLength
  · simp
    omega
  · simp
    omega
  · have skippedLength := length_of_skipScalar _skipped
    simp
    omega
  · have skippedLength := length_of_skipString _skipped
    have colonLength := length_skipSpace after
    simp only [_colon, List.length_cons] at colonLength
    simp
    omega
  · simp
    omega
  · simp
  · simp
  · simp
    omega
  · simp
    omega
  · simp
    omega

/-- Drops one value. -/
def skipValue (text : List Char) : Except Fault (List Char) :=
  skip .value [] text

end StreamingChat.Json
