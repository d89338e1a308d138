import StreamingChat.Text.Utf8

/-!
# Charsets of several bytes

A charset of several bytes says what the bytes since the last character mean: characters, the
beginning of some, or nothing. Bytes that mean nothing count as one ill-formed piece, of which the
last ones may be read again. Main function: `MultiByte.decode`.
-/

namespace StreamingChat.Text.Charset

/-- What the bytes since the last character mean. -/
inductive Meaning where
  | characters (characters : List Char)
  /-- More bytes are needed. -/
  | unfinished
  /-- Nothing. That many bytes after the first one are lost; those that follow are read again. -/
  | illFormed (lost : Nat)
  deriving DecidableEq, Repr

/-- The meaning of a pair of bytes that stands for the given characters, if for any. A second byte
of ASCII is not lost. -/
def Meaning.ofPair (characters : Option (List Char)) (second : UInt8) : Meaning :=
  match characters with
  | some characters => .characters characters
  | none => .illFormed (if second < 0x80 then 0 else 1)

/-- A charset in which characters have several bytes. -/
structure MultiByte where
  meaning : List UInt8 → Meaning

namespace MultiByte

/-- Reads some bytes after those that are `held`, and says which ones are held after them. -/
def settle (charset : MultiByte) (held : List UInt8) : List UInt8 → List UInt8 × List Char
  | [] => (held, [])
  | byte :: rest =>
      match charset.meaning (held ++ [byte]) with
      | .characters characters =>
          let next := charset.settle [] rest
          (next.1, characters ++ next.2)
      | .unfinished => charset.settle (held ++ [byte]) rest
      | .illFormed lost =>
          let next := charset.settle [] ((held ++ [byte]).drop (lost + 1) ++ rest)
          (next.1, Utf8.replacement :: next.2)
termination_by bytes => (held.length + bytes.length, bytes.length)
decreasing_by
  all_goals simp_wf
  all_goals simp [Prod.lex_def]
  all_goals omega

/-- The reader of a charset, whose states are the bytes that are held. -/
def reader (charset : MultiByte) : Transducer (List UInt8) UInt8 Char where
  step := fun held byte => charset.settle held [byte]

/-- The text of some bytes. What the end cuts off is one ill-formed piece. -/
def decode (charset : MultiByte) (bytes : List UInt8) : String :=
  let (held, characters) := charset.reader.run [] bytes
  String.ofList (characters ++ if held.isEmpty then [] else [Utf8.replacement])

end MultiByte

end StreamingChat.Text.Charset
