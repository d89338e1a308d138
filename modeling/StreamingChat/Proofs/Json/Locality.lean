import StreamingChat.Proofs.Json.Records

/-!
# Locality of the grammar

Whether a text begins with a value does not depend on what follows the value: the consumed part can
be put in front of any other text. This is what makes a value the only prefix of its own text that
is one.
-/

namespace StreamingChat.Json

variable {ι : Type}

/-- A text begins with what is spelled, and would do so whatever followed. -/
def Framed (spells : List Char → List Char → Prop) (text rest : List Char) : Prop :=
  ∃ front, text = front ++ rest ∧ ∀ other, spells (front ++ other) other

theorem Gap.framed {text rest : List Char} (gap : Gap text rest) : Framed Gap text rest := by
  induction gap with
  | none rest => exact ⟨[], rfl, .none⟩
  | @space character text rest isSpace gap ih =>
      rcases ih with ⟨front, rfl, framed⟩
      exact ⟨character :: front, rfl, fun other => .space isSpace (framed other)⟩

/-- A token behind space is framed with the space. -/
theorem Gap.framed_token {text rest : List Char} {token : Char} (gap : Gap text (token :: rest)) :
    Framed (fun text rest => Gap text (token :: rest)) text rest := by
  rcases gap.framed with ⟨front, rfl, framed⟩
  exact ⟨front ++ [token], by simp, fun other => by simpa using framed (token :: other)⟩

theorem SpellsChars.framed {characters text rest : List Char}
    (spelled : SpellsChars characters text rest) : Framed (SpellsChars characters) text rest := by
  induction spelled with
  | quote rest => exact ⟨['"'], rfl, .quote⟩
  | @plain character characters text rest visible unquoted unescaped spelled ih =>
      rcases ih with ⟨front, rfl, framed⟩
      exact ⟨character :: front, rfl,
        fun other => .plain visible unquoted unescaped (framed other)⟩
  | @short letter character characters text rest means spelled ih =>
      rcases ih with ⟨front, rfl, framed⟩
      exact ⟨'\\' :: letter :: front, rfl, fun other => .short means (framed other)⟩
  | @unit character digits characters text rest means spelled ih =>
      rcases ih with ⟨front, rfl, framed⟩
      refine ⟨'\\' :: 'u' :: (digits ++ front), by simp, fun other => ?_⟩
      simpa using SpellsChars.unit means (framed other)
  | @surrogates _ _ _ first second _ _ _ leads trails isLeading isTrailing number spelled ih =>
      rcases ih with ⟨front, rfl, framed⟩
      refine ⟨'\\' :: 'u' :: (first ++ '\\' :: 'u' :: (second ++ front)), by simp, fun other => ?_⟩
      simpa using SpellsChars.surrogates leads trails isLeading isTrailing number (framed other)

theorem WellFormed.framed {phrase : Phrase} {text rest : List Char}
    (wellFormed : WellFormed phrase text rest) : Framed (WellFormed phrase) text rest := by
  induction wellFormed with
  | @constant letters isConstant rest => exact ⟨letters, rfl, .constant isConstant⟩
  | @number digits isNumber rest => exact ⟨digits, rfl, .number isNumber⟩
  | @negative digits isNumber rest => exact ⟨'-' :: digits, rfl, .negative isNumber⟩
  | @string characters isQuoted rest =>
      refine ⟨'"' :: (characters ++ ['"']), by simp, fun other => ?_⟩
      simpa using WellFormed.string isQuoted other
  | empty bracket gap =>
      rcases gap.framed_token with ⟨inside, rfl, framed⟩
      exact ⟨bracket.opening :: inside, rfl, fun other => .empty bracket (framed other)⟩
  | filled bracket gap first later ihFirst ihLater =>
      rcases gap.framed with ⟨inside, rfl, framedGap⟩
      rcases ihFirst with ⟨item, rfl, framedItem⟩
      rcases ihLater with ⟨others, rfl, framedOthers⟩
      refine ⟨bracket.opening :: (inside ++ (item ++ others)), by simp, fun other => ?_⟩
      simpa using WellFormed.filled bracket (framedGap _) (framedItem _) (framedOthers other)
  | @member name _ _ _ _ isQuoted colon gap held ih =>
      rcases colon.framed_token with ⟨behind, rfl, framedColon⟩
      rcases gap.framed with ⟨inside, rfl, framedGap⟩
      rcases ih with ⟨value, rfl, framedValue⟩
      refine ⟨'"' :: (name ++ '"' :: (behind ++ (inside ++ value))), by simp, fun other => ?_⟩
      simpa using WellFormed.member isQuoted (framedColon _) (framedGap _) (framedValue other)
  | close bracket gap =>
      rcases gap.framed_token with ⟨inside, rfl, framed⟩
      exact ⟨inside, rfl, fun other => .close bracket (framed other)⟩
  | next bracket comma gap first later ihFirst ihLater =>
      rcases comma.framed_token with ⟨behind, rfl, framedComma⟩
      rcases gap.framed with ⟨inside, rfl, framedGap⟩
      rcases ihFirst with ⟨item, rfl, framedItem⟩
      rcases ihLater with ⟨others, rfl, framedOthers⟩
      refine ⟨behind ++ (inside ++ (item ++ others)), by simp, fun other => ?_⟩
      simpa using
        WellFormed.next bracket (framedComma _) (framedGap _) (framedItem _) (framedOthers other)

section Items

variable {bracket : Bracket} {holds : ι → List Char → List Char → Prop} {text rest : List Char}

theorem Reaches.framed {first : Bool} (reached : Reaches first text rest) :
    Framed (Reaches first) text rest := by
  cases reached with
  | first gap =>
      rcases gap.framed with ⟨inside, rfl, framed⟩
      exact ⟨inside, rfl, fun other => .first (framed other)⟩
  | further comma gap =>
      rcases comma.framed_token with ⟨behind, rfl, framedComma⟩
      rcases gap.framed with ⟨inside, rfl, framed⟩
      refine ⟨behind ++ inside, by simp, fun other => ?_⟩
      simpa using Reaches.further (framedComma _) (framed other)

theorem SpellsPair.framed {member : String × ι}
    (held : ∀ {item text rest}, holds item text rest → Framed (holds item) text rest)
    (spelled : SpellsPair holds member text rest) : Framed (SpellsPair holds member) text rest := by
  cases spelled with
  | pair spelledName colon gap value =>
      rcases spelledName.framed with ⟨name, rfl, framedName⟩
      rcases colon.framed_token with ⟨behind, rfl, framedColon⟩
      rcases gap.framed with ⟨inside, rfl, framedGap⟩
      rcases held value with ⟨item, rfl, framedItem⟩
      refine ⟨'"' :: (name ++ (behind ++ (inside ++ item))), by simp, fun other => ?_⟩
      simpa using
        SpellsPair.pair (framedName _) (framedColon _) (framedGap _) (framedItem other)

/-- The items of a bracket are framed, and what they consume ends with the end of the bracket. -/
theorem SpellsItems.framed {first : Bool} {items : List ι}
    (held : ∀ {item text rest}, holds item text rest → Framed (holds item) text rest)
    (spelled : SpellsItems bracket holds first items text rest) :
    ∃ front, text = front ++ bracket.closing :: rest ∧
      ∀ other, SpellsItems bracket holds first items (front ++ bracket.closing :: other) other := by
  induction spelled with
  | close first gap =>
      rcases gap.framed with ⟨inside, rfl, framed⟩
      exact ⟨inside, rfl, fun other => .close first (framed _)⟩
  | item reached value later ih =>
      rcases reached.framed with ⟨behind, rfl, framedReached⟩
      rcases held value with ⟨item, rfl, framedItem⟩
      rcases ih with ⟨others, rfl, framedOthers⟩
      refine ⟨behind ++ (item ++ others), by simp, fun other => ?_⟩
      simpa using SpellsItems.item (framedReached _) (framedItem _) (framedOthers other)

end Items

end StreamingChat.Json
