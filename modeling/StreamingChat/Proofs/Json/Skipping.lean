import StreamingChat.Proofs.Json.Grammar

/-!
# Skipping values

A value is skipped exactly when it is well-formed. Skipping keeps the open brackets in a list, while
the grammar is nested: `Closes` says what the open brackets demand of the text, the innermost first.
Every step of skipping turns what it has found into what it still wants, which gives one direction
by induction on the steps (`demands_of_skip`); the other one is an induction on the phrases of the
grammar (`WellFormed.skips`).
-/

namespace StreamingChat.Json

theorem gap_skipSpace (text : List Char) : Gap text (skipSpace text) := by
  induction text with
  | nil => exact .none []
  | cons character text ih =>
      by_cases spaced : isSpace character = true
      · rw [skipSpace, List.dropWhile_cons_of_pos spaced]
        exact .space spaced ih
      · rw [skipSpace, List.dropWhile_cons_of_neg spaced]
        exact .none _

theorem Gap.of_skipSpace {text rest : List Char} (found : skipSpace text = rest) :
    Gap text rest := by
  rw [← found]
  exact gap_skipSpace text

/-! ## What well-formed phrases begin with -/

theorem IsDigits.exists_digit {digits : List Char} (isDigits : IsDigits digits) :
    ∃ digit others, digits = digit :: others ∧ digit.isDigit = true := by
  rcases isDigits with ⟨nonempty, allDigits⟩
  rcases List.exists_cons_of_ne_nil nonempty with ⟨digit, others, rfl⟩
  exact ⟨digit, others, rfl, allDigits digit List.mem_cons_self⟩

theorem IsWhole.exists_digit {digits : List Char} (isWhole : IsWhole digits) :
    ∃ digit others, digits = digit :: others ∧ digit.isDigit = true := by
  cases isWhole with
  | zero => exact ⟨'0', [], rfl, rfl⟩
  | digits isDigits nonzero => exact isDigits.exists_digit

theorem IsNumber.exists_digit {digits : List Char} (isNumber : IsNumber digits) :
    ∃ digit others, digits = digit :: others ∧ digit.isDigit = true := by
  cases isNumber with
  | parts isWhole isFraction isExponent =>
      rcases isWhole.exists_digit with ⟨digit, others, rfl, isDigit⟩
      exact ⟨digit, _, rfl, isDigit⟩

/-- An item of a bracket begins with a token that is neither space nor the end of the bracket. -/
theorem WellFormed.exists_token (bracket : Bracket) {text rest : List Char}
    (wellFormed : WellFormed bracket.item text rest) :
    ∃ token tail, text = token :: tail ∧ isSpace token = false ∧ token ≠ bracket.closing := by
  cases bracket with
  | list =>
      change WellFormed .value text rest at wellFormed
      cases wellFormed with
      | constant isConstant rest => cases isConstant <;> exact ⟨_, _, rfl, rfl, by decide⟩
      | number isNumber rest =>
          rcases isNumber.exists_digit with ⟨digit, others, rfl, isDigit⟩
          refine ⟨digit, others ++ rest, rfl, isSpace_of_isDigit isDigit, ?_⟩
          rintro rfl
          cases isDigit
      | negative isNumber rest => exact ⟨'-', _, rfl, rfl, by decide⟩
      | string isQuoted rest => exact ⟨'"', _, rfl, rfl, by decide⟩
      | empty inner gap => cases inner <;> exact ⟨_, _, rfl, rfl, by decide⟩
      | filled inner gap first later => cases inner <;> exact ⟨_, _, rfl, rfl, by decide⟩
  | object =>
      change WellFormed .member text rest at wellFormed
      cases wellFormed with
      | member isQuoted colon gap held => exact ⟨'"', _, rfl, rfl, by decide⟩

theorem WellFormed.length_lt {phrase : Phrase} {text rest : List Char}
    (wellFormed : WellFormed phrase text rest) : rest.length < text.length := by
  induction wellFormed with
  | constant isConstant rest =>
      cases isConstant <;> simp only [List.length_cons, List.length_append] <;> omega
  | number isNumber rest =>
      rcases isNumber.exists_digit with ⟨digit, others, rfl, -⟩
      simp only [List.length_cons, List.length_append]
      omega
  | negative isNumber rest =>
      simp only [List.length_cons, List.length_append]
      omega
  | string isQuoted rest =>
      simp only [List.length_cons, List.length_append]
      omega
  | empty bracket gap =>
      have behind := gap.length_le
      simp only [List.length_cons] at behind ⊢
      omega
  | filled bracket gap first later ihFirst ihLater =>
      have inside := gap.length_le
      simp only [List.length_cons]
      omega
  | member isQuoted colon gap held ih =>
      have behind := colon.length_le
      have inside := gap.length_le
      simp only [List.length_cons, List.length_append] at behind ⊢
      omega
  | close bracket gap => exact gap.length_le
  | next bracket comma gap first later ihFirst ihLater =>
      have behind := comma.length_le
      have inside := gap.length_le
      simp only [List.length_cons] at behind
      omega

theorem Gap.endsNumber {text rest : List Char} (gap : Gap text rest) (ends : EndsNumber rest) :
    EndsNumber text := by
  cases gap with
  | none => exact ends
  | space spaced gap =>
      simp only [isSpace, Bool.or_eq_true, decide_eq_true_eq] at spaced
      rcases spaced with ((rfl | rfl) | rfl) | rfl <;> exact ⟨rfl, by decide, by decide, by decide⟩

theorem endsNumber_closing (bracket : Bracket) (rest : List Char) :
    EndsNumber (bracket.closing :: rest) := by
  cases bracket <;> exact ⟨rfl, by decide, by decide, by decide⟩

theorem endsNumber_comma (rest : List Char) : EndsNumber (',' :: rest) :=
  ⟨rfl, by decide, by decide, by decide⟩

theorem WellFormed.endsNumber {bracket : Bracket} {text rest : List Char}
    (further : WellFormed (.further bracket) text rest) : EndsNumber text := by
  cases further with
  | close _ gap => exact gap.endsNumber (endsNumber_closing bracket rest)
  | next _ comma gap first later => exact comma.endsNumber (endsNumber_comma _)

/-! ## Steps of skipping -/

/-- What is wanted where an item of a bracket begins. -/
def Bracket.want : Bracket → Want
  | .list => .value
  | .object => .key

theorem isSpace_opening (bracket : Bracket) : isSpace bracket.opening = false := by
  cases bracket <;> rfl

theorem isSpace_closing (bracket : Bracket) : isSpace bracket.closing = false := by
  cases bracket <;> rfl

section Steps

variable {text tail rest : List Char} {token : Char} (bracket : Bracket) (outer : List Bracket)

theorem skip_value_opening (found : skipSpace text = bracket.opening :: rest) :
    skip .value outer text = skip .first (bracket :: outer) rest := by
  rw [skip]
  split
  · cases bracket <;> simp_all [Bracket.opening]
  · cases bracket <;> simp_all [Bracket.opening]
  · cases bracket <;> simp_all [Bracket.opening]

theorem skip_value_scalar (found : skipSpace text = token :: tail)
    (noBracket : ∀ bracket : Bracket, token ≠ bracket.opening)
    (skipped : skipScalar (token :: tail) = .ok rest) :
    skip .value outer text = skip .next outer rest := by
  rw [skip]
  split
  · rename_i opened
    rw [found] at opened
    cases opened
    exact absurd rfl (noBracket .list)
  · rename_i opened
    rw [found] at opened
    cases opened
    exact absurd rfl (noBracket .object)
  · split
    · simp_all
    · simp_all

theorem skip_first_closing (found : skipSpace text = bracket.closing :: rest) :
    skip .first (bracket :: outer) text = skip .next outer rest := by
  rw [skip]
  split
  · simp_all
  · simp_all

theorem skip_first_item (found : skipSpace text = token :: tail) (open_ : token ≠ bracket.closing) :
    skip .first (bracket :: outer) text = skip bracket.want (bracket :: outer) text := by
  rw [skip]
  split
  · simp_all
  · cases bracket <;> simp_all [Bracket.want]

theorem skip_next_closing (found : skipSpace text = bracket.closing :: rest) :
    skip .next (bracket :: outer) text = skip .next outer rest := by
  rw [skip]
  split
  · simp_all
  · simp_all

theorem skip_next_comma (found : skipSpace text = ',' :: rest) :
    skip .next (bracket :: outer) text = skip bracket.want (bracket :: outer) rest := by
  rw [skip]
  split
  · simp_all
  · cases bracket <;> simp_all [Bracket.want, Bracket.closing]

theorem skip_key {name after further : List Char} (found : skipSpace text = '"' :: name)
    (skipped : skipString name = .ok after) (colon : skipSpace after = ':' :: further) :
    skip .key outer text = skip .value outer further := by
  conv =>
    lhs
    rw [skip]
  split
  · simp_all
  · split
    · simp_all
    · split
      · simp_all
      · simp_all
      · simp_all
  · simp_all

end Steps

/-! ## Well-formed values are skipped -/

/-- Where skipping goes on after a phrase: behind it, whatever brackets are open around it. -/
def Skips : Phrase → List Char → List Char → Prop
  | .value, text, rest => EndsNumber rest → ∀ outer gapped, Gap gapped text →
      skip .value outer gapped = skip .next outer rest
  | .member, text, rest => EndsNumber rest → ∀ outer gapped, Gap gapped text →
      skip .key outer gapped = skip .next outer rest
  | .further bracket, text, rest => ∀ outer,
      skip .next (bracket :: outer) text = skip .next outer rest

theorem Skips.item {bracket : Bracket} {text rest gapped : List Char}
    (skips : Skips bracket.item text rest) (ends : EndsNumber rest) (outer : List Bracket)
    (gap : Gap gapped text) : skip bracket.want outer gapped = skip .next outer rest := by
  cases bracket with
  | list => exact skips ends outer gapped gap
  | object => exact skips ends outer gapped gap

theorem WellFormed.skips {phrase : Phrase} {text rest : List Char}
    (wellFormed : WellFormed phrase text rest) : Skips phrase text rest := by
  induction wellFormed with
  | constant isConstant rest =>
      intro _ outer gapped gap
      cases isConstant
      all_goals
        refine skip_value_scalar outer (gap.skipSpace_token rfl) ?_ (scanWord_append _ rest)
        intro bracket
        cases bracket <;> decide
  | number isNumber rest =>
      intro ends outer gapped gap
      have skipped := skipNumber_append isNumber ends
      rcases isNumber.exists_digit with ⟨digit, others, rfl, isDigit⟩
      refine skip_value_scalar outer (gap.skipSpace_token (isSpace_of_isDigit isDigit)) ?_ ?_
      · rintro (_ | _) rfl <;> cases isDigit
      · unfold skipScalar
        split <;> simp_all
  | negative isNumber rest =>
      intro ends outer gapped gap
      refine skip_value_scalar outer (gap.skipSpace_token rfl) ?_ (skipNumber_append isNumber ends)
      intro bracket
      cases bracket <;> decide
  | string isQuoted rest =>
      intro _ outer gapped gap
      refine skip_value_scalar outer (gap.skipSpace_token rfl) ?_ (skipString_append isQuoted rest)
      intro bracket
      cases bracket <;> decide
  | empty bracket inside =>
      intro _ outer gapped gap
      rw [skip_value_opening bracket outer (gap.skipSpace_token (isSpace_opening bracket)),
        skip_first_closing bracket outer (inside.skipSpace_token (isSpace_closing bracket))]
  | filled bracket inside first later ihFirst ihLater =>
      intro _ outer gapped gap
      have item := ihFirst.item later.endsNumber (bracket :: outer) inside
      -- No item begins like the end of its bracket, which is looked for first.
      rcases first.exists_token bracket with ⟨token, tail, rfl, visible, unclosed⟩
      rw [skip_value_opening bracket outer (gap.skipSpace_token (isSpace_opening bracket)),
        skip_first_item bracket outer (inside.skipSpace_token visible) unclosed, item]
      exact ihLater outer
  | member isQuoted colon inside held ih =>
      intro ends outer gapped gap
      rw [skip_key outer (gap.skipSpace_token rfl) (skipString_append isQuoted _)
        (colon.skipSpace_token rfl)]
      exact ih ends outer _ inside
  | close bracket gap =>
      intro outer
      exact skip_next_closing bracket outer (gap.skipSpace_token (isSpace_closing bracket))
  | next bracket comma gap first later ihFirst ihLater =>
      intro outer
      rw [skip_next_comma bracket outer (comma.skipSpace_token rfl),
        ihFirst.item later.endsNumber (bracket :: outer) gap]
      exact ihLater outer

/-! ## What is skipped is well-formed -/

/-- What the open brackets demand of a text: the end of each of them, the innermost one first. -/
inductive Closes : List Bracket → List Char → List Char → Prop where
  | none (rest : List Char) : Closes [] rest rest
  | inner {bracket : Bracket} {outer : List Bracket} {text after rest : List Char}
      (further : WellFormed (.further bracket) text after) (later : Closes outer after rest) :
      Closes (bracket :: outer) text rest

/-- What is demanded of a text when something is wanted inside open brackets. -/
def Demands : Want → List Bracket → List Char → List Char → Prop
  | .value, brackets, text, rest => ∃ value after,
      Gap text value ∧ WellFormed .value value after ∧ Closes brackets after rest
  | .key, brackets, text, rest => ∃ member after,
      Gap text member ∧ WellFormed .member member after ∧ Closes brackets after rest
  | .first, [], text, rest => Closes [] text rest
  | .first, bracket :: outer, text, rest => ∃ after,
      WellFormed .value (bracket.opening :: text) after ∧ Closes outer after rest
  | .next, brackets, text, rest => Closes brackets text rest

theorem WellFormed.of_skipScalar {text rest : List Char} (read : skipScalar text = .ok rest) :
    WellFormed .value text rest := by
  unfold skipScalar at read
  split at read
  · cases read
  · rw [eq_append_of_scanWord read]
    exact .constant .null rest
  · rw [eq_append_of_scanWord read]
    exact .constant .true rest
  · rw [eq_append_of_scanWord read]
    exact .constant .false rest
  · rcases exists_of_skipNumber read with ⟨digits, isNumber, rfl⟩
    exact .negative isNumber rest
  · rcases exists_of_skipString read with ⟨characters, isQuoted, rfl⟩
    exact .string isQuoted rest
  · split at read
    · rcases exists_of_skipNumber read with ⟨digits, isNumber, split⟩
      rw [split]
      exact .number isNumber rest
    · cases read

theorem Demands.first {bracket : Bracket} {outer : List Bracket} {text rest : List Char}
    (item : Demands bracket.want (bracket :: outer) text rest) :
    Demands .first (bracket :: outer) text rest := by
  cases bracket with
  | list =>
      rcases item with ⟨value, after, gap, wellFormed, _ | ⟨further, later⟩⟩
      exact ⟨_, .filled .list gap wellFormed further, later⟩
  | object =>
      rcases item with ⟨member, after, gap, wellFormed, _ | ⟨further, later⟩⟩
      exact ⟨_, .filled .object gap wellFormed further, later⟩

theorem Demands.next {bracket : Bracket} {outer : List Bracket} {text further rest : List Char}
    (comma : Gap text (',' :: further))
    (item : Demands bracket.want (bracket :: outer) further rest) :
    Demands .next (bracket :: outer) text rest := by
  cases bracket with
  | list =>
      rcases item with ⟨value, after, gap, wellFormed, _ | ⟨later, closes⟩⟩
      exact .inner (.next .list comma gap wellFormed later) closes
  | object =>
      rcases item with ⟨member, after, gap, wellFormed, _ | ⟨later, closes⟩⟩
      exact .inner (.next .object comma gap wellFormed later) closes

theorem Demands.opened (bracket : Bracket) {brackets : List Bracket} {text inside rest : List Char}
    (gap : Gap text (bracket.opening :: inside))
    (first : Demands .first (bracket :: brackets) inside rest) : Demands .value brackets text rest := by
  rcases first with ⟨after, wellFormed, closes⟩
  exact ⟨_, after, gap, wellFormed, closes⟩

theorem Demands.key {brackets : List Bracket} {text name after further rest : List Char}
    (gap : Gap text ('"' :: name)) (skipped : skipString name = .ok after)
    (colon : Gap after (':' :: further)) (value : Demands .value brackets further rest) :
    Demands .key brackets text rest := by
  rcases exists_of_skipString skipped with ⟨characters, isQuoted, rfl⟩
  rcases value with ⟨value, afterValue, inside, wellFormed, closes⟩
  exact ⟨_, afterValue, gap, .member isQuoted colon inside wellFormed, closes⟩

/-- What has been skipped met all demands. The induction is on the steps of skipping. -/
theorem demands_of_skip {want : Want} {brackets : List Bracket} {text rest : List Char}
    (read : skip want brackets text = .ok rest) : Demands want brackets text rest := by
  fun_induction skip want brackets text with
  | case3 | case5 | case6 | case7 | case9 | case10 | case12 | case17 | case19 => cases read
  | case1 brackets text inside opened ih => exact .opened .list (.of_skipSpace opened) (ih read)
  | case2 brackets text inside opened ih => exact .opened .object (.of_skipSpace opened) (ih read)
  | case4 brackets text after noList noObject skipped ih =>
      exact ⟨_, after, gap_skipSpace text, .of_skipScalar skipped, ih read⟩
  | case8 brackets text name quoted after skipped value colon ih =>
      exact .key (.of_skipSpace quoted) skipped (.of_skipSpace colon) (ih read)
  | case11 text =>
      cases read
      exact .none _
  | case13 text bracket outer after closed ih =>
      exact ⟨after, .empty bracket (.of_skipSpace closed), ih read⟩
  | case14 text outer character after found unclosed ih => exact .first (ih read)
  | case15 text bracket outer character after found unclosed notList ih =>
      cases bracket with
      | list => exact absurd rfl notList
      | object => exact .first (ih read)
  | case16 text =>
      cases read
      exact .none _
  | case18 text bracket outer after closed ih =>
      exact .inner (.close bracket (.of_skipSpace closed)) (ih read)
  | case20 text outer character after found comma unclosed ih =>
      cases not_not.mp comma
      exact .next (.of_skipSpace found) (ih read)
  | case21 text bracket outer character after found unclosed comma notList ih =>
      cases not_not.mp comma
      cases bracket with
      | list => exact absurd rfl notList
      | object => exact .next (.of_skipSpace found) (ih read)

/-! ## Skipping one value -/

theorem WellFormed.of_skipValue {text rest : List Char} (read : skipValue text = .ok rest) :
    ∃ value, Gap text value ∧ WellFormed .value value rest := by
  rcases demands_of_skip read with ⟨value, after, gap, wellFormed, _ | _⟩
  exact ⟨value, gap, wellFormed⟩

theorem WellFormed.skipValue_eq {gapped text rest : List Char}
    (wellFormed : WellFormed .value text rest) (gap : Gap gapped text) (ends : EndsNumber rest) :
    skipValue gapped = .ok rest := by
  have skipped : skip .value [] gapped = skip .next [] rest := wellFormed.skips ends [] gapped gap
  rw [skipValue, skipped, skip]

end StreamingChat.Json
