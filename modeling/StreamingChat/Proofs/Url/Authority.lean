import Mathlib.Data.List.TakeWhile
import StreamingChat.Proofs.Sequence
import StreamingChat.Url.Reading

/-!
# Schemes and authorities

A scheme is what stands before the first colon, and in a special scheme the authority is what stands
between the slashes after it and the next slash. Nothing that comes behind is looked at when they
are read: a URL is read by reading its authority alone, and then what follows as its path.
-/

namespace StreamingChat.Url

/-! ## Texts that end a part -/

/-- Whether a text is empty or begins with one of some characters. -/
def Begins (among : Char → Bool) (text : List Char) : Prop :=
  ∀ character ∈ text.head?, among character = true

namespace Begins

variable {among stays : Char → Bool} {rest : List Char}

theorem mono {more : Char → Bool} (begins : Begins among rest)
    (weaker : ∀ character, among character = true → more character = true) : Begins more rest :=
  fun character first => weaker character (begins character first)

theorem append {first : List Char} (begins : Begins among first) (behind : Begins among rest) :
    Begins among (first ++ rest) := by
  cases first with
  | nil => exact behind
  | cons character first => exact begins

theorem takeWhile_append (begins : Begins among rest)
    (ends : ∀ character, among character = true → stays character = false) (text : List Char) :
    (text ++ rest).takeWhile stays = text.takeWhile stays := by
  induction text with
  | nil =>
      cases rest with
      | nil => rfl
      | cons character rest =>
          have stops : ¬stays character = true := by simp [ends _ (begins character rfl)]
          exact List.takeWhile_cons_of_neg stops
  | cons character text ih => rw [List.cons_append, List.takeWhile_cons, List.takeWhile_cons, ih]

theorem dropWhile_append (begins : Begins among rest)
    (ends : ∀ character, among character = true → stays character = false) (text : List Char) :
    (text ++ rest).dropWhile stays = text.dropWhile stays ++ rest := by
  induction text with
  | nil =>
      cases rest with
      | nil => rfl
      | cons character rest =>
          have stops : ¬stays character = true := by simp [ends _ (begins character rfl)]
          exact List.dropWhile_cons_of_neg stops
  | cons character text ih =>
      rw [List.cons_append, List.dropWhile_cons, List.dropWhile_cons, ih]
      split <;> rfl

end Begins

/-! ## Schemes -/

theorem splitScheme?_eq_some_iff {text rest : List Char} {scheme : String} :
    splitScheme? text = some (scheme, rest) ↔
      ∃ name, text = name ++ ':' :: rest ∧ scheme = String.ofList (name.map Char.toLower) ∧
        (∀ character ∈ name, isSchemeChar character = true) ∧
        ∃ first ∈ name.head?, first.isAlpha = true := by
  constructor
  · intro found
    rw [splitScheme?] at found
    split at found
    · rename_i first after head colon
      split at found
      · rename_i letter
        cases found
        have split := List.takeWhile_append_dropWhile (p := isSchemeChar) (l := text)
        rw [colon] at split
        refine ⟨text.takeWhile isSchemeChar, split.symm, rfl,
          fun character member => List.mem_takeWhile_imp member, first, ?_, letter⟩
        cases text with
        | nil => cases head
        | cons character others =>
            cases head
            have counts : isSchemeChar first = true := by
              simp [isSchemeChar, Char.isAlphanum, letter]
            rw [List.takeWhile_cons_of_pos counts]
            rfl
      · cases found
    · cases found
  · rintro ⟨name, rfl, rfl, counted, first, head, letter⟩
    have colon : ¬isSchemeChar ':' = true := by decide
    rw [splitScheme?, List.takeWhile_append_of_pos counted, List.dropWhile_append_of_pos counted,
      List.takeWhile_cons_of_neg colon, List.dropWhile_cons_of_neg colon, List.append_nil,
      List.head?_append, Option.mem_def.mp head]
    simp [letter]

/-- A slash cannot stand in front of the colon, so that it makes no difference where a text goes on
with one. -/
theorem splitScheme?_append {text tail rest : List Char} {scheme : String}
    (begins : Begins (· = '/') tail) (split : splitScheme? (text ++ tail) = some (scheme, rest)) :
    ∃ after, rest = after ++ tail ∧
      ∀ other, splitScheme? (text ++ other) = some (scheme, after ++ other) := by
  rcases splitScheme?_eq_some_iff.mp split with ⟨name, parts, rfl, counted, letter⟩
  rcases List.append_eq_append_iff.mp parts with ⟨missing, rfl, behind⟩ | ⟨found, rfl, behind⟩
  · -- The text ends before the colon, so that the tail begins inside the name or with the colon.
    exfalso
    cases missing with
    | nil =>
        rw [List.nil_append] at behind
        simpa using begins ':' (by rw [behind]; rfl)
    | cons character missing =>
        have slash : character = '/' := by
          simpa using begins character (by rw [behind]; rfl)
        have inName := counted character (by simp)
        rw [slash] at inName
        revert inName
        decide
  · cases found with
    | nil =>
        exfalso
        rw [List.nil_append] at behind
        simpa using begins ':' (by rw [← behind]; rfl)
    | cons character after =>
        rw [List.cons_append, List.cons.injEq] at behind
        rcases behind with ⟨rfl, rfl⟩
        refine ⟨after, rfl, fun other => splitScheme?_eq_some_iff.mpr ?_⟩
        exact ⟨name, by simp, rfl, counted, letter⟩

theorem splitScheme?_eq_none {front rest : List Char} (noColon : ':' ∉ front) :
    splitScheme? (front ++ '/' :: rest) = none := by
  rw [Option.eq_none_iff_forall_not_mem]
  rintro ⟨scheme, after⟩ found
  rcases splitScheme?_eq_some_iff.mp found with ⟨name, parts, -, counted, -⟩
  rcases List.append_eq_append_iff.mp parts with ⟨more, rfl, behind⟩ | ⟨more, rfl, behind⟩
  · cases more with
    | nil => cases behind
    | cons character more =>
        cases behind
        have inName := counted '/' (by simp)
        revert inName
        decide
  · cases more with
    | nil => cases behind
    | cons character more =>
        cases behind
        exact noColon (by simp)

/-! ## Authorities -/

/-- Whether no character of a text ends an authority. -/
def Unended (kind : SchemeKind) (text : List Char) : Prop :=
  ∀ character ∈ text, endsAuthority kind character = false

section Authority

variable {kind : SchemeKind} {scheme : String} {text rest : List Char}

theorem unended_takeWhile (kind : SchemeKind) (text : List Char) :
    Unended kind (text.takeWhile fun character => !endsAuthority kind character) := by
  intro character member
  simpa using List.mem_takeWhile_imp member

theorem begins_dropWhile (kind : SchemeKind) (text : List Char) :
    Begins (endsAuthority kind)
      (text.dropWhile fun character => !endsAuthority kind character) := by
  intro character first
  have ends := List.head?_dropWhile_not (fun character => !endsAuthority kind character) text
  rw [Option.mem_def.mp first] at ends
  simpa using ends

theorem splitHost_append (unended : Unended kind text) (begins : Begins (endsAuthority kind) rest)
    (bracket : Bool) :
    splitHost kind bracket (text ++ rest) =
      ((splitHost kind bracket text).1, (splitHost kind bracket text).2 ++ rest) := by
  induction text generalizing bracket with
  | nil =>
      cases rest with
      | nil => rfl
      | cons character rest => simp [splitHost, begins character rfl]
  | cons character text ih =>
      have inside := ih fun other member => unended other (List.mem_cons_of_mem _ member)
      rw [List.cons_append, splitHost, splitHost]
      split
      · rfl
      · dsimp only
        rw [inside]

/-- What follows the host inside an authority is nothing, or a colon and a port. -/
theorem splitHost_snd (unended : Unended kind text) (bracket : Bool) :
    (splitHost kind bracket text).2 = [] ∨
      ∃ port, (splitHost kind bracket text).2 = ':' :: port ∧ Unended kind port := by
  induction text generalizing bracket with
  | nil => exact .inl rfl
  | cons character text ih =>
      rcases List.forall_mem_cons.mp unended with ⟨first, others⟩
      rw [splitHost]
      split
      · rename_i ends
        simp only [first, Bool.false_or, Bool.and_eq_true, decide_eq_true_eq] at ends
        exact .inr ⟨text, by rw [ends.1], others⟩
      · exact ih others _

theorem endsAuthority_special (character : Char) :
    endsAuthority .special character =
      (character = '/' || character = '\\' || endsPath character) := by
  simp [endsAuthority, isSlash, endsPath, SchemeKind.isSpecial, Bool.or_assoc]

theorem readPort_append (unended : Unended .special text)
    (begins : Begins (endsAuthority .special) rest) :
    readPort scheme (text ++ rest) = (readPort scheme text).map fun read => (read.1, rest) := by
  have noDigit : ∀ character, endsAuthority .special character = true →
      character.isDigit = false := by
    intro character ends
    simp [endsAuthority_special, endsPath] at ends
    rcases ends with (rfl | rfl) | rfl | rfl <;> rfl
  rw [readPort, readPort, begins.takeWhile_append noDigit, begins.dropWhile_append noDigit]
  generalize (text.takeWhile Char.isDigit).foldl
    (fun value digit => value * 10 + (digit.toNat - 0x30)) 0 = value
  cases digits : text.dropWhile Char.isDigit with
  | nil =>
      cases rest with
      | nil => by_cases large : 65535 < value <;> simp [large, Except.map]
      | cons character rest =>
          have ends := begins character rfl
          rw [endsAuthority_special] at ends
          by_cases large : 65535 < value <;> simp [large, ends, Except.map]
  | cons character others =>
      have member : character ∈ text := by
        have suffix := List.dropWhile_suffix (l := text) Char.isDigit
        exact suffix.subset (digits ▸ List.mem_cons_self)
      have inside := unended character member
      rw [endsAuthority_special] at inside
      simp [inside, Except.map]

/-- Reads what follows a host: a port behind a colon, if there is one. -/
def readPortPart (scheme : String) : List Char → Except Flaw (Option Nat × List Char)
  | ':' :: afterColon => readPort scheme afterColon
  | rest => .ok (none, rest)

theorem readHostAndPort_special (scheme : String) (text : List Char) :
    readHostAndPort scheme .special text =
      let parts := splitHost .special false text
      if parts.1.isEmpty then .error .emptyHost
      else (do
        let host ← Host.read parts.1
        let (port, rest) ← readPortPart scheme parts.2
        .ok (some host, port, rest)) := by
  rw [readHostAndPort]
  dsimp only
  split
  · rfl
  · cases Host.read (splitHost .special false text).1 with
    | error flaw => rfl
    | ok host =>
        have isSpecial : SchemeKind.special.isSpecial = true := rfl
        simp only [isSpecial, if_true, bind, Except.bind]
        generalize (splitHost .special false text).2 = rest
        by_cases colon : rest.head? = some ':'
        · rcases List.head?_eq_some_iff.mp colon with ⟨port, rfl⟩
          rfl
        · rw [readPortPart]
          · split
            · simp at colon
            · rfl
          · rintro port rfl
            exact colon rfl

theorem readPortPart_append (begins : Begins (endsAuthority .special) rest)
    (part : text = [] ∨ ∃ port, text = ':' :: port ∧ Unended .special port) :
    readPortPart scheme (text ++ rest) =
      (readPortPart scheme text).map fun read => (read.1, rest) := by
  rcases part with rfl | ⟨port, rfl, unended⟩
  · rw [List.nil_append, readPortPart]
    · rfl
    · rintro after rfl
      exact absurd (begins ':' rfl) (by decide)
  · exact readPort_append unended begins

theorem readHostAndPort_append (unended : Unended .special text)
    (begins : Begins (endsAuthority .special) rest) :
    readHostAndPort scheme .special (text ++ rest) =
      (readHostAndPort scheme .special text).map fun read => (read.1, read.2.1, rest) := by
  rw [readHostAndPort_special, readHostAndPort_special, splitHost_append unended begins]
  dsimp only
  split
  · rfl
  · rw [readPortPart_append begins (splitHost_snd unended false)]
    cases Host.read (splitHost .special false text).1 with
    | error flaw => rfl
    | ok host =>
        cases readPortPart scheme (splitHost .special false text).2 <;> rfl

theorem exists_host_of_readHostAndPort {host : Option Host} {port : Option Nat}
    (read : readHostAndPort scheme .special text = .ok (host, port, rest)) :
    ∃ found, host = some found := by
  rw [readHostAndPort_special] at read
  dsimp only at read
  split at read
  · cases read
  · rcases exists_of_bind read with ⟨found, -, readPart⟩
    rcases exists_of_bind readPart with ⟨after, -, same⟩
    cases same
    exact ⟨found, rfl⟩

/-- Reads an authority and nothing else. -/
def readAuthority (scheme : String) (text : List Char) : Except Flaw Authority := do
  let (info, hostText) := (splitUserinfo? text).getD ([], text)
  let (host, port, _) ← readHostAndPort scheme .special hostText
  .ok ⟨(userinfo info).1, (userinfo info).2, host, port⟩

theorem suffix_of_splitUserinfo? {info after : List Char}
    (split : splitUserinfo? text = some (info, after)) : after <:+ text := by
  rw [splitUserinfo?] at split
  dsimp only at split
  split at split
  · cases split
  · cases split
    rw [← List.reverse_prefix, List.reverse_reverse]
    exact List.takeWhile_prefix _

/-- Once the user has been cut off, the host and the port are read of what is left of the
authority. -/
theorem readHostAndPort_bind_append (unended : Unended .special text)
    (begins : Begins (endsAuthority .special) rest) (scheme username password : String) :
    (do
      let (host, port, rest) ← readHostAndPort scheme .special (text ++ rest)
      if host.isNone && !(username.isEmpty && password.isEmpty) then .error Flaw.emptyHost
      else
        let (path, after) := pathAfterAuthority .special rest
        .ok (withEnd ⟨scheme, some ⟨username, password, host, port⟩, .segments path, none, none⟩
          after)) =
      (do
        let (host, port, _) ← readHostAndPort scheme .special text
        .ok (⟨username, password, host, port⟩ : Authority)).map fun authority =>
          let (path, after) := pathAfterAuthority .special rest
          withEnd ⟨scheme, some authority, .segments path, none, none⟩ after := by
  rw [readHostAndPort_append unended begins]
  cases read : readHostAndPort scheme .special text with
  | error flaw => rfl
  | ok found =>
      rcases found with ⟨host?, port, after⟩
      rcases exists_host_of_readHostAndPort read with ⟨host, rfl⟩
      rfl

/-- A URL of a special scheme has the authority that is read of the text before its path. -/
theorem readAfterSlashes_append (special : SchemeKind.ofName scheme = .special)
    (unended : Unended .special text) (begins : Begins (endsAuthority .special) rest) :
    readAfterSlashes scheme (text ++ rest) = (readAuthority scheme text).map fun authority =>
      let (path, after) := pathAfterAuthority .special rest
      withEnd ⟨scheme, some authority, .segments path, none, none⟩ after := by
  have stays : ∀ character, endsAuthority .special character = true →
      (!endsAuthority .special character) = false := by
    intro character ends
    rw [ends]
    rfl
  have whole : (text.takeWhile fun character => !endsAuthority .special character) = text :=
    List.takeWhile_eq_self_iff.mpr fun character member => by simp [unended character member]
  have nothing : (text.dropWhile fun character => !endsAuthority .special character) = [] :=
    List.dropWhile_eq_nil_iff.mpr fun character member => by simp [unended character member]
  rw [readAfterSlashes, special]
  dsimp only
  rw [begins.takeWhile_append stays, begins.dropWhile_append stays, whole, nothing, List.nil_append,
    readAuthority]
  cases split : splitUserinfo? text with
  | none => exact readHostAndPort_bind_append unended begins ..
  | some parts =>
      rcases parts with ⟨info, after⟩
      have inside : Unended .special after := fun character member =>
        unended character ((suffix_of_splitUserinfo? split).subset member)
      by_cases hostless : (info.isEmpty && after.isEmpty && !rest.isEmpty) = true
      · have noHost : after = [] := by simp at hostless; exact hostless.1.2
        subst noHost
        -- A text without a host is refused, whether a slash follows it or nothing.
        simp only [hostless, if_true]
        rfl
      · simp only [hostless]
        exact readHostAndPort_bind_append inside begins ..

end Authority

end StreamingChat.Url
