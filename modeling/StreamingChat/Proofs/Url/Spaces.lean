import StreamingChat.Proofs.Text.Utf8.Strict
import StreamingChat.Proofs.Url.Slashes

/-!
# Spaces behind authorities

Spaces and controls do not count at the end of a text, but they do as soon as anything is put
behind them. If what they follow is an authority, it cannot be read any more: neither a host nor a
port ends with one. A text that still is a URL when its end is replaced by a slash therefore names
the same server as before.
-/

namespace StreamingChat.Url

/-! ## Spaces and controls -/

/-- What the readers of authorities make of a space or a control. -/
structure Unwelcome (character : Char) : Prop where
  encoded : String.utf8EncodeChar character = [UInt8.ofNat character.toNat]
  ascii : UInt8.ofNat character.toNat < 0x80
  decoded : Char.ofNat (UInt8.ofNat character.toNat).toNat = character
  noHexDigit : Text.hexValue character = none
  noDigit : character.isDigit = false
  unmarked : character ∉ ['%', '@', ':', ']']
  inside : endsAuthority .special character = false
  lower : character.toLower = character
  forbidden : Host.isForbidden character = true

theorem unwelcome_of_isC0OrSpace {character : Char} (space : isC0OrSpace character = true) :
    Unwelcome character := by
  have checked : ∀ code ≤ 0x20,
      let character := Char.ofNat code
      String.utf8EncodeChar character = [UInt8.ofNat character.toNat] ∧
        UInt8.ofNat character.toNat < 0x80 ∧
        Char.ofNat (UInt8.ofNat character.toNat).toNat = character ∧
        Text.hexValue character = none ∧ character.isDigit = false ∧
        character ∉ ['%', '@', ':', ']'] ∧ endsAuthority .special character = false ∧
        character.toLower = character ∧ Host.isForbidden character = true := by
    decide +kernel
  have facts := checked character.toNat (of_decide_eq_true space)
  rw [Char.ofNat_toNat] at facts
  rcases facts with
    ⟨encoded, ascii, decoded, noHexDigit, noDigit, unmarked, inside, lower, forbidden⟩
  exact ⟨encoded, ascii, decoded, noHexDigit, noDigit, unmarked, inside, lower, forbidden⟩

/-! ## Hosts -/

section Host

variable {text : List Char} {character : Char}

theorem toUTF8_singleton (character : Char) :
    (String.singleton character).toUTF8.toList = String.utf8EncodeChar character := by
  rw [Text.Utf8.toList_toUTF8, String.toList_singleton, List.flatMap_singleton]

/-- The byte of a space or a control is no part of an encoded byte. -/
theorem Unwelcome.mem_percentDecode (unwelcome : Unwelcome character) (member : character ∈ text) :
    UInt8.ofNat character.toNat ∈ percentDecode text := by
  have noPercent : character ≠ '%' := by
    have unmarked := unwelcome.unmarked
    simp at unmarked
    exact unmarked.1
  fun_induction percentDecode text with
  | case1 high low rest first second lowDigit highDigit ih =>
      simp only [List.mem_cons] at member
      rcases member with same | same | same | later
      · exact absurd same noPercent
      · rw [← same, unwelcome.noHexDigit] at highDigit
        cases highDigit
      · rw [← same, unwelcome.noHexDigit] at lowDigit
        cases lowDigit
      · exact List.mem_cons_of_mem _ (ih later)
  | case2 high low rest noByte ih =>
      rcases List.mem_cons.mp member with same | later
      · exact absurd same noPercent
      · exact List.mem_cons_of_mem _ (ih later)
  | case3 first rest noEncoding ih =>
      rcases List.mem_cons.mp member with rfl | later
      · rw [toUTF8_singleton, unwelcome.encoded]
        exact List.mem_append_left _ (List.mem_singleton_self _)
      · exact List.mem_append_right _ (ih later)
  | case4 => cases member

/-- No domain name holds a space or a control. -/
theorem Unwelcome.notMem_of_domainName (unwelcome : Unwelcome character) {name : List Char}
    (read : Host.domainName text = .ok name) : character ∉ text := by
  intro member
  rw [Host.domainName] at read
  split at read
  · cases read
  · rename_i decoded strict
    have inside := Text.Utf8.mem_of_decodeStrict strict unwelcome.ascii
      (unwelcome.mem_percentDecode member)
    rw [unwelcome.decoded] at inside
    have refused : ((decoded.toList.map Char.toLower).any fun character =>
        Host.isForbidden character || 0x80 ≤ character.toNat) = true := by
      refine List.any_eq_true.mpr ⟨character, ?_, by simp [unwelcome.forbidden]⟩
      exact List.mem_map.mpr ⟨character, inside, unwelcome.lower⟩
    dsimp only at read
    rw [if_pos refused] at read
    cases read

/-- A host does not end with a space or a control. -/
theorem Unwelcome.getLast?_ne_of_host (unwelcome : Unwelcome character) {host : Host}
    (read : Host.read text = .ok host) : text.getLast? ≠ some character := by
  intro last
  rw [Host.read.eq_def] at read
  split at read
  · rename_i inside
    rw [Host.bracketed] at read
    split at read
    · rename_i closed
      have same : some character = some ']' := by
        rw [← last, List.getLast?_cons, closed]
        rfl
      have unmarked := unwelcome.unmarked
      simp at same
      simp [same] at unmarked
    · cases read
  · rcases exists_of_bind read with ⟨name, domain, -⟩
    exact unwelcome.notMem_of_domainName domain (List.mem_of_getLast? last)

end Host

/-! ## Authorities -/

section Authority

variable {text rest : List Char} {character : Char} {scheme : String}

theorem splitHost_parts (kind : SchemeKind) (bracket : Bool) (text : List Char) :
    (splitHost kind bracket text).1 ++ (splitHost kind bracket text).2 = text := by
  induction text generalizing bracket with
  | nil => rfl
  | cons character text ih =>
      rw [splitHost]
      split
      · rfl
      · exact congrArg (character :: ·) (ih _)

/-- A port inside an authority consists of digits. -/
theorem isDigit_of_readPort (unended : Unended .special text) {port : Option Nat}
    (read : readPort scheme text = .ok (port, rest)) : ∀ digit ∈ text, digit.isDigit = true := by
  have digits : text.dropWhile Char.isDigit = [] := by
    cases behind : text.dropWhile Char.isDigit with
    | nil => rfl
    | cons first others =>
        have member : first ∈ text :=
          (List.dropWhile_suffix Char.isDigit).subset (behind ▸ List.mem_cons_self)
        have inside := unended first member
        rw [endsAuthority_special] at inside
        simp [readPort, behind, inside] at read
  exact List.dropWhile_eq_nil_iff.mp digits

theorem Unwelcome.getLast?_ne_of_port (unwelcome : Unwelcome character)
    {port : Option Nat} (part : text = [] ∨ ∃ port, text = ':' :: port ∧ Unended .special port)
    (read : readPortPart scheme text = .ok (port, rest)) : text.getLast? ≠ some character := by
  intro last
  rcases part with rfl | ⟨digits, rfl, inside⟩
  · cases last
  · have allDigits := isDigit_of_readPort inside read
    rcases List.mem_cons.mp (List.mem_of_getLast? last) with rfl | member
    · have unmarked := unwelcome.unmarked
      simp at unmarked
    · have isDigit := allDigits character member
      rw [unwelcome.noDigit] at isDigit
      cases isDigit

theorem Unwelcome.getLast?_ne_of_hostAndPort (unwelcome : Unwelcome character)
    (unended : Unended .special text) {host : Option Host} {port : Option Nat}
    (read : readHostAndPort scheme .special text = .ok (host, port, rest)) :
    text.getLast? ≠ some character := by
  rw [readHostAndPort_special] at read
  dsimp only at read
  split at read
  · cases read
  · rcases exists_of_bind read with ⟨found, readHost, readPart⟩
    rcases exists_of_bind readPart with ⟨⟨port, after⟩, readPort, -⟩
    have noPort := unwelcome.getLast?_ne_of_port (splitHost_snd unended false) readPort
    have noHost := unwelcome.getLast?_ne_of_host readHost
    intro last
    rw [← splitHost_parts .special false text, List.getLast?_append] at last
    rcases Option.or_eq_some_iff.mp last with behind | ⟨-, atHost⟩
    · exact noPort behind
    · exact noHost atHost

/-- An authority does not end with a space or a control. -/
theorem Unwelcome.getLast?_ne_of_authority (unwelcome : Unwelcome character)
    (unended : Unended .special text) {authority : Authority}
    (read : readAuthority scheme text = .ok authority) : text.getLast? ≠ some character := by
  rw [readAuthority] at read
  rcases exists_of_bind read with ⟨⟨host, port, rest⟩, located, -⟩
  cases split : splitUserinfo? text with
  | none =>
      rw [split] at located
      exact unwelcome.getLast?_ne_of_hostAndPort unended located
  | some parts =>
      rcases parts with ⟨info, after⟩
      rw [split] at located
      have suffix := suffix_of_splitUserinfo? split
      have inside : Unended .special after := fun character member =>
        unended character (suffix.subset member)
      have nonempty : after ≠ [] := by
        rintro rfl
        cases located
      rcases suffix with ⟨front, rfl⟩
      rw [List.getLast?_append_of_ne_nil _ nonempty]
      exact unwelcome.getLast?_ne_of_hostAndPort inside located

/-- Spaces and controls behind an authority make it one that cannot be read. -/
theorem eq_nil_of_readAuthority_append {spaces : List Char}
    (spaced : ∀ character ∈ spaces, isC0OrSpace character = true)
    (unended : Unended .special text) {authority : Authority}
    (read : readAuthority scheme (text ++ spaces) = .ok authority) : spaces = [] := by
  by_contra nonempty
  have last := List.getLast?_eq_some_getLast nonempty
  have unwelcome := unwelcome_of_isC0OrSpace (spaced _ (List.getLast_mem nonempty))
  have unendedBoth : Unended .special (text ++ spaces) := by
    intro character member
    rcases List.mem_append.mp member with inside | behind
    · exact unended character inside
    · exact (unwelcome_of_isC0OrSpace (spaced character behind)).inside
  apply unwelcome.getLast?_ne_of_authority unendedBoth read
  rw [List.getLast?_append_of_ne_nil _ nonempty, last]

end Authority

/-! ## URLs with an authority -/

section Server

variable {text rest tail : List Char} {scheme : String} {url : Url}

/-- The part of a text that is read as an authority. -/
def authorityPart (text : List Char) : List Char :=
  text.takeWhile fun character => !endsAuthority .special character

theorem readAfterSlashes_eq_map (special : SchemeKind.ofName scheme = .special)
    (text : List Char) :
    readAfterSlashes scheme text =
      (readAuthority scheme (authorityPart text)).map fun authority =>
        let (path, after) := pathAfterAuthority .special
          (text.dropWhile fun character => !endsAuthority .special character)
        withEnd ⟨scheme, some authority, .segments path, none, none⟩ after := by
  have parts := readAfterSlashes_append special (unended_takeWhile .special text)
    (begins_dropWhile .special text)
  rwa [List.takeWhile_append_dropWhile] at parts

/-- A URL of a special scheme can be read if its authority can. -/
theorem exists_readAfterSlashes (special : SchemeKind.ofName scheme = .special)
    {authority : Authority} (read : readAuthority scheme (authorityPart text) = .ok authority) :
    ∃ url, readAfterSlashes scheme text = .ok url := by
  rw [readAfterSlashes_eq_map special, read]
  exact ⟨_, rfl⟩

theorem exists_readAuthority (special : SchemeKind.ofName scheme = .special)
    (read : readAfterSlashes scheme text = .ok url) :
    ∃ authority, readAuthority scheme (authorityPart text) = .ok authority ∧
      url.scheme = scheme ∧ url.authority = some authority ∧ url.isOpaque = false := by
  rw [readAfterSlashes_eq_map special] at read
  rcases exists_of_map read with ⟨authority, readAlone, rfl⟩
  exact ⟨authority, readAlone, rfl, rfl, rfl⟩

theorem authorityPart_append_slashes {slashes : List Char}
    (slashed : ∀ character ∈ slashes, character = '/') (text : List Char) :
    authorityPart (text ++ slashes) = authorityPart text := by
  refine (begins_of_slashes slashed).endsAuthority.takeWhile_append ?_ text
  intro character ends
  rw [ends]
  rfl

theorem authorityPart_append_spaces {spaces : List Char}
    (spaced : ∀ character ∈ spaces, isC0OrSpace character = true) (text : List Char) :
    authorityPart (text ++ spaces) = authorityPart text ∨
      Unended .special text ∧ authorityPart (text ++ spaces) = text ++ spaces := by
  have whole : (spaces.takeWhile fun character => !endsAuthority .special character) = spaces :=
    List.takeWhile_eq_self_iff.mpr fun character member => by
      simp [(unwelcome_of_isC0OrSpace (spaced character member)).inside]
  rw [authorityPart, authorityPart, List.takeWhile_append, whole]
  split
  · rename_i all
    refine .inr ⟨fun character member => ?_, rfl⟩
    have kept := List.takeWhile_eq_self_iff.mp
      ((List.takeWhile_prefix _).eq_of_length all) character member
    simpa using kept
  · exact .inl rfl

/-- A text that is cut at its end and gets a slash: what counts of it then may have spaces and
controls in it that did not count before. -/
theorem exists_significant_parts {front slashes : List Char}
    (slashed : ∀ character ∈ slashes, character = '/') :
    ∃ core spaces, significant (String.ofList (front ++ slashes)) = core ++ slashes ∧
      significant (String.ofList (front ++ ['/'])) = core ++ (spaces ++ ['/']) ∧
      (∀ character ∈ spaces, isC0OrSpace character = true) ∧
      ((∀ last ∈ (front ++ slashes).getLast?, isC0OrSpace last = false) → spaces = []) := by
  have based : significant (String.ofList (front ++ ['/'])) = counted front ++ ['/'] :=
    significant_append_slashes (by simp) (by simp [isC0OrSpace])
  by_cases visible : ∀ last ∈ (front ++ slashes).getLast?, isC0OrSpace last = false
  · exact ⟨counted front, [], significant_append_slashes slashed visible, based, by simp,
      fun _ => rfl⟩
  · have none : slashes = [] := by
      by_contra nonempty
      refine visible fun last member => ?_
      rw [List.getLast?_append_of_ne_nil _ nonempty] at member
      rw [slashed last (List.mem_of_getLast? member)]
      rfl
    subst none
    let text := front.dropWhile isC0OrSpace
    let counts (character : Char) : Bool := !isIgnored character
    refine ⟨(text.rdropWhile isC0OrSpace).filter counts,
      (text.rtakeWhile isC0OrSpace).filter counts, ?_, ?_, ?_, fun seen => absurd seen visible⟩
    · rw [List.append_nil, List.append_nil, significant, String.toList_ofList]
      rfl
    · rw [based, counted, ← List.append_assoc, ← List.filter_append,
        List.rdropWhile_append_rtakeWhile]
    · intro character member
      exact List.mem_rtakeWhile_imp (List.mem_filter.mp member).1

/-- A URL of a special scheme stays on its server when the slashes at the end of its text are
replaced by a single one, if it still is a URL. It is one unless spaces or controls, which do not
count at the end of a text, come to stand before that slash. -/
theorem read_slash {front slashes : List Char}
    (slashed : ∀ character ∈ slashes, character = '/')
    (parsed : read (String.ofList (front ++ slashes)) = .ok url) (special : url.kind = .special) :
    (∀ base, read (String.ofList (front ++ ['/'])) = .ok base →
      base.scheme = url.scheme ∧ base.authority = url.authority ∧ base.isOpaque = false) ∧
      ((∀ last ∈ (front ++ slashes).getLast?, isC0OrSpace last = false) →
        ∃ base, read (String.ofList (front ++ ['/'])) = .ok base) := by
  rcases exists_significant_parts slashed with ⟨core, spaces, whole, based, spaced, visible⟩
  rw [read, whole] at parsed
  rw [read, based]
  cases found : splitScheme? (core ++ slashes) with
  | none =>
      rw [found] at parsed
      cases parsed
  | some parts =>
      rcases parts with ⟨scheme, rest⟩
      rcases splitScheme?_append (begins_of_slashes slashed) found with ⟨after, rfl, others⟩
      rw [found] at parsed
      rw [others]
      dsimp only at parsed ⊢
      have same : url.scheme = scheme := scheme_readAfterScheme parsed
      rw [kind, same] at special
      rw [readAfterScheme_special special, List.dropWhile_append] at parsed ⊢
      split at parsed
      · -- Nothing but slashes follows the scheme, so that there is no host.
        have nothing : slashes.dropWhile (isSlash .special) = [] :=
          List.dropWhile_eq_nil_iff.mpr fun character member => by
            simp [slashed character member, isSlash]
        rw [nothing, readAfterSlashes_nil special] at parsed
        cases parsed
      · rename_i something
        rw [if_neg something, ← List.append_assoc]
        generalize after.dropWhile (isSlash .special) = text at *
        rcases exists_readAuthority special parsed with ⟨authority, readAlone, -, located, -⟩
        rw [authorityPart_append_slashes slashed] at readAlone
        have slash (text : List Char) : authorityPart (text ++ ['/']) = authorityPart text :=
          authorityPart_append_slashes (by simp) text
        constructor
        · intro base baseRead
          rcases exists_readAuthority special baseRead with
            ⟨baseAuthority, baseAlone, baseScheme, baseLocated, segmented⟩
          rw [slash] at baseAlone
          have part : authorityPart (text ++ spaces) = authorityPart text := by
            rcases authorityPart_append_spaces spaced text with part | ⟨unended, part⟩
            · exact part
            · rw [part] at baseAlone
              rw [eq_nil_of_readAuthority_append spaced unended baseAlone, List.append_nil]
          rw [part, readAlone] at baseAlone
          cases baseAlone
          exact ⟨baseScheme.trans same.symm, baseLocated.trans located.symm, segmented⟩
        · intro seen
          apply exists_readAfterSlashes special
          rw [slash, visible seen, List.append_nil]
          exact readAlone

end Server

end StreamingChat.Url
