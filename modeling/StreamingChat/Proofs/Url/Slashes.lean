import Mathlib.Data.List.DropRight
import StreamingChat.Proofs.Url.Path

/-!
# Slashes at the end

Where a text without a query and a fragment is read as a URL of a special scheme, it makes no
difference for the scheme and the authority how many slashes it ends with. If it ends with any, the
path has an empty last segment.
-/

namespace StreamingChat.Url

/-! ## Characters that count -/

theorem significant_of_visible {text : String}
    (visible : ∀ last ∈ text.toList.getLast?, isC0OrSpace last = false) :
    significant text =
      (text.toList.dropWhile isC0OrSpace).filter fun character => !isIgnored character := by
  have kept : (text.toList.dropWhile isC0OrSpace).rdropWhile isC0OrSpace =
      text.toList.dropWhile isC0OrSpace := by
    rw [List.rdropWhile_eq_self_iff]
    intro nonempty
    rcases List.dropWhile_suffix (l := text.toList) isC0OrSpace with ⟨front, split⟩
    rw [← split, List.getLast?_append_of_ne_nil _ nonempty] at visible
    simp [visible _ (List.getLast?_eq_some_getLast nonempty)]
  rw [significant]
  exact congrArg _ kept

/-- A text without spaces and controls counts as a whole. -/
theorem significant_of_forall {text : String}
    (visible : ∀ character ∈ text.toList,
      isC0OrSpace character = false ∧ isIgnored character = false) :
    significant text = text.toList := by
  rw [significant_of_visible fun last member => (visible last (List.mem_of_getLast? member)).1]
  rw [List.dropWhile_eq_self_iff.mpr]
  · exact List.filter_eq_self.mpr fun character member => by simp [(visible character member).2]
  · intro nonempty
    simp [(visible _ (List.getElem_mem nonempty)).1]

/-- What counts of the front of a text whose end is a row of slashes. -/
def counted (front : List Char) : List Char :=
  (front.dropWhile isC0OrSpace).filter fun character => !isIgnored character

theorem begins_of_slashes {slashes : List Char}
    (slashed : ∀ character ∈ slashes, character = '/') : Begins (· = '/') slashes := by
  intro character first
  simpa using slashed character (List.mem_of_head? first)

theorem significant_append_slashes {front slashes : List Char}
    (slashed : ∀ character ∈ slashes, character = '/')
    (visible : ∀ last ∈ (front ++ slashes).getLast?, isC0OrSpace last = false) :
    significant (String.ofList (front ++ slashes)) = counted front ++ slashes := by
  have stays : ∀ character, decide (character = '/') = true → isC0OrSpace character = false := by
    intro character slash
    rw [of_decide_eq_true slash]
    rfl
  have all : slashes.filter (fun character => !isIgnored character) = slashes :=
    List.filter_eq_self.mpr fun character member => by rw [slashed character member]; rfl
  rw [significant_of_visible (by rwa [String.toList_ofList]), String.toList_ofList,
    (begins_of_slashes slashed).dropWhile_append stays, List.filter_append, all, counted]

/-! ## Schemes of URLs -/

theorem scheme_readAfterSlashes {scheme : String} {text : List Char} {url : Url}
    (parsed : readAfterSlashes scheme text = .ok url) : url.scheme = scheme := by
  rw [readAfterSlashes] at parsed
  dsimp only at parsed
  split at parsed
  on_goal 2 =>
    split at parsed
    · cases parsed
  -- Whether a user is named or not, the host is read next.
  all_goals
    rcases exists_of_bind parsed with ⟨⟨info, hostText⟩, -, afterInfo⟩
    rcases exists_of_bind afterInfo with ⟨⟨host, port, rest⟩, -, located⟩
    dsimp only at located
    split at located
    · cases located
    · cases located
      rfl

theorem scheme_readFileAfterSlashes {text : List Char} {url : Url}
    (parsed : readFileAfterSlashes text = .ok url) : url.scheme = "file" := by
  rw [readFileAfterSlashes] at parsed
  dsimp only at parsed
  split at parsed
  · cases parsed
    rfl
  · rcases exists_of_bind parsed with ⟨_ | host, -, located⟩
    · cases located
      rfl
    · cases located
      rfl

theorem scheme_readFile {text : List Char} {url : Url} (parsed : readFile none text = .ok url) :
    url.scheme = "file" := by
  rw [readFile.eq_def] at parsed
  cases text with
  | nil =>
      cases parsed
      rfl
  | cons first rest =>
      dsimp only at parsed
      split at parsed
      · cases rest with
        | nil =>
            cases parsed
            rfl
        | cons second rest =>
            dsimp only at parsed
            split at parsed
            · exact scheme_readFileAfterSlashes parsed
            · cases parsed
              rfl
      · cases parsed
        rfl

theorem eq_file_of_ofName {scheme : String} (file : SchemeKind.ofName scheme = .file) :
    scheme = "file" := by
  rw [SchemeKind.ofName] at file
  split at file
  · assumption
  · split at file <;> cases file

theorem scheme_readAfterScheme {scheme : String} {text : List Char} {url : Url}
    (parsed : readAfterScheme none scheme text = .ok url) : url.scheme = scheme := by
  rw [readAfterScheme.eq_def] at parsed
  dsimp only [Option.filter_none] at parsed
  split at parsed
  · rename_i file
    rw [eq_file_of_ofName file]
    exact scheme_readFile parsed
  · exact scheme_readAfterSlashes parsed
  · split at parsed
    · exact scheme_readAfterSlashes parsed
    · cases parsed
      rfl
    · cases parsed
      rfl

theorem readAfterScheme_special {scheme : String} (special : SchemeKind.ofName scheme = .special)
    (text : List Char) :
    readAfterScheme none scheme text =
      readAfterSlashes scheme (text.dropWhile (isSlash .special)) := by
  rw [readAfterScheme.eq_def]
  dsimp only
  rw [special]
  rfl

/-! ## Texts that end with slashes -/

theorem readAuthority_nil (scheme : String) : readAuthority scheme [] = .error .emptyHost :=
  rfl

theorem readAfterSlashes_nil {scheme : String} (special : SchemeKind.ofName scheme = .special) :
    readAfterSlashes scheme [] = .error .emptyHost := by
  have unended : Unended .special [] := by simp [Unended]
  have begins : Begins (endsAuthority .special) [] := by simp [Begins]
  rw [← List.append_nil [], readAfterSlashes_append special unended begins, readAuthority_nil]
  rfl

section Slashes

variable {front slashes text : List Char} {scheme : String} {server : Url}

theorem Begins.endsAuthority (begins : Begins (· = '/') slashes) :
    Begins (endsAuthority .special) slashes := by
  refine begins.mono fun character slash => ?_
  rw [of_decide_eq_true slash]
  rfl

theorem exists_readAfterSlashes_slash (special : SchemeKind.ofName scheme = .special)
    (slashed : ∀ character ∈ slashes, character = '/')
    (unmarked : ∀ character ∈ text, endsPath character = false)
    (parsed : readAfterSlashes scheme (text ++ slashes) = .ok server) :
    ∃ authority segments, server.authority = some authority ∧
      readAfterSlashes scheme (text ++ ['/']) =
        .ok ⟨scheme, some authority, .segments (segments ++ [""]), none, none⟩ := by
  let path := text.dropWhile fun character => !Url.endsAuthority .special character
  have parts : (text.takeWhile fun character => !Url.endsAuthority .special character) ++ path =
      text := List.takeWhile_append_dropWhile
  have unended := unended_takeWhile .special text
  have begins : Begins (Url.endsAuthority .special) path := begins_dropWhile .special text
  have beginsSlashes := (begins_of_slashes slashed).endsAuthority
  have beginsSlash : Begins (Url.endsAuthority .special) ['/'] :=
    (begins_of_slashes (by simp)).endsAuthority
  have unmarkedPath : ∀ character ∈ path, endsPath character = false := fun character member =>
    unmarked character ((List.dropWhile_suffix _).subset member)
  rw [← parts, List.append_assoc,
    readAfterSlashes_append special unended (begins.append beginsSlashes)] at parsed
  rcases exists_of_map parsed with ⟨authority, readAlone, rfl⟩
  rcases exists_pathAfterAuthority_slash begins unmarkedPath with ⟨segments, ends⟩
  refine ⟨authority, segments, rfl, ?_⟩
  rw [← parts, List.append_assoc,
    readAfterSlashes_append special unended (begins.append beginsSlash), readAlone, ends]
  rfl

/-- A text that is the URL of a special scheme remains one if the slashes at its end are replaced by
a single one, with the same authority, and with a path whose last segment is empty. -/
theorem exists_read_slash (slashed : ∀ character ∈ slashes, character = '/')
    (unmarked : ∀ character ∈ front, endsPath character = false)
    (visible : ∀ last ∈ (front ++ slashes).getLast?, isC0OrSpace last = false)
    (parsed : read (String.ofList (front ++ slashes)) = .ok server)
    (special : server.kind = .special) :
    ∃ authority segments, server.authority = some authority ∧
      read (String.ofList (front ++ ['/'])) =
        .ok ⟨server.scheme, some authority, .segments (segments ++ [""]), none, none⟩ := by
  rw [read, significant_append_slashes slashed visible] at parsed
  rw [read, significant_append_slashes (by simp) (by simp [isC0OrSpace])]
  cases found : splitScheme? (counted front ++ slashes) with
  | none =>
      rw [found] at parsed
      cases parsed
  | some parts =>
      rcases parts with ⟨scheme, rest⟩
      rcases splitScheme?_append (begins_of_slashes slashed) found with ⟨after, rfl, others⟩
      rw [found] at parsed
      rw [others]
      dsimp only at parsed ⊢
      have unmarkedAfter : ∀ character ∈ after.dropWhile (isSlash .special),
          endsPath character = false := by
        intro character member
        rcases splitScheme?_eq_some_iff.mp (others []) with ⟨name, whole, -⟩
        rw [List.append_nil, List.append_nil] at whole
        have inCounted : character ∈ counted front := by
          rw [whole]
          refine List.mem_append_right _ (List.mem_cons_of_mem _ ?_)
          exact (List.dropWhile_suffix _).subset member
        exact unmarked character ((List.dropWhile_suffix _).subset (List.mem_filter.mp inCounted).1)
      have same : server.scheme = scheme := scheme_readAfterScheme parsed
      rw [kind, same] at special
      rw [readAfterScheme_special special, List.dropWhile_append] at parsed ⊢
      split at parsed
      · -- Nothing but slashes follows the scheme, so that there is no host.
        have nothing : slashes.dropWhile (isSlash .special) = [] :=
          List.dropWhile_eq_nil_iff.mpr fun character member => by
            simp [slashed character member, isSlash]
        rw [nothing, readAfterSlashes_nil special] at parsed
        cases parsed
      · rename_i something
        rw [if_neg something, same]
        exact exists_readAfterSlashes_slash special slashed unmarkedAfter parsed

end Slashes

end StreamingChat.Url
