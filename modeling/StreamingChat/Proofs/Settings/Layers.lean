import StreamingChat.Proofs.Conversation.Loading
import StreamingChat.Proofs.Settings.Configuration
import StreamingChat.Proofs.Settings.Variables
import StreamingChat.Session.Opening

/-!
# The layers of the settings

Each field of the settings comes from the uppermost layer that has it: the command line, the
environment, the configuration file or the standard settings. No field depends on what the layers
say about another one.
-/

namespace StreamingChat

namespace Settings

variable {draft : Draft} {text : String}

theorem ofFile_of_isConfiguration (path : String)
    (configured : IsConfiguration draft text.toList) :
    ofFile path (.content text.toUTF8.toList) = .ok draft.settings := by
  have there : (FileState.content text.toUTF8.toList).exists = true := rfl
  simp only [ofFile, there, Bool.not_true, Bool.false_eq_true, if_false,
    FileState.text_content, read_of_isConfiguration configured]

/-- The value of the uppermost layer that has one. -/
theorem getD_layers {α : Type} (upper lower given : Option α) (standard : α) :
    upper.getD (lower.getD (given.getD standard)) = ((upper.or lower).or given).getD standard := by
  rw [Option.getD_or, Option.getD_or]

end Settings

namespace Options

open Settings

/-- The settings merge field by field: each field is the value of the command line if it gives one,
or else that of the environment, of the configuration file or of the standard settings. The
environment has the variables of the system whose value is text. All settings are read back from
the text that they are written as. -/
theorem settings_merged (options : Options) (surroundings : Surroundings)
    (files : String → FileState) {draft : Draft} {text : String}
    (stored : files (options.configFile surroundings) = .content text.toUTF8.toList)
    (configured : IsConfiguration draft text.toList) :
    (∃ settings, options.settings surroundings files = .ok settings ∧
      settings.serverUrl = ((options.overrides.serverUrl.or
        (surroundings.environment.get? "OSWALD_SERVER_URL")).or draft.serverUrl).getD
          "http://localhost:8000" ∧
      settings.apiVersion = ((options.overrides.apiVersion.or
        (surroundings.environment.get? "OSWALD_API_VERSION")).or draft.apiVersion).getD "v1" ∧
      settings.userId = ((options.overrides.userId.or
        (surroundings.environment.get? "OSWALD_USER_ID")).or draft.userId).getD "anonymous" ∧
      settings.connectTimeout = draft.connectTimeout.getD 10 ∧
      settings.flushesPartialLine =
        (options.overrides.flushesPartialLine.or draft.flushesPartialLine).getD false) ∧
      (∀ system name value, (Environment.ofVariables system).get? name = some value ↔
        system.lookup name.toUTF8.toList = some value.toUTF8.toList) ∧
      ∀ settings : Settings, Settings.read settings.toValue.compact = .ok settings ∧
        Settings.read settings.toValue.pretty = .ok settings := by
  let settings :=
    (draft.settings.apply surroundings.environment.overrides).apply options.overrides
  have merged : options.settings surroundings files = .ok settings := by
    simp only [Options.settings, load, stored, ofFile_of_isConfiguration _ configured, Except.map,
      settings]
  exact ⟨⟨settings, merged, getD_layers .., getD_layers .., getD_layers .., rfl,
    Option.getD_or.symm⟩, fun _ _ _ => Environment.get?_ofVariables_eq_some_iff,
    read_write⟩

/-- A file with the greatest number of seconds and a member that nobody asks for, an empty variable,
one whose first value is no text, and two fields on the command line. -/
theorem settings_merged_layers :
    let stored : Json.Value := .object
      [("seen", .list [.natural 18446744073709551616, .object [("user_id", .boolean true)]]),
        ("user_id", .string "\"file\""), ("connect_timeout_secs", .natural 18446744073709551615),
        ("api_version", .string "v2")]
    let draft : Draft :=
      ⟨none, some "v2", some "\"file\"", some 18446744073709551615, none⟩
    let surroundings : Surroundings :=
      ⟨.ofVariables [("OSWALD_SERVER_URL".toUTF8.toList, []),
        ("OSWALD_API_VERSION".toUTF8.toList, [0xFF]),
        ("OSWALD_API_VERSION".toUTF8.toList, "v3".toUTF8.toList)], "/home/reader"⟩
    let options : Options :=
      { CommandLine.start with overrides := ⟨none, none, some "é", some true⟩ }
    IsConfiguration draft stored.pretty.toList ∧
      options.settings surroundings (fun _ => .content stored.pretty.toUTF8.toList) =
        .ok ⟨"", "v2", "é", 18446744073709551615, true⟩ := by
  intro stored draft surroundings options
  have ends : Json.EndsNumber [] := trivial
  have spelled := stored.spells_prettyChars 0 ends
  rw [List.append_nil, ← String.toList_ofList (l := stored.prettyChars 0)] at spelled
  have configured : IsConfiguration draft stored.pretty.toList :=
    isConfiguration_of_spells spelled (forall_mem_fieldNames.mpr ⟨rfl, rfl, rfl, rfl, rfl⟩)
  have serverUrl : surroundings.environment.get? "OSWALD_SERVER_URL" = some "" := by decide +kernel
  have apiVersion : surroundings.environment.get? "OSWALD_API_VERSION" = none := by decide +kernel
  rcases (settings_merged options surroundings (fun _ => .content stored.pretty.toUTF8.toList) rfl
    configured).1 with ⟨settings, merged, url, version, userId, seconds, flushes⟩
  rw [serverUrl] at url
  rw [apiVersion] at version
  refine ⟨configured, merged.trans ?_⟩
  rcases settings with ⟨_, _, _, _, _⟩
  cases url
  cases version
  cases userId
  cases seconds
  cases flushes
  rfl

end Options

end StreamingChat
