import StreamingChat.Proofs.Text.Utf8.Strict
import StreamingChat.Settings.Environment

/-!
# The environment and the variables of the system

The program finds a text for a variable exactly when the first variable of the system with that name
has the bytes of that text for its value. Variables whose value is no text have no value for the
program, whatever later ones with their names hold.
-/

namespace StreamingChat.Environment

theorem binding?_eq_some_iff {variableName variableValue : List UInt8} {name value : String} :
    binding? (variableName, variableValue) = some (name, value) ↔
      name.toUTF8.toList = variableName ∧ value.toUTF8.toList = variableValue := by
  rw [← Text.Utf8.decodeStrict_eq_ok_iff, ← Text.Utf8.decodeStrict_eq_ok_iff, binding?]
  split <;> simp_all

theorem mem_bindings_ofVariables {system : List Variable} {name value : String} :
    (name, value) ∈ (ofVariables system).bindings ↔
      system.lookup name.toUTF8.toList = some value.toUTF8.toList := by
  simp only [ofVariables, List.mem_filterMap, List.mem_filter, decide_eq_true_eq, Prod.exists,
    binding?_eq_some_iff]
  constructor
  · rintro ⟨_, _, ⟨_, counts⟩, rfl, rfl⟩
    exact counts
  · intro found
    rcases List.lookup_eq_some_iff.mp found with ⟨before, after, rfl, -⟩
    exact ⟨_, _, ⟨by simp, found⟩, rfl, rfl⟩

/-- A variable has the text for its value that the first variable of the system with its name
holds. -/
theorem get?_ofVariables_eq_some_iff {system : List Variable} {name value : String} :
    (ofVariables system).get? name = some value ↔
      system.lookup name.toUTF8.toList = some value.toUTF8.toList := by
  have counts {given : String} (found : (ofVariables system).get? name = some given) :
      system.lookup name.toUTF8.toList = some given.toUTF8.toList := by
    rcases List.lookup_eq_some_iff.mp found with ⟨before, after, split, -⟩
    exact mem_bindings_ofVariables.mp (by simp [split])
  constructor
  · exact counts
  · intro found
    have present : ((ofVariables system).get? name).isSome :=
      List.lookup_isSome_iff.mpr ⟨(name, value), mem_bindings_ofVariables.mpr found, by simp⟩
    rcases Option.isSome_iff_exists.mp present with ⟨given, reached⟩
    have same := Option.some.inj ((counts reached).symm.trans found)
    rw [reached, Text.Utf8.toList_toUTF8_inj.mp same]

end StreamingChat.Environment
