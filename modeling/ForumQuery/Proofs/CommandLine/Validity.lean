import ForumQuery.Proofs.CommandLine.Outcome
import ForumQuery.Proofs.Settings.Loading

/-!
# Settings in use

The range of an offset is checked twice: when it is declared, and when a command settles on it.
`settings_in_use` says that the two checks agree. Settings are made only of what is declared in range,
so the offset of settings that are loaded is always settled on, and another one just if a file could
declare it.
-/

namespace ForumQuery.CommandLine

/-- The offset of valid settings is settled on if no other is given. -/
theorem settled_own_offset {settings : Settings} (h : settings.IsValid) :
    settledOffset none settings = .ok settings.timeZoneOffset :=
  settled_offset_iff.2 ⟨rfl, h.timeZoneOffset⟩

/-- An offset that is given is settled on if it belongs to a time zone, whatever the settings are. -/
theorem settled_given_offset {settings : Settings} {seconds offset : Int} :
    settledOffset (some seconds) settings = .ok offset ↔
      offset = seconds ∧ -86399 ≤ seconds ∧ seconds ≤ 86399 := by
  rw [settled_offset_iff, Option.getD_some]
  constructor
  · rintro ⟨rfl, hrange⟩
    exact ⟨rfl, hrange⟩
  · rintro ⟨rfl, hrange⟩
    exact ⟨rfl, hrange⟩

/-- What is declared comes to the complaint about the first setting out of range, or, exactly if all
are in range, to the declared settings with the defaults of the others. So settings that are loaded
are valid, whatever the surroundings. Their offset is settled on if no other is given, and one that
is given just if it is in range. -/
theorem settings_in_use :
    (∀ (declared : Declaration) (result : Except SettingsError Settings),
      declared.settings = result ↔ declared.Merges result) ∧
    (∀ declared : Declaration,
      (∃ settings, declared.settings = .ok settings) ↔ declared.InRange) ∧
    ∀ environment requested settings, Settings.load environment requested = .ok settings →
      settings.IsValid ∧
      settledOffset none settings = .ok settings.timeZoneOffset ∧
      ∀ seconds offset, settledOffset (some seconds) settings = .ok offset ↔
        offset = seconds ∧ -86399 ≤ seconds ∧ seconds ≤ 86399 := by
  refine ⟨fun _ _ => Declaration.settings_iff, fun declared => ?_, ?_⟩
  · constructor
    · rintro ⟨settings, h⟩
      exact (Declaration.settings_ok_iff.1 h).1
    · exact fun h => ⟨_, Declaration.settings_ok_iff.2 ⟨h, rfl⟩⟩
  · intro environment requested settings hload
    have hvalid := Settings.valid_of_load hload
    exact ⟨hvalid, settled_own_offset hvalid, fun _ _ => settled_given_offset⟩

/-- The greatest offset and the least length are in use, and the offset below the least one can be
given for no command. -/
theorem settings_in_use_extremes :
    let contents := "time_zone_offset = 86399\n[limits]\nmax_term_length = 1\n".toList
    let environment : Environment := { files := fun _ => .text contents }
    let settings : Settings := { timeZoneOffset := 86399, limits := { maxTermLength := 1 } }
    Settings.load environment (some ['s']) = .ok settings ∧ settings.IsValid ∧
      settledOffset none settings = .ok 86399 ∧
      settledOffset (some (-86399)) settings = .ok (-86399) ∧
      ∀ offset, settledOffset (some (-86400)) settings ≠ .ok offset := by
  intro contents environment settings
  have hdeclared : Declaration.read? contents =
      some { timeZoneOffset := some 86399, maxTermLength := some 1 } := by
    decide +kernel
  have hload : Settings.load environment (some ['s']) = .ok settings := by
    rw [Settings.load_text (by decide) rfl, Settings.ofText, hdeclared]
    rfl
  obtain ⟨_, _, hloaded⟩ := settings_in_use
  obtain ⟨hvalid, hown, hgiven⟩ := hloaded _ _ _ hload
  refine ⟨hload, hvalid, hown, (hgiven _ _).2 ⟨rfl, by decide, by decide⟩, fun offset h => ?_⟩
  exact absurd ((hgiven _ _).1 h).2.1 (by decide)

end ForumQuery.CommandLine
