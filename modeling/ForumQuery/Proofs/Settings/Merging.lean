import ForumQuery.Proofs.Calendar.Bounds
import ForumQuery.Proofs.Settings.Writing

/-!
# What a declaration comes to

The declared settings are checked one after the other: the offset, the length of a query, the length
of a term. `Merges` lists what may come of it, and `settings_iff` says that merging follows it. What
is declared in a file has lengths of 64 bits (`read_lengths_fit`), so the settings that come of it are
valid (`valid_of_read`).
-/

namespace ForumQuery

namespace Declaration

/-- An offset that is declared belongs to a time zone. -/
def OffsetFits (declared : Declaration) : Prop :=
  ∀ seconds, declared.timeZoneOffset = some seconds → -86399 ≤ seconds ∧ seconds ≤ 86399

/-- What is declared is in range. -/
structure InRange (declared : Declaration) : Prop where
  timeZoneOffset : declared.OffsetFits
  maxQueryLength : declared.maxQueryLength ≠ some 0
  maxTermLength : declared.maxTermLength ≠ some 0

/-- The settings that are declared, and the defaults of the others. -/
def overDefaults (declared : Declaration) : Settings :=
  ⟨declared.timeZoneOffset.getD 0, declared.maxQueryLength.getD 1000,
    declared.maxTermLength.getD 64, declared.requireTerms.getD false⟩

/-- `Merges declared result` says that the result is the complaint about the first setting that is
out of range, or the settings if none is. -/
inductive Merges (declared : Declaration) : Except SettingsError Settings → Prop where
  | badOffset (seconds) :
      declared.timeZoneOffset = some seconds → seconds < -86399 ∨ 86399 < seconds →
      Merges declared (.error (.invalidOffset seconds))
  | zeroQueryLength :
      declared.OffsetFits → declared.maxQueryLength = some 0 →
      Merges declared (.error (.invalidLimit .maxQueryLength))
  | zeroTermLength :
      declared.OffsetFits → declared.maxQueryLength ≠ some 0 → declared.maxTermLength = some 0 →
      Merges declared (.error (.invalidLimit .maxTermLength))
  | inRange : declared.InRange → Merges declared (.ok declared.overDefaults)

/-- An offset in range is kept. -/
theorem settled_offset_of_fits {declared : Declaration} (h : declared.OffsetFits)
    (default : Int) :
    settledOffset declared.timeZoneOffset default =
      .ok (declared.timeZoneOffset.getD default) := by
  cases hdeclared : declared.timeZoneOffset with
  | none => rfl
  | some seconds => exact if_pos (Offset.is_valid_iff.2 (h seconds hdeclared))

/-- A length that is not zero is kept. -/
theorem settled_length_of_ne_zero {declared : Option Nat} (h : declared ≠ some 0)
    (limit : LimitName) (default : Nat) :
    settledLength limit declared default = .ok (declared.getD default) := by
  cases declared with
  | none => rfl
  | some length =>
      cases length with
      | zero => exact absurd rfl h
      | succ length => rfl

variable {declared : Declaration}

/-- Merging gives each of the listed results. -/
theorem Merges.settings {result : Except SettingsError Settings} (h : declared.Merges result) :
    declared.settings = result := by
  cases h with
  | badOffset seconds hseconds hrange =>
      have hinvalid : ¬ Offset.isValid seconds = true := by
        rw [Offset.is_valid_iff]
        omega
      rw [Declaration.settings, hseconds, settledOffset, if_neg hinvalid]
      rfl
  | zeroQueryLength hoffset hquery =>
      rw [Declaration.settings, settled_offset_of_fits hoffset, hquery]
      rfl
  | zeroTermLength hoffset hquery hterm =>
      rw [Declaration.settings, settled_offset_of_fits hoffset, settled_length_of_ne_zero hquery,
        hterm]
      rfl
  | inRange h =>
      rw [Declaration.settings, settled_offset_of_fits h.timeZoneOffset,
        settled_length_of_ne_zero h.maxQueryLength, settled_length_of_ne_zero h.maxTermLength]
      rfl

/-- One of the results is listed for each declaration. -/
theorem exists_merges (declared : Declaration) : ∃ result, declared.Merges result := by
  by_cases hoffset : declared.OffsetFits
  · by_cases hquery : declared.maxQueryLength = some 0
    · exact ⟨_, .zeroQueryLength hoffset hquery⟩
    by_cases hterm : declared.maxTermLength = some 0
    · exact ⟨_, .zeroTermLength hoffset hquery hterm⟩
    · exact ⟨_, .inRange ⟨hoffset, hquery, hterm⟩⟩
  · obtain ⟨seconds, hseconds, hrange⟩ : ∃ seconds, declared.timeZoneOffset = some seconds ∧
        ¬ (-86399 ≤ seconds ∧ seconds ≤ 86399) := by
      simpa only [OffsetFits, not_forall, exists_prop] using hoffset
    exact ⟨_, .badOffset seconds hseconds (by omega)⟩

/-- Merging gives the first complaint, or the settings if there is none. -/
theorem settings_iff {result : Except SettingsError Settings} :
    declared.settings = result ↔ declared.Merges result := by
  refine ⟨fun h => ?_, Merges.settings⟩
  obtain ⟨other, hother⟩ := exists_merges declared
  rwa [← h, hother.settings]

/-- Merging succeeds exactly with what is in range. -/
theorem settings_ok_iff {settings : Settings} :
    declared.settings = .ok settings ↔ declared.InRange ∧ settings = declared.overDefaults := by
  rw [settings_iff]
  constructor
  · rintro ⟨⟩
    exact ⟨‹_›, rfl⟩
  · rintro ⟨hrange, rfl⟩
    exact .inRange hrange

/-! ## Lengths in a file -/

/-- The declared lengths have 64 bits. -/
structure LengthsFit (declared : Declaration) : Prop where
  maxQueryLength : ∀ length, declared.maxQueryLength = some length →
    length ≤ 18446744073709551615
  maxTermLength : ∀ length, declared.maxTermLength = some length →
    length ≤ 18446744073709551615

/-- Only a number of 64 bits is read as a length. -/
theorem length_le {value : Toml.Value} {length : Nat} (h : length? value = some length) :
    length ≤ 18446744073709551615 := by
  unfold length? at h
  split at h
  · next n =>
      split at h
      · next hholds =>
          have hlimits : Text.Interval.unsigned64.low ≤ n ∧ n ≤ Text.Interval.unsigned64.high := by
            simpa [Text.Interval.holds] using hholds
          have hhigh : n ≤ 18446744073709551615 := hlimits.2
          have hlength : n.toNat = length := Option.some.inj h
          omega
      · cases h
  · cases h

/-- A length that is read under a key has 64 bits. -/
theorem optional_length_le {entries : Toml.Entries} {key : Text} {declared : Option Nat}
    (h : optional? length? entries key = some declared) :
    ∀ length, declared = some length → length ≤ 18446744073709551615 := by
  rintro length rfl
  unfold optional? at h
  split at h
  · cases h
  · obtain ⟨_, hread, hlength⟩ := Option.map_eq_some_iff.1 h
    exact length_le (hread.trans hlength)

/-- Lengths in a table or an array of limits have 64 bits. -/
theorem with_limits_fit {value : Toml.Value} {result : Declaration}
    (h : declared.withLimits? value = some result) : result.LengthsFit := by
  unfold withLimits? at h
  split at h
  · split at h
    · simp only [Option.bind_eq_bind, Option.bind_eq_some_iff] at h
      obtain ⟨query, hquery, term, hterm, _, _, ⟨⟩⟩ := h
      exact ⟨optional_length_le hquery, optional_length_le hterm⟩
    · cases h
  · simp only [Option.bind_eq_bind, Option.bind_eq_some_iff] at h
    obtain ⟨query, hquery, term, hterm, _, _, ⟨⟩⟩ := h
    constructor
    · rintro _ ⟨⟩
      exact length_le hquery
    · rintro _ ⟨⟩
      exact length_le hterm
  · cases h

/-- Lengths in a file have 64 bits. -/
theorem read_lengths_fit {text : Text} (h : read? text = some declared) :
    declared.LengthsFit := by
  obtain ⟨entries, _, hentries⟩ := Option.bind_eq_some_iff.1 h
  unfold ofEntries? at hentries
  split at hentries
  · simp only [Option.bind_eq_bind, Option.bind_eq_some_iff] at hentries
    obtain ⟨offset, _, hlimits⟩ := hentries
    split at hlimits
    · cases hlimits
      constructor <;> rintro _ ⟨⟩
    · exact with_limits_fit hlimits
  · cases hentries

/-- A length that is not zero and has 64 bits is in range, and so is its default. -/
theorem length_in_range {declared : Option Nat} (hne : declared ≠ some 0)
    (hfit : ∀ length, declared = some length → length ≤ 18446744073709551615) {default : Nat}
    (hdefault : 1 ≤ default ∧ default ≤ 18446744073709551615) :
    1 ≤ declared.getD default ∧ declared.getD default ≤ 18446744073709551615 := by
  cases declared with
  | none => exact hdefault
  | some length =>
      have hpos : length ≠ 0 := fun hzero => hne (congrArg some hzero)
      exact ⟨Nat.pos_of_ne_zero hpos, hfit length rfl⟩

/-- The settings that come of a file are valid. -/
theorem valid_of_read {text : Text} (hread : read? text = some declared) {settings : Settings}
    (h : declared.settings = .ok settings) : settings.IsValid := by
  obtain ⟨hrange, rfl⟩ := settings_ok_iff.1 h
  have hfit := read_lengths_fit hread
  refine ⟨?_, ?_, ?_⟩
  · show -86399 ≤ declared.timeZoneOffset.getD 0 ∧ declared.timeZoneOffset.getD 0 ≤ 86399
    cases hoffset : declared.timeZoneOffset with
    | none => decide
    | some seconds => exact hrange.timeZoneOffset seconds hoffset
  · exact length_in_range hrange.maxQueryLength hfit.maxQueryLength (by decide)
  · exact length_in_range hrange.maxTermLength hfit.maxTermLength (by decide)

/-- A complaint about what is declared is not about where the file is. -/
theorem complaint_of_settings {error : SettingsError} (h : declared.settings = .error error) :
    (∃ seconds, error = .invalidOffset seconds) ∨ ∃ limit, error = .invalidLimit limit := by
  cases settings_iff.1 h with
  | badOffset seconds => exact Or.inl ⟨seconds, rfl⟩
  | zeroQueryLength => exact Or.inr ⟨_, rfl⟩
  | zeroTermLength => exact Or.inr ⟨_, rfl⟩

end Declaration

end ForumQuery
