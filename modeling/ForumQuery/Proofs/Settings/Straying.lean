import ForumQuery.Proofs.Settings.Declaring

/-!
# Keys that name no setting

A document with a key that names no setting declares nothing (`Astray.declares_nothing`). Since
statements only add to a document, such a key stays once it is there (`Astray.grows`), whatever value
it has and whatever follows.
-/

namespace ForumQuery

open Toml (Entries Draft Origin Statement Value Grows Extends)

/-- Among the entries is a key that names nothing where it stands, or the limits are no one table. -/
inductive Astray (entries : Entries) : Prop where
  | outer {key} : (entries.get? key).isSome → key ∉ outerKeys → Astray entries
  | limit {origin inner key} :
      entries.get? Declaration.limitsKey = some (.table origin inner) →
      (Entries.get? inner key).isSome → key ∉ limitKeys → Astray entries
  | tables {elements} :
      entries.get? Declaration.limitsKey = some (.tables elements) → Astray entries

/-- Nothing that is added makes a stray key disappear. -/
theorem Astray.grows {before after : Entries} (h : Astray before) (hgrows : Grows before after) :
    Astray after := by
  cases h with
  | outer hkey hunknown => exact .outer (hgrows.has_key hkey) hunknown
  | limit hlimits hkey hunknown =>
      obtain ⟨value, hvalue, hextends⟩ := hgrows _ _ hlimits
      cases hextends with
      | same => exact .limit hvalue hkey hunknown
      | table hkeys => exact .limit hvalue (hkeys _ hkey) hunknown
  | tables hlimits =>
      obtain ⟨value, hvalue, hextends⟩ := hgrows _ _ hlimits
      cases hextends with
      | same => exact .tables hvalue
      | tables => exact .tables hvalue

namespace Declaration

/-- Limits that cannot be read leave nothing declared. -/
theorem of_entries_bad_limits {entries : Entries} {value : Value}
    (hlimits : entries.get? limitsKey = some value)
    (hbad : ∀ declared : Declaration, declared.withLimits? value = none) :
    ofEntries? entries = none := by
  rw [ofEntries?]
  split
  · cases optional? offset? entries offsetKey with
    | none => rfl
    | some offset => simp [hlimits, hbad]
  · rfl

theorem with_limits_unknown {origin : Origin} {inner : Entries} {key : Text}
    (hkey : (Entries.get? inner key).isSome) (hunknown : key ∉ limitKeys)
    (declared : Declaration) : declared.withLimits? (.table origin inner) = none := by
  rw [withLimits?, if_neg]
  exact fun hwithin => hunknown (keys_within_iff.1 hwithin key hkey)

end Declaration

/-- A document with a stray key declares nothing. -/
theorem Astray.declares_nothing {entries : Entries} (h : Astray entries) :
    Declaration.ofEntries? entries = none := by
  cases h with
  | outer hkey hunknown =>
      rw [Declaration.ofEntries?, if_neg]
      exact fun hwithin => hunknown (Declaration.keys_within_iff.1 hwithin _ hkey)
  | limit hlimits hkey hunknown =>
      exact Declaration.of_entries_bad_limits hlimits
        (Declaration.with_limits_unknown hkey hunknown)
  | tables hlimits => exact Declaration.of_entries_bad_limits hlimits fun _ => rfl

/-! ## Statements with a stray key -/

section Statements

variable {draft next : Draft} {key : Text} {value : Value}

theorem astray_outer (hcurrent : draft.current = []) (hunknown : key ∉ outerKeys)
    (h : draft.add? (.assign [key] value) = some next) : Astray next.entries := by
  rw [Draft.add_assign, hcurrent] at h
  obtain ⟨entries, hassign, rfl⟩ := Option.map_eq_some_iff.1 h
  exact .outer (Entries.assign_has_key hassign) hunknown

theorem astray_inline {inner : Entries} (hcurrent : draft.current = [])
    (hkey : (Entries.get? inner key).isSome) (hunknown : key ∉ limitKeys)
    (h : draft.add? (.assign [Declaration.limitsKey] (.table .inline inner)) = some next) :
    Astray next.entries := by
  rw [Draft.add_assign, hcurrent] at h
  obtain ⟨entries, hassign, rfl⟩ := Option.map_eq_some_iff.1 h
  obtain ⟨table, htable, rfl⟩ := Entries.alter_some hassign
  split at htable
  · cases htable
    exact .limit (by rw [Entries.get_put, if_pos rfl]) hkey hunknown
  · cases htable

theorem astray_dotted (hcurrent : draft.current = []) (hunknown : key ∉ limitKeys)
    (h : draft.add? (.assign [Declaration.limitsKey, key] value) = some next) :
    Astray next.entries := by
  rw [Draft.add_assign, hcurrent] at h
  obtain ⟨entries, hassign, rfl⟩ := Option.map_eq_some_iff.1 h
  obtain ⟨table, htable, rfl⟩ := Entries.alter_some hassign
  have hinner : ∃ inner, table = .table .dotted inner ∧ (Entries.get? inner key).isSome := by
    split at htable
    · obtain ⟨inner, hkey, rfl⟩ := Option.map_eq_some_iff.1 htable
      exact ⟨inner, rfl, Entries.assign_has_key hkey⟩
    · obtain ⟨inner, hkey, rfl⟩ := Option.map_eq_some_iff.1 htable
      exact ⟨inner, rfl, Entries.assign_has_key hkey⟩
    · cases htable
  obtain ⟨inner, rfl, hkey⟩ := hinner
  exact .limit (by rw [Entries.get_put, if_pos rfl]) hkey hunknown

/-- Under a header for the limits, whatever they are, a key that is none of theirs is stray. -/
theorem astray_below_header (hcurrent : draft.current = [Declaration.limitsKey])
    (hunknown : key ∉ limitKeys) (h : draft.add? (.assign [key] value) = some next) :
    Astray next.entries := by
  rw [Draft.add_assign, hcurrent] at h
  obtain ⟨entries, hassign, rfl⟩ := Option.map_eq_some_iff.1 h
  obtain ⟨table, htable, rfl⟩ := Entries.alter_some hassign
  have hput : Entries.get? (draft.entries.put Declaration.limitsKey table)
      Declaration.limitsKey = some table := by
    rw [Entries.get_put, if_pos rfl]
  -- The limits may be new, a table, or an array of tables with the key in its last one.
  split at htable
  · obtain ⟨inner, hkey, rfl⟩ := Option.map_eq_some_iff.1 htable
    exact .limit hput (Entries.assign_has_key hkey) hunknown
  · split at htable
    · cases htable
    · obtain ⟨inner, hkey, rfl⟩ := Option.map_eq_some_iff.1 htable
      exact .limit hput (Entries.assign_has_key hkey) hunknown
  · simp only [Option.bind_eq_bind, Option.bind_eq_some_iff] at htable
    obtain ⟨_, _, _, _, ⟨⟩⟩ := htable
    exact .tables hput
  · cases htable

end Statements

/-- If a statement leaves a stray key wherever it stands under a header, a document with the
statement there declares nothing. -/
theorem nothing_declared {front later : List Statement} {found : Statement} {current : List Text}
    (hfront : ∀ {draft}, front.foldlM Draft.add? {} = some draft → draft.current = current)
    (hfound : ∀ {draft next : Draft}, draft.current = current → draft.add? found = some next →
      Astray next.entries) {last : Draft}
    (h : (front ++ found :: later).foldlM Draft.add? {} = some last) :
    Declaration.ofEntries? last.entries = none := by
  rw [List.foldlM_append] at h
  obtain ⟨draft, hdraft, hrest⟩ := Option.bind_eq_some_iff.1 h
  rw [List.foldlM_cons] at hrest
  obtain ⟨next, hnext, hlast⟩ := Option.bind_eq_some_iff.1 hrest
  have hastray : Astray next.entries := hfound (hfront hdraft) hnext
  exact (hastray.grows (Draft.fold_grows hlast)).declares_nothing

end ForumQuery
