import ForumQuery.Toml.Document

/-!
# What adding to a table does

Every way to add to the entries of a document changes the value of one key, and the others stay as
they are (`alter_eq`, `get_put`). Only the value of a key that holds tables can change, and a table
loses none of its keys; any other value stays for good. `Draft.fold_grows` says so of any number
of statements.
-/

namespace ForumQuery.Toml

namespace Entries

/-- The entries with a value for one key. A new key comes last. -/
def put (entries : Entries) (key : Text) (value : Value) : Entries :=
  match entries with
  | [] => [(key, value)]
  | (other, old) :: rest =>
      if other = key then (key, value) :: rest else (other, old) :: put rest key value

theorem get_cons (key : Text) (value : Value) (entries : Entries) (other : Text) :
    get? ((key, value) :: entries) other = if key = other then some value else entries.get? other := by
  by_cases h : key = other <;> simp [get?, h]

theorem get_put (entries : Entries) (key : Text) (value : Value) (other : Text) :
    (entries.put key value).get? other = if key = other then some value else entries.get? other := by
  induction entries with
  | nil => exact get_cons key value [] other
  | cons entry rest ih =>
      obtain ⟨name, old⟩ := entry
      rw [put]
      split
      · next hname => rw [get_cons, get_cons, hname]; split <;> rfl
      · next hname =>
          rw [get_cons, get_cons, ih]
          split
          · next hother => rw [if_neg fun hkey => hname (hother.trans hkey.symm)]
          · rfl

/-- A change sees the value of its key, and puts the new one in its place. -/
theorem alter_eq (entries : Entries) (key : Text) (change : Option Value → Option Value) :
    entries.alter? key change = (change (entries.get? key)).map (entries.put key) := by
  induction entries with
  | nil => rfl
  | cons entry rest ih =>
      obtain ⟨name, old⟩ := entry
      rw [alter?, get_cons]
      split
      · next hname => simp [put, hname]
      · next hname => simp [put, hname, ih, Function.comp_def]

/-- What a change leaves behind. -/
theorem alter_some {before after : Entries} {key : Text} {change : Option Value → Option Value}
    (h : before.alter? key change = some after) :
    ∃ value, change (before.get? key) = some value ∧ after = before.put key value := by
  rw [alter_eq] at h
  obtain ⟨value, hchange, hafter⟩ := Option.map_eq_some_iff.1 h
  exact ⟨value, hchange, hafter.symm⟩

theorem get_append (front back : Entries) (key : Text) :
    get? (front ++ back) key = (front.get? key).or (back.get? key) := by
  simp [get?, List.find?_append, Option.map_or]

/-- A new key comes last. -/
theorem put_new {entries : Entries} {key : Text} (h : entries.get? key = none) (value : Value) :
    entries.put key value = entries ++ [(key, value)] := by
  induction entries with
  | nil => rfl
  | cons entry rest ih =>
      obtain ⟨name, old⟩ := entry
      rw [get_cons] at h
      split at h
      · cases h
      · next hname => rw [put, if_neg hname, ih h, List.cons_append]

theorem get_none_iff {entries : Entries} {key : Text} :
    entries.get? key = none ↔ key ∉ entries.map Prod.fst := by
  induction entries with
  | nil => simp [get?]
  | cons entry rest ih =>
      obtain ⟨name, old⟩ := entry
      rw [get_cons, List.map_cons, List.mem_cons]
      by_cases h : name = key
      · simp [h]
      · rw [if_neg h, ih, not_or]
        exact ⟨fun hrest => ⟨fun hkey => h hkey.symm, hrest⟩, And.right⟩

theorem has_key_iff {entries : Entries} {key : Text} :
    (entries.get? key).isSome ↔ key ∈ entries.map Prod.fst := by
  rw [← Option.ne_none_iff_isSome, ne_eq, get_none_iff, Classical.not_not]

/-- A key that is not there yet gets its value at the end. -/
theorem assign_new {entries : Entries} {key : Text} (h : entries.get? key = none)
    (value : Value) : assign? [key] value entries = some (entries ++ [(key, value)]) := by
  rw [assign?, alter_eq, h, ← put_new h value]
  rfl

/-- A key that gets a value is there afterwards. -/
theorem assign_has_key {before after : Entries} {key : Text} {value : Value}
    (h : assign? [key] value before = some after) : (after.get? key).isSome := by
  obtain ⟨_, _, rfl⟩ := alter_some h
  simp [get_put]

end Entries

/-- A value after additions to it. Only tables can be added to, and they keep their keys. -/
inductive Extends : Value → Value → Prop where
  | same (value) : Extends value value
  | table {origin origin' inner inner'} :
      (∀ key, (Entries.get? inner key).isSome → (Entries.get? inner' key).isSome) →
      Extends (.table origin inner) (.table origin' inner')
  | tables (elements elements') : Extends (.tables elements) (.tables elements')

/-- Entries after additions to them: no key is lost, and every value is the old one or an extended
table. -/
def Grows (before after : Entries) : Prop :=
  ∀ key value, before.get? key = some value →
    ∃ value', after.get? key = some value' ∧ Extends value value'

theorem Extends.trans {first second third : Value} (h : Extends first second)
    (h' : Extends second third) : Extends first third := by
  cases h with
  | same => exact h'
  | table hkeys =>
      cases h' with
      | same => exact .table hkeys
      | table hkeys' => exact .table fun key hkey => hkeys' key (hkeys key hkey)
  | tables _ _ =>
      cases h' with
      | same => exact .tables _ _
      | tables _ _ => exact .tables _ _

theorem Grows.refl (entries : Entries) : Grows entries entries :=
  fun _ value h => ⟨value, h, .same value⟩

theorem Grows.trans {first second third : Entries} (h : Grows first second)
    (h' : Grows second third) : Grows first third := by
  intro key value hvalue
  obtain ⟨value', hvalue', hextends⟩ := h key value hvalue
  obtain ⟨value'', hvalue'', hextends'⟩ := h' key value' hvalue'
  exact ⟨value'', hvalue'', hextends.trans hextends'⟩

theorem Grows.has_key {before after : Entries} (h : Grows before after) {key : Text}
    (hkey : (before.get? key).isSome) : (after.get? key).isSome := by
  obtain ⟨value, hvalue⟩ := Option.isSome_iff_exists.1 hkey
  obtain ⟨value', hvalue', _⟩ := h key value hvalue
  exact Option.isSome_iff_exists.2 ⟨value', hvalue'⟩

/-- A table grows with its entries. -/
theorem Grows.table {before after : Entries} (h : Grows before after) (origin origin' : Origin) :
    Extends (.table origin before) (.table origin' after) :=
  .table fun _ => h.has_key

namespace Entries

/-- Entries grow if the change extends the value that it sees. -/
theorem alter_grows {before after : Entries} {key : Text} {change : Option Value → Option Value}
    (hchange : ∀ old value, change (some old) = some value → Extends old value)
    (h : before.alter? key change = some after) : Grows before after := by
  obtain ⟨value, hvalue, rfl⟩ := alter_some h
  intro other old hold
  rw [get_put]
  split
  · next hkey =>
      rw [hkey, hold] at hvalue
      exact ⟨value, rfl, hchange old value hvalue⟩
  · exact ⟨old, hold, .same old⟩

theorem assign_grows {keys : List Text} {value : Value} {before after : Entries}
    (h : assign? keys value before = some after) : Grows before after := by
  induction keys generalizing before after with
  | nil => cases h
  | cons key keys ih =>
      cases keys with
      -- The last key of a path must be new, so there is no old value to extend.
      | nil => exact alter_grows (fun _ _ hold => by cases hold) h
      | cons second keys =>
          refine alter_grows (fun old value' hold => ?_) h
          split at hold
          · contradiction
          · next hold' =>
              obtain ⟨inner, hinner, rfl⟩ := Option.map_eq_some_iff.1 hold
              cases hold'
              exact (ih hinner).table _ _
          · cases hold

theorem within_grows {path : List Text} {change : Entries → Option Entries}
    (hchange : ∀ before after, change before = some after → Grows before after)
    {before after : Entries} (h : within? path change before = some after) :
    Grows before after := by
  induction path generalizing before after with
  | nil => exact hchange before after h
  | cons key path ih =>
      refine alter_grows (fun old value hold => ?_) h
      split at hold
      · contradiction
      · next hold' =>
          cases hold'
          split at hold
          · cases hold
          · obtain ⟨inner, hinner, rfl⟩ := Option.map_eq_some_iff.1 hold
            exact (ih hinner).table _ _
      · next hold' =>
          cases hold'
          simp only [Option.bind_eq_bind, Option.bind_eq_some_iff] at hold
          obtain ⟨_, _, _, _, ⟨⟩⟩ := hold
          exact .tables _ _
      · cases hold

theorem open_grows {key : Text} {before after : Entries} (h : open? key before = some after) :
    Grows before after := by
  refine alter_grows (fun old value hold => ?_) h
  split at hold
  · contradiction
  · next hold' =>
      cases hold'
      cases hold
      exact (Grows.refl _).table _ _
  · cases hold

theorem append_grows {key : Text} {before after : Entries} (h : append? key before = some after) :
    Grows before after := by
  refine alter_grows (fun old value hold => ?_) h
  split at hold
  · contradiction
  · next hold' =>
      cases hold'
      cases hold
      exact .tables _ _
  · cases hold

end Entries

/-- Entries with new keys, each of which occurs once, are added as they are. -/
theorem inline_entries_new {entries : Entries} (hnodup : (entries.map Prod.fst).Nodup) :
    inlineEntries? (entries.map fun entry => ([entry.1], entry.2)) = some entries := by
  -- For the induction the fold may have read other entries `before`.
  suffices h : ∀ before : Entries, ((before ++ entries).map Prod.fst).Nodup →
      (entries.map fun entry => ([entry.1], entry.2)).foldlM
        (fun entries (pair : List Text × Value) => Entries.assign? pair.1 pair.2 entries) before =
          some (before ++ entries) from h [] hnodup
  clear hnodup
  induction entries with
  | nil => simp
  | cons entry entries ih =>
      intro before hnodup
      have hnew : before.get? entry.1 = none := by
        simp only [List.map_append, List.map_cons, List.nodup_append] at hnodup
        exact Entries.get_none_iff.2 fun hmem => hnodup.2.2 _ hmem _ (by simp) rfl
      rw [List.map_cons, List.foldlM_cons]
      simp only [Entries.assign_new hnew, Option.bind_eq_bind, Option.bind_some]
      rw [ih (before ++ [entry]) (by simpa using hnodup)]
      simp

/-- The keys that inline tables are given stay there. -/
theorem inline_entries_key {pairs : List (List Text × Value)} {entries : Entries}
    (h : inlineEntries? pairs = some entries) {key : Text} {value : Value}
    (hmem : ([key], value) ∈ pairs) : (entries.get? key).isSome := by
  suffices hkeys : ∀ before : Entries, pairs.foldlM
      (fun entries (pair : List Text × Value) => Entries.assign? pair.1 pair.2 entries) before =
        some entries → Grows before entries ∧
          ∀ pair ∈ pairs, ∀ key, pair.1 = [key] → (entries.get? key).isSome from
    (hkeys [] h).2 _ hmem key rfl
  clear h hmem
  induction pairs with
  | nil =>
      rintro before ⟨⟩
      exact ⟨.refl _, by simp⟩
  | cons pair pairs ih =>
      intro before hfold
      rw [List.foldlM_cons] at hfold
      obtain ⟨next, hnext, hlast⟩ := Option.bind_eq_some_iff.1 hfold
      obtain ⟨hgrows, hkeys⟩ := ih next hlast
      refine ⟨(Entries.assign_grows hnext).trans hgrows, ?_⟩
      rintro other hother key hkey
      rcases List.mem_cons.1 hother with rfl | hmem
      · rw [hkey] at hnext
        exact hgrows.has_key (Entries.assign_has_key hnext)
      · exact hkeys other hmem key hkey

namespace Draft

/-- An assignment changes the entries of the table whose header is in force. -/
theorem add_assign (draft : Draft) (key : List Text) (value : Value) :
    draft.add? (.assign key value) =
      (draft.entries.within? draft.current (Entries.assign? key value)).map
        (⟨·, draft.current⟩) := by
  rw [add?]
  cases draft.entries.within? draft.current (Entries.assign? key value) <;> rfl

/-- A header of one part opens a table of the document itself. -/
theorem add_header (draft : Draft) (key : Text) :
    draft.add? (.header [key]) = (draft.entries.open? key).map (⟨·, [key]⟩) := by
  show (do let entries ← draft.entries.open? key; pure _) = _
  cases draft.entries.open? key <;> rfl

/-- A statement takes no key away, and changes no value but that of a table. -/
theorem add_grows {draft next : Draft} {statement : Statement}
    (h : draft.add? statement = some next) : Grows draft.entries next.entries := by
  cases statement with
  | assign key value =>
      rw [add_assign] at h
      obtain ⟨entries, hentries, ⟨⟩⟩ := Option.map_eq_some_iff.1 h
      exact Entries.within_grows (fun _ _ => Entries.assign_grows) hentries
  | header key =>
      obtain ⟨name, _, hname⟩ := Option.bind_eq_some_iff.1 h
      obtain ⟨entries, hentries, ⟨⟩⟩ := Option.bind_eq_some_iff.1 hname
      exact Entries.within_grows (fun _ _ => Entries.open_grows) hentries
  | arrayHeader key =>
      obtain ⟨name, _, hname⟩ := Option.bind_eq_some_iff.1 h
      obtain ⟨entries, hentries, ⟨⟩⟩ := Option.bind_eq_some_iff.1 hname
      exact Entries.within_grows (fun _ _ => Entries.append_grows) hentries

/-- No number of statements takes a key away, or changes a value but that of a table. -/
theorem fold_grows {statements : List Statement} {draft last : Draft}
    (h : statements.foldlM Draft.add? draft = some last) : Grows draft.entries last.entries := by
  induction statements generalizing draft with
  | nil =>
      cases h
      exact .refl _
  | cons statement statements ih =>
      rw [List.foldlM_cons] at h
      obtain ⟨next, hnext, hlast⟩ := Option.bind_eq_some_iff.1 h
      exact (add_grows hnext).trans (ih hlast)

/-- Assignments leave the header in force. -/
theorem current_after_assign {statements : List Statement}
    (hassign : ∀ statement ∈ statements, ∃ key value, statement = .assign key value)
    {draft last : Draft} (h : statements.foldlM Draft.add? draft = some last) :
    last.current = draft.current := by
  induction statements generalizing draft with
  | nil =>
      cases h
      rfl
  | cons statement statements ih =>
      rw [List.foldlM_cons] at h
      obtain ⟨next, hnext, hlast⟩ := Option.bind_eq_some_iff.1 h
      obtain ⟨key, value, rfl⟩ := hassign statement List.mem_cons_self
      rw [add_assign] at hnext
      obtain ⟨entries, _, rfl⟩ := Option.map_eq_some_iff.1 hnext
      have hothers : ∀ other ∈ statements, ∃ key value, other = .assign key value :=
        fun other hother => hassign other (List.mem_cons_of_mem _ hother)
      have hcurrent := ih hothers hlast
      exact hcurrent

/-- Behind a header that header is in force. -/
theorem current_after_header {front statements : List Statement} {key : Text}
    (hassign : ∀ statement ∈ statements, ∃ key value, statement = .assign key value)
    {draft last : Draft}
    (h : (front ++ .header [key] :: statements).foldlM Draft.add? draft = some last) :
    last.current = [key] := by
  rw [List.foldlM_append] at h
  obtain ⟨middle, _, hrest⟩ := Option.bind_eq_some_iff.1 h
  rw [List.foldlM_cons, add_header] at hrest
  obtain ⟨next, hnext, hlast⟩ := Option.bind_eq_some_iff.1 hrest
  obtain ⟨entries, _, rfl⟩ := Option.map_eq_some_iff.1 hnext
  exact current_after_assign hassign hlast

end Draft

end ForumQuery.Toml
