import ForumQuery.Proofs.Resolution.ByName
import ForumQuery.Proofs.Terms.Words
import ForumQuery.Proofs.Writing.Reading

/-!
# The terms of items

The words and flags that some items are read as have the terms of these items, field by field
(`terms_of_words`, `terms_of_flags`). `fields_eq` says that the items have a field exactly if they
have terms in it, and `fields_eq_nil` that they have none exactly if each of them sets a filter.
-/

namespace ForumQuery.Writing

theorem PlainWord.name_eq_none (word : PlainWord) : Tag.name? word.text = none := by
  have h := word.notTag
  rwa [Tag.isTag, Option.isSome_eq_false_iff, Option.isNone_iff_eq_none] at h

theorem TagName.name_eq (name : TagName) : Tag.name? ('#' :: name.text) = some name.text := by
  rw [Tag.name?, if_pos name.is_name]

theorem TextField.field_ne (field : TextField) : field.field ≠ .plain ∧ field.field ≠ .tag := by
  cases field <;> decide

/-- Items have no empty terms. -/
theorem term_ne_nil {item : Item} {term : Term} (h : item.term? = some term) : term.text ≠ [] := by
  cases item with
  | word excluded value =>
      obtain rfl := Option.some.inj h
      exact value.nonempty
  | phrase excluded value =>
      obtain rfl := Option.some.inj h
      exact List.cons_ne_nil _ _
  | tag excluded value =>
      obtain rfl := Option.some.inj h
      exact Tag.name_ne_nil value.name_eq
  | fieldText field excluded value =>
      obtain rfl := Option.some.inj h
      exact value.nonempty
  | _ => simp [Item.term?] at h

/-- Terms are looked up in one of four fields. -/
theorem term_field_mem {item : Item} {term : Term} (h : item.term? = some term) :
    term.field ∈ [Field.plain, .tag, .body, .title] := by
  cases item with
  | word | phrase | tag =>
      obtain rfl := Option.some.inj h
      simp
  | fieldText field =>
      obtain rfl := Option.some.inj h
      cases field <;> simp [TextField.field]
  | _ => simp [Item.term?] at h

variable (items : List Item)

/-- The words among the items without the shape of a tag are the plain terms. -/
theorem plain_texts_eq (excluded : Bool) :
    Word.plainTexts excluded (items.filterMap Item.word?) = texts .plain excluded items := by
  simp only [Word.plainTexts, texts, List.filter_filterMap, List.map_filterMap]
  congr 1
  funext item
  cases item with
  | word side value => simp [Item.word?, Item.term?, Option.filter_some, value.name_eq_none]
  | phrase side value => simp [Item.word?, Item.term?, Option.filter_some, Tag.name?, Text.quoted]
  | tag side value => simp [Item.word?, Item.term?, Option.filter_some, value.name_eq]
  | fieldText field side value => simp [Item.word?, Item.term?, Option.filter_some, field.field_ne]
  | _ => simp [Item.word?, Item.term?]

/-- The names of the tags among the items are the terms for tags. -/
theorem tag_names_eq (excluded : Bool) :
    Word.tagNames excluded (items.filterMap Item.word?) = texts .tag excluded items := by
  simp only [Word.tagNames, texts, List.filter_filterMap, List.map_filterMap,
    List.filterMap_filterMap]
  congr 1
  funext item
  cases item with
  | word side value => simp [Item.word?, Item.term?, Option.filter_some, value.name_eq_none]
  | phrase side value => simp [Item.word?, Item.term?, Option.filter_some, Tag.name?, Text.quoted]
  | tag side value =>
      by_cases hside : side = excluded <;>
        simp [Item.word?, Item.term?, Option.filter_some, value.name_eq, hside]
  | fieldText field side value => simp [Item.word?, Item.term?, Option.filter_some, field.field_ne]
  | _ => simp [Item.word?, Item.term?]

/-- The values of the flags for a field are the terms for it. -/
theorem flag_values_eq (field : TextField) (excluded : Bool) :
    (Flag.named field.flagName excluded (items.filterMap Item.flag?)).map Flag.value =
      texts field.field excluded items := by
  simp only [Flag.named, texts, List.filter_filterMap, List.map_filterMap]
  congr 1
  funext item
  cases item with
  | fieldText other side value =>
      cases field <;> cases other <;>
        simp [Item.flag?, Item.term?, Option.filter_some, TextField.flagName, TextField.field]
  | count bound value =>
      cases field <;> cases bound <;>
        simp [Item.flag?, Item.term?, TextField.flagName, CountBound.flagName]
  | date bound value =>
      cases field <;> cases bound <;>
        simp [Item.flag?, Item.term?, TextField.flagName, DateBound.flagName]
  | _ =>
      cases field <;>
        simp [Item.flag?, Item.term?, Option.filter_some, TextField.flagName, TextField.field]

/-- All texts of terms are kept when they are joined. -/
theorem of_texts_eq (field : Field) :
    Terms.ofTexts (texts field false items) (texts field true items) = terms field items := by
  have hfilled : ∀ excluded,
      Text.filled (texts field excluded items) = texts field excluded items := by
    intro excluded
    rw [Text.filled, List.filter_eq_self]
    intro text htext
    obtain ⟨term, hterm, rfl⟩ := List.mem_map.1 htext
    obtain ⟨item, _, hitem⟩ := List.mem_filterMap.1 (List.mem_filter.1 hterm).1
    simpa using term_ne_nil hitem
  rw [Terms.ofTexts, hfilled, hfilled, terms]

/-- The terms of the words are those of the items. -/
theorem terms_of_words :
    Buckets.ofWords (items.filterMap Item.word?) =
      { plain := terms .plain items, tags := terms .tag items } := by
  rw [Buckets.of_words_eq]
  simp only [plain_texts_eq, tag_names_eq, of_texts_eq]

/-- The terms of the flags for a field are those of the items. -/
theorem terms_of_flags (field : TextField) :
    Terms.ofFlags field.flagName (items.filterMap Item.flag?) = terms field.field items := by
  rw [Terms.ofFlags, flag_values_eq, flag_values_eq, of_texts_eq]

/-- The items have terms in a field exactly if one of them has one there. -/
theorem terms_ne_empty {field : Field} :
    terms field items ≠ {} ↔
      ∃ item ∈ items, ∃ term, item.term? = some term ∧ term.field = field := by
  rw [← of_texts_eq, Terms.of_texts_ne_empty]
  constructor
  · rintro ⟨text, htext, _⟩
    obtain ⟨excluded, htext⟩ : ∃ excluded, text ∈ texts field excluded items :=
      (List.mem_append.1 htext).elim (fun h => ⟨false, h⟩) fun h => ⟨true, h⟩
    obtain ⟨term, hterm, rfl⟩ := List.mem_map.1 htext
    obtain ⟨hterm, hfield⟩ := List.mem_filter.1 hterm
    obtain ⟨item, hitem, hterm⟩ := List.mem_filterMap.1 hterm
    exact ⟨item, hitem, term, hterm, (of_decide_eq_true hfield).1⟩
  · rintro ⟨item, hitem, term, hterm, hfield⟩
    refine ⟨term.text, ?_, term_ne_nil hterm⟩
    have hmem : term.text ∈ texts field term.excluded items :=
      List.mem_map.2 ⟨term, List.mem_filter.2
        ⟨List.mem_filterMap.2 ⟨item, hitem, hterm⟩, by simp [hfield]⟩, rfl⟩
    cases hexcluded : term.excluded with
    | false => exact List.mem_append_left _ (hexcluded ▸ hmem)
    | true => exact List.mem_append_right _ (hexcluded ▸ hmem)

/-- The fields of the items are those with terms. -/
theorem fields_eq :
    fields items =
      [Field.plain, .tag, .body, .title].filter fun field => terms field items ≠ {} := by
  refine List.filter_congr fun field _ => ?_
  rw [Bool.eq_iff_iff, decide_eq_true_eq, terms_ne_empty, List.any_eq_true]
  simp only [List.mem_filterMap, decide_eq_true_eq]
  constructor
  · rintro ⟨term, ⟨item, hitem, hterm⟩, hfield⟩
    exact ⟨item, hitem, term, hterm, hfield⟩
  · rintro ⟨item, hitem, term, hterm, hfield⟩
    exact ⟨term, ⟨item, hitem, hterm⟩, hfield⟩

/-- Items have no terms in any field exactly if each of them sets a filter. -/
theorem fields_eq_nil : fields items = [] ↔ ∀ item ∈ items, item.term? = none := by
  rw [fields_eq, List.filter_eq_nil_iff]
  constructor
  · intro h item hitem
    cases hterm : item.term? with
    | none => rfl
    | some term =>
        have hmem : term.field ∈ [Field.plain, .tag, .body, .title] := term_field_mem hterm
        refine absurd ?_ (h term.field hmem)
        rw [decide_eq_true_eq, terms_ne_empty]
        exact ⟨item, hitem, term, hterm, rfl⟩
  · intro h field _
    rw [decide_eq_true_eq, terms_ne_empty]
    rintro ⟨item, hitem, term, hterm, _⟩
    simp [h item hitem] at hterm

end ForumQuery.Writing
