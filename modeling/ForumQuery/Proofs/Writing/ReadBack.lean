import ForumQuery.Proofs.Resolution.Records
import ForumQuery.Proofs.Writing.Terms

/-!
# Written queries are read back

What the flags of one name say last is what the items ask for last (`last_read_eq`), and their terms
are the same already. So every list of items is read back from its text: `parse_write` says that the
records of the written query are those that the items ask for.
-/

namespace ForumQuery.Writing

/-- A written count is read back. -/
theorem read_count (n : Int64) :
    Text.Interval.signed64.read? (Text.decimal n.toInt) = some n.toInt := by
  have hlow := n.le_toInt
  have hhigh := n.toInt_lt
  have hholds : Text.Interval.signed64.holds n.toInt = true := by
    rw [Text.Interval.holds, Bool.and_eq_true, decide_eq_true_eq, decide_eq_true_eq]
    exact ⟨hlow, Int.le_of_lt_add_one hhigh⟩
  rw [Text.Interval.read?, Text.readInt?_decimal, Option.filter_some, if_pos hholds]

/-- A flag whose value reads says that value, under its own name. -/
theorem last_read_own {name : FlagName} {text : Text} {value : name.Value}
    (hread : name.value? text = some value) :
    Flag.lastRead name [⟨name, text, false⟩] = some value := by
  rw [Flag.last_read_singleton, if_pos ⟨rfl, rfl⟩, hread]

/-- Under each name, the flag of an item says what the item asks for. -/
theorem Item.asked_eq (item : Item) (name : FlagName) :
    Flag.lastRead name item.flag?.toList = item.asked name := by
  cases item with
  | word | phrase | tag => cases name <;> rfl
  | fieldText field excluded value =>
      cases field <;> cases excluded <;> cases name <;> rfl
  | postType value =>
      have hread : PostType.read? value.text = some value := by cases value <;> decide
      cases name <;> first | rfl | exact last_read_own hread
  | user value =>
      have hread := congrArg Except.toOption (Id.read_text value)
      cases name <;> first | rfl | exact last_read_own hread
  | inQuestion value =>
      have hread := congrArg Except.toOption (Id.read_text value)
      cases name <;> first | rfl | exact last_read_own hread
  | count bound value =>
      cases bound <;> cases name <;> first | rfl | exact last_read_own (read_count value)
  | date bound value =>
      cases bound <;> cases name <;> rfl

variable (items : List Item)

/-- What the flags of one name say last is what the items ask for last. -/
theorem last_read_eq (name : FlagName) :
    Flag.lastRead name (items.filterMap Item.flag?) = last name items := by
  induction items using List.reverseRecOn with
  | nil => rfl
  | append_singleton items item ih =>
      have hsingle : [item].filterMap Item.flag? = item.flag?.toList := by
        cases h : item.flag? <;> simp [h]
      have hlast : last name (items ++ [item]) = (item.asked name).or (last name items) := by
        cases h : item.asked name <;> simp [last, List.filterMap_append, h]
      rw [List.filterMap_append, Flag.last_read_append, hsingle, item.asked_eq, ih, hlast]

theorem last_ne_none {name : FlagName} :
    last name items ≠ none ↔ ∃ item ∈ items, item.asked name ≠ none := by
  simp [last]

/-- What only questions have is a term for a tag or the title, or a bound on answers. -/
theorem Item.for_questions_iff (item : Item) :
    item.forQuestions = true ↔
      (∃ term, item.term? = some term ∧ term.field = .tag) ∨
      (∃ term, item.term? = some term ∧ term.field = .title) ∨
      item.asked .minAnswers ≠ none ∨ item.asked .maxAnswers ≠ none := by
  cases item with
  | fieldText field => cases field <;> simp [forQuestions, term?, asked, TextField.field]
  | count bound => cases bound <;> simp [forQuestions, term?, asked]
  | _ => simp [forQuestions, term?, asked]

/-- The words and flags ask for something that only questions have exactly if some item does. -/
theorem only_questions_eq :
    OnlyQuestions (items.filterMap Item.flag?) (terms .tag items) ↔
      items.any Item.forQuestions = true := by
  have htitle : Terms.ofFlags .title (items.filterMap Item.flag?) = terms .title items :=
    terms_of_flags items .title
  rw [OnlyQuestions, htitle, last_read_eq, last_read_eq, terms_ne_empty, terms_ne_empty,
    last_ne_none, last_ne_none, List.any_eq_true]
  simp only [Item.for_questions_iff, and_or_left, exists_or]

/-- The filters of the words and flags are those of the items. -/
theorem settled_eq (offset : Int) :
    Filters.settled (items.filterMap Item.flag?) (terms .tag items) offset =
      filters items offset := by
  have htype : PostType.settled (items.filterMap Item.flag?) (terms .tag items) =
      postType items := by
    rw [PostType.settled, postType, last_read_eq]
    exact if_congr (only_questions_eq items) rfl rfl
  simp only [Filters.settled, Filters.ofFlags, htype, last_read_eq, filters]

/-- The candidates are the fields with the terms of the items. -/
theorem candidates_eq :
    candidates (items.filterMap Item.flag?) (Buckets.ofWords (items.filterMap Item.word?)) =
      [.plain, .tag, .body, .title].map fun field => (field, terms field items) := by
  have hbody := terms_of_flags items .body
  have htitle := terms_of_flags items .title
  simp only [TextField.flagName, TextField.field] at hbody htitle
  simp only [candidates, terms_of_words, hbody, htitle, List.map_cons, List.map_nil]

/-- The names of the flags that set filters. -/
def filterNames : List FlagName :=
  [.is, .user, .inQuestion, .minVotes, .maxVotes, .minAnswers, .maxAnswers, .fromDate, .toDate]

/-- An item without a term asks for a filter. -/
theorem Item.asked_of_term_none {item : Item} (h : item.term? = none) :
    ∃ name ∈ filterNames, item.asked name ≠ none := by
  cases item with
  | postType => exact ⟨.is, by decide, by simp [asked]⟩
  | user => exact ⟨.user, by decide, by simp [asked]⟩
  | inQuestion => exact ⟨.inQuestion, by decide, by simp [asked]⟩
  | count bound =>
      refine ⟨bound.flagName, ?_, ?_⟩ <;> cases bound <;>
        simp [filterNames, CountBound.flagName, asked]
  | date bound =>
      refine ⟨bound.flagName, ?_, ?_⟩ <;> cases bound <;>
        simp [filterNames, DateBound.flagName, asked]
  | _ => simp [term?] at h

/-- Filters at their defaults have nothing asked for under any name. -/
theorem last_eq_none {offset : Int} (h : filters items offset = { timeZoneOffset := offset }) :
    ∀ name ∈ filterNames, last name items = none := by
  obtain ⟨htype, huser, hparent, _, hminVotes, hmaxVotes, hminAnswers, hmaxAnswers, hfrom, hto,
    _⟩ := Filters.mk.inj h
  -- A query for questions would have set the kind of post.
  have his : last .is items = none := by
    unfold postType at htype
    split at htype
    · simp at htype
    · exact htype
  simp [filterNames, *]

/-- Without terms, only no items at all leave the filters at their defaults. -/
theorem filters_eq_default (hfields : fields items = []) (offset : Int) :
    filters items offset = { timeZoneOffset := offset } ↔ items = [] := by
  constructor
  · intro h
    rw [List.eq_nil_iff_forall_not_mem]
    intro item hitem
    have hterm := (fields_eq_nil items).1 hfields item hitem
    obtain ⟨name, hname, hasked⟩ := Item.asked_of_term_none hterm
    exact (last_ne_none items).2 ⟨item, hitem, hasked⟩ (last_eq_none items h name hname)
  · rintro rfl
    rfl

/-- Every list of items is read back from its text: the query that is written from them has the
records that they ask for, in every time zone. -/
theorem parse_write (items : List Item) (offset : Int) :
    Query.parse (write items) offset = records items offset := by
  have hbuild : Query.parse (write items) offset =
      SearchRecord.build (items.filterMap Item.flag?)
        (Buckets.ofWords (items.filterMap Item.word?)) offset := by
    have h := of_tokens_write items
    unfold Query.parse Query.read
    simp only [h]
    rfl
  have hempty : (∀ candidate ∈ candidates (items.filterMap Item.flag?)
      (Buckets.ofWords (items.filterMap Item.word?)), candidate.2 = {}) ↔ fields items = [] := by
    rw [candidates_eq, fields_eq, List.filter_eq_nil_iff]
    simp
  rw [hbuild, SearchRecord.build_eq]
  simp only [hempty]
  rw [candidates_eq, terms_of_words, settled_eq, records]
  by_cases hfields : fields items = []
  · simp only [if_pos hfields, filters_eq_default items hfields]
  · have hne : items ≠ [] := by
      rintro rfl
      exact hfields rfl
    rw [if_neg hfields, if_neg hne, if_neg hfields, List.filter_map, List.map_map, fields_eq]
    rfl

example :
    write [.phrase true ⟨"a:b".toList, by decide⟩, .count .minVotes (-3), .postType .answer] =
      "-\"a:b\" minvotes:-3 is:answer".toList := by
  decide

end ForumQuery.Writing
