import ForumQuery.Proofs.Resolution.LastFlag
import ForumQuery.Proofs.Terms.Words

/-!
# Queries for questions

Some of what a query can ask for only questions have: tags, titles and numbers of answers.
`post_type_of_query` says that such a query looks for questions, whatever else it says about the
kind of post, and that any other query looks for what its last readable flag says.
-/

namespace ForumQuery

/-- The query has a tag, a text for the title or a bound on the number of answers. -/
def Extraction.NeedsQuestions (extraction : Extraction) : Prop :=
  (∃ word ∈ extraction.words, Tag.isTag word.value = true) ∨
    (∃ flag ∈ extraction.flags, flag.name = .title ∧ flag.value ≠ []) ∨
    ∃ flag ∈ extraction.flags, ∃ count, flag.Asks .minAnswers count ∨ flag.Asks .maxAnswers count

/-- The texts of all identifiers among the filters. -/
def Filters.idTexts (filters : Filters) : List Text :=
  filters.user.toList.map Id.text ++ filters.parent.toList.map Id.text ++ filters.ids.map Id.text

/-- A field has terms exactly if some flag gives it a text, on whichever side. -/
theorem Terms.of_flags_ne_empty {name : FlagName} {flags : List Flag} :
    Terms.ofFlags name flags ≠ {} ↔ ∃ flag ∈ flags, flag.name = name ∧ flag.value ≠ [] := by
  have hmem : ∀ text, text ∈ (Flag.named name false flags).map Flag.value ++
      (Flag.named name true flags).map Flag.value ↔
        ∃ flag ∈ flags, flag.name = name ∧ flag.value = text := by
    intro text
    simp only [Flag.named, List.mem_append, List.mem_map, List.mem_filter, decide_eq_true_eq]
    constructor
    · rintro (⟨flag, ⟨hflag, hname, _⟩, hvalue⟩ | ⟨flag, ⟨hflag, hname, _⟩, hvalue⟩)
      · exact ⟨flag, hflag, hname, hvalue⟩
      · exact ⟨flag, hflag, hname, hvalue⟩
    · rintro ⟨flag, hflag, hname, hvalue⟩
      cases hexcluded : flag.excluded with
      | false => exact Or.inl ⟨flag, ⟨hflag, hname, hexcluded⟩, hvalue⟩
      | true => exact Or.inr ⟨flag, ⟨hflag, hname, hexcluded⟩, hvalue⟩
  rw [Terms.ofFlags, Terms.of_texts_ne_empty]
  simp only [hmem]
  constructor
  · rintro ⟨_, ⟨flag, hflag, hname, rfl⟩, hne⟩
    exact ⟨flag, hflag, hname, hne⟩
  · rintro ⟨flag, hflag, hname, hne⟩
    exact ⟨flag.value, ⟨flag, hflag, hname, rfl⟩, hne⟩

/-- Something is read exactly if some flag asks. -/
theorem Flag.last_read_ne_none {name : FlagName} {flags : List Flag} :
    Flag.lastRead name flags ≠ none ↔ ∃ flag ∈ flags, ∃ value, flag.Asks name value := by
  rw [ne_eq, Flag.last_read_eq_none]
  simp

/-- What the flags and tags of a query say is what the query needs. -/
theorem only_questions_iff (extraction : Extraction) :
    OnlyQuestions extraction.flags (Buckets.ofWords extraction.words).tags ↔
      extraction.NeedsQuestions := by
  refine or_congr Buckets.tags_ne_empty (or_congr Terms.of_flags_ne_empty ?_)
  refine (or_congr Flag.last_read_ne_none Flag.last_read_ne_none).trans ?_
  simp only [exists_or, and_or_left]

/-- What is read for a name, some flag asks for. -/
theorem Flag.exists_asks {name : FlagName} {flags : List Flag} {value : name.Value}
    (h : Flag.lastRead name flags = some value) : ∃ flag ∈ flags, flag.Asks name value := by
  have hlast := Flag.last_asked_read name flags
  rw [h] at hlast
  cases hlast with
  | found front flag back _ hasks _ => exact ⟨flag, by simp, hasks⟩

/-- All identifiers among the settled filters were read as that of a user or that of a parent. -/
theorem Filters.mem_id_texts {flags : List Flag} {tags : Terms} {offset : Int} {text : Text}
    (h : text ∈ (Filters.settled flags tags offset).idTexts) :
    (∃ id : UserId, Flag.lastRead .user flags = some id ∧ id.text = text) ∨
      ∃ id : PostId, Flag.lastRead .inQuestion flags = some id ∧ id.text = text := by
  simp only [idTexts, settled, ofFlags, List.mem_append, List.mem_map, Option.mem_toList] at h
  rcases h with (h | h) | ⟨id, hid, htext⟩
  · exact Or.inl h
  · exact Or.inr h
  · split at hid
    · exact Or.inr ⟨id, Option.mem_toList.1 hid, htext⟩
    · exact absurd hid List.not_mem_nil

/-- Whatever else it says, a query that needs questions looks for questions, and any other query
looks for the kind of post that its last flag asks for. The posts looked for by identifier are the
parent, if it is given and the query looks for questions, and none otherwise. Every identifier is
the value of an included flag and has 26 ASCII letters and digits. -/
theorem post_type_of_query (query : Text) (offset : Int) :
    let extraction := (Query.read query offset).extraction
    ∀ record ∈ Query.parse query offset,
      (extraction.NeedsQuestions → record.filters.postType = some .question) ∧
      (¬ extraction.NeedsQuestions →
        Flag.LastAsked .is extraction.flags record.filters.postType) ∧
      record.filters.ids =
        (if record.filters.postType = some .question then record.filters.parent.toList else []) ∧
      ∀ text ∈ record.filters.idTexts,
        text.length = 26 ∧ (∀ c ∈ text, c.isAlphanum = true) ∧
          ∃ flag ∈ extraction.flags, flag.value = text ∧ flag.excluded = false ∧
            (flag.name = .user ∨ flag.name = .inQuestion) := by
  intro extraction record hrecord
  have hfilters : record.filters = Filters.settled extraction.flags
      (Buckets.ofWords extraction.words).tags offset :=
    SearchRecord.filters_of_mem_build hrecord
  have honly := only_questions_iff extraction
  rw [hfilters]
  refine ⟨fun hneeds => ?_, fun hneeds => ?_, rfl, ?_⟩
  · exact if_pos (honly.2 hneeds)
  · refine Flag.last_asked_iff.2 ?_
    exact (if_neg fun h => hneeds (honly.1 h)).symm
  · intro text htext
    rcases Filters.mem_id_texts htext with ⟨id, hread, rfl⟩ | ⟨id, hread, rfl⟩
    all_goals
      obtain ⟨flag, hflag, hname, hincluded, hlength, hchars, hvalue⟩ := Flag.exists_asks hread
      rw [hvalue]
    · exact ⟨hlength, hchars, flag, hflag, rfl, hincluded, Or.inl hname⟩
    · exact ⟨hlength, hchars, flag, hflag, rfl, hincluded, Or.inr hname⟩

/-- A tag that is only excluded still makes a query for answers one for questions, and its parent
the question looked for; without the tag the kind of post is the last one that reads. -/
theorem post_type_of_query_excluded_tag :
    let id : PostId := ⟨"01234567890123456789012345".toList, by decide⟩
    let forced := "is:answer inquestion:01234567890123456789012345 -#rust".toList
    let free := "is:question is:Answer is:comment rust".toList
    let tagged : SearchRecord :=
      ⟨⟨[], "rust".toList⟩, some .tag,
        { postType := some .question, parent := some id, ids := [id] }⟩
    let plain : SearchRecord := ⟨⟨"rust".toList, []⟩, some .plain, { postType := some .answer }⟩
    tagged ∈ Query.parse forced 0 ∧ (Query.read forced 0).extraction.NeedsQuestions ∧
      tagged.filters.postType = some .question ∧ tagged.filters.ids = [id] ∧
      (∀ c ∈ id.text, c.isAlphanum = true) ∧
      plain ∈ Query.parse free 0 ∧ ¬ (Query.read free 0).extraction.NeedsQuestions ∧
      Flag.LastAsked .is (Query.read free 0).extraction.flags (some .answer) := by
  intro id forced free tagged plain
  have htagged : tagged ∈ Query.parse forced 0 := by decide +kernel
  have hneeds : (Query.read forced 0).extraction.NeedsQuestions :=
    Or.inl ⟨⟨"#rust".toList, true⟩, by decide +kernel, by decide +kernel⟩
  have hplain : plain ∈ Query.parse free 0 := by decide +kernel
  have hfree : ¬ (Query.read free 0).extraction.NeedsQuestions := by
    rw [← only_questions_iff]
    decide +kernel
  obtain ⟨htype, _, hids, htexts⟩ := post_type_of_query forced 0 tagged htagged
  obtain ⟨_, hlast, _⟩ := post_type_of_query free 0 plain hplain
  exact ⟨htagged, hneeds, htype hneeds, hids,
    (htexts id.text (by simp [tagged, Filters.idTexts])).2.1, hplain, hfree, hlast hfree⟩

end ForumQuery
