import ForumQuery.Proofs.Extraction.Appending
import ForumQuery.Proofs.Resolution.Records
import ForumQuery.Proofs.Terms.Words
import ForumQuery.Proofs.Token.Cutting

/-!
# Queries behind one another

A query that closes its phrases and does not end with a flag without a value is complete: what is
written behind it does not change how it is read. `read_behind_space` says so for all stages of
reading. The tokens, words and flags of both parts stand one after the other, their terms are
joined, and of each filter the later one counts.
-/

namespace ForumQuery

/-- Each filter of a single value is the later one where that is set, and the earlier one
otherwise. -/
structure Filters.Override (filters earlier later : Filters) : Prop where
  user : filters.user = later.user.or earlier.user
  parent : filters.parent = later.parent.or earlier.parent
  minVotes : filters.minVotes = later.minVotes.or earlier.minVotes
  maxVotes : filters.maxVotes = later.maxVotes.or earlier.maxVotes
  minAnswers : filters.minAnswers = later.minAnswers.or earlier.minAnswers
  maxAnswers : filters.maxAnswers = later.maxAnswers.or earlier.maxAnswers
  fromDate : filters.fromDate = later.fromDate.or earlier.fromDate
  toDate : filters.toDate = later.toDate.or earlier.toDate

namespace Resolution

theorem of_flags_append_title (front back : List Flag) (offset : Int) :
    (ofFlags (front ++ back) offset).title =
      (ofFlags front offset).title.append (ofFlags back offset).title := by
  rw [of_flags_title, of_flags_title, of_flags_title, Terms.of_flags_append]

theorem of_flags_append_body (front back : List Flag) (offset : Int) :
    (ofFlags (front ++ back) offset).body =
      (ofFlags front offset).body.append (ofFlags back offset).body := by
  rw [of_flags_body, of_flags_body, of_flags_body, Terms.of_flags_append]

end Resolution

/-- What flags come to overrides what those in front of them come to. -/
theorem Filters.settled_override (front back : List Flag) (tags : Terms) (offset : Int) :
    (Filters.settled (front ++ back) tags offset).Override
      (Resolution.ofFlags front offset).filters (Resolution.ofFlags back offset).filters := by
  rw [Resolution.of_flags_filters, Resolution.of_flags_filters]
  constructor <;> exact Flag.last_read_append front back

/-- What is written behind a query that closes its phrases and does not end with a flag without a
value is read on its own. The tokens, words and flags of both stand one after the other, the terms
of each kind are joined, and the filters of the second override those of the first. -/
theorem read_behind_space {front back : Text} (hclosed : Token.IsClosed front)
    (hlast : ∀ excluded text, ∀ name : FlagName, text.map Char.toLower = name.text →
      (Token.tokens front).getLast? ≠ some (Flag.sign excluded ++ text ++ [':']))
    (offset : Int) :
    let first := Query.read front offset
    let second := Query.read back offset
    let whole := Query.read (front ++ ' ' :: back) offset
    whole.tokens = first.tokens ++ second.tokens ∧
    whole.extraction.words = first.extraction.words ++ second.extraction.words ∧
    whole.extraction.flags = first.extraction.flags ++ second.extraction.flags ∧
    whole.buckets.plain = first.buckets.plain.append second.buckets.plain ∧
    whole.buckets.tags = first.buckets.tags.append second.buckets.tags ∧
    whole.resolution.title = first.resolution.title.append second.resolution.title ∧
    whole.resolution.body = first.resolution.body.append second.resolution.body ∧
    ∀ record ∈ Query.parse (front ++ ' ' :: back) offset,
      record.filters.Override first.resolution.filters second.resolution.filters := by
  intro first second whole
  have hvalue : ∀ token, (Token.tokens front).getLast? = some token → ¬ Flag.IsValueless token := by
    rintro token htoken hvalueless
    obtain ⟨excluded, text, name, hspelled, rfl⟩ := Flag.valueless_iff.1 hvalueless
    exact hlast excluded text name hspelled htoken
  have htokens : whole.tokens = first.tokens ++ second.tokens :=
    Token.tokens_append_blank hclosed (by decide) back
  have hextraction : whole.extraction = first.extraction.append second.extraction := by
    show Extraction.ofTokens whole.tokens = _
    rw [htokens]
    exact Extraction.of_tokens_append hvalue second.tokens
  have hwords := congrArg Extraction.words hextraction
  have hflags := congrArg Extraction.flags hextraction
  have hbuckets : whole.buckets =
      { plain := first.buckets.plain.append second.buckets.plain
        tags := first.buckets.tags.append second.buckets.tags } := by
    show Buckets.ofWords whole.extraction.words = _
    rw [hwords]
    exact Buckets.of_words_append ..
  have hresolution : whole.resolution =
      Resolution.ofFlags (first.extraction.flags ++ second.extraction.flags) offset := by
    show Resolution.ofFlags whole.extraction.flags offset = _
    rw [hflags]
    rfl
  refine ⟨htokens, hwords, hflags, congrArg Buckets.plain hbuckets, congrArg Buckets.tags hbuckets,
    ?_, ?_, fun record hrecord => ?_⟩
  · rw [hresolution]
    exact Resolution.of_flags_append_title ..
  · rw [hresolution]
    exact Resolution.of_flags_append_body ..
  · have hfilters : record.filters =
        Filters.settled whole.extraction.flags whole.buckets.tags offset :=
      SearchRecord.filters_of_mem_build hrecord
    rw [hfilters, hflags]
    exact Filters.settled_override ..

/-- A later bound replaces an earlier one and leaves the date as it was, though the later part has
a phrase that nothing closes. -/
theorem read_behind_space_votes :
    let front := "from:x minvotes:1 \"a b\"".toList
    let back := "minvotes:5 \"c".toList
    let record : SearchRecord := ⟨⟨"\"a b\" \"c".toList, []⟩, some .plain,
      { minVotes := some 5, fromDate := some "x".toList }⟩
    Token.IsClosed front ∧ (Token.tokens front).getLast? = some "\"a b\"".toList ∧
      record ∈ Query.parse (front ++ ' ' :: back) 0 ∧
      Token.tokens (front ++ ' ' :: back) = Token.tokens front ++ Token.tokens back ∧
      record.filters.Override (Query.read front 0).resolution.filters
        (Query.read back 0).resolution.filters := by
  intro front back record
  have hclosed : Token.IsClosed front := by
    show front.count '"' % 2 = 0
    decide
  have htoken : (Token.tokens front).getLast? = some "\"a b\"".toList := by decide +kernel
  have hlast : ∀ excluded text, ∀ name : FlagName, text.map Char.toLower = name.text →
      (Token.tokens front).getLast? ≠ some (Flag.sign excluded ++ text ++ [':']) := by
    intro excluded text name _ h
    have hend := congrArg List.getLast? (Option.some.inj (htoken.symm.trans h))
    rw [List.getLast?_concat] at hend
    exact absurd hend (by decide)
  have hrecord : record ∈ Query.parse (front ++ ' ' :: back) 0 := by decide +kernel
  obtain ⟨htokens, _, _, _, _, _, _, hfilters⟩ := @read_behind_space front back hclosed hlast 0
  exact ⟨hclosed, htoken, hrecord, htokens, hfilters record hrecord⟩

end ForumQuery
