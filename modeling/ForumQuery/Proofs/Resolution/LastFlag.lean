import ForumQuery.Proofs.Resolution.Records

/-!
# The last flag of a name wins

Each filter is what the last flag of its name asks for, among the flags that are included and whose
text denotes a value. `LastAsked` says this of a list of flags and a filter, and `last_flag_wins`
says it of all records of a search. So a flag that asks for nothing could be left out, and flags
of different names, or on different sides, could change places.
-/

namespace ForumQuery

namespace Flag

/-- The flag asks for the value under the name: it has that name, is not excluded, and its text
denotes the value. -/
def Asks (name : FlagName) (flag : Flag) (value : name.Value) : Prop :=
  flag.name = name ∧ flag.excluded = false ∧ name.Denotes flag.value value

/-- `LastAsked name flags slot` says that the slot holds what the last flag that asks under the name
asks for, and is empty if no flag does. -/
inductive LastAsked (name : FlagName) : List Flag → Option name.Value → Prop where
  | found (front flag back value) :
      flag.Asks name value → (∀ later ∈ back, ∀ other, ¬ later.Asks name other) →
      LastAsked name (front ++ flag :: back) (some value)
  | missing (flags) :
      (∀ flag ∈ flags, ∀ value, ¬ flag.Asks name value) → LastAsked name flags none

/-- The flag is excluded, or its text denotes nothing that its name could ask for. -/
def IsIdle (flag : Flag) : Prop :=
  flag.excluded = true ∨ ∀ value, ¬ flag.name.Denotes flag.value value

variable {name : FlagName}

/-- An idle flag asks for nothing under any name. -/
theorem IsIdle.not_asks {flag : Flag} (hidle : flag.IsIdle) (value : name.Value) :
    ¬ flag.Asks name value := by
  rintro ⟨rfl, hincluded, hdenotes⟩
  rcases hidle with hexcluded | hnothing
  · simp [hexcluded] at hincluded
  · exact hnothing value hdenotes

/-- What one flag asks for, as it is read. -/
theorem last_read_singleton_iff (flag : Flag) (value : name.Value) :
    lastRead name [flag] = some value ↔ flag.Asks name value := by
  rw [last_read_singleton, Asks, ← FlagName.value_iff, ← and_assoc]
  by_cases h : flag.name = name ∧ flag.excluded = false <;> simp [h]

/-- Nothing is read exactly if no flag asks. -/
theorem last_read_eq_none {flags : List Flag} :
    lastRead name flags = none ↔ ∀ flag ∈ flags, ∀ value, ¬ flag.Asks name value := by
  induction flags with
  | nil => simp [lastRead, named]
  | cons flag rest ih =>
      have hone : lastRead name [flag] = none ↔ ∀ value, ¬ flag.Asks name value := by
        simp only [Option.eq_none_iff_forall_ne_some, ne_eq, last_read_singleton_iff]
      rw [← List.singleton_append, last_read_append, Option.or_eq_none_iff, ih, hone]
      simp only [List.singleton_append, List.forall_mem_cons]
      exact and_comm

/-- What the last flag asks for is what is read. -/
theorem LastAsked.read {flags : List Flag} {slot : Option name.Value}
    (h : LastAsked name flags slot) : lastRead name flags = slot := by
  cases h with
  | found front flag back value hasks hlater =>
      rw [← List.singleton_append, last_read_append, last_read_append, last_read_eq_none.2 hlater,
        (last_read_singleton_iff flag value).2 hasks]
      rfl
  | missing _ hnone => exact last_read_eq_none.2 hnone

/-- What is read is what the last flag asks for. -/
theorem last_asked_read (name : FlagName) (flags : List Flag) :
    LastAsked name flags (lastRead name flags) := by
  induction flags with
  | nil => exact .missing [] (by simp)
  | cons flag rest ih =>
      rw [← List.singleton_append, last_read_append]
      cases hrest : lastRead name rest with
      | some value =>
          rw [hrest] at ih
          cases ih with
          | found front asking back _ hasks hlater =>
              exact .found (flag :: front) asking back value hasks hlater
      | none =>
          have hlater := last_read_eq_none.1 hrest
          cases hflag : lastRead name [flag] with
          | some value =>
              exact .found [] flag rest value ((last_read_singleton_iff _ _).1 hflag) hlater
          | none =>
              refine .missing _ (last_read_eq_none.1 ?_)
              rw [last_read_append, hrest, hflag]
              rfl

/-- The filter of a name is what the last flag that asks under it asks for. -/
theorem last_asked_iff {flags : List Flag} {slot : Option name.Value} :
    LastAsked name flags slot ↔ lastRead name flags = slot :=
  ⟨LastAsked.read, fun h => h ▸ last_asked_read name flags⟩

/-- No two values can be the one that is asked for last. -/
theorem LastAsked.unique {flags : List Flag} {slot other : Option name.Value}
    (h : LastAsked name flags slot) (hother : LastAsked name flags other) : slot = other :=
  h.read.symm.trans hother.read

/-- A flag that asks for a value is the last one to do so if none of its name is included behind
it. -/
theorem Asks.last_asked {flag : Flag} {value : name.Value} (hasks : flag.Asks name value)
    (front : List Flag) {back : List Flag}
    (hback : ∀ later ∈ back, later.name = name → later.excluded = true) :
    LastAsked name (front ++ flag :: back) (some value) := by
  refine .found front flag back value hasks fun later hlater other hother => ?_
  obtain ⟨hname, hincluded, _⟩ := hother
  rw [hback later hlater hname] at hincluded
  cases hincluded

/-- An idle flag may be left out. -/
theorem IsIdle.last_read {flag : Flag} (hidle : flag.IsIdle) (front back : List Flag) :
    lastRead name (front ++ flag :: back) = lastRead name (front ++ back) := by
  have hnone : lastRead name [flag] = none :=
    last_read_eq_none.2 fun _ hmem value => List.mem_singleton.1 hmem ▸ hidle.not_asks value
  rw [← List.singleton_append, last_read_append, last_read_append, last_read_append, hnone,
    Option.or_none]

/-- Flags that differ in name or side are never of one name on one side, so their order does not
matter. -/
theorem named_swap {left right : Flag}
    (hdiffer : left.name ≠ right.name ∨ left.excluded ≠ right.excluded) (excluded : Bool)
    (front back : List Flag) :
    named name excluded (front ++ right :: left :: back) =
      named name excluded (front ++ left :: right :: back) := by
  unfold named
  rw [List.filter_append, List.filter_append]
  by_cases hleft : left.name = name ∧ left.excluded = excluded
  · have hright : ¬ (right.name = name ∧ right.excluded = excluded) := by
      rintro ⟨rfl, rfl⟩
      rcases hdiffer with h | h
      · exact h hleft.1
      · exact h hleft.2
    simp [hleft, hright]
  · by_cases hright : right.name = name ∧ right.excluded = excluded <;> simp [hleft, hright]

end Flag

/-- The filters that follow the flags of their own name alone, each as the last such flag asks. -/
structure Filters.FollowLast (flags : List Flag) (filters : Filters) : Prop where
  user : Flag.LastAsked .user flags filters.user
  parent : Flag.LastAsked .inQuestion flags filters.parent
  minVotes : Flag.LastAsked .minVotes flags filters.minVotes
  maxVotes : Flag.LastAsked .maxVotes flags filters.maxVotes
  minAnswers : Flag.LastAsked .minAnswers flags filters.minAnswers
  maxAnswers : Flag.LastAsked .maxAnswers flags filters.maxAnswers
  fromDate : Flag.LastAsked .fromDate flags filters.fromDate
  toDate : Flag.LastAsked .toDate flags filters.toDate

/-- The settled filters follow any list of flags of which the same is read. -/
theorem Filters.settled_follow_last {flags other : List Flag}
    (hread : ∀ name, Flag.lastRead name flags = Flag.lastRead name other) (tags : Terms)
    (offset : Int) : (Filters.settled flags tags offset).FollowLast other where
  user := Flag.last_asked_iff.2 (hread _).symm
  parent := Flag.last_asked_iff.2 (hread _).symm
  minVotes := Flag.last_asked_iff.2 (hread _).symm
  maxVotes := Flag.last_asked_iff.2 (hread _).symm
  minAnswers := Flag.last_asked_iff.2 (hread _).symm
  maxAnswers := Flag.last_asked_iff.2 (hread _).symm
  fromDate := Flag.last_asked_iff.2 (hread _).symm
  toDate := Flag.last_asked_iff.2 (hread _).symm

/-- Searches of which the same is read and whose fields have the same terms are the same. -/
theorem SearchRecord.build_congr {flags other : List Flag}
    (hread : ∀ name, Flag.lastRead name flags = Flag.lastRead name other)
    (htitle : Terms.ofFlags .title flags = Terms.ofFlags .title other)
    (hbody : Terms.ofFlags .body flags = Terms.ofFlags .body other) (buckets : Buckets)
    (offset : Int) : build flags buckets offset = build other buckets offset := by
  have honly : OnlyQuestions flags buckets.tags ↔ OnlyQuestions other buckets.tags := by
    simp only [OnlyQuestions, hread, htitle]
  have htype : PostType.settled flags buckets.tags = PostType.settled other buckets.tags := by
    simp only [PostType.settled, honly, hread]
  have hsettled : Filters.settled flags buckets.tags offset =
      Filters.settled other buckets.tags offset := by
    simp only [Filters.settled, Filters.ofFlags, htype, hread]
  have hcandidates : candidates flags buckets = candidates other buckets := by
    simp only [candidates, htitle, hbody]
  rw [build_eq, build_eq, hsettled, hcandidates]

/-- In every record of a search the identifiers, bounds and dates are what the last flag asks for
among those of the right name that are included and whose text denotes a value. An idle flag
changes none of them, wherever it stands, and unless it is for a field it changes nothing at all.
Neighbours that differ in name or side may change places. -/
theorem last_flag_wins (flags : List Flag) (buckets : Buckets) (offset : Int) :
    (∀ record ∈ SearchRecord.build flags buckets offset, record.filters.FollowLast flags) ∧
    (∀ front flag back, flags = front ++ flag :: back → flag.IsIdle →
      (∀ record ∈ SearchRecord.build flags buckets offset,
        record.filters.FollowLast (front ++ back)) ∧
      (flag.name ≠ .title → flag.name ≠ .body →
        SearchRecord.build (front ++ back) buckets offset =
          SearchRecord.build flags buckets offset)) ∧
    ∀ front left right back, flags = front ++ left :: right :: back →
      left.name ≠ right.name ∨ left.excluded ≠ right.excluded →
      SearchRecord.build (front ++ right :: left :: back) buckets offset =
        SearchRecord.build flags buckets offset := by
  refine ⟨?_, ?_, ?_⟩
  · intro record hrecord
    rw [SearchRecord.filters_of_mem_build hrecord]
    exact Filters.settled_follow_last (fun _ => rfl) ..
  · rintro front flag back rfl hidle
    refine ⟨fun record hrecord => ?_, fun htitle hbody => ?_⟩
    · rw [SearchRecord.filters_of_mem_build hrecord]
      exact Filters.settled_follow_last (fun _ => hidle.last_read front back) ..
    · have hnamed : ∀ name, flag.name ≠ name →
          Terms.ofFlags name (front ++ back) = Terms.ofFlags name (front ++ flag :: back) := by
        intro name hname
        simp [Terms.ofFlags, Flag.named, List.filter_append, hname]
      exact SearchRecord.build_congr (fun _ => (hidle.last_read front back).symm)
        (hnamed _ htitle) (hnamed _ hbody) ..
  · rintro front left right back rfl hdiffer
    have hread : ∀ name, Flag.lastRead name (front ++ right :: left :: back) =
        Flag.lastRead name (front ++ left :: right :: back) := by
      simp only [Flag.lastRead, Flag.named_swap hdiffer, implies_true]
    have hterms : ∀ name, Terms.ofFlags name (front ++ right :: left :: back) =
        Terms.ofFlags name (front ++ left :: right :: back) := by
      simp only [Terms.ofFlags, Flag.named_swap hdiffer, implies_true]
    exact SearchRecord.build_congr hread (hterms _) (hterms _) ..

/-- A bound that is no number, after a good one, is as if it were not there, and the flags around
it may change places. -/
theorem last_flag_wins_bad_bound :
    let good : Flag := ⟨.minVotes, "5".toList, false⟩
    let bad : Flag := ⟨.minVotes, "1.5".toList, false⟩
    let date : Flag := ⟨.fromDate, [], false⟩
    let record : SearchRecord := ⟨{}, none, { minVotes := some 5, fromDate := some [] }⟩
    record ∈ SearchRecord.build [good, bad, date] {} 0 ∧
      record.filters.FollowLast [good, bad, date] ∧ record.filters.FollowLast [good, date] ∧
      SearchRecord.build [good, date] {} 0 = SearchRecord.build [good, bad, date] {} 0 ∧
      SearchRecord.build [good, date, bad] {} 0 = SearchRecord.build [good, bad, date] {} 0 := by
  intro good bad date record
  have hrecord : record ∈ SearchRecord.build [good, bad, date] {} 0 := by decide +kernel
  have hidle : bad.IsIdle := by
    refine Or.inr fun value hdenotes => ?_
    have hread := (FlagName.value_iff .minVotes).2 hdenotes
    have hnone : FlagName.minVotes.value? bad.value = none := by decide +kernel
    rw [hnone] at hread
    exact absurd hread (by simp)
  obtain ⟨hlast, hremove, hswap⟩ := last_flag_wins [good, bad, date] {} 0
  obtain ⟨hwithout, hsame⟩ := hremove [good] bad [date] rfl hidle
  exact ⟨hrecord, hlast record hrecord, hwithout record hrecord, hsame (by decide) (by decide),
    hswap [good] bad date [] rfl (Or.inl (by decide))⟩

end ForumQuery
