import ForumQuery.SearchRecord

/-!
# From flags to records

The flags of a query are read in order. Those for the title or the body add terms to that field;
the others set filters, a later one replacing an earlier one of the same name, and are dropped if
they are rejected. Together with the terms of the search words this gives the records: one for each
field that has terms, or a single one without terms if only filters are set.
-/

namespace ForumQuery

/-- A flag that set nothing, and why. -/
structure DroppedFlag where
  flag : Flag
  rejection : Rejection
  deriving DecidableEq

/-- What a list of flags comes to. -/
structure Resolution where
  filters : Filters
  title : Terms := {}
  body : Terms := {}
  dropped : List DroppedFlag := []
  deriving DecidableEq

namespace Resolution

/-- With one more flag. -/
def add (resolution : Resolution) (flag : Flag) : Resolution :=
  match flag.name with
  | .title => { resolution with title := resolution.title.add flag.value flag.excluded }
  | .body => { resolution with body := resolution.body.add flag.value flag.excluded }
  | _ =>
      match resolution.filters.apply flag with
      | .ok filters => { resolution with filters := filters }
      | .error rejection =>
          { resolution with dropped := resolution.dropped ++ [⟨flag, rejection⟩] }

/-- What the flags come to in the time zone `offset` seconds east of UTC. -/
def ofFlags (flags : List Flag) (offset : Int) : Resolution :=
  flags.foldl add { filters := { timeZoneOffset := offset } }

/-- Tags, titles and numbers of answers belong to questions only. -/
def asksForQuestions (resolution : Resolution) (tags : Terms) : Bool :=
  tags.isPresent || resolution.title.isPresent || resolution.filters.minAnswers.isSome
    || resolution.filters.maxAnswers.isSome

/-- The filters of all records: questions only if the query asks for something that only questions
have; and then a parent is itself the question looked for. -/
def settledFilters (resolution : Resolution) (tags : Terms) : Filters :=
  let filters :=
    if resolution.asksForQuestions tags then
      { resolution.filters with postType := some .question }
    else
      resolution.filters
  if filters.postType = some .question then
    { filters with ids := filters.ids ++ filters.parent.toList }
  else
    filters

/-- The records, in the order plain, tag, body, title. -/
def records (resolution : Resolution) (buckets : Buckets) : List SearchRecord :=
  let base : SearchRecord := { filters := resolution.settledFilters buckets.tags }
  let candidates : List (Field × Terms) :=
    [(.plain, buckets.plain), (.tag, buckets.tags), (.body, resolution.body),
      (.title, resolution.title)]
  match candidates.filter (fun candidate => candidate.2.isPresent) with
  | [] => if base.hasScalarFilters then [base] else []
  | present => present.map fun candidate => base.withTerms candidate.1 candidate.2

end Resolution

/-- The records of a list of flags and the terms of the search words. -/
def SearchRecord.build (flags : List Flag) (buckets : Buckets) (offset : Int) :
    List SearchRecord :=
  (Resolution.ofFlags flags offset).records buckets

end ForumQuery
