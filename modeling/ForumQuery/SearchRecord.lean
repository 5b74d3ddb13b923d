import ForumQuery.Buckets
import ForumQuery.Filters

/-!
# Search records

A record is one request to the search engine: terms, the field of a post in which they are looked
up, and filters. A record without a field asks for all posts that pass its filters.
-/

namespace ForumQuery

/-- Where the terms of a record are looked up. The last two are kept for searches that start from
a post; no query asks for them. -/
inductive Field where
  | plain
  | title
  | tag
  | body
  | similar
  | link
  deriving DecidableEq

/-- The field in lower case. -/
def Field.text : Field → Text
  | .plain => "plain".toList
  | .title => "title".toList
  | .tag => "tag".toList
  | .body => "body".toList
  | .similar => "similar".toList
  | .link => "link".toList

/-- One request to the search engine. -/
structure SearchRecord where
  terms : Terms := {}
  field : Option Field := none
  filters : Filters := {}
  deriving DecidableEq

namespace SearchRecord

/-- Some filter other than the time zone is set. -/
def hasScalarFilters (record : SearchRecord) : Bool :=
  record.filters.isNarrowing

/-- The two records differ at most in their terms and the field of these. -/
def sameFilters (left right : SearchRecord) : Bool :=
  left.filters.agree right.filters

/-- The record with other terms, looked up in the given field. -/
def withTerms (record : SearchRecord) (field : Field) (terms : Terms) : SearchRecord :=
  { record with terms := terms, field := some field }

end SearchRecord

end ForumQuery
