import ForumQuery.Extraction
import ForumQuery.Resolution
import ForumQuery.Token

/-!
# Reading a query

A query is read in stages: tokens, then flags and words, then the terms of the words and what the
flags come to, and at last the records.
-/

namespace ForumQuery.Query

/-- All stages of reading one query. -/
structure Reading where
  tokens : List Text
  extraction : Extraction
  buckets : Buckets
  resolution : Resolution
  records : List SearchRecord

/-- Read a query in the time zone `offset` seconds east of UTC. -/
def read (query : Text) (offset : Int) : Reading :=
  let tokens := Token.tokens query
  let extraction := Extraction.ofTokens tokens
  let buckets := Buckets.ofWords extraction.words
  let resolution := Resolution.ofFlags extraction.flags offset
  ⟨tokens, extraction, buckets, resolution, resolution.records buckets⟩

/-- The search records of a query. -/
def parse (query : Text) (offset : Int) : List SearchRecord :=
  (read query offset).records

end ForumQuery.Query
