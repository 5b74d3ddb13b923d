import ForumQuery.Flag
import ForumQuery.Word

/-!
# Flags and words among the tokens

The tokens are read from the left. A token shaped like a flag is a flag; if nothing follows its
colon, the whole next token is its value, whatever that token looks like. Any other token, also a
flag without a value at the end of the query, gives its search word.
-/

namespace ForumQuery

/-- The search words and the flags of a query, each in order. -/
structure Extraction where
  words : List Word
  flags : List Flag
  deriving DecidableEq

namespace Extraction

/-- With the search word of a token, if any, in front. -/
def addToken (token : Text) (later : Extraction) : Extraction :=
  { later with words := (Word.ofToken? token).toList ++ later.words }

/-- With a flag in front. -/
def addFlag (flag : Flag) (later : Extraction) : Extraction :=
  { later with flags := flag :: later.flags }

/-- The words and flags of a list of tokens. -/
def ofTokens : List Text → Extraction
  | [] => ⟨[], []⟩
  | token :: rest =>
      match Flag.head? token with
      | none => (ofTokens rest).addToken token
      | some head =>
          if head.suffix ≠ [] then
            (ofTokens rest).addFlag (head.flag head.suffix)
          else
            match rest with
            | [] => addToken token ⟨[], []⟩
            | value :: later => (ofTokens later).addFlag (head.flag value)

end Extraction

end ForumQuery
