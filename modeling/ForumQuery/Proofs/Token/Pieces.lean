import ForumQuery.Proofs.Token.Cutting

/-!
# The pieces of a query between its quotes

The tokens of a query can be told without scanning it. Its quotes cut it into pieces, and these are
by turns loose text and the text of a phrase; only the last piece has no quote behind it. `ofPieces`
gives the tokens of such pieces, and `tokens_eq_of_pieces` says that they are the tokens of the
query.
-/

namespace ForumQuery.Token

/-- The pieces of a query between its quotes. -/
def pieces (query : Text) : List Text :=
  List.splitOn '"' query

/-- The tokens of the pieces between quotes. Loose text splits at blanks, and a phrase is one token
with its quotes and the dash before them. A last phrase that has no quote behind it splits at
blanks, its quote and dash still in front. -/
def ofPieces : List Text → List Text
  | [] => []
  | [loose] => Text.words loose
  | [lead, opened] => Text.words (beforeDash lead) ++ Text.words (dash lead ++ '"' :: opened)
  | lead :: phrase :: next :: rest =>
      Text.words (beforeDash lead) ++
        (dash lead ++ '"' :: (phrase ++ ['"'])) :: ofPieces (next :: rest)

/-- No piece has a quote in it. -/
theorem pieces_quote_free (query : Text) : ∀ piece ∈ pieces query, '"' ∉ piece := by
  induction query with
  | nil => simp [pieces]
  | cons c rest ih =>
      intro piece h
      rw [pieces, List.splitOn_cons_eq_if_modifyHead] at h
      split at h
      · rcases List.mem_cons.1 h with rfl | hlater
        · simp
        · exact ih piece hlater
      · next hc =>
          -- Any other character goes to the front of the first piece.
          obtain ⟨first, later, hsplit⟩ :=
            List.exists_cons_of_ne_nil (List.splitOn_ne_nil '"' rest)
          rw [pieces, hsplit] at ih
          rw [hsplit, List.modifyHead_cons] at h
          rcases List.mem_cons.1 h with rfl | hlater
          · rw [List.mem_cons, not_or]
            exact ⟨fun hquote => hc (beq_iff_eq.2 hquote.symm), ih first List.mem_cons_self⟩
          · exact ih piece (List.mem_cons_of_mem _ hlater)

/-- Quotes between the pieces give back the query. -/
theorem intercalate_pieces (query : Text) : List.intercalate ['"'] (pieces query) = query :=
  List.intercalate_splitOn '"'

/-- What is put together from pieces without quotes has the tokens of the pieces. -/
theorem tokens_intercalate {texts : List Text} (hfree : ∀ text ∈ texts, '"' ∉ text) :
    tokens (List.intercalate ['"'] texts) = ofPieces texts := by
  fun_induction ofPieces texts with
  | case1 => rfl
  | case2 loose =>
      rw [List.intercalate_singleton, tokens_loose (hfree loose List.mem_cons_self)]
  | case3 lead opened =>
      have hlead : '"' ∉ lead := hfree lead (by simp)
      have hopened : '"' ∉ opened := hfree opened (by simp)
      rw [List.intercalate_cons_cons, List.intercalate_singleton, List.append_assoc,
        List.singleton_append, tokens_opened hlead hopened]
  | case4 lead phrase next rest ih =>
      have hlead : '"' ∉ lead := hfree lead (by simp)
      have hphrase : '"' ∉ phrase := hfree phrase (by simp)
      have hrest := ih fun text htext =>
        hfree text (List.mem_cons_of_mem _ (List.mem_cons_of_mem _ htext))
      rw [List.intercalate_cons_cons, List.intercalate_cons_cons, ← hrest,
        ← tokens_phrase hlead hphrase]
      simp

/-- The tokens of a query are those of its pieces between the quotes. -/
theorem tokens_eq_of_pieces (query : Text) : tokens query = ofPieces (pieces query) := by
  rw [← tokens_intercalate (pieces_quote_free query), intercalate_pieces]

example : ofPieces (pieces "title:-\"a b\"\"\" -\"c d".toList) =
    ["title:".toList, "-\"a b\"".toList, "\"\"".toList, "-\"c".toList, "d".toList] := by
  decide

end ForumQuery.Token
