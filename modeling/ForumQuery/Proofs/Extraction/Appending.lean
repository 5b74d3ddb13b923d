import ForumQuery.Extraction
import ForumQuery.Proofs.Extraction.Heads

/-!
# Tokens read apart

A flag without a value takes the next token as its value, whatever that token is. This is the only
way in which a token changes how others are read: `of_tokens_append` says that tokens are read apart
from those behind them, if the last of them is no flag without a value. `Flag.valueless_iff` says
what such a flag looks like.
-/

namespace ForumQuery

/-- The token is shaped like a flag and nothing follows its colon. -/
def Flag.IsValueless (token : Text) : Prop :=
  ∃ head, Flag.head? token = some head ∧ head.suffix = []

/-- A flag without a value is a name in some ASCII case and a colon, with or without a dash in
front. -/
theorem Flag.valueless_iff {token : Text} :
    Flag.IsValueless token ↔ ∃ excluded text, ∃ name : FlagName,
      text.map Char.toLower = name.text ∧ token = Flag.sign excluded ++ text ++ [':'] := by
  constructor
  · rintro ⟨head, hhead, hsuffix⟩
    obtain ⟨text, hspelled, htoken⟩ := Flag.head_some_iff.1 hhead
    exact ⟨head.excluded, text, head.name, hspelled, by rw [htoken, hsuffix]⟩
  · rintro ⟨excluded, text, name, hspelled, rfl⟩
    exact ⟨⟨name, excluded, []⟩, Flag.head_spelled hspelled excluded [], rfl⟩

/-- A token that is no flag takes no value. -/
theorem Flag.not_valueless_of_head_none {token : Text} (h : Flag.head? token = none) :
    ¬ Flag.IsValueless token := by
  rintro ⟨head, hhead, _⟩
  simp [h] at hhead

namespace Extraction

/-- With the words and flags of another extraction behind. -/
def append (front back : Extraction) : Extraction :=
  ⟨front.words ++ back.words, front.flags ++ back.flags⟩

theorem add_token_append (token : Text) (front back : Extraction) :
    (front.append back).addToken token = (front.addToken token).append back := by
  simp [append, addToken]

theorem add_flag_append (flag : Flag) (front back : Extraction) :
    (front.append back).addFlag flag = (front.addFlag flag).append back := by
  simp [append, addFlag]

/-- A token that is no flag gives its search word and leaves the others as they are. -/
theorem of_tokens_word {token : Text} (h : Flag.head? token = none) (rest : List Text) :
    ofTokens (token :: rest) = (ofTokens rest).addToken token := by
  rw [ofTokens, h]

/-- A flag with a value of its own leaves the other tokens as they are. -/
theorem of_tokens_flag {token : Text} {head : Flag.Head} (h : Flag.head? token = some head)
    (hsuffix : head.suffix ≠ []) (rest : List Text) :
    ofTokens (token :: rest) = (ofTokens rest).addFlag (head.flag head.suffix) := by
  rw [ofTokens, h]
  simp only [if_pos hsuffix]

/-- A flag without a value takes the next token. -/
theorem of_tokens_valueless {token : Text} {head : Flag.Head} (h : Flag.head? token = some head)
    (hsuffix : head.suffix = []) (value : Text) (rest : List Text) :
    ofTokens (token :: value :: rest) = (ofTokens rest).addFlag (head.flag value) := by
  rw [ofTokens, h]
  simp only [hsuffix, ne_eq, not_true_eq_false, if_false]

/-- A flag without a value that has no token behind it is read as a word. -/
theorem of_tokens_last {token : Text} {head : Flag.Head} (h : Flag.head? token = some head)
    (hsuffix : head.suffix = []) : ofTokens [token] = addToken token ⟨[], []⟩ := by
  rw [ofTokens, h]
  simp only [hsuffix, ne_eq, not_true_eq_false, if_false]

/-- Tokens are read apart from those behind them, unless the last one takes the first of these as
its value. -/
theorem of_tokens_append {front : List Text}
    (hlast : ∀ token, front.getLast? = some token → ¬ Flag.IsValueless token) (back : List Text) :
    ofTokens (front ++ back) = (ofTokens front).append (ofTokens back) := by
  fun_induction ofTokens front with
  | case1 => rfl
  | case2 token rest hhead ih =>
      rw [List.cons_append, of_tokens_word hhead, ih, add_token_append]
      intro last hrest
      exact hlast last (by rw [List.getLast?_cons, hrest]; rfl)
  | case3 token rest head hhead hsuffix ih =>
      rw [List.cons_append, of_tokens_flag hhead hsuffix, ih, add_flag_append]
      intro last hrest
      exact hlast last (by rw [List.getLast?_cons, hrest]; rfl)
  | case4 token head hhead hsuffix =>
      -- Alone, this token is a word; with others behind it takes the first of them.
      exact absurd ⟨head, hhead, Decidable.not_not.1 hsuffix⟩ (hlast token rfl)
  | case5 token head hhead hsuffix value later ih =>
      have hnil := Decidable.not_not.1 hsuffix
      rw [List.cons_append, List.cons_append, of_tokens_valueless hhead hnil, ih, add_flag_append]
      intro last hrest
      exact hlast last (by rw [List.getLast?_cons_cons, List.getLast?_cons, hrest]; rfl)

/-- Groups of tokens none of which ends with a flag without a value are read apart. -/
theorem of_tokens_flat_map {α : Type} {groups : List α} {tokens : α → List Text}
    (hlast : ∀ group ∈ groups, ∀ token, (tokens group).getLast? = some token →
      ¬ Flag.IsValueless token) :
    ofTokens (groups.flatMap tokens) =
      ⟨groups.flatMap fun group => (ofTokens (tokens group)).words,
        groups.flatMap fun group => (ofTokens (tokens group)).flags⟩ := by
  induction groups with
  | nil => rfl
  | cons group groups ih =>
      have hgroups := ih fun other hother => hlast other (List.mem_cons_of_mem _ hother)
      rw [List.flatMap_cons, of_tokens_append (hlast group List.mem_cons_self), hgroups]
      rfl

end Extraction

end ForumQuery
