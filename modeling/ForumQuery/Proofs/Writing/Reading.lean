import ForumQuery.Proofs.Writing.Item
import ForumQuery.Proofs.Writing.Parts

/-!
# How items are read

Each item is read as one search word or as one flag, apart from its neighbours (`Item.reads`). So
the words and flags of a written query are those of its items, each in order (`of_tokens_write`).
-/

namespace ForumQuery.Writing

/-- The search word that the item is read as. -/
def Item.word? : Item → Option Word
  | .word excluded value => some ⟨value.text, excluded⟩
  | .phrase excluded value => some ⟨value.text.quoted, excluded⟩
  | .tag excluded value => some ⟨'#' :: value.text, excluded⟩
  | _ => none

/-- The flag that the item is read as. -/
def Item.flag? : Item → Option Flag
  | .fieldText field excluded value => some ⟨field.flagName, value.text, excluded⟩
  | .postType value => some ⟨.is, value.text, false⟩
  | .user value => some ⟨.user, value.text, false⟩
  | .inQuestion value => some ⟨.inQuestion, value.text, false⟩
  | .count bound value => some ⟨bound.flagName, Text.decimal value.toInt, false⟩
  | .date bound value => some ⟨bound.flagName, value.text, false⟩
  | _ => none

/-- Whatever is valid as an identifier stands loose. -/
theorem id_plain {kind : IdKind} (id : Id kind) :
    id.text ≠ [] ∧ ∀ c ∈ id.text, Text.isBlank c = false ∧ c ≠ '"' := by
  have hvalid := id.valid
  simp only [isId, Bool.and_eq_true, beq_iff_eq, List.all_eq_true] at hvalid
  refine ⟨?_, fun c hc => Text.plain_of_alphanum (hvalid.2 c hc)⟩
  intro h
  simp [h] at hvalid

/-- A number stands loose. -/
theorem decimal_plain (n : Int) :
    Text.decimal n ≠ [] ∧ ∀ c ∈ Text.decimal n, Text.isBlank c = false ∧ c ≠ '"' := by
  have hdigits : ∀ c ∈ Text.digits n.natAbs, Text.isBlank c = false ∧ c ≠ '"' := by
    intro c hc
    apply Text.plain_of_alphanum
    simp [Char.isAlphanum, Text.isDigit_of_mem_digits hc]
  unfold Text.decimal
  split
  · refine ⟨by simp, fun c hc => ?_⟩
    rcases List.mem_cons.1 hc with rfl | hc
    · exact ⟨by decide, by decide⟩
    · exact hdigits c hc
  · exact ⟨Text.digits_ne_nil _, hdigits⟩

/-- A plain word is read as a word. -/
theorem PlainWord.reads (word : PlainWord) (excluded : Bool) :
    ReadsAs (Flag.sign excluded ++ word.text) ⟨[⟨word.text, excluded⟩], []⟩ := by
  refine reads_word word.nonempty word.unbroken word.quoteFree (Word.strip_of_value word.kept)
    (fun hcolon => ?_) excluded
  cases hread : FlagName.read? (word.text.takeWhile (· ≠ ':')) with
  | none => rfl
  | some name => exact absurd (FlagName.read_name_iff.1 hread) (word.notFlag hcolon name)

theorem TagName.is_name (name : TagName) : Tag.isName name.text = true := by
  have h := name.valid
  simpa [Tag.isTag, Tag.name?, apply_ite Option.isSome] using h

/-- A tag is read as a word with its hash. -/
theorem TagName.reads (name : TagName) (excluded : Bool) :
    ReadsAs (Flag.sign excluded ++ '#' :: name.text) ⟨[⟨'#' :: name.text, excluded⟩], []⟩ := by
  have hplain := Tag.plain_of_mem_name name.is_name
  have hcolon : ':' ∉ '#' :: name.text := by
    simpa using fun h => (hplain ':' h).2.2 rfl
  have hquote : '"' ∉ '#' :: name.text := by
    simpa using fun h => (hplain '"' h).2.1 rfl
  have hblank : ∀ c ∈ '#' :: name.text, Text.isBlank c = false := by
    simpa using ⟨by decide, fun c hc => (hplain c hc).1⟩
  exact reads_word (by simp) hblank hquote (Tag.strip_tag name.is_name) (absurd · hcolon) excluded

/-- What the item is read as: one word or one flag. -/
def Item.extraction (item : Item) : Extraction :=
  ⟨item.word?.toList, item.flag?.toList⟩

/-- Every item is read apart from its neighbours. -/
theorem Item.reads (item : Item) : ReadsAs item.text item.extraction := by
  cases item with
  | word excluded value => exact value.reads excluded
  | phrase excluded value => exact reads_phrase value.quoteFree excluded
  | tag excluded value => exact value.reads excluded
  | fieldText field excluded value =>
      exact reads_quoted_flag field.flagName value.quoteFree excluded
  | postType value =>
      have hne : value.text ≠ [] := by cases value <;> decide
      have hplain : (value.text.all fun c => !Text.isBlank c && c ≠ '"') = true := by
        cases value <;> decide
      exact reads_loose_flag .is hne (by simpa using hplain)
  | user value => exact reads_loose_flag .user (id_plain value).1 (id_plain value).2
  | inQuestion value => exact reads_loose_flag .inQuestion (id_plain value).1 (id_plain value).2
  | count bound value =>
      exact reads_loose_flag bound.flagName (decimal_plain _).1 (decimal_plain _).2
  | date bound value => exact reads_quoted_flag bound.flagName value.quoteFree false

/-- The words and flags of a written query are those of its items. -/
theorem of_tokens_write (items : List Item) :
    Extraction.ofTokens (Token.tokens (write items)) =
      ⟨items.filterMap Item.word?, items.filterMap Item.flag?⟩ := by
  rw [write, of_tokens_joined fun item _ => item.reads]
  simp only [Item.extraction, List.filterMap_eq_flatMap_toList]

end ForumQuery.Writing
