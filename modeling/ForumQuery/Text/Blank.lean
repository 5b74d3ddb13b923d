import ForumQuery.Text.Basic
import ForumQuery.Text.Ranges

/-!
# Blanks and words

A blank is a character with the Unicode property White_Space. The words of a text are its
maximal runs of other characters.

The main statements are `words_append_blank` and `words_of_no_blank`: a run of other characters that
a blank ends is the first word, and a text that is such a run is its only word.
-/

namespace ForumQuery.Text

/-- The code points with the property White_Space, in ascending ranges. -/
def blankRanges : List (Nat × Nat) :=
  [(0x9, 0xD), (0x20, 0x20), (0x85, 0x85), (0xA0, 0xA0), (0x1680, 0x1680), (0x2000, 0x200A),
    (0x2028, 0x2029), (0x202F, 0x202F), (0x205F, 0x205F), (0x3000, 0x3000)]

/-- White space of any kind, line ends included. -/
def isBlank (c : Char) : Bool :=
  inRanges blankRanges c.toNat

theorem blank_ranges_ascending : ascending blankRanges = true := by decide

example : codePointCount blankRanges = 25 := by decide

example : (List.range 256).all (fun n =>
    !(Char.ofNat n).isWhitespace || isBlank (Char.ofNat n)) := by
  decide +kernel

/-- The run of non-blank characters at the front, and the words after that run. -/
def leadingWord : Text → Text × List Text
  | [] => ([], [])
  | c :: rest =>
      let (run, later) := leadingWord rest
      if isBlank c then
        ([], if run.isEmpty then later else run :: later)
      else
        (c :: run, later)

/-- The maximal runs of non-blank characters, in order. -/
def words (text : Text) : List Text :=
  let (run, later) := leadingWord text
  if run.isEmpty then later else run :: later

/-- The text without the blanks at both ends. -/
def trim (text : Text) : Text :=
  dropEndWhile isBlank (text.dropWhile isBlank)

theorem words_nil : words [] = [] := rfl

/-- A non-blank run is taken over into the leading word character by character. -/
theorem leadingWord_append {run : Text} (h : ∀ c ∈ run, isBlank c = false) (text : Text) :
    leadingWord (run ++ text) = (run ++ (leadingWord text).1, (leadingWord text).2) := by
  induction run with
  | nil => rfl
  | cons c run ih =>
      have hc : isBlank c = false := h c (by simp)
      have hrun := ih fun d hd => h d (by simp [hd])
      simp [leadingWord, hc, hrun]

theorem words_append_blank {run : Text} {c : Char} (hrun : ∀ d ∈ run, isBlank d = false)
    (hne : run ≠ []) (hc : isBlank c = true) (text : Text) :
    words (run ++ c :: text) = run :: words text := by
  simp [words, leadingWord_append hrun, leadingWord, hc, hne]

/-- A text without blanks is one word. -/
theorem words_of_no_blank {run : Text} (hrun : ∀ d ∈ run, isBlank d = false) (hne : run ≠ []) :
    words run = [run] := by
  have h := leadingWord_append hrun []
  simp only [List.append_nil] at h
  simp [words, h, leadingWord, hne]

end ForumQuery.Text
