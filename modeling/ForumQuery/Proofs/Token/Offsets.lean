import ForumQuery.Proofs.Text.Boundaries
import ForumQuery.Proofs.Token.Scanner
import Mathlib.Data.List.Induction

/-!
# The offsets of the scanner

The scanner works with UTF-8 offsets, and cuts the query at them whenever it comes to a quote and
once more at the end. `Scan` is where it stands between two characters, and `Scan.Placed` its
invariant: what has been given out ends where the held text begins, and what is held ends at the
offset reached. Every character keeps it (`Scan.Placed.read_other`, `Scan.Placed.opens`,
`Scan.Placed.closes`), so it holds after any part of a query (`Scan.placed_after`).

Hence all offsets that the query is cut at are in order and stand between characters, at every quote
(`Scan.quote_within`) and at the end (`Scan.end_within`).
-/

namespace ForumQuery.Token

/-- The offset from which on nothing has been given out. -/
def Mode.offset : Mode → Nat
  | .outside cut => cut
  | .inside start => start

/-- The text that is held, loose or not. -/
def Held.text : Held → Text
  | .loose text => text
  | .phrase text => text

/-- With one more character. -/
def Held.add (held : Held) (c : Char) : Held :=
  match held with
  | .loose text => .loose (text ++ [c])
  | .phrase text => .phrase (text ++ [c])

theorem Held.text_add (held : Held) (c : Char) : (held.add c).text = held.text ++ [c] := by
  cases held <;> rfl

/-- Where the scanner stands: its mode, the character read last and the offset reached. -/
structure Scan where
  mode : Mode
  previous : Option Char
  position : Nat
  deriving DecidableEq

namespace Scan

/-- Before the first character. -/
def start : Scan :=
  ⟨.outside 0, none, 0⟩

/-- One character further on. -/
def read (scan : Scan) (c : Char) : Scan :=
  let next := scan.position + c.utf8Size
  if c = '"' then
    match scan.mode with
    | .outside cut => ⟨.inside (opening cut scan.previous scan.position), some c, next⟩
    | .inside _ => ⟨.outside next, some c, next⟩
  else
    ⟨scan.mode, some c, next⟩

/-- After this front part of a query. -/
def after (front : Text) : Scan :=
  front.foldl read start

/-- The stretches that are still to come from the rest of the query. -/
def stretches (scan : Scan) (rest : Text) : List Stretch :=
  stretchesFrom scan.mode scan.previous scan.position rest

/-- What comes after the next character comes also from here on, behind what that character gives
out. -/
theorem stretches_cons (scan : Scan) (c : Char) (rest : Text) :
    (scan.read c).stretches rest <:+ scan.stretches (c :: rest) := by
  obtain ⟨mode, previous, position⟩ := scan
  by_cases hc : c = '"'
  · cases mode <;> simp [stretches, stretchesFrom, read, hc]
  · simp [stretches, stretchesFrom, read, hc]

/-- The stretches of a query end with those that come after any front part of it. -/
theorem stretches_after (front rest : Text) :
    (after front).stretches rest <:+ Token.stretches (front ++ rest) := by
  induction front using List.reverseRecOn generalizing rest with
  | nil => exact List.suffix_rfl
  | append_singleton front c ih =>
      have hlater := (after front).stretches_cons c rest
      rw [after, List.foldl_concat, ← after, List.append_assoc, List.singleton_append]
      exact hlater.trans (ih (c :: rest))

/-- The invariant of the scanner: `given` has been given out, and what is held stands between its
end and the offset reached. Outside of phrases, a dash read last is the end of what is held. -/
inductive Placed (given : Text) : Held → Scan → Prop where
  | outside (held : Text) (previous : Option Char) :
      (previous = some '-' ↔ held.getLast? = some '-') →
      Placed given (.loose held)
        ⟨.outside (Text.byteLength given), previous, Text.byteLength (given ++ held)⟩
  | inside (held : Text) (previous : Option Char) :
      Placed given (.phrase held)
        ⟨.inside (Text.byteLength given), previous, Text.byteLength (given ++ held)⟩

variable {given held : Text} {scan : Scan}

/-- What is no quote is held. -/
theorem Placed.read_other {held : Held} (h : Placed given held scan) {c : Char} (hc : c ≠ '"') :
    Placed given (held.add c) (scan.read c) := by
  cases h with
  | outside =>
      rw [read, if_neg hc, byte_length_next]
      exact .outside _ _ (by simp)
  | inside =>
      rw [read, if_neg hc, byte_length_next]
      exact .inside _ _

/-- A quote outside of phrases gives out the loose text but for the dash before the quote. -/
theorem Placed.opens (h : Placed given (.loose held) scan) :
    Placed (given ++ beforeDash held) (.phrase (dash held ++ ['"'])) (scan.read '"') := by
  cases h with
  | outside _ previous hprevious =>
      simp only [read, if_true, opening_eq given held previous hprevious]
      rw [byte_length_next, given_before_dash]
      exact .inside _ _

/-- Right behind the last quote of a phrase nothing is held, not even a dash. -/
theorem Placed.behind_quote (given : Text) :
    Placed given (.loose [])
      ⟨.outside (Text.byteLength given), some '"', Text.byteLength given⟩ := by
  have hplaced : Placed given (.loose [])
      ⟨.outside (Text.byteLength given), some '"', Text.byteLength (given ++ [])⟩ :=
    .outside [] _ (by simp)
  rwa [List.append_nil] at hplaced

/-- A quote inside a phrase gives out the phrase with both quotes, and nothing is held. -/
theorem Placed.closes (h : Placed given (.phrase held) scan) :
    Placed (given ++ (held ++ ['"'])) (.loose []) (scan.read '"') := by
  cases h with
  | inside _ previous =>
      simp only [read, if_true, byte_length_next]
      exact .behind_quote _

/-- After every front part of a query the offsets are those of what is given out and held. -/
theorem placed_after (front : Text) :
    ∃ given held, front = given ++ Held.text held ∧ Placed given held (after front) := by
  induction front using List.reverseRecOn with
  | nil => exact ⟨[], .loose [], rfl, .outside [] none (by simp)⟩
  | append_singleton front c ih =>
      obtain ⟨given, held, hfront, hplaced⟩ := ih
      rw [after, List.foldl_concat, ← after]
      by_cases hc : c = '"'
      · subst hc
        cases held with
        | loose held =>
            refine ⟨_, _, ?_, hplaced.opens⟩
            rw [hfront, Held.text, Held.text, ← given_before_dash, List.append_assoc]
        | phrase held =>
            refine ⟨_, _, ?_, hplaced.closes⟩
            rw [hfront, Held.text, Held.text, List.append_nil, List.append_assoc]
      · refine ⟨_, _, ?_, hplaced.read_other hc⟩
        rw [hfront, Held.text_add, List.append_assoc]

theorem Placed.offset_eq {held : Held} (h : Placed given held scan) :
    scan.mode.offset = Text.byteLength given := by
  cases h <;> rfl

theorem Placed.position_eq {held : Held} (h : Placed given held scan) :
    scan.position = Text.byteLength (given ++ held.text) := by
  cases h <;> rfl

end Scan

/-- At a quote outside of phrases, the loose text from `cut` on ends in front of the phrase. A dash
before the quote was not given out, so the phrase opens at the dash. -/
structure OpensWithin (query : Text) (cut : Nat) (previous : Option Char) (position : Nat) :
    Prop where
  cut_le : cut ≤ opening cut previous position
  le_position : opening cut previous position ≤ position
  cut_boundary : query.IsBoundary cut
  opening_boundary : query.IsBoundary (opening cut previous position)
  position_boundary : query.IsBoundary position
  next_boundary : query.IsBoundary (position + 1)
  at_dash : previous = some '-' → 0 < position ∧ query.IsBoundary (position - 1) ∧
    cut ≤ position - 1 ∧ opening cut previous position = position - 1

/-- At a quote inside a phrase, the phrase ends behind the quote. -/
structure ClosesWithin (query : Text) (start position : Nat) : Prop where
  start_le : start ≤ position
  start_boundary : query.IsBoundary start
  position_boundary : query.IsBoundary position
  next_boundary : query.IsBoundary (position + 1)

namespace Scan

/-- The offsets used at a quote are in order and stand between characters. -/
def QuoteWithin (query : Text) (scan : Scan) : Prop :=
  match scan.mode with
  | .outside cut => OpensWithin query cut scan.previous scan.position
  | .inside start => ClosesWithin query start scan.position

variable {given held query rest : Text} {scan : Scan}

/-- A dash that was read last is held, and nothing before it was given out. -/
theorem Placed.at_dash (h : Placed given (.loose held) scan) (hdash : scan.previous = some '-') :
    ∃ lead, held = lead ++ ['-'] ∧ scan.position = Text.byteLength (given ++ lead) + 1 := by
  cases h with
  | outside _ previous hprevious =>
      obtain ⟨lead, rfl⟩ := List.getLast?_eq_some_iff.1 (hprevious.1 hdash)
      exact ⟨lead, rfl, (byte_length_next given lead '-').symm⟩

/-- The phrase opens where the loose text ends that is given out. -/
theorem Placed.opening_eq (h : Placed given (.loose held) scan) :
    opening scan.mode.offset scan.previous scan.position =
      Text.byteLength (given ++ beforeDash held) := by
  cases h with
  | outside _ previous hprevious => exact Token.opening_eq given held previous hprevious

/-- Around a quote behind this front part of the query there are boundaries. -/
theorem quote_boundaries (front rest : Text) :
    Text.IsBoundary (front ++ '"' :: rest) (Text.byteLength front) ∧
      Text.IsBoundary (front ++ '"' :: rest) (Text.byteLength front + 1) := by
  have hnext := Text.boundary_of_append (front ++ ['"']) rest
  rw [Text.byteLength_append, List.append_assoc] at hnext
  exact ⟨Text.boundary_of_append front _, hnext⟩

/-- At a quote outside of phrases, the loose text ends between what is given out and the quote. -/
theorem Placed.opens_within (h : Placed given (.loose held) scan)
    (hquery : query = given ++ held ++ '"' :: rest) :
    OpensWithin query scan.mode.offset scan.previous scan.position := by
  have hcut := h.offset_eq
  have hposition : scan.position = Text.byteLength (given ++ held) := h.position_eq
  have hopening := h.opening_eq
  have hsplit : given ++ held = given ++ beforeDash held ++ dash held := by
    rw [List.append_assoc, before_dash_append_dash]
  have hboundary : ∀ front back, query = front ++ back → query.IsBoundary (Text.byteLength front) :=
    fun front back hfront => hfront ▸ Text.boundary_of_append front back
  have hquote := quote_boundaries (given ++ held) rest
  rw [← hquery, ← hposition] at hquote
  refine {
    cut_le := ?_
    le_position := ?_
    cut_boundary := ?_
    opening_boundary := ?_
    position_boundary := hquote.1
    next_boundary := hquote.2
    at_dash := ?_ }
  · rw [hopening, hcut]
    exact Text.byte_length_le_append _ _
  · rw [hopening, hposition, hsplit]
    exact Text.byte_length_le_append _ _
  · rw [hcut]
    exact hboundary given (held ++ '"' :: rest) (by rw [hquery, List.append_assoc])
  · rw [hopening]
    exact hboundary _ (dash held ++ '"' :: rest) (by rw [hquery, hsplit, List.append_assoc])
  · -- A dash read last is held, so it was read behind `cut`, and it is one byte long.
    intro hdash
    obtain ⟨lead, rfl, hlead⟩ := h.at_dash hdash
    have hbefore : scan.position - 1 = Text.byteLength (given ++ lead) := by omega
    rw [hbefore]
    refine ⟨by omega, hboundary _ ('-' :: '"' :: rest) (by simp [hquery]), ?_, ?_⟩
    · rw [hcut]
      exact Text.byte_length_le_append _ _
    · rw [hopening, beforeDash, if_pos List.getLast?_concat, List.dropLast_concat]

/-- At a quote inside a phrase, the phrase begins where nothing has been given out. -/
theorem Placed.closes_within (h : Placed given (.phrase held) scan)
    (hquery : query = given ++ held ++ '"' :: rest) :
    ClosesWithin query scan.mode.offset scan.position := by
  have hposition : scan.position = Text.byteLength (given ++ held) := h.position_eq
  have hquote := quote_boundaries (given ++ held) rest
  rw [← hquery, ← hposition] at hquote
  refine {
    start_le := ?_
    start_boundary := ?_
    position_boundary := hquote.1
    next_boundary := hquote.2 }
  · rw [h.offset_eq, hposition]
    exact Text.byte_length_le_append _ _
  · rw [h.offset_eq, hquery, List.append_assoc]
    exact Text.boundary_of_append _ _

/-- At every quote of a query, the offsets that it is cut at are in order and between characters. -/
theorem quote_within (front rest : Text) : (after front).QuoteWithin (front ++ '"' :: rest) := by
  obtain ⟨given, held, hfront, hplaced⟩ := placed_after front
  have hquery : front ++ '"' :: rest = given ++ held.text ++ '"' :: rest := by rw [hfront]
  generalize after front = scan at hplaced ⊢
  cases held with
  | loose held =>
      have hwithin := hplaced.opens_within hquery
      cases hplaced with
      | outside => exact hwithin
  | phrase held =>
      have hwithin := hplaced.closes_within hquery
      cases hplaced with
      | inside => exact hwithin

/-- At the end of a query the offset reached is its length, and the text that is left begins at a
boundary. -/
theorem end_within (query : Text) :
    (after query).position = Text.byteLength query ∧
      (after query).mode.offset ≤ Text.byteLength query ∧
      query.IsBoundary (after query).mode.offset := by
  obtain ⟨given, held, hquery, hplaced⟩ := placed_after query
  rw [hplaced.offset_eq, hplaced.position_eq, ← hquery]
  refine ⟨rfl, ?_, ?_⟩
  · rw [hquery]
    exact Text.byte_length_le_append _ _
  · rw [hquery]
    exact Text.boundary_of_append _ _

end Scan

end ForumQuery.Token
