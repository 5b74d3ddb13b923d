import ForumQuery.Json.Basic
import ForumQuery.Proofs.Text.Numerals

/-!
# JSON texts are unambiguous

No two documents have one text. What stands in front of a longer text is found from its first
characters on: a value shows its kind by its first character (`pretty_cons`) and where it ends by
itself, but for a number, which ends where no digit follows. So the text of a value can be cut off
whatever comes behind it (`pretty_append_inj`).
-/

namespace ForumQuery.Json

open Text (NoDigit)

/-- The character stands for itself inside a string. -/
def IsPlain (c : Char) : Prop :=
  c ≠ '"' ∧ c ≠ '\\' ∧ ¬ c < ' '

instance (c : Char) : Decidable (IsPlain c) :=
  inferInstanceAs (Decidable (_ ∧ _))

theorem string_char_plain {c : Char} (h : IsPlain c) : stringChar c = [c] := by
  obtain ⟨hquote, hslash, hcontrol⟩ := h
  have hne : ∀ d, d < ' ' → c ≠ d := fun d hd hc => hcontrol (hc ▸ hd)
  rw [stringChar, if_neg (by simp [hquote, hslash]), if_neg (hne _ (by decide)),
    if_neg (hne _ (by decide)), if_neg (hne _ (by decide)), if_neg (hne _ (by decide)),
    if_neg (hne _ (by decide)), if_neg hcontrol]

/-- The characters that do not stand for themselves. -/
def escapes : List Char :=
  '"' :: '\\' :: (List.range 32).map Char.ofNat

theorem mem_escapes {c : Char} (h : ¬ IsPlain c) : c ∈ escapes := by
  by_cases hquote : c = '"'
  · simp [escapes, hquote]
  by_cases hslash : c = '\\'
  · simp [escapes, hslash]
  have hcontrol : c < ' ' := by
    simpa [IsPlain, hquote, hslash] using h
  have hsmall : c.toNat < 32 := hcontrol
  have hself : Char.ofNat c.toNat = c := Char.ofNat_toNat c
  simp only [escapes, List.mem_cons, List.mem_map, List.mem_range]
  exact Or.inr (Or.inr ⟨c.toNat, hsmall, hself⟩)

/-- No escape is the beginning of another one, and all of them begin with a backslash. -/
theorem escapes_apart :
    (∀ c ∈ escapes, (stringChar c).head? = some '\\') ∧
      ∀ c ∈ escapes, ∀ d ∈ escapes, (stringChar c).isPrefixOf (stringChar d) = true → c = d := by
  have hslash : escapes.all (fun c => (stringChar c).head? = some '\\') = true := by
    decide +kernel
  have hapart : escapes.all (fun c => escapes.all fun d =>
      (stringChar c).isPrefixOf (stringChar d) = true → c = d) = true := by
    decide +kernel
  simp only [List.all_eq_true, decide_eq_true_eq] at hslash hapart
  exact ⟨hslash, hapart⟩

/-- The form of a character inside a string shows the character and where the form ends. -/
theorem string_char_append_inj {c d : Char} {back after : Text}
    (h : stringChar c ++ back = stringChar d ++ after) : c = d ∧ back = after := by
  have hchar : c = d := by
    have hhead := congrArg List.head? h
    by_cases hc : IsPlain c
    · by_cases hd : IsPlain d
      · simpa [string_char_plain hc, string_char_plain hd] using hhead
      · simp [string_char_plain hc, escapes_apart.1 d (mem_escapes hd), hc.2.1] at hhead
    · by_cases hd : IsPlain d
      · have hslash := hd.2.1.symm
        simp [string_char_plain hd, escapes_apart.1 c (mem_escapes hc), hslash] at hhead
      -- Of two forms at the front of one text, one is the beginning of the other.
      · have hleft : stringChar c <+: stringChar d ++ after := h ▸ List.prefix_append ..
        have hright := List.prefix_append (stringChar d) after
        rcases List.prefix_or_prefix_of_prefix hleft hright with hcd | hdc
        · exact escapes_apart.2 c (mem_escapes hc) d (mem_escapes hd)
            (List.isPrefixOf_iff_prefix.2 hcd)
        · exact (escapes_apart.2 d (mem_escapes hd) c (mem_escapes hc)
            (List.isPrefixOf_iff_prefix.2 hdc)).symm
  subst hchar
  exact ⟨rfl, List.append_cancel_left h⟩

/-- No character inside a string looks like the quote at its end. -/
theorem string_char_ne_quote {c : Char} {back after : Text} :
    stringChar c ++ back ≠ '"' :: after := by
  intro h
  have hhead := congrArg List.head? h
  by_cases hc : IsPlain c
  · simp [string_char_plain hc, hc.1] at hhead
  · simp [escapes_apart.1 c (mem_escapes hc)] at hhead

/-- A string shows its contents and where it ends. -/
theorem quoted_append_inj {contents other back after : Text}
    (h : quoted contents ++ back = quoted other ++ after) : contents = other ∧ back = after := by
  have hinner : contents.flatMap stringChar ++ '"' :: back =
      other.flatMap stringChar ++ '"' :: after := by
    simpa [quoted] using h
  clear h
  induction contents generalizing other with
  | nil =>
      cases other with
      | nil => simpa using hinner
      | cons d other =>
          rw [List.flatMap_cons, List.append_assoc] at hinner
          exact absurd hinner.symm string_char_ne_quote
  | cons c contents ih =>
      cases other with
      | nil =>
          rw [List.flatMap_cons, List.append_assoc] at hinner
          exact absurd hinner string_char_ne_quote
      | cons d other =>
          rw [List.flatMap_cons, List.flatMap_cons, List.append_assoc, List.append_assoc] at hinner
          obtain ⟨rfl, hrest⟩ := string_char_append_inj hinner
          obtain ⟨rfl, hback⟩ := ih hrest
          exact ⟨rfl, hback⟩

/-- The kinds of values. -/
inductive Kind where
  | null
  | boolean
  | integer
  | string
  | array
  | object
  deriving DecidableEq

/-- The kind of a value. -/
def kind : Json → Kind
  | null => .null
  | boolean _ => .boolean
  | integer _ => .integer
  | string _ => .string
  | array _ => .array
  | object _ => .object

/-- The kind of value that begins with a character. -/
def kindAt (c : Char) : Kind :=
  if c = 'n' then .null
  else if c = 't' ∨ c = 'f' then .boolean
  else if c = '"' then .string
  else if c = '[' then .array
  else if c = '\x7b' then .object
  else .integer

/-- A whole number begins like no value of another kind. -/
theorem kind_at_digit {c : Char} (h : c = '-' ∨ c.isDigit = true) : kindAt c = .integer := by
  have hne : ∀ d : Char, d ≠ '-' → d.isDigit = false → c ≠ d := by
    rintro d hdash hdigit rfl
    simp [hdash, hdigit] at h
  simp [kindAt, hne]

/-- The first character of a value shows its kind. -/
theorem pretty_cons (level : Nat) (json : Json) :
    ∃ c rest, pretty level json = c :: rest ∧ kindAt c = json.kind := by
  cases json with
  | null => exact ⟨'n', _, rfl, rfl⟩
  | boolean b => cases b <;> exact ⟨_, _, rfl, rfl⟩
  | integer n =>
      obtain ⟨c, rest, hdecimal, _, hc⟩ := Text.decimal_cons n
      exact ⟨c, rest, hdecimal, kind_at_digit hc⟩
  | string contents => exact ⟨'"', _, rfl, rfl⟩
  | array elements => cases elements <;> exact ⟨'[', _, rfl, rfl⟩
  | object fields => rcases fields with _ | ⟨⟨_, _⟩, _⟩ <;> exact ⟨'\x7b', _, rfl, rfl⟩

/-- Values at the front of one text are of one kind. -/
theorem kind_eq_of_pretty_append {level : Nat} {left right : Json} {back after : Text}
    (h : pretty level left ++ back = pretty level right ++ after) : left.kind = right.kind := by
  obtain ⟨c, rest, hleft, hkind⟩ := pretty_cons level left
  obtain ⟨d, later, hright, hkind'⟩ := pretty_cons level right
  rw [hleft, hright] at h
  rw [← hkind, ← hkind', (List.cons.inj h).1]

/-- The further elements of an array, and the line after them, begin with no digit. -/
theorem no_digit_elements (level below : Nat) (elements : List Json) (back : Text) :
    NoDigit (prettyElements level elements ++ (lineAt below ++ back)) := by
  cases elements <;> simp [prettyElements, lineAt, NoDigit]

/-- The further fields of an object, and the line after them, begin with no digit. -/
theorem no_digit_fields (level below : Nat) (fields : List (Text × Json)) (back : Text) :
    NoDigit (prettyFields level fields ++ (lineAt below ++ back)) := by
  rcases fields with _ | ⟨⟨_, _⟩, _⟩ <;> simp [prettyFields, lineAt, NoDigit]

mutual
/-- The text of a value shows the value and where it ends, if no digit follows. -/
theorem pretty_append_inj (level : Nat) : ∀ (left right : Json) {back after : Text},
    NoDigit back → NoDigit after → pretty level left ++ back = pretty level right ++ after →
      left = right ∧ back = after
  | left, right, back, after, hback, hafter, h => by
      have hkind := kind_eq_of_pretty_append h
      match left, right, hkind with
      | null, null, _ => exact ⟨rfl, List.append_cancel_left h⟩
      | boolean b, boolean c, _ =>
          cases b <;> cases c
          · exact ⟨rfl, List.append_cancel_left h⟩
          · simp [pretty] at h
          · simp [pretty] at h
          · exact ⟨rfl, List.append_cancel_left h⟩
      | integer m, integer n, _ =>
          obtain ⟨rfl, hrest⟩ := Text.decimal_append_inj hback hafter h
          exact ⟨rfl, hrest⟩
      | string contents, string other, _ =>
          obtain ⟨rfl, hrest⟩ := quoted_append_inj h
          exact ⟨rfl, hrest⟩
      | array [], array [], _ => exact ⟨rfl, List.append_cancel_left h⟩
      | array [], array (_ :: _), _ => simp [pretty, lineAt] at h
      | array (_ :: _), array [], _ => simp [pretty, lineAt] at h
      | array (first :: rest), array (other :: later), _ =>
          simp only [pretty, List.cons_append, List.append_assoc, List.cons.injEq, true_and,
            List.append_cancel_left_eq] at h
          obtain ⟨rfl, hrest⟩ := pretty_append_inj (level + 1) first other
            (no_digit_elements _ _ _ _) (no_digit_elements _ _ _ _) h
          obtain ⟨rfl, hend⟩ := elements_append_inj (level + 1) level rest later hrest
          simpa using hend
      | object [], object [], _ => exact ⟨rfl, List.append_cancel_left h⟩
      | object [], object ((_, _) :: _), _ => simp [pretty, lineAt] at h
      | object ((_, _) :: _), object [], _ => simp [pretty, lineAt] at h
      | object ((key, first) :: rest), object ((name, other) :: later), _ =>
          simp only [pretty, List.cons_append, List.append_assoc, List.cons.injEq, true_and,
            List.append_cancel_left_eq] at h
          obtain ⟨rfl, hvalue⟩ := quoted_append_inj h
          simp only [List.cons.injEq, true_and, List.nil_append] at hvalue
          obtain ⟨rfl, hrest⟩ := pretty_append_inj (level + 1) first other
            (no_digit_fields _ _ _ _) (no_digit_fields _ _ _ _) hvalue
          obtain ⟨rfl, hend⟩ := fields_append_inj (level + 1) level rest later hrest
          simpa using hend

/-- The text of further elements shows them and where they end, if a line begins behind them. -/
theorem elements_append_inj (level below : Nat) : ∀ (left right : List Json) {back after : Text},
    prettyElements level left ++ (lineAt below ++ back) =
        prettyElements level right ++ (lineAt below ++ after) →
      left = right ∧ back = after
  | [], [], back, after, h => by simpa [prettyElements] using h
  | [], _ :: _, _, _, h => by simp [prettyElements, lineAt] at h
  | _ :: _, [], _, _, h => by simp [prettyElements, lineAt] at h
  | first :: rest, other :: later, back, after, h => by
      simp only [prettyElements, List.cons_append, List.append_assoc, List.cons.injEq, true_and,
        List.append_cancel_left_eq] at h
      obtain ⟨rfl, hrest⟩ := pretty_append_inj level first other
        (no_digit_elements _ _ _ _) (no_digit_elements _ _ _ _) h
      obtain ⟨rfl, hend⟩ := elements_append_inj level below rest later hrest
      exact ⟨rfl, hend⟩

/-- The text of further fields shows them and where they end, if a line begins behind them. -/
theorem fields_append_inj (level below : Nat) :
    ∀ (left right : List (Text × Json)) {back after : Text},
    prettyFields level left ++ (lineAt below ++ back) =
        prettyFields level right ++ (lineAt below ++ after) →
      left = right ∧ back = after
  | [], [], back, after, h => by simpa [prettyFields] using h
  | [], (_, _) :: _, _, _, h => by simp [prettyFields, lineAt] at h
  | (_, _) :: _, [], _, _, h => by simp [prettyFields, lineAt] at h
  | (key, first) :: rest, (name, other) :: later, back, after, h => by
      simp only [prettyFields, List.cons_append, List.append_assoc, List.cons.injEq, true_and,
        List.append_cancel_left_eq] at h
      obtain ⟨rfl, hvalue⟩ := quoted_append_inj h
      simp only [List.cons.injEq, true_and, List.nil_append] at hvalue
      obtain ⟨rfl, hrest⟩ := pretty_append_inj level first other
        (no_digit_fields _ _ _ _) (no_digit_fields _ _ _ _) hvalue
      obtain ⟨rfl, hend⟩ := fields_append_inj level below rest later hrest
      exact ⟨rfl, hend⟩
end

/-- Documents with one text are one document. -/
theorem text_inj {left right : Json} (h : left.text = right.text) : left = right := by
  have hnone : NoDigit [] := fun _ hc => by cases hc
  refine (pretty_append_inj 0 left right hnone hnone ?_).1
  simpa [text] using h

end ForumQuery.Json
