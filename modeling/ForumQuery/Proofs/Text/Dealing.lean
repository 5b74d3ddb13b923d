import ForumQuery.Text.Basic
import Mathlib.Data.List.Basic
import Mathlib.Data.List.Nodup
import Mathlib.Data.List.Perm.Subperm

/-!
# Texts dealt out to places

A text is dealt out if each of its characters goes to one place and the characters at every place
keep their order. Then what a place has is a part of the text in order (`Dealt.sublist`), and all
places together have each character as often as the text (`Dealt.perm`). Pieces of a text that each
belong to a place deal out the text (`dealt_pieces`).
-/

namespace ForumQuery.Text

variable {ι α : Type} [DecidableEq ι]

/-- Each character of the text goes to exactly one place, and a place has its share of them in the
order of the text. -/
def Dealt (text : Text) (share : ι → Text) : Prop :=
  ∃ labelled : List (Char × ι), labelled.map Prod.fst = text ∧
    ∀ place, share place = (labelled.filter fun entry => entry.2 = place).map Prod.fst

/-- Entries picked out place by place are those of the places, each as often as it is there. -/
theorem picked_perm {places : List ι} (hnodup : places.Nodup) (entries : List (Char × ι)) :
    (places.flatMap fun place => entries.filter fun entry => entry.2 = place).Perm
      (entries.filter fun entry => entry.2 ∈ places) := by
  induction places with
  | nil => simp
  | cons place places ih =>
      obtain ⟨hplace, hrest⟩ := List.nodup_cons.1 hnodup
      -- Those of the first place, and then those of the others, among the entries of all.
      have hsplit := List.filter_append_perm (fun entry : Char × ι => entry.2 = place)
        (entries.filter fun entry => entry.2 ∈ place :: places)
      have hfirst : (entries.filter fun entry => entry.2 ∈ place :: places).filter
          (fun entry => entry.2 = place) = entries.filter fun entry => entry.2 = place := by
        rw [List.filter_filter]
        refine List.filter_congr fun entry _ => ?_
        by_cases h : entry.2 = place <;> simp [h]
      have hothers : (entries.filter fun entry => entry.2 ∈ place :: places).filter
          (fun entry => !decide (entry.2 = place)) =
            entries.filter fun entry => entry.2 ∈ places := by
        rw [List.filter_filter]
        refine List.filter_congr fun entry _ => ?_
        by_cases h : entry.2 = place <;> simp [h, hplace]
      rw [hfirst, hothers] at hsplit
      exact ((ih hrest).append_left _).trans hsplit

/-- What a place has is a part of the text, in order. -/
theorem Dealt.sublist {text : Text} {share : ι → Text} (h : Dealt text share) (place : ι) :
    (share place).Sublist text := by
  obtain ⟨labelled, rfl, hshare⟩ := h
  rw [hshare]
  exact List.filter_sublist.map Prod.fst

/-- Shares that are the same at every place are dealt out alike. -/
theorem Dealt.congr {text : Text} {share other : ι → Text} (h : Dealt text share)
    (hsame : ∀ place, other place = share place) : Dealt text other := by
  rwa [funext hsame]

/-- The shares of different places are the labelled characters of these places. -/
theorem shares_perm {labelled : List (Char × ι)} {share : ι → Text}
    (hshare : ∀ place, share place =
      (labelled.filter fun entry => entry.2 = place).map Prod.fst)
    {places : List ι} (hnodup : places.Nodup) :
    (places.flatMap share).Perm
      ((labelled.filter fun entry => entry.2 ∈ places).map Prod.fst) := by
  have hpicked := (picked_perm hnodup labelled).map Prod.fst
  rwa [List.map_flatMap, ← List.flatMap_congr fun place _ => hshare place] at hpicked

/-- Different places have no more of any character than the text. -/
theorem Dealt.subperm {text : Text} {share : ι → Text} (h : Dealt text share) {places : List ι}
    (hnodup : places.Nodup) : (places.flatMap share).Subperm text := by
  obtain ⟨labelled, rfl, hshare⟩ := h
  exact (shares_perm hshare hnodup).subperm.trans (List.filter_sublist.map Prod.fst).subperm

/-- All places that have something together have each character as often as the text. -/
theorem Dealt.perm {text : Text} {share : ι → Text} (h : Dealt text share) {places : List ι}
    (hnodup : places.Nodup) (hall : ∀ place, place ∉ places → share place = []) :
    (places.flatMap share).Perm text := by
  obtain ⟨labelled, rfl, hshare⟩ := h
  have hkept : (labelled.filter fun entry => entry.2 ∈ places) = labelled := by
    rw [List.filter_eq_self]
    intro entry hentry
    rw [decide_eq_true_eq]
    by_contra hplace
    have hnone := (hshare entry.2).symm.trans (hall entry.2 hplace)
    rw [List.map_eq_nil_iff, List.filter_eq_nil_iff] at hnone
    exact hnone entry hentry (decide_eq_true rfl)
  have hperm := shares_perm hshare hnodup
  rwa [hkept] at hperm

/-- Pieces that each belong to a place deal out the text that they make up. -/
theorem dealt_pieces (place : α → ι) (text : α → Text) (pieces : List α) :
    Dealt (pieces.flatMap text) fun i =>
      (pieces.filter fun piece => place piece = i).flatMap text := by
  refine ⟨pieces.flatMap fun piece => (text piece).map fun c => (c, place piece), ?_, fun i => ?_⟩
  · simp [List.map_flatMap, Function.comp_def]
  · induction pieces with
    | nil => rfl
    | cons piece pieces ih =>
        rw [List.flatMap_cons, List.filter_append, List.map_append, ← ih]
        by_cases h : place piece = i <;> simp [h, List.filter_map, Function.comp_def]

end ForumQuery.Text
