import ForumQuery.Text.Basic
import Mathlib.Logic.Function.Defs

/-!
# Names in any ASCII case

A name out of a list is looked up by its spelling, without regard to ASCII case. `find_spelled_iff`
says that the first match is the only one, if the spellings are in lower case and differ.
-/

namespace ForumQuery.Text

/-- A look-up finds a name exactly if the text spells it in some ASCII case. -/
theorem find_spelled_iff {α : Type} {names : List α} {spelling : α → Text}
    (hall : ∀ name, name ∈ names)
    (hlower : ∀ name, (spelling name).map Char.toLower = spelling name)
    (hinjective : Function.Injective spelling) {text : Text} {name : α} :
    names.find? (fun name => text.sameIgnoringCase (spelling name)) = some name ↔
      text.map Char.toLower = spelling name := by
  have hsound : ∀ name, names.find? (fun name => text.sameIgnoringCase (spelling name)) =
      some name → text.map Char.toLower = spelling name := by
    intro name h
    have hsame := List.find?_some h
    rwa [sameIgnoringCase, decide_eq_true_eq, hlower] at hsame
  refine ⟨hsound name, fun h => ?_⟩
  have hsome : (names.find? fun name => text.sameIgnoringCase (spelling name)).isSome := by
    rw [List.find?_isSome]
    exact ⟨name, hall name, by simpa [sameIgnoringCase, hlower] using h⟩
  obtain ⟨other, hother⟩ := Option.isSome_iff_exists.1 hsome
  rw [hother, hinjective ((hsound other hother).symm.trans h)]

end ForumQuery.Text
