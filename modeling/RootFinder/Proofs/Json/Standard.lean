import RootFinder.Json.Access

/-! Values as standard documents hold them. Only numbers that are not finite are lost: a document
keeps its members, items and texts. -/
namespace RootFinder.Json

theorem standardItems_eq_map (items : List Json) : standardItems items = items.map standard := by
  induction items with
  | nil => rfl
  | cons item rest ih => rw [standardItems, ih, List.map_cons]

theorem standardItems_strings (lines : List String) :
    standardItems (lines.map .string) = lines.map .string := by
  rw [standardItems_eq_map, List.map_map]
  rfl

@[simp] theorem member?_standardMembers (name : String) (members : List (String × Json)) :
    member? name (standardMembers members) = (member? name members).map standard := by
  induction members with
  | nil => rfl
  | cons member rest ih =>
    obtain ⟨key, value⟩ := member
    unfold member? at ih ⊢
    rw [standardMembers, List.find?_cons, List.find?_cons]
    cases key == name with
    | true => rfl
    | false => exact ih

end RootFinder.Json
