import HomeCatalog.Json.Basic

/-!
# Equal documents

Whether two documents are equal can be decided: `same` compares them part by part, members in their
order (`same_iff`).
-/

namespace HomeCatalog.Json

mutual

/-- Whether two values are equal. -/
def same : Json → Json → Bool
  | .null, .null => true
  | .bool b, .bool b' => b == b'
  | .int n, .int n' => n == n'
  | .decimal d, .decimal d' => d == d'
  | .special n, .special n' => n == n'
  | .text s, .text s' => s == s'
  | .list js, .list js' => sameItems js js'
  | .object ms, .object ms' => sameMembers ms ms'
  | _, _ => false

/-- Whether two lists have equal items. -/
def sameItems : List Json → List Json → Bool
  | [], [] => true
  | j :: js, j' :: js' => j.same j' && sameItems js js'
  | _, _ => false

/-- Whether two objects have equal members. -/
def sameMembers : List (Letters × Json) → List (Letters × Json) → Bool
  | [], [] => true
  | (name, j) :: ms, (name', j') :: ms' => name == name' && j.same j' && sameMembers ms ms'
  | _, _ => false

end

mutual

theorem same_iff : (j j' : Json) → (j.same j' = true ↔ j = j')
  | .list js, j' => by
    cases j' with
    | list js' => simpa [same] using sameItems_iff js js'
    | _ => simp [same]
  | .object ms, j' => by
    cases j' with
    | object ms' => simpa [same] using sameMembers_iff ms ms'
    | _ => simp [same]
  | .null, j' | .bool _, j' | .int _, j' | .decimal _, j' | .special _, j' | .text _, j' => by
    cases j' <;> simp [same]

theorem sameItems_iff : (js js' : List Json) → (sameItems js js' = true ↔ js = js')
  | [], js' => by cases js' <;> simp [sameItems]
  | j :: js, [] => by simp [sameItems]
  | j :: js, j' :: js' => by simp [sameItems, same_iff j j', sameItems_iff js js']

theorem sameMembers_iff :
    (ms ms' : List (Letters × Json)) → (sameMembers ms ms' = true ↔ ms = ms')
  | [], ms' => by cases ms' <;> simp [sameMembers]
  | (_, _) :: _, [] => by simp [sameMembers]
  | (_, j) :: ms, (_, j') :: ms' => by
    simp [sameMembers, same_iff j j', sameMembers_iff ms ms', and_assoc]

end

instance : DecidableEq Json := fun j j' =>
  decidable_of_iff (j.same j' = true) (same_iff j j')

end HomeCatalog.Json
