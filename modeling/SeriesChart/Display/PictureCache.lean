/-
This file holds the picture of a chart without its highlight, so that a highlight can be
moved without drawing the chart again. The picture is kept under a key that says what it
shows; it is handed out only for the same key.
-/

namespace SeriesChart

/-- At most one picture and the key it is kept under. -/
structure PictureCache (Key Picture : Type) where
  base : Option (Key × Picture) := none

namespace PictureCache

variable {Key Picture : Type}

/-- The picture that is kept under a key. -/
def lookup [BEq Key] (cache : PictureCache Key Picture) (key : Key) : Option Picture :=
  match cache.base with
  | some (known, picture) => if known == key then some picture else none
  | none => none

/-- The cache with a picture under a key, and no other one. -/
def store (_ : PictureCache Key Picture) (key : Key) (picture : Picture) :
    PictureCache Key Picture :=
  ⟨some (key, picture)⟩

/-- The cache without a picture. -/
def invalidate (_ : PictureCache Key Picture) : PictureCache Key Picture := ⟨none⟩

@[simp] theorem lookup_store [BEq Key] [ReflBEq Key] (cache : PictureCache Key Picture) (key : Key)
    (picture : Picture) : (cache.store key picture).lookup key = some picture := by
  simp [lookup, store]

/-- What is found under a key is what is kept, and under this very key. -/
theorem lookup_eq_some_iff [BEq Key] [LawfulBEq Key] (cache : PictureCache Key Picture) (key : Key)
    (picture : Picture) : cache.lookup key = some picture ↔ cache.base = some (key, picture) := by
  cases cache with
  | mk base =>
    cases base with
    | none => simp [lookup]
    | some kept =>
      obtain ⟨known, shown⟩ := kept
      by_cases same : known = key <;> simp [lookup, same]

end PictureCache

end SeriesChart
