import ComponentLog.Numeric.Binary

/-!
# The elements of a column as values

A `Cell` is what one element of a column holds, read without regard to how the
column lays it out. Floating-point numbers are compared by their bits.
-/

namespace ComponentLog.Columnar

open Numeric

inductive Cell where
  | null
  | bool (b : Bool)
  | uint8 (n : UInt8)
  | int64 (i : Int64)
  | float32 (x : Binary32)
  | float64 (x : Binary64)
  | text (s : String)
  | list (cells : List Cell)
  | record (fields : List (String × Cell))
  deriving Inhabited

namespace Cell

mutual

def same : Cell → Cell → Bool
  | null, null => true
  | bool a, bool b => a = b
  | uint8 m, uint8 n => m = n
  | int64 i, int64 j => i = j
  | float32 x, float32 y => x = y
  | float64 x, float64 y => x = y
  | text s, text t => s = t
  | list cs, list ds => sameList cs ds
  | record fs, record gs => sameFields fs gs
  | _, _ => false

def sameList : List Cell → List Cell → Bool
  | [], [] => true
  | c :: cs, d :: ds => same c d && sameList cs ds
  | _, _ => false

def sameFields : List (String × Cell) → List (String × Cell) → Bool
  | [], [] => true
  | (m, c) :: fs, (n, d) :: gs => m = n && same c d && sameFields fs gs
  | _, _ => false

end

mutual

theorem same_iff : ∀ {c d : Cell}, same c d = true ↔ c = d
  | null, d => by cases d <;> simp [same]
  | bool _, d => by cases d <;> simp [same]
  | uint8 _, d => by cases d <;> simp [same]
  | int64 _, d => by cases d <;> simp [same]
  | float32 _, d => by cases d <;> simp [same]
  | float64 _, d => by cases d <;> simp [same]
  | text _, d => by cases d <;> simp [same]
  | list cs, d => by cases d <;> simp [same, sameList_iff]
  | record fs, d => by cases d <;> simp [same, sameFields_iff]

theorem sameList_iff : ∀ {cs ds : List Cell}, sameList cs ds = true ↔ cs = ds
  | [], ds => by cases ds <;> simp [sameList]
  | c :: cs, ds => by cases ds <;> simp [sameList, same_iff, sameList_iff]

theorem sameFields_iff : ∀ {fs gs : List (String × Cell)}, sameFields fs gs = true ↔ fs = gs
  | [], gs => by cases gs <;> simp [sameFields]
  | (m, c) :: fs, gs => by
    cases gs with
    | nil => simp [sameFields]
    | cons g gs => simp [sameFields, same_iff, sameFields_iff, Prod.ext_iff]

end

instance : DecidableEq Cell := fun _ _ => decidable_of_iff _ same_iff

end Cell

end ComponentLog.Columnar
