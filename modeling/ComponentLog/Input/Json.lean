import ComponentLog.Input.Token
import ComponentLog.Input.Value

/-!
# JSON documents

`Json.parse?` accepts exactly one document. What a reader makes of it comes after:
`Value.fromJson?` bounds the nesting, takes a number beyond the integers to the nearest
double, ties to even, and needs every string to have a text.
-/

namespace ComponentLog

open Numeric

/-- A document. Members keep their order; a string without text had an unpaired surrogate. -/
inductive Json where
  | null
  | bool (b : Bool)
  | number (n : NumberToken)
  | str (text? : Option String)
  | list (items : List Json)
  | map (members : List (Option String × Json))

namespace Json

/-- Fewer tokens than before. -/
abbrev Rest (ts : List Token) := { rest : List Token // rest.length < ts.length }

mutual

/-- The value at the front. -/
def value? (ts : List Token) : Option (Json × Rest ts) :=
  match ts with
  | .null :: rest => some (null, ⟨rest, Nat.lt_succ_self _⟩)
  | .bool b :: rest => some (bool b, ⟨rest, Nat.lt_succ_self _⟩)
  | .number n :: rest => some (number n, ⟨rest, Nat.lt_succ_self _⟩)
  | .str s :: rest => some (str s, ⟨rest, Nat.lt_succ_self _⟩)
  | .openList :: .closeList :: rest =>
    some (list [], ⟨rest, by simp only [List.length_cons]; omega⟩)
  | .openList :: rest => do
    let (items, ⟨rest, h⟩) ← items? rest
    return (list items, ⟨rest, by simp only [List.length_cons]; omega⟩)
  | .openMap :: .closeMap :: rest =>
    some (map [], ⟨rest, by simp only [List.length_cons]; omega⟩)
  | .openMap :: rest => do
    let (members, ⟨rest, h⟩) ← members? rest
    return (map members, ⟨rest, by simp only [List.length_cons]; omega⟩)
  | _ => none
termination_by 2 * ts.length

/-- One item or more, and the bracket that closes the list. -/
def items? (ts : List Token) : Option (List Json × Rest ts) := do
  let (v, ⟨rest, h⟩) ← value? ts
  match rest, h with
  | .closeList :: rest, h => return ([v], ⟨rest, by simp only [List.length_cons] at h; omega⟩)
  | .comma :: rest, h => do
    let (vs, ⟨rest, h'⟩) ← items? rest
    return (v :: vs, ⟨rest, by simp only [List.length_cons] at h; omega⟩)
  | _, _ => none
termination_by 2 * ts.length + 1
decreasing_by
  · omega
  · simp_all; omega

/-- One member or more, and the brace that closes the map. -/
def members? (ts : List Token) : Option (List (Option String × Json) × Rest ts) :=
  match ts with
  | .str k :: .colon :: rest => do
    let (v, ⟨rest, h⟩) ← value? rest
    match rest, h with
    | .closeMap :: rest, h =>
      return ([(k, v)], ⟨rest, by simp only [List.length_cons] at h ⊢; omega⟩)
    | .comma :: rest, h => do
      let (ms, ⟨rest, h'⟩) ← members? rest
      return ((k, v) :: ms, ⟨rest, by simp only [List.length_cons] at h ⊢; omega⟩)
    | _, _ => none
  | _ => none
termination_by 2 * ts.length + 1
decreasing_by all_goals (simp_all; omega)

end

/-- The document that the text is. -/
def parse? (text : String) : Option Json := do
  let ts ← Token.scan text.toList
  let (v, ⟨rest, _⟩) ← value? ts
  if rest.isEmpty then some v else none

/-! ## Nesting -/

mutual

/-- How deep lists and maps are nested. -/
def depth : Json → Nat
  | list items => 1 + itemsDepth items
  | map members => 1 + membersDepth members
  | null => 0
  | bool _ => 0
  | number _ => 0
  | str _ => 0

def itemsDepth : List Json → Nat
  | [] => 0
  | v :: rest => max (depth v) (itemsDepth rest)

def membersDepth : List (Option String × Json) → Nat
  | [] => 0
  | (_, v) :: rest => max (depth v) (membersDepth rest)

end

end Json

/-! ## Reading values -/

/-- An integer text in the 64-bit signed range is an integer, except minus zero; any other number
is a float and must not be too large for one. -/
def NumberToken.value? (n : NumberToken) : Option Value :=
  let i : Int := if n.negative then -n.significand else n.significand
  let isInteger := n.integral && !(n.negative && n.significand = 0)
  match if isInteger then int64? i else none with
  | some w => some (.int w)
  | none =>
    let x := Binary64.ofDecimal n.negative n.significand n.exponent
    if x.isFinite then some (.float x) else none

namespace Value

mutual

def ofJson? : Json → Option Value
  | .null => some null
  | .bool b => some (bool b)
  | .number n => n.value?
  | .str text? => text?.map str
  | .list items => do return list (← ofJsonItems? items)
  | .map members => do return ofEntries (← ofJsonMembers? members)

def ofJsonItems? : List Json → Option (List Value)
  | [] => some []
  | v :: rest => do
    let v ← ofJson? v
    return v :: (← ofJsonItems? rest)

def ofJsonMembers? : List (Option String × Json) → Option (List (String × Value))
  | [] => some []
  | (k?, v) :: rest => do
    let k ← k?
    let v ← ofJson? v
    return (k, v) :: (← ofJsonMembers? rest)

end

/-- The deepest nesting that is read. -/
def maxDepth : Nat := 127

/-- The value a JSON text denotes. -/
def fromJson? (text : String) : Option Value := do
  let document ← Json.parse? text
  if document.depth ≤ maxDepth then ofJson? document else none

end Value

end ComponentLog
