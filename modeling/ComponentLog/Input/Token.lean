/-!
# Tokens of a JSON document

`Token.scan` cuts a document into tokens, leaving out the four blanks. Numbers keep
their sign, digits and exponent and are not rounded here; a string whose escapes
name an unpaired surrogate is a token without text, since only some readers refuse it.
-/

namespace ComponentLog

/-- A number as written: `significand * 10 ^ exponent`. -/
structure NumberToken where
  negative : Bool
  significand : Nat
  exponent : Int
  /-- written without fraction and exponent -/
  integral : Bool
  deriving DecidableEq, Repr

inductive Token where
  | null
  | bool (b : Bool)
  | number (n : NumberToken)
  | str (text? : Option String)
  | openList
  | closeList
  | openMap
  | closeMap
  | comma
  | colon
  deriving DecidableEq, Repr

namespace Token

/-- The blanks that may stand between tokens. -/
def isSpace (c : Char) : Bool := c = ' ' || c = '\t' || c = '\n' || c = '\r'

/-! ## Numbers -/

def digitsValue (ds : List Char) : Nat :=
  ds.foldl (fun n d => n * 10 + (d.toNat - '0'.toNat)) 0

/-- The digits at the front, at least one. -/
def digits? (cs : List Char) : Option (List Char × List Char) :=
  let ds := cs.takeWhile Char.isDigit
  if ds.isEmpty then none else some (ds, cs.dropWhile Char.isDigit)

/-- The digits after a point, none where there is no point. -/
def fraction? : List Char → Option (List Char × List Char)
  | '.' :: cs => digits? cs
  | cs => some ([], cs)

/-- The exponent, which must end the number. -/
def exponent? (cs : List Char) : Option Int :=
  let signed : List Char → Option Int
    | '-' :: ds => (ofDigits? ds).map fun n => -(n : Int)
    | '+' :: ds => (ofDigits? ds).map fun n => (n : Int)
    | ds => (ofDigits? ds).map fun n => (n : Int)
  match cs with
  | [] => some 0
  | 'e' :: cs => signed cs
  | 'E' :: cs => signed cs
  | _ => none
where
  ofDigits? (ds : List Char) : Option Nat :=
    match digits? ds with
    | some (ds, []) => some (digitsValue ds)
    | _ => none

/-- A whole number text: no leading zero, digits on both sides of a point. -/
def number? (cs : List Char) : Option NumberToken := do
  let (negative, cs) := match cs with
    | '-' :: cs => (true, cs)
    | cs => (false, cs)
  let (whole, cs') ← digits? cs
  if whole.head? = some '0' ∧ whole.length ≠ 1 then none
  let (frac, cs'') ← fraction? cs'
  let exponent ← exponent? cs''
  return {
    negative
    significand := digitsValue (whole ++ frac)
    exponent := exponent - frac.length
    integral := cs'.isEmpty
  }

/-- The characters that a number can hold. -/
def isNumberChar (c : Char) : Bool :=
  c.isDigit || c = '-' || c = '+' || c = '.' || c = 'e' || c = 'E'

/-! ## Strings -/

/-- A piece of a string: a character, or a 16-bit unit given by number. -/
inductive Piece where
  | char (c : Char)
  | unit (n : Nat)
  deriving DecidableEq, Repr

def hexDigit? (c : Char) : Option Nat :=
  if '0' ≤ c ∧ c ≤ '9' then some (c.toNat - '0'.toNat)
  else if 'a' ≤ c ∧ c ≤ 'f' then some (c.toNat - 'a'.toNat + 10)
  else if 'A' ≤ c ∧ c ≤ 'F' then some (c.toNat - 'A'.toNat + 10)
  else none

/-- The character a one-letter escape stands for. -/
def shortEscape? : Char → Option Char
  | '"' => some '"'
  | '\\' => some '\\'
  | '/' => some '/'
  | 'b' => some '\x08'
  | 'f' => some '\x0c'
  | 'n' => some '\n'
  | 'r' => some '\r'
  | 't' => some '\t'
  | _ => none

/-- The pieces up to the closing quote, and what follows it. Control characters must be
escaped. -/
def pieces? : List Char → Option (List Piece × List Char)
  | [] => none
  | '"' :: rest => some ([], rest)
  | '\\' :: 'u' :: a :: b :: c :: d :: rest => do
    let n := (← hexDigit? a) * 4096 + (← hexDigit? b) * 256 + (← hexDigit? c) * 16 + (← hexDigit? d)
    let (ps, rest) ← pieces? rest
    return (.unit n :: ps, rest)
  | '\\' :: e :: rest => do
    let c ← shortEscape? e
    let (ps, rest) ← pieces? rest
    return (.char c :: ps, rest)
  | c :: rest =>
    if c = '\\' ∨ c.toNat < 0x20 then none
    else do
      let (ps, rest) ← pieces? rest
      return (.char c :: ps, rest)

/-- The text of the pieces, with surrogate pairs joined; none for a surrogate on its own. -/
def text? : List Piece → Option (List Char)
  | [] => some []
  | .char c :: rest => do return c :: (← text? rest)
  | .unit hi :: .unit lo :: rest =>
    if 0xd800 ≤ hi ∧ hi < 0xdc00 then
      if 0xdc00 ≤ lo ∧ lo < 0xe000 then do
        return Char.ofNat (0x10000 + (hi - 0xd800) * 0x400 + (lo - 0xdc00)) :: (← text? rest)
      else none
    else if 0xdc00 ≤ hi ∧ hi < 0xe000 then none
    else do return Char.ofNat hi :: (← text? (.unit lo :: rest))
  | .unit n :: rest =>
    if 0xd800 ≤ n ∧ n < 0xe000 then none
    else do return Char.ofNat n :: (← text? rest)

theorem length_lt_of_pieces? {cs rest : List Char} {ps : List Piece}
    (h : pieces? cs = some (ps, rest)) : rest.length < cs.length := by
  fun_induction pieces? cs generalizing ps rest with
  | case1 => simp at h
  | case2 => simp_all
  | case3 a b c d r ih =>
    simp only [Option.bind_eq_bind, Option.bind_eq_some_iff, Option.pure_def] at h
    obtain ⟨_, _, _, _, _, _, _, _, ⟨ps', r'⟩, hp, h⟩ := h
    simp only [Option.some.injEq, Prod.mk.injEq] at h
    have := ih hp
    simp only [List.length_cons]
    rw [← h.2]
    omega
  | case4 e r _ ih =>
    simp only [Option.bind_eq_bind, Option.bind_eq_some_iff, Option.pure_def] at h
    obtain ⟨_, _, ⟨ps', r'⟩, hp, h⟩ := h
    simp only [Option.some.injEq, Prod.mk.injEq] at h
    have := ih hp
    simp only [List.length_cons]
    rw [← h.2]
    omega
  | case5 => simp at h
  | case6 c r _ _ _ _ ih =>
    simp only [Option.bind_eq_bind, Option.bind_eq_some_iff, Option.pure_def] at h
    obtain ⟨⟨ps', r'⟩, hp, h⟩ := h
    simp only [Option.some.injEq, Prod.mk.injEq] at h
    have := ih hp
    simp only [List.length_cons]
    rw [← h.2]
    omega

/-! ## Scanning -/

/-- A token of one character. -/
def punctuation? : Char → Option Token
  | '[' => some openList
  | ']' => some closeList
  | '\x7b' => some openMap
  | '\x7d' => some closeMap
  | ',' => some comma
  | ':' => some colon
  | _ => none

/-- The tokens of a document; none where some text is no token. -/
def scan (cs : List Char) : Option (List Token) :=
  match cs with
  | [] => some []
  | 't' :: 'r' :: 'u' :: 'e' :: rest => do return bool true :: (← scan rest)
  | 'f' :: 'a' :: 'l' :: 's' :: 'e' :: rest => do return bool false :: (← scan rest)
  | 'n' :: 'u' :: 'l' :: 'l' :: rest => do return null :: (← scan rest)
  | c :: rest =>
    if isSpace c then scan rest
    else if c = '"' then
      match h : pieces? rest with
      | none => none
      | some (ps, rest') =>
        have := length_lt_of_pieces? h
        do return str ((text? ps).map String.ofList) :: (← scan rest')
    else if isNumberChar c then
      have : (rest.dropWhile isNumberChar).length ≤ rest.length :=
        (List.dropWhile_sublist isNumberChar).length_le
      do
        let n ← number? (c :: rest.takeWhile isNumberChar)
        return number n :: (← scan (rest.dropWhile isNumberChar))
    else do
      let t ← punctuation? c
      return t :: (← scan rest)
termination_by cs.length

end Token

end ComponentLog
