/-!
# Strings of documents

A string is written between quotation marks. `write` escapes the quotation mark, the backslash and
the characters below U+0020 and writes every other character as it is. `scan?` reads up to the
closing mark. An escape of four hexadecimal digits names a UTF-16 unit, so the text behind a scan
exists only if its surrogate units come in pairs.
-/

namespace RowMapping.Json.Quoted

/-! ## Writing -/

/-- One character inside a string. -/
def escape (character : Char) : List Char :=
  match character with
  | '"' => ['\\', '"']
  | '\\' => ['\\', '\\']
  | '\n' => ['\\', 'n']
  | '\r' => ['\\', 'r']
  | '\t' => ['\\', 't']
  | '\x08' => ['\\', 'b']
  | '\x0c' => ['\\', 'f']
  | other =>
      if other.toNat < 0x20 then
        ['\\', 'u', '0', '0', Nat.digitChar (other.toNat / 16), Nat.digitChar (other.toNat % 16)]
      else [other]

/-- A text between quotation marks. -/
def write (text : List Char) : List Char := '"' :: text.flatMap escape ++ ['"']

/-! ## Reading -/

/-- A piece of a string as read. -/
inductive Piece where
  /-- A character written as itself or by a short escape. -/
  | character (value : Char)
  /-- A UTF-16 unit written in hexadecimal. -/
  | unit (code : Nat)
  deriving DecidableEq, Repr

/-- The value of a hexadecimal digit of either case. -/
def hexDigit? (letter : Char) : Option Nat :=
  if '0' ≤ letter ∧ letter ≤ '9' then some (letter.toNat - '0'.toNat)
  else if 'a' ≤ letter ∧ letter ≤ 'f' then some (letter.toNat - 'a'.toNat + 10)
  else if 'A' ≤ letter ∧ letter ≤ 'F' then some (letter.toNat - 'A'.toNat + 10)
  else none

/-- The value of four hexadecimal digits. -/
def hexUnit? (first second third fourth : Char) : Option Nat := do
  let first ← hexDigit? first
  let second ← hexDigit? second
  let third ← hexDigit? third
  let fourth ← hexDigit? fourth
  return ((first * 16 + second) * 16 + third) * 16 + fourth

/-- The character behind a short escape. -/
def shortEscape? : Char → Option Char
  | '"' => some '"'
  | '\\' => some '\\'
  | '/' => some '/'
  | 'b' => some '\x08'
  | 'f' => some '\x0c'
  | 'n' => some '\n'
  | 'r' => some '\r'
  | 't' => some '\t'
  | _ => none

/-- The pieces up to the closing quotation mark, and what follows it. -/
def scan? : List Char → Option (List Piece × List Char)
  | [] => none
  | '"' :: rest => some ([], rest)
  | '\\' :: 'u' :: first :: second :: third :: fourth :: rest => do
      let code ← hexUnit? first second third fourth
      let (pieces, rest) ← scan? rest
      return (.unit code :: pieces, rest)
  | '\\' :: letter :: rest => do
      let character ← shortEscape? letter
      let (pieces, rest) ← scan? rest
      return (.character character :: pieces, rest)
  | letter :: rest =>
      if letter.toNat < 0x20 then none
      else do
        let (pieces, rest) ← scan? rest
        return (.character letter :: pieces, rest)

/-- Whether a unit is the first half of a pair. -/
def isLeading (code : Nat) : Bool := 0xD800 ≤ code && code < 0xDC00

/-- Whether a unit is the second half of a pair. -/
def isTrailing (code : Nat) : Bool := 0xDC00 ≤ code && code < 0xE000

/-- The text of the pieces; halves of a pair that stand alone have none. -/
def decode? : List Piece → Option (List Char)
  | [] => some []
  | .character value :: pieces => (decode? pieces).map (value :: ·)
  | .unit leading :: .unit trailing :: pieces =>
      if isLeading leading then
        if isTrailing trailing then
          (decode? pieces).map
            (Char.ofNat (0x10000 + (leading - 0xD800) * 0x400 + (trailing - 0xDC00)) :: ·)
        else none
      else if isTrailing leading then none
      else (decode? (.unit trailing :: pieces)).map (Char.ofNat leading :: ·)
  | .unit code :: pieces =>
      if isLeading code || isTrailing code then none
      else (decode? pieces).map (Char.ofNat code :: ·)

theorem length_scan? {letters rest : List Char} {pieces : List Piece}
    (read : scan? letters = some (pieces, rest)) : rest.length < letters.length := by
  induction letters using scan?.induct generalizing pieces rest with
  | case1 => simp [scan?] at read
  | case2 tail =>
      simp only [scan?, Option.some.injEq, Prod.mk.injEq] at read
      simp [← read.2]
  | case3 first second third fourth tail induction =>
      simp only [scan?, Option.bind_eq_bind, Option.bind_eq_some_iff, Option.pure_def,
        Option.some.injEq, Prod.mk.injEq] at read
      obtain ⟨code, -, ⟨scanned, left⟩, tailRead, -, rfl⟩ := read
      have shorter := induction tailRead
      simp only [List.length_cons]
      omega
  | case4 letter tail notUnit induction =>
      rw [scan?] at read
      · simp only [Option.bind_eq_bind, Option.bind_eq_some_iff, Option.pure_def,
          Option.some.injEq, Prod.mk.injEq] at read
        obtain ⟨character, -, ⟨scanned, left⟩, tailRead, -, rfl⟩ := read
        have shorter := induction tailRead
        simp only [List.length_cons]
        omega
      · exact notUnit
  | case5 letter tail notMark notUnit notEscape control =>
      rw [scan?] at read
      · simp [control] at read
      · exact notMark
      · exact notUnit
      · exact notEscape
  | case6 letter tail notMark notUnit notEscape printable induction =>
      rw [scan?] at read
      · simp only [printable, if_false, Option.bind_eq_bind, Option.bind_eq_some_iff,
          Option.pure_def, Option.some.injEq, Prod.mk.injEq] at read
        obtain ⟨⟨scanned, left⟩, tailRead, -, rfl⟩ := read
        have shorter := induction tailRead
        simp only [List.length_cons]
        omega
      · exact notMark
      · exact notUnit
      · exact notEscape

end RowMapping.Json.Quoted
