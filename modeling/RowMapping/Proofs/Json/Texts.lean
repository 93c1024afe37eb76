import Mathlib.Data.List.Chain
import RowMapping.Json.Form
import RowMapping.Proofs.Json.Numerals
import RowMapping.Proofs.Json.Strings

/-!
# Texts read back

A token is legible if it can be told from its letters: a string has content and a numeral is well
formed. Legible tokens are read back from their letters as long as no two numerals stand side by
side, and in the tokens of a form they never do: so a form whose tokens are legible is read back
from its text.
-/

namespace RowMapping.Json

namespace Token

/-! ## Single tokens -/

/-- The token can be told from its letters. -/
def IsLegible : Token → Prop
  | string content => content.isSome = true
  | number numeral => numeral.WellFormed
  | _ => True

/-- Whether a token is a numeral. -/
def isNumber : Token → Bool
  | number _ => true
  | _ => false

theorem scan?_of_numeral {first : Char} (starts : first = '-' ∨ first.isDigit = true)
    (letters : List Char) {numeral : Numeral} {rest : List Char}
    (read : Numeral.ofChars? (first :: letters) = some (numeral, rest)) :
    scan? (first :: letters) = some (number numeral, rest) := by
  unfold scan?
  split
  case h_11 =>
    rw [read]
    rfl
  all_goals
    rename_i same
    obtain ⟨rfl, -⟩ := List.cons.inj same
    exact absurd starts (by decide)

/-- A legible token is read back; what follows a numeral must not continue it. -/
theorem scan?_chars {token : Token} (legible : token.IsLegible) {rest : List Char}
    (ends : token.isNumber = true → Numeral.Boundary rest) :
    scan? (token.chars ++ rest) = some (token, rest) := by
  cases token with
  | truth value => cases value <;> rfl
  | string content =>
      obtain ⟨text, rfl⟩ := Option.isSome_iff_exists.mp legible
      obtain ⟨pieces, decoded, read⟩ := Quoted.exists_scan?_flatMap_escape text.toList rest
      have written : (string (some text)).chars ++ rest =
          '"' :: (text.toList.flatMap Quoted.escape ++ '"' :: rest) := by
        simp [chars, Quoted.write]
      simp [written, scan?, read, decoded]
  | number numeral =>
      obtain ⟨first, more, chars_eq, starts⟩ := Numeral.exists_chars_eq_cons legible
      have read := Numeral.ofChars?_chars legible (ends rfl)
      rw [chars_eq] at read
      rw [chars, chars_eq]
      exact scan?_of_numeral starts _ read
  | _ => rfl

theorem scan?_space {letter : Char} (space : isSpace letter = true) (letters : List Char) :
    scan? (letter :: letters) = none := by
  have blank : letter = ' ' ∨ letter = '\t' ∨ letter = '\n' ∨ letter = '\r' := by
    simpa [isSpace, or_assoc] using space
  rcases blank with rfl | rfl | rfl | rfl <;> rfl

/-- No token starts with a blank, so reading a text starts with its first token. -/
theorem ofChars?_of_scan? {letters rest : List Char} {token : Token}
    (read : scan? letters = some (token, rest)) :
    ofChars? letters = (ofChars? rest).map (token :: ·) := by
  cases letters with
  | nil => cases read
  | cons letter letters =>
      have visible : ¬ isSpace letter = true := by
        intro space
        rw [scan?_space space] at read
        cases read
      rw [ofChars?, if_neg visible]
      split
      · rename_i missed
        rw [read] at missed
        cases missed
      · rename_i found left foundRead
        rw [read] at foundRead
        obtain ⟨rfl, rfl⟩ := Prod.mk.inj (Option.some.inj foundRead)
        rfl

/-! ## Lists of tokens -/

/-- At least one of two tokens is not a numeral. -/
def Apart (left right : Token) : Prop := left.isNumber = false ∨ right.isNumber = false

/-- Only a numeral continues a numeral. -/
theorem boundary_chars {token : Token} (other : token.isNumber = false) (rest : List Char) :
    Numeral.Boundary (token.chars ++ rest) := by
  intro letter first
  cases token with
  | number numeral => cases other
  | truth value => cases value <;> · obtain rfl := Option.some.inj first; decide
  | _ => obtain rfl := Option.some.inj first; decide

/-- Legible tokens are read back if no two numerals stand side by side. -/
theorem ofChars?_flatMap_chars {tokens : List Token} (legible : ∀ token ∈ tokens, token.IsLegible)
    (apart : tokens.IsChain Apart) : ofChars? (tokens.flatMap chars) = some tokens := by
  induction tokens with
  | nil => rw [List.flatMap_nil, ofChars?]
  | cons token tokens ih =>
      rw [List.isChain_cons] at apart
      obtain ⟨beside, apart⟩ := apart
      have ends : token.isNumber = true → Numeral.Boundary (tokens.flatMap chars) := by
        intro isNumber
        cases tokens with
        | nil => simp [Numeral.Boundary]
        | cons next tokens =>
            rcases beside next rfl with notNumber | notNumber
            · rw [isNumber] at notNumber
              cases notNumber
            · exact boundary_chars notNumber _
      have read := scan?_chars (legible token List.mem_cons_self) ends
      have others :=
        ih (fun other member => legible other (List.mem_cons_of_mem token member)) apart
      rw [List.flatMap_cons, ofChars?_of_scan? read, others, Option.map_some]

end Token

namespace Form

open Token (IsLegible Apart)

/-! ## Numerals stand apart -/

theorem isNumber_itemTokens (items : List Form) :
    ∀ token ∈ (itemTokens items).head?, token.isNumber = false := by
  cases items <;> simp [itemTokens, Token.isNumber]

theorem isNumber_memberTokens (members : List (Option String × Form)) :
    ∀ token ∈ (memberTokens members).head?, token.isNumber = false := by
  cases members <;> simp [memberTokens, Token.isNumber]

/-- Behind a token that is no numeral anything may stand. -/
theorem isChain_cons {token : Token} (other : token.isNumber = false) {tokens : List Token}
    (apart : tokens.IsChain Apart) : (token :: tokens).IsChain Apart :=
  List.isChain_cons.mpr ⟨fun _ _ => .inl other, apart⟩

/-- In front of a token that is no numeral anything may stand. -/
theorem isChain_append {front back : List Token} (frontApart : front.IsChain Apart)
    (backApart : back.IsChain Apart) (other : ∀ token ∈ back.head?, token.isNumber = false) :
    (front ++ back).IsChain Apart :=
  List.isChain_append.mpr ⟨frontApart, backApart, fun _ _ token first => .inr (other token first)⟩

mutual

theorem isChain_tokens : (form : Form) → form.tokens.IsChain Apart
  | null | truth _ | string _ | number _ => List.isChain_singleton _
  | array [] | object [] => isChain_cons rfl (List.isChain_singleton _)
  | array (item :: items) =>
      isChain_cons rfl
        (isChain_append (isChain_tokens item) (isChain_itemTokens items)
          (isNumber_itemTokens items))
  | object ((_, value) :: members) =>
      isChain_cons rfl <| isChain_cons rfl <| isChain_cons rfl <|
        isChain_append (isChain_tokens value) (isChain_memberTokens members)
          (isNumber_memberTokens members)

theorem isChain_itemTokens : (items : List Form) → (itemTokens items).IsChain Apart
  | [] => List.isChain_singleton _
  | item :: items =>
      isChain_cons rfl
        (isChain_append (isChain_tokens item) (isChain_itemTokens items)
          (isNumber_itemTokens items))

theorem isChain_memberTokens :
    (members : List (Option String × Form)) → (memberTokens members).IsChain Apart
  | [] => List.isChain_singleton _
  | (_, value) :: members =>
      isChain_cons rfl <| isChain_cons rfl <| isChain_cons rfl <|
        isChain_append (isChain_tokens value) (isChain_memberTokens members)
          (isNumber_memberTokens members)

end

/-! ## Legible forms -/

/-- Every token of the form can be told from its letters. -/
def IsLegible (form : Form) : Prop := ∀ token ∈ form.tokens, token.IsLegible

theorem isLegible_itemTokens {items : List Form} (legible : ∀ item ∈ items, item.IsLegible) :
    ∀ token ∈ itemTokens items, token.IsLegible := by
  induction items with
  | nil => simp [itemTokens, Token.IsLegible]
  | cons item items ih =>
      obtain ⟨here, there⟩ := List.forall_mem_cons.mp legible
      have after := List.forall_mem_append.mpr ⟨here, ih there⟩
      exact List.forall_mem_cons.mpr ⟨trivial, after⟩

theorem isLegible_array {items : List Form} (legible : ∀ item ∈ items, item.IsLegible) :
    (array items).IsLegible := by
  cases items with
  | nil => simp [IsLegible, tokens, Token.IsLegible]
  | cons item items =>
      obtain ⟨here, there⟩ := List.forall_mem_cons.mp legible
      have after := List.forall_mem_append.mpr ⟨here, isLegible_itemTokens there⟩
      exact List.forall_mem_cons.mpr ⟨trivial, after⟩

/-- The tokens of a member, behind the mark in front of it and before those of further members. -/
theorem isLegible_memberStep (mark : Token) (markLegible : mark.IsLegible)
    {member : Option String × Form} (legible : member.1.isSome = true ∧ member.2.IsLegible)
    {after : List Token} (afterLegible : ∀ token ∈ after, token.IsLegible) :
    ∀ token ∈ mark :: .string member.1 :: .colon :: (member.2.tokens ++ after),
      token.IsLegible := by
  have content := List.forall_mem_append.mpr ⟨legible.2, afterLegible⟩
  have key : (Token.string member.1).IsLegible := legible.1
  exact List.forall_mem_cons.mpr ⟨markLegible,
    List.forall_mem_cons.mpr ⟨key, List.forall_mem_cons.mpr ⟨trivial, content⟩⟩⟩

theorem isLegible_memberTokens {members : List (Option String × Form)}
    (legible : ∀ member ∈ members, member.1.isSome = true ∧ member.2.IsLegible) :
    ∀ token ∈ memberTokens members, token.IsLegible := by
  induction members with
  | nil => simp [memberTokens, Token.IsLegible]
  | cons member members ih =>
      obtain ⟨here, there⟩ := List.forall_mem_cons.mp legible
      exact isLegible_memberStep .comma trivial here (ih there)

theorem isLegible_object {members : List (Option String × Form)}
    (legible : ∀ member ∈ members, member.1.isSome = true ∧ member.2.IsLegible) :
    (object members).IsLegible := by
  cases members with
  | nil => simp [IsLegible, tokens, Token.IsLegible]
  | cons member members =>
      obtain ⟨here, there⟩ := List.forall_mem_cons.mp legible
      exact isLegible_memberStep .openBrace trivial here (isLegible_memberTokens there)

/-! ## Forms read back -/

theorem ofText?_text {form : Form} (legible : form.IsLegible) : ofText? form.text = some form := by
  rw [ofText?, text, String.toList_ofList,
    Token.ofChars?_flatMap_chars legible (isChain_tokens form), Option.bind_some,
    ofTokens?_tokens]

/-- Under the depth limit a legible form is read back unless it is too deep. -/
theorem ofShallowText?_text {form : Form} (legible : form.IsLegible) :
    ofShallowText? form.text = if form.depth ≤ depthLimit then some form else none := by
  rw [ofShallowText?, ofText?_text legible, Option.filter_some]
  simp

end Form

end RowMapping.Json
