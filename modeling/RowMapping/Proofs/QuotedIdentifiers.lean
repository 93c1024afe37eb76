import Mathlib.Logic.Function.Basic
import RowMapping.Proofs.Sql.Quoting
import RowMapping.Sql.Command
import RowMapping.Sql.ObjectPath

/-!
# Quoted identifiers and paths

A quotation shows by itself where it ends: up to there it can be read off the front of any text that
does not go on with a closing delimiter, and nothing else can be read so. Different identifiers
therefore have different quotations, and different lists of segments different paths, whatever
points and delimiters the segments hold.
-/

namespace RowMapping

open Delimiters

namespace Sql.Token

/-- The identifier quoted at the front of a text, and what follows its quotation. -/
def takeIdentifier? (kind : DialectKind) (text : String) : Option (String × String) :=
  match text.toList with
  | [] => none
  | letter :: letters =>
      if letter = openingMark kind then
        (scanQuoted? (closingMark kind) letters).map (Prod.map String.ofList String.ofList)
      else none

/-- What has been scanned is a quotation without its opening delimiter, and the closing one is not
doubled. -/
theorem eq_double_of_scanQuoted? {closing : Char} {letters name rest : List Char}
    (scanned : scanQuoted? closing letters = some (name, rest)) :
    letters = double [closing] 0 name ++ closing :: rest ∧ rest.head? ≠ some closing := by
  fun_induction scanQuoted? closing letters generalizing name rest with
  | case1 => cases scanned
  | case2 =>
      cases scanned
      exact ⟨rfl, by simp⟩
  | case3 => cases scanned
  | case4 tail ih =>
      obtain ⟨⟨tailName, tailRest⟩, tailScanned, pair⟩ := Option.map_eq_some_iff.mp scanned
      obtain ⟨rfl, rfl⟩ := Prod.mk.inj pair
      obtain ⟨tail_eq, rest_head⟩ := ih tailScanned
      rw [double_singleton_self, tail_eq]
      exact ⟨rfl, rest_head⟩
  | case5 next tail next_ne =>
      cases scanned
      exact ⟨rfl, by simpa using next_ne⟩
  | case6 letter next tail letter_ne ih =>
      obtain ⟨⟨tailName, tailRest⟩, tailScanned, pair⟩ := Option.map_eq_some_iff.mp scanned
      obtain ⟨rfl, rfl⟩ := Prod.mk.inj pair
      obtain ⟨tail_eq, rest_head⟩ := ih tailScanned
      rw [double_singleton_of_ne letter_ne, tail_eq]
      exact ⟨rfl, rest_head⟩

theorem scanQuoted?_eq_some_iff {closing : Char} {letters name rest : List Char} :
    scanQuoted? closing letters = some (name, rest) ↔
      letters = double [closing] 0 name ++ closing :: rest ∧ rest.head? ≠ some closing := by
  constructor
  · exact eq_double_of_scanQuoted?
  · rintro ⟨rfl, rest_head⟩
    exact scanQuoted?_double closing name rest_head

theorem toList_quote_append (kind : DialectKind) (name rest : String) :
    (kind.traits.quote name ++ rest).toList =
      openingMark kind ::
        (double [closingMark kind] 0 name.toList ++ closingMark kind :: rest.toList) := by
  rw [String.toList_append, traits_quote, toList_quote]
  simp

/-- What is read is the identifier whose quotation stands in front. -/
theorem takeIdentifier?_eq_some_iff {kind : DialectKind} {text name rest : String} :
    takeIdentifier? kind text = some (name, rest) ↔
      text = kind.traits.quote name ++ rest ∧ rest.toList.head? ≠ some (closingMark kind) := by
  rw [← String.toList_inj, toList_quote_append]
  unfold takeIdentifier?
  cases text.toList with
  | nil => simp
  | cons letter letters =>
      dsimp only
      by_cases opens : letter = openingMark kind
      · rw [if_pos opens, Option.map_eq_some_iff, List.cons.injEq, and_assoc, and_iff_right opens,
          ← scanQuoted?_eq_some_iff]
        constructor
        · rintro ⟨⟨taken, left⟩, scanned, pair⟩
          obtain ⟨rfl, rfl⟩ := Prod.mk.inj pair
          simpa using scanned
        · intro scanned
          exact ⟨_, scanned, by simp⟩
      · simp [opens]

end Sql.Token

open Sql.Token

namespace DialectTraits

variable {kind : DialectKind}

/-- Texts that start with quotations which no further closing delimiter follows are the same only if
the identifiers are the same, and so is what follows. -/
theorem quote_append_inj {left right leftRest rightRest : String}
    (left_head : leftRest.toList.head? ≠ some (closingMark kind))
    (right_head : rightRest.toList.head? ≠ some (closingMark kind))
    (same : kind.traits.quote left ++ leftRest = kind.traits.quote right ++ rightRest) :
    left = right ∧ leftRest = rightRest := by
  have left_taken : takeIdentifier? kind (kind.traits.quote left ++ leftRest) =
      some (left, leftRest) := takeIdentifier?_eq_some_iff.mpr ⟨rfl, left_head⟩
  have right_taken : takeIdentifier? kind (kind.traits.quote left ++ leftRest) =
      some (right, rightRest) := takeIdentifier?_eq_some_iff.mpr ⟨same, right_head⟩
  exact Prod.mk.inj (Option.some.inj (left_taken.symm.trans right_taken))

theorem quote_injective (kind : DialectKind) : Function.Injective kind.traits.quote := by
  intro left right same
  have nothing_follows : "".toList.head? ≠ some (closingMark kind) := by simp
  exact (quote_append_inj nothing_follows nothing_follows (congrArg (· ++ "") same)).1

/-! ## Paths -/

/-- The further segments of a path, each behind a point. -/
def continuation (traits : DialectTraits) : List String → String
  | [] => ""
  | segment :: segments => "." ++ (traits.quote segment ++ traits.continuation segments)

theorem pathText_cons (traits : DialectTraits) (segment : String) (segments : List String) :
    traits.pathText (segment :: segments) =
      traits.quote segment ++ traits.continuation segments := by
  induction segments generalizing segment with
  | nil => simp [pathText, continuation]
  | cons next segments ih =>
      rw [continuation, ← ih next]
      simp [pathText, String.intercalate_cons_cons, String.append_assoc]

/-- The first segment of a path ends before the point. -/
theorem continuation_head (kind : DialectKind) (segments : List String) :
    (kind.traits.continuation segments).toList.head? ≠ some (closingMark kind) := by
  cases segments with
  | nil => simp [continuation]
  | cons segment segments =>
      have point_ne : '.' ≠ closingMark kind := by
        cases kind <;> decide
      simpa [continuation] using point_ne

theorem continuation_injective (kind : DialectKind) :
    Function.Injective kind.traits.continuation := by
  intro left right same
  induction left generalizing right with
  | nil =>
      cases right with
      | nil => rfl
      | cons other others => simp [continuation] at same
  | cons segment segments ih =>
      cases right with
      | nil => simp [continuation] at same
      | cons other others =>
          rw [continuation, continuation, String.append_right_inj] at same
          obtain ⟨rfl, rest_eq⟩ :=
            quote_append_inj (continuation_head kind segments) (continuation_head kind others) same
          rw [ih rest_eq]

theorem pathText_cons_ne (kind : DialectKind) (segment : String) (segments : List String) :
    kind.traits.pathText (segment :: segments) ≠ kind.traits.pathText [] := by
  intro same
  have letters_eq := congrArg String.toList same
  rw [pathText_cons, toList_quote_append] at letters_eq
  simp [pathText] at letters_eq

theorem pathText_injective (kind : DialectKind) : Function.Injective kind.traits.pathText := by
  intro left right same
  cases left with
  | nil =>
      cases right with
      | nil => rfl
      | cons other others => exact absurd same.symm (pathText_cons_ne kind other others)
  | cons segment segments =>
      cases right with
      | nil => exact absurd same (pathText_cons_ne kind segment segments)
      | cons other others =>
          refine continuation_injective kind ?_
          rw [continuation, continuation, ← pathText_cons, ← pathText_cons, same]

/-- A quotation in a built-in dialect can be read off the front of a text exactly if no further
closing delimiter follows it; then the identifier is what is read, and what follows is left. So
identifiers have quotations of their own, lists of segments have paths of their own, and objects
with one qualified path have the same segments. -/
theorem quote_selfDelimiting (kind : DialectKind) :
    (∀ text name rest, takeIdentifier? kind text = some (name, rest) ↔
      text = kind.traits.quote name ++ rest ∧
        rest.toList.head? ≠ some (closingMark kind)) ∧
    Function.Injective kind.traits.quote ∧
    Function.Injective kind.traits.pathText ∧
    ∀ left right : ObjectPath,
      left.qualified kind.traits.quote = right.qualified kind.traits.quote ↔
        left.segments = right.segments := by
  refine ⟨fun _ _ _ => takeIdentifier?_eq_some_iff, quote_injective kind, pathText_injective kind,
    fun left right => ?_⟩
  exact (pathText_injective kind).eq_iff

/-- Closing delimiters at both ends of an identifier, which also holds a point, in front of a
segment that is nothing but one. -/
theorem quote_selfDelimiting_brackets :
    takeIdentifier? .sqlServer "[]]]]a.b]]].[]]]" = some ("]]a.b]", ".[]]]") :=
  ((quote_selfDelimiting .sqlServer).1 _ _ _).mpr ⟨by decide, by decide⟩

end DialectTraits

end RowMapping
