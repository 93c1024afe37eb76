import RowMapping.Json.Number

/-!
# Document trees

Trees of objects, arrays, strings, numbers, truth values and nulls. A document is a tree whose
objects list their members by ascending key, each key once. `Document.ofJson` brings any tree into
that form; where a key is repeated its last value stands.
-/

namespace RowMapping

/-- A tree of values; an object lists its members in order. -/
inductive Json where
  | null
  | bool (truth : Bool)
  | number (number : Json.Number)
  | string (text : String)
  | array (items : List Json)
  | object (members : List (String × Json))
  deriving Repr

namespace Json

/-! ## Decidable equality -/

mutual

def decideEq : (left right : Json) → Decidable (left = right)
  | null, null => isTrue rfl
  | bool left, bool right => decidable_of_iff (left = right) (by simp)
  | number left, number right => decidable_of_iff (left = right) (by simp)
  | string left, string right => decidable_of_iff (left = right) (by simp)
  | array left, array right =>
      have := decideEqItems left right
      decidable_of_iff (left = right) (by simp)
  | object left, object right =>
      have := decideEqMembers left right
      decidable_of_iff (left = right) (by simp)
  | null, bool _ | null, number _ | null, string _ | null, array _ | null, object _
  | bool _, null | bool _, number _ | bool _, string _ | bool _, array _ | bool _, object _
  | number _, null | number _, bool _ | number _, string _ | number _, array _ | number _, object _
  | string _, null | string _, bool _ | string _, number _ | string _, array _ | string _, object _
  | array _, null | array _, bool _ | array _, number _ | array _, string _ | array _, object _
  | object _, null | object _, bool _ | object _, number _ | object _, string _
  | object _, array _ => isFalse (by simp)

def decideEqItems : (left right : List Json) → Decidable (left = right)
  | [], [] => isTrue rfl
  | left :: lefts, right :: rights =>
      have := decideEq left right
      have := decideEqItems lefts rights
      decidable_of_iff (left = right ∧ lefts = rights) (by simp)
  | [], _ :: _ | _ :: _, [] => isFalse (by simp)

def decideEqMembers : (left right : List (String × Json)) → Decidable (left = right)
  | [], [] => isTrue rfl
  | (key, left) :: lefts, (key', right) :: rights =>
      have := decideEq left right
      have := decideEqMembers lefts rights
      decidable_of_iff ((key = key' ∧ left = right) ∧ lefts = rights) (by simp)
  | [], _ :: _ | _ :: _, [] => isFalse (by simp)

end

instance : DecidableEq Json := decideEq

/-! ## Comparison -/

mutual

/-- Equality up to the equality of numbers. -/
def equals : Json → Json → Bool
  | null, null => true
  | bool left, bool right => left == right
  | number left, number right => left.equals right
  | string left, string right => left == right
  | array left, array right => equalItems left right
  | object left, object right => equalMembers left right
  | _, _ => false

def equalItems : List Json → List Json → Bool
  | [], [] => true
  | left :: lefts, right :: rights => left.equals right && equalItems lefts rights
  | _, _ => false

def equalMembers : List (String × Json) → List (String × Json) → Bool
  | [], [] => true
  | (key, left) :: lefts, (key', right) :: rights =>
      key == key' && left.equals right && equalMembers lefts rights
  | _, _ => false

end

/-! ## Depth -/

mutual

/-- The number of arrays and objects around the innermost value. -/
def depth : Json → Nat
  | array items => depthOfItems items + 1
  | object members => depthOfMembers members + 1
  | _ => 0

def depthOfItems : List Json → Nat
  | [] => 0
  | item :: items => max item.depth (depthOfItems items)

def depthOfMembers : List (String × Json) → Nat
  | [] => 0
  | (_, value) :: members => max value.depth (depthOfMembers members)

end

/-! ## Ordered members -/

mutual

/-- Whether every object of the tree lists its keys in strictly ascending order. -/
def isCanonical : Json → Bool
  | array items => itemsCanonical items
  | object members =>
      decide ((members.map Prod.fst).Pairwise (· < ·)) && membersCanonical members
  | _ => true

def itemsCanonical : List Json → Bool
  | [] => true
  | item :: items => item.isCanonical && itemsCanonical items

def membersCanonical : List (String × Json) → Bool
  | [] => true
  | (_, value) :: members => value.isCanonical && membersCanonical members

end

/-- Put a member into an ascending list; a member of the same key gives way. -/
def putMember (key : String) (value : Json) :
    List (String × Json) → List (String × Json)
  | [] => [(key, value)]
  | (other, kept) :: members =>
      if key < other then (key, value) :: (other, kept) :: members
      else if key = other then (key, value) :: members
      else (other, kept) :: putMember key value members

mutual

/-- The same tree with every object's members in order. -/
def arrange : Json → Json
  | array items => array (arrangeItems items)
  | object members => object (arrangeMembers [] members)
  | other => other

def arrangeItems : List Json → List Json
  | [] => []
  | item :: items => item.arrange :: arrangeItems items

/-- Put arranged members, first to last, into an ascending list. -/
def arrangeMembers (done : List (String × Json)) :
    List (String × Json) → List (String × Json)
  | [] => done
  | (key, value) :: members => arrangeMembers (putMember key value.arrange done) members

end

theorem mem_keys_putMember {key name : String} {value : Json} {members : List (String × Json)} :
    name ∈ (putMember key value members).map Prod.fst ↔
      name = key ∨ name ∈ members.map Prod.fst := by
  induction members with
  | nil => simp [putMember]
  | cons member members induction =>
      obtain ⟨other, kept⟩ := member
      simp only [putMember]
      split
      · simp
      · split
        · rename_i same
          subst same
          simp
        · simp only [List.map_cons, List.mem_cons, induction]
          constructor
          · rintro (here | same | there)
            · exact .inr (.inl here)
            · exact .inl same
            · exact .inr (.inr there)
          · rintro (same | here | there)
            · exact .inr (.inl same)
            · exact .inl here
            · exact .inr (.inr there)

theorem ascending_putMember {key : String} {value : Json} {members : List (String × Json)}
    (ascending : (members.map Prod.fst).Pairwise (· < ·)) :
    ((putMember key value members).map Prod.fst).Pairwise (· < ·) := by
  induction members with
  | nil => simp [putMember]
  | cons member members induction =>
      obtain ⟨other, kept⟩ := member
      simp only [List.map_cons, List.pairwise_cons] at ascending
      obtain ⟨least, rest⟩ := ascending
      simp only [putMember]
      split
      · rename_i before
        simp only [List.map_cons, List.pairwise_cons, List.mem_cons]
        refine ⟨?_, least, rest⟩
        rintro name (rfl | member)
        · exact before
        · exact String.lt_trans before (least name member)
      · rename_i notBefore
        split
        · rename_i same
          subst same
          exact List.pairwise_cons.mpr ⟨least, rest⟩
        · rename_i different
          refine List.pairwise_cons.mpr ⟨?_, induction rest⟩
          intro name member
          rcases mem_keys_putMember.mp member with rfl | present
          · exact Std.lt_of_le_of_ne (String.not_lt.mp notBefore) (Ne.symm different)
          · exact least name present

theorem membersCanonical_putMember {key : String} {value : Json}
    {members : List (String × Json)} (valueCanonical : value.isCanonical = true)
    (canonical : membersCanonical members = true) :
    membersCanonical (putMember key value members) = true := by
  induction members with
  | nil => simp [putMember, membersCanonical, valueCanonical]
  | cons member members induction =>
      obtain ⟨other, kept⟩ := member
      simp only [membersCanonical, Bool.and_eq_true] at canonical
      simp only [putMember]
      split
      · simp [membersCanonical, valueCanonical, canonical]
      · split
        · simp [membersCanonical, valueCanonical, canonical]
        · simp [membersCanonical, canonical, induction canonical.2]

mutual

theorem isCanonical_arrange : (tree : Json) → tree.arrange.isCanonical = true
  | null | bool _ | number _ | string _ => rfl
  | array items => by
      simp only [arrange, isCanonical]
      exact itemsCanonical_arrangeItems items
  | object members => by
      have arranged := canonical_arrangeMembers [] members
        (by simp) (by simp [membersCanonical])
      simp only [arrange, isCanonical, Bool.and_eq_true, decide_eq_true_eq]
      exact arranged

theorem itemsCanonical_arrangeItems :
    (items : List Json) → itemsCanonical (arrangeItems items) = true
  | [] => rfl
  | item :: items => by
      simp [arrangeItems, itemsCanonical, isCanonical_arrange item,
        itemsCanonical_arrangeItems items]

theorem canonical_arrangeMembers (done : List (String × Json)) :
    (members : List (String × Json)) → (done.map Prod.fst).Pairwise (· < ·) →
      membersCanonical done = true →
      ((arrangeMembers done members).map Prod.fst).Pairwise (· < ·) ∧
        membersCanonical (arrangeMembers done members) = true
  | [], ascending, canonical => ⟨ascending, canonical⟩
  | (key, value) :: members, ascending, canonical => by
      simp only [arrangeMembers]
      exact canonical_arrangeMembers _ members (ascending_putMember ascending)
        (membersCanonical_putMember (isCanonical_arrange value) canonical)

end

end Json

/-- A tree whose objects list each key once, in ascending order. -/
structure Document where
  root : Json
  canonical : root.isCanonical = true
  deriving DecidableEq

namespace Document

/-- The document of a tree; of a repeated key the last value stands. -/
def ofJson (tree : Json) : Document := ⟨tree.arrange, tree.isCanonical_arrange⟩

def null : Document := ⟨.null, rfl⟩

/-- Equality up to the equality of numbers. -/
def equals (left right : Document) : Bool := left.root.equals right.root

end Document

end RowMapping
