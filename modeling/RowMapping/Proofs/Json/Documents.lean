import RowMapping.Json.Text
import RowMapping.Proofs.Json.Texts

/-!
# Documents read back

A tree whose numbers are integers is written as a legible form of the same depth, and that form
stands for the tree. Since the objects of a document list their keys in ascending order, putting
them in order again changes nothing, so the form of a document stands for the document itself.
-/

namespace RowMapping

namespace Json

/-! ## Trees of integers -/

mutual

/-- Whether every number of the tree is an integer. -/
def isIntegral : Json → Bool
  | number (.double _) => false
  | array items => itemsIntegral items
  | object members => membersIntegral members
  | _ => true

/-- Whether every number of the items is an integer. -/
def itemsIntegral : List Json → Bool
  | [] => true
  | item :: items => item.isIntegral && itemsIntegral items

/-- Whether every number of the members is an integer. -/
def membersIntegral : List (String × Json) → Bool
  | [] => true
  | (_, value) :: members => value.isIntegral && membersIntegral members

end

/-! ## Forms of trees -/

mutual

theorem json?_form : (tree : Json) → tree.isIntegral = true → tree.form.json? = some tree
  | null, _ | bool _, _ | string _, _ => rfl
  | number (.integer value), _ => by
      have read := Numeral.number?_ofInt value
      simp [form, numberForm, Numeral.ofNumber?, Form.json?, read]
  | array items, integral => by
      rw [form, Form.json?, items?_itemForms items integral, Option.map_some]
  | object members, integral => by
      rw [form, Form.json?, members?_memberForms members integral, Option.map_some]

theorem items?_itemForms :
    (items : List Json) → itemsIntegral items = true → Form.items? (itemForms items) = some items
  | [], _ => rfl
  | item :: items, integral => by
      rw [itemsIntegral, Bool.and_eq_true] at integral
      simp [itemForms, Form.items?, json?_form item integral.1, items?_itemForms items integral.2]

theorem members?_memberForms :
    (members : List (String × Json)) → membersIntegral members = true →
      Form.members? (memberForms members) = some members
  | [], _ => rfl
  | (_, value) :: members, integral => by
      rw [membersIntegral, Bool.and_eq_true] at integral
      simp [memberForms, Form.members?, json?_form value integral.1,
        members?_memberForms members integral.2]

end

mutual

theorem depth_form : (tree : Json) → tree.form.depth = tree.depth
  | null | bool _ | string _ => rfl
  | number value => by
      rw [form, numberForm]
      split <;> rfl
  | array items => by rw [form, Form.depth, depth, depthOfItems_itemForms items]
  | object members => by rw [form, Form.depth, depth, depthOfMembers_memberForms members]

theorem depthOfItems_itemForms :
    (items : List Json) → Form.depthOfItems (itemForms items) = depthOfItems items
  | [] => rfl
  | item :: items => by
      rw [itemForms, Form.depthOfItems, depthOfItems, depth_form item,
        depthOfItems_itemForms items]

theorem depthOfMembers_memberForms :
    (members : List (String × Json)) →
      Form.depthOfMembers (memberForms members) = depthOfMembers members
  | [] => rfl
  | (_, value) :: members => by
      rw [memberForms, Form.depthOfMembers, depthOfMembers, depth_form value,
        depthOfMembers_memberForms members]

end

mutual

theorem isLegible_form : (tree : Json) → tree.isIntegral = true → tree.form.IsLegible
  | null, _ | bool _, _ => List.forall_mem_singleton.mpr trivial
  | string _, _ => List.forall_mem_singleton.mpr rfl
  | number (.integer value), _ =>
      List.forall_mem_singleton.mpr (Numeral.wellFormed_ofInt value.value)
  | array items, integral => Form.isLegible_array (isLegible_itemForms items integral)
  | object members, integral => Form.isLegible_object (isLegible_memberForms members integral)

theorem isLegible_itemForms :
    (items : List Json) → itemsIntegral items = true → ∀ form ∈ itemForms items, form.IsLegible
  | [], _ => by simp [itemForms]
  | item :: items, integral => by
      rw [itemsIntegral, Bool.and_eq_true] at integral
      exact List.forall_mem_cons.mpr
        ⟨isLegible_form item integral.1, isLegible_itemForms items integral.2⟩

theorem isLegible_memberForms :
    (members : List (String × Json)) → membersIntegral members = true →
      ∀ member ∈ memberForms members, member.1.isSome = true ∧ member.2.IsLegible
  | [], _ => by simp [memberForms]
  | (_, value) :: members, integral => by
      rw [membersIntegral, Bool.and_eq_true] at integral
      exact List.forall_mem_cons.mpr
        ⟨⟨rfl, isLegible_form value integral.1⟩, isLegible_memberForms members integral.2⟩

end

/-! ## Trees in order -/

theorem putMember_of_lt {key : String} {value : Json} {members : List (String × Json)}
    (last : ∀ name ∈ members.map Prod.fst, name < key) :
    putMember key value members = members ++ [(key, value)] := by
  induction members with
  | nil => rfl
  | cons member members ih =>
      obtain ⟨other, kept⟩ := member
      rw [List.map_cons, List.forall_mem_cons] at last
      have before : other < key := last.1
      have notAfter : ¬ key < other := String.lt_asymm before
      have different : ¬ key = other := fun same => String.lt_irrefl other (same ▸ before)
      rw [putMember, if_neg notAfter, if_neg different, ih last.2, List.cons_append]

mutual

/-- A canonical tree is in order already. -/
theorem arrange_of_isCanonical :
    (tree : Json) → tree.isCanonical = true → tree.arrange = tree
  | null, _ | bool _, _ | number _, _ | string _, _ => rfl
  | array items, canonical => by
      rw [arrange, arrangeItems_of_itemsCanonical items canonical]
  | object members, canonical => by
      rw [isCanonical, Bool.and_eq_true, decide_eq_true_eq] at canonical
      rw [arrange, arrangeMembers_of_membersCanonical [] members canonical.1 canonical.2,
        List.nil_append]

theorem arrangeItems_of_itemsCanonical :
    (items : List Json) → itemsCanonical items = true → arrangeItems items = items
  | [], _ => rfl
  | item :: items, canonical => by
      rw [itemsCanonical, Bool.and_eq_true] at canonical
      rw [arrangeItems, arrange_of_isCanonical item canonical.1,
        arrangeItems_of_itemsCanonical items canonical.2]

/-- Members with ascending keys are put one behind the other. -/
theorem arrangeMembers_of_membersCanonical (done : List (String × Json)) :
    (members : List (String × Json)) → ((done ++ members).map Prod.fst).Pairwise (· < ·) →
      membersCanonical members = true → arrangeMembers done members = done ++ members
  | [], _, _ => by rw [arrangeMembers, List.append_nil]
  | (key, value) :: members, ascending, canonical => by
      rw [membersCanonical, Bool.and_eq_true] at canonical
      have last : ∀ name ∈ done.map Prod.fst, name < key := by
        intro name member
        rw [List.map_append, List.pairwise_append] at ascending
        exact ascending.2.2 name member key List.mem_cons_self
      have rejoined : done ++ (key, value) :: members = (done ++ [(key, value)]) ++ members := by
        simp
      rw [arrangeMembers, arrange_of_isCanonical value canonical.1, putMember_of_lt last, rejoined]
      rw [rejoined] at ascending
      exact arrangeMembers_of_membersCanonical _ members ascending canonical.2

end

end Json

namespace Document

theorem ofJson_root (document : Document) : ofJson document.root = document := by
  obtain ⟨root, canonical⟩ := document
  simp [ofJson, Json.arrange_of_isCanonical root canonical]

theorem ofForm?_form {document : Document} (integral : document.root.isIntegral = true) :
    ofForm? document.form = some document := by
  rw [ofForm?, form, Json.json?_form document.root integral, Option.map_some, ofJson_root]

end Document

end RowMapping
