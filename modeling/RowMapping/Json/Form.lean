import RowMapping.Json.Basic
import RowMapping.Json.Token

/-!
# Grammatical form of documents

The tree that a document's tokens spell, before their meaning is settled: members keep the order
and the repetitions of the text, numbers are numerals, and a string may lack content. `tokens`
spells a form and `ofTokens?` reads it back; it accepts exactly the token lists of the grammar, at
any depth. `json?` settles the meaning, which fails where a string lacks content or a number is out
of range.
-/

namespace RowMapping.Json

inductive Form where
  | null
  | truth (value : Bool)
  | string (content : Option String)
  | number (numeral : Numeral)
  | array (items : List Form)
  | object (members : List (Option String × Form))
  deriving Repr

namespace Form

/-! ## Depth -/

mutual

/-- The number of arrays and objects around the innermost value. -/
def depth : Form → Nat
  | array items => depthOfItems items + 1
  | object members => depthOfMembers members + 1
  | _ => 0

def depthOfItems : List Form → Nat
  | [] => 0
  | item :: items => max item.depth (depthOfItems items)

def depthOfMembers : List (Option String × Form) → Nat
  | [] => 0
  | (_, value) :: members => max value.depth (depthOfMembers members)

end

/-! ## Writing -/

mutual

/-- The tokens that spell a form. -/
def tokens : Form → List Token
  | null => [.null]
  | truth value => [.truth value]
  | string content => [.string content]
  | number numeral => [.number numeral]
  | array [] => [.openBracket, .closeBracket]
  | array (item :: items) => .openBracket :: (item.tokens ++ itemTokens items)
  | object [] => [.openBrace, .closeBrace]
  | object ((key, value) :: members) =>
      .openBrace :: .string key :: .colon :: (value.tokens ++ memberTokens members)

/-- The tokens after an item, up to the end of the array. -/
def itemTokens : List Form → List Token
  | [] => [.closeBracket]
  | item :: items => .comma :: (item.tokens ++ itemTokens items)

/-- The tokens after a member, up to the end of the object. -/
def memberTokens : List (Option String × Form) → List Token
  | [] => [.closeBrace]
  | (key, value) :: members =>
      .comma :: .string key :: .colon :: (value.tokens ++ memberTokens members)

end

/-- The text that spells a form, without blanks. -/
def text (form : Form) : String := String.ofList (form.tokens.flatMap Token.chars)

/-! ## Meaning -/

mutual

/-- The tree that a form stands for. -/
def json? : Form → Option Json
  | null => some .null
  | truth value => some (.bool value)
  | string content => content.map .string
  | number numeral => numeral.number?.map .number
  | array items => (items? items).map .array
  | object members => (members? members).map .object

def items? : List Form → Option (List Json)
  | [] => some []
  | item :: items => do
      let item ← item.json?
      let items ← items? items
      return item :: items

/-- The members of an object, as written. -/
def members? : List (Option String × Form) → Option (List (String × Json))
  | [] => some []
  | (key, value) :: members => do
      let key ← key
      let value ← value.json?
      let members ← members? members
      return (key, value) :: members

end

/-! ## Reading

Reading goes through the tokens once. What has been opened and not yet closed is kept as a list of
frames, innermost first, each with its finished parts in reverse order. -/

/-- An array or object that is still open. -/
inductive Frame where
  /-- An array and its finished items. -/
  | array (done : List Form)
  /-- An object, its finished members and the key of the next one. -/
  | object (done : List (Option String × Form)) (key : Option String)

/-- What the text read so far calls for. -/
inductive Position where
  /-- A value must follow. -/
  | value (frames : List Frame)
  /-- An array has just been opened. -/
  | openedArray (frames : List Frame)
  /-- An object has just been opened. -/
  | openedObject (frames : List Frame)
  /-- A key must follow. -/
  | key (done : List (Option String × Form)) (frames : List Frame)
  /-- A colon must follow the key. -/
  | colon (done : List (Option String × Form)) (key : Option String) (frames : List Frame)
  /-- A value is complete. -/
  | complete (value : Form) (frames : List Frame)

/-- The position after the first token of a value. -/
def begin? (frames : List Frame) : Token → Option Position
  | .null => some (.complete .null frames)
  | .truth value => some (.complete (.truth value) frames)
  | .string content => some (.complete (.string content) frames)
  | .number numeral => some (.complete (.number numeral) frames)
  | .openBracket => some (.openedArray frames)
  | .openBrace => some (.openedObject frames)
  | _ => none

/-- The position after one more token. -/
def advance? : Position → Token → Option Position
  | .value frames, token => begin? frames token
  | .openedArray frames, .closeBracket => some (.complete (.array []) frames)
  | .openedArray frames, token => begin? (.array [] :: frames) token
  | .openedObject frames, .closeBrace => some (.complete (.object []) frames)
  | .openedObject frames, .string key => some (.colon [] key frames)
  | .key done frames, .string key => some (.colon done key frames)
  | .colon done key frames, .colon => some (.value (.object done key :: frames))
  | .complete item (.array done :: frames), .comma =>
      some (.value (.array (item :: done) :: frames))
  | .complete item (.array done :: frames), .closeBracket =>
      some (.complete (.array (item :: done).reverse) frames)
  | .complete value (.object done key :: frames), .comma =>
      some (.key ((key, value) :: done) frames)
  | .complete value (.object done key :: frames), .closeBrace =>
      some (.complete (.object ((key, value) :: done).reverse) frames)
  | _, _ => none

/-- The position after a list of tokens. -/
def run? : Position → List Token → Option Position
  | position, [] => some position
  | position, token :: tokens => (advance? position token).bind fun next => run? next tokens

/-- The value that the tokens spell. -/
def ofTokens? (tokens : List Token) : Option Form :=
  match run? (.value []) tokens with
  | some (.complete form []) => some form
  | _ => none

/-- The value that a text spells, at any depth. -/
def ofText? (text : String) : Option Form := (Token.ofChars? text.toList).bind ofTokens?

/-- The greatest depth of a text that is read for its meaning. -/
def depthLimit : Nat := 127

/-- The value that a text spells, if it is within the depth limit. -/
def ofShallowText? (text : String) : Option Form :=
  (ofText? text).filter fun form => form.depth ≤ depthLimit

/-! ## Reading what has been written -/

theorem run?_openedArray (frames : List Frame) (form : Form) (rest : List Token) :
    run? (.openedArray frames) (form.tokens ++ rest) =
      run? (.value (.array [] :: frames)) (form.tokens ++ rest) := by
  match form with
  | null | truth _ | string _ | number _ => simp [tokens, run?, advance?]
  | array [] | array (_ :: _) | object [] | object ((_, _) :: _) => simp [tokens, run?, advance?]

mutual

/-- Where a value must follow, the tokens of a form complete that form. -/
theorem run?_tokens (frames : List Frame) (rest : List Token) : (form : Form) →
    run? (.value frames) (form.tokens ++ rest) = run? (.complete form frames) rest
  | null | truth _ | string _ | number _ | array [] | object [] => by
      simp [tokens, run?, advance?, begin?]
  | array (item :: items) => by
      simp only [tokens, List.cons_append, List.append_assoc, run?, advance?, begin?,
        Option.bind_some]
      rw [run?_openedArray, run?_tokens _ _ item, run?_itemTokens]
      simp
  | object ((key, value) :: members) => by
      simp only [tokens, List.cons_append, List.append_assoc, run?, advance?, begin?,
        Option.bind_some]
      rw [run?_tokens _ _ value, run?_memberTokens]
      simp

theorem run?_itemTokens (item : Form) (done : List Form) (frames : List Frame)
    (rest : List Token) : (items : List Form) →
      run? (.complete item (.array done :: frames)) (itemTokens items ++ rest) =
        run? (.complete (.array ((item :: done).reverse ++ items)) frames) rest
  | [] => by simp [itemTokens, run?, advance?]
  | next :: items => by
      simp only [itemTokens, List.cons_append, List.append_assoc, run?, advance?,
        Option.bind_some]
      rw [run?_tokens _ _ next, run?_itemTokens next (item :: done) frames rest items]
      simp

theorem run?_memberTokens (key : Option String) (value : Form)
    (done : List (Option String × Form)) (frames : List Frame) (rest : List Token) :
    (members : List (Option String × Form)) →
      run? (.complete value (.object done key :: frames)) (memberTokens members ++ rest) =
        run? (.complete (.object (((key, value) :: done).reverse ++ members)) frames) rest
  | [] => by simp [memberTokens, run?, advance?]
  | (nextKey, next) :: members => by
      simp only [memberTokens, List.cons_append, List.append_assoc, run?, advance?,
        Option.bind_some]
      rw [run?_tokens _ _ next,
        run?_memberTokens nextKey next ((key, value) :: done) frames rest members]
      simp

end

theorem ofTokens?_tokens (form : Form) : ofTokens? form.tokens = some form := by
  have read := run?_tokens [] [] form
  rw [List.append_nil] at read
  simp [ofTokens?, read, run?]

end Form

end RowMapping.Json
