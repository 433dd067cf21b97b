import Sambervise.Ldap.Rename

namespace Sambervise.Ldap

open Text

/-! The text of the leftmost value of a name, next to what the value is -/

def leftmostTokens (string : CString) : List Token :=
  ((lex string).splitOn (.raw comma)).headD []

/-- The leftmost part is one attribute, whose value is a string without an escape. -/
def WrittenPlainly (string : CString) : Prop :=
  (∀ token ∈ leftmostTokens string, token.literal.isSome = true) ∧
    .raw plus ∉ leftmostTokens string ∧
    ((leftmostTokens string).dropWhile (· != .raw equals)).tail.head? ≠ some (.raw sharp)

instance (string : CString) : Decidable (WrittenPlainly string) :=
  inferInstanceAs (Decidable (_ ∧ _ ∧ _))

/-! Tokens and the text they were read from -/

theorem lex_eq_cons {string : CString} {token : Token} {tokens : List Token}
    (read : lex string = token :: tokens) :
    ∃ rest, string = token.source ++ rest ∧ lex rest = tokens := by
  fun_cases lex string with
  | case1 => cases read
  | case2 char =>
      obtain ⟨rfl, rfl⟩ := List.cons.inj read
      exact ⟨[], rfl, rfl⟩
  | case3 next rest =>
      rw [lex, if_pos rfl] at read
      obtain ⟨rfl, rfl⟩ := List.cons.inj read
      exact ⟨rest, rfl, rfl⟩
  | case4 char next rest plain =>
      rw [lex, if_neg plain] at read
      obtain ⟨rfl, rfl⟩ := List.cons.inj read
      exact ⟨next :: rest, rfl, rfl⟩

theorem eq_nil_of_lex {string : CString} (read : lex string = []) : string = [] := by
  fun_cases lex string with
  | case1 => rfl
  | case2 char => cases read
  | case3 next rest =>
      rw [lex, if_pos rfl] at read
      cases read
  | case4 char next rest plain =>
      rw [lex, if_neg plain] at read
      cases read

theorem lex_eq_append {string : CString} {front back : List Token}
    (read : lex string = front ++ back) :
    ∃ rest, string = front.flatMap Token.source ++ rest ∧ lex rest = back := by
  induction front generalizing string with
  | nil => exact ⟨string, rfl, read⟩
  | cons token tokens ih =>
      obtain ⟨middle, rfl, later⟩ := lex_eq_cons read
      obtain ⟨rest, rfl, last⟩ := ih later
      exact ⟨rest, by rw [List.flatMap_cons, List.append_assoc], last⟩

theorem flatMap_source_map_raw (string : CString) :
    (string.map Token.raw).flatMap Token.source = string := by
  induction string with
  | nil => rfl
  | cons char rest ih => rw [List.map_cons, List.flatMap_cons, ih]; rfl

theorem length_le_source (tokens : List Token) :
    tokens.length ≤ (tokens.flatMap Token.source).length := by
  induction tokens with
  | nil => exact le_rfl
  | cons token rest ih =>
      rw [List.flatMap_cons, List.length_append, List.length_cons]
      cases token with
      | raw char =>
          simp only [Token.source, List.length_cons, List.length_nil]
          omega
      | escaped char =>
          simp only [Token.source, List.length_cons, List.length_nil]
          omega

/-- Tokens as many as the characters they were read from are all unescaped. -/
theorem literal_of_length_source {tokens : List Token}
    (same : (tokens.flatMap Token.source).length = tokens.length) :
    ∀ token ∈ tokens, token.literal.isSome = true := by
  induction tokens with
  | nil => simp
  | cons token rest ih =>
      have short := length_le_source rest
      rw [List.flatMap_cons, List.length_append, List.length_cons] at same
      cases token with
      | raw char =>
          simp only [Token.source, List.length_cons, List.length_nil] at same
          intro other member
          rcases List.mem_cons.mp member with rfl | later
          · rfl
          · exact ih (by omega) other later
      | escaped char =>
          simp only [Token.source, List.length_cons, List.length_nil] at same
          omega

theorem eq_map_raw_of_literal {tokens : List Token}
    (literal : ∀ token ∈ tokens, token.literal.isSome = true) :
    tokens = (tokens.flatMap Token.source).map .raw := by
  induction tokens with
  | nil => rfl
  | cons token rest ih =>
      have later := ih fun other member => literal other (List.mem_cons_of_mem token member)
      cases token with
      | raw char =>
          rw [List.flatMap_cons, List.map_append, ← later]
          rfl
      | escaped char => cases literal _ List.mem_cons_self

theorem comma_notMem_source {tokens : List Token} (separated : .raw comma ∉ tokens)
    (escaped : .escaped comma ∉ tokens) : comma ∉ tokens.flatMap Token.source := by
  intro member
  obtain ⟨token, inTokens, inSource⟩ := List.mem_flatMap.mp member
  cases token with
  | raw char =>
      rw [Token.source, List.mem_singleton] at inSource
      exact separated (inSource ▸ inTokens)
  | escaped char =>
      rcases List.mem_cons.mp inSource with impossible | isChar
      · cases impossible
      · exact escaped (List.mem_singleton.mp isChar ▸ inTokens)

/-! Values that are not longer than their text -/

theorem eq_of_decodeString_map_raw {string value : CString}
    (decoded : decodeString (string.map .raw) = some value) : value = string := by
  induction string generalizing value with
  | nil => exact (Option.some.inj decoded).symm
  | cons char rest ih =>
      rw [List.map_cons, decodeString] at decoded
      split at decoded
      · obtain ⟨tail, later, rfl⟩ := Option.map_eq_some_iff.mp decoded
        rw [ih later]
      · cases decoded

theorem mem_of_decodeString_escaped {tokens : List Token} {value : CString}
    (decoded : decodeString tokens = some value) (escaped : .escaped comma ∈ tokens) :
    comma ∈ value := by
  fun_induction decodeString tokens generalizing value with
  | case1 => cases escaped
  | case2 char rest plain ih =>
      obtain ⟨tail, later, rfl⟩ := Option.map_eq_some_iff.mp decoded
      rcases List.mem_cons.mp escaped with impossible | inRest
      · cases impossible
      · exact List.mem_cons_of_mem _ (ih later inRest)
  | case4 char rest special ih =>
      obtain ⟨tail, later, rfl⟩ := Option.map_eq_some_iff.mp decoded
      rcases List.mem_cons.mp escaped with same | inRest
      · cases same
        exact List.mem_cons_self
      · exact List.mem_cons_of_mem _ (ih later inRest)
  | case5 char ordinary high digit rest first low second ih =>
      obtain ⟨tail, later, rfl⟩ := Option.map_eq_some_iff.mp decoded
      rcases List.mem_cons.mp escaped with same | inRest
      · cases same
        exact absurd rfl ordinary
      · rcases List.mem_cons.mp inRest with impossible | inTail
        · cases impossible
        · exact List.mem_cons_of_mem _ (ih later inTail)
  | case3 | case6 | case7 => cases decoded

theorem decodeHexstring_spec {tokens : List Token} {encoding : List UInt8}
    (decoded : decodeHexstring tokens = some encoding) :
    tokens.length = 2 * encoding.length ∧ ∀ char, .escaped char ∉ tokens := by
  fun_induction decodeHexstring tokens generalizing encoding with
  | case1 =>
      obtain rfl := Option.some.inj decoded
      exact ⟨rfl, fun char => List.not_mem_nil⟩
  | case2 first second rest high low isHigh isLow ih =>
      obtain ⟨tail, later, rfl⟩ := Option.map_eq_some_iff.mp decoded
      obtain ⟨length, raw⟩ := ih later
      refine ⟨by simp only [List.length_cons]; omega, fun char member => ?_⟩
      rcases List.mem_cons.mp member with impossible | member
      · cases impossible
      · rcases List.mem_cons.mp member with impossible | inRest
        · cases impossible
        · exact raw char inRest
  | case3 | case4 => cases decoded

/-- A value is not longer than its tokens, shorter where it is in hexadecimal, and a comma
that is escaped in them is in it. -/
theorem decodeValue_spec {tokens : List Token} {value : AttributeValue}
    (decoded : decodeValue tokens = some value) :
    (tokens.head? = some (.raw sharp) ∧ value.bytes.length < tokens.length ∨
        tokens.head? ≠ some (.raw sharp) ∧ decodeString tokens = some value.bytes) ∧
      (.escaped comma ∈ tokens → comma ∈ value.bytes) := by
  unfold decodeValue at decoded
  split at decoded
  next hexadecimal =>
    split at decoded
    · cases decoded
    · obtain ⟨encoding, read, rfl⟩ := Option.map_eq_some_iff.mp decoded
      obtain ⟨length, raw⟩ := decodeHexstring_spec read
      obtain ⟨rest, rfl⟩ := List.head?_eq_some_iff.mp hexadecimal
      rw [List.tail_cons] at length raw
      refine ⟨.inl ⟨hexadecimal, ?_⟩, fun escaped => ?_⟩
      · simp only [AttributeValue.bytes, List.length_cons]
        omega
      · rcases List.mem_cons.mp escaped with impossible | inRest
        · cases impossible
        · exact absurd inRest (raw comma)
  next notSharp =>
    split at decoded
    · cases decoded
    · obtain ⟨text, read, rfl⟩ := Option.map_eq_some_iff.mp decoded
      exact ⟨.inr ⟨notSharp, read⟩, mem_of_decodeString_escaped read⟩

/-! The parts of a name -/

theorem splitOn_head {α : Type*} [BEq α] [LawfulBEq α] {separator : α} {whole piece : List α}
    {pieces : List (List α)} (split : whole.splitOn separator = piece :: pieces) :
    separator ∉ piece ∧ ∃ rest, whole = piece ++ rest ∧
      (rest = [] ∨ ∃ more, rest = separator :: more) := by
  by_cases inside : separator ∈ whole
  · obtain ⟨before, after, rfl, absent⟩ := List.eq_append_cons_of_mem inside
    rw [List.splitOn_append_cons_self_of_not_mem absent] at split
    obtain ⟨rfl, -⟩ := List.cons.inj split
    exact ⟨absent, _, rfl, .inr ⟨after, rfl⟩⟩
  · rw [List.splitOn_eq_singleton inside] at split
    obtain ⟨rfl, -⟩ := List.cons.inj split
    exact ⟨inside, [], (List.append_nil _).symm, .inl rfl⟩

theorem map_raw_of_mapM_literal {tokens : List Token} {type : CString}
    (literal : tokens.mapM Token.literal = some type) : tokens = type.map .raw := by
  induction tokens generalizing type with
  | nil =>
      obtain rfl := Option.some.inj literal
      rfl
  | cons token rest ih =>
      obtain ⟨char, others, first, later, rfl⟩ := mapM_cons_eq_some.mp literal
      cases token with
      | raw other =>
          obtain rfl := Option.some.inj first
          rw [ih later]
          rfl
      | escaped other => cases first

theorem decodeAttribute_spec {tokens : List Token} {assertion : AttributeTypeAndValue}
    (decoded : decodeAttribute tokens = some assertion) :
    equals ∉ assertion.type ∧ ∃ value,
      tokens = assertion.type.map .raw ++ .raw equals :: value ∧
      decodeValue value = some assertion.value := by
  unfold decodeAttribute at decoded
  split at decoded
  · cases decoded
  next found value split =>
    obtain ⟨type, isType, inner⟩ := Option.bind_eq_some_iff.mp decoded
    obtain ⟨decodedValue, isValue, rfl⟩ := Option.map_eq_some_iff.mp inner
    have literal := map_raw_of_mapM_literal (Option.filter_eq_some_iff.mp isType).1
    have isEquals : found = .raw equals := by
      have first := List.head?_dropWhile_not (· != .raw equals) tokens
      rw [split] at first
      simpa using first
    have whole := List.takeWhile_append_dropWhile (p := (· != .raw equals)) (l := tokens)
    rw [split, literal, isEquals] at whole
    refine ⟨fun member => ?_, value, whole.symm, isValue⟩
    have inTokens : Token.raw equals ∈ tokens.takeWhile (· != .raw equals) := by
      rw [literal]
      exact List.mem_map_of_mem member
    simpa using List.mem_takeWhile_imp inTokens

/-- How a name begins: the type and the tokens of its first value, what is left of the
leftmost part, and what is left of the name. `text` is what the value and the rest of the
name were read from. -/
structure Leftmost (string : CString) (assertion : AttributeTypeAndValue)
    (text : CString) (value more back : List Token) : Prop where
  string_eq : string = assertion.type ++ equals :: text
  untyped : equals ∉ assertion.type
  lex_text : lex text = value ++ (more ++ back)
  tokens_eq : leftmostTokens string =
    (assertion.type.map .raw ++ .raw equals :: value) ++ more
  separated : .raw comma ∉ leftmostTokens string
  single : .raw plus ∉ assertion.type.map .raw ++ .raw equals :: value
  more_cases : more = [] ∨ ∃ rest, more = .raw plus :: rest
  back_cases : back = [] ∨ ∃ rest, back = .raw comma :: rest
  decoded : decodeValue value = some assertion.value

theorem leftmost_of_parseDn {string : CString} {assertion : AttributeTypeAndValue}
    {others : RelativeDn} {above : DistinguishedName}
    (parsed : parseDn string = some ((assertion :: others) :: above)) :
    ∃ text value more back, Leftmost string assertion text value more back := by
  have nonempty : string ≠ [] := by
    intro empty
    rw [empty] at parsed
    cases parsed
  rw [parseDn_of_ne_nil nonempty] at parsed
  obtain ⟨part, parts, split⟩ :=
    List.exists_cons_of_ne_nil (List.splitOn_ne_nil (Token.raw comma) (lex string))
  have first : leftmostTokens string = part := by rw [leftmostTokens, split, List.headD_cons]
  obtain ⟨separated, back, whole, backCases⟩ := splitOn_head split
  rw [split] at parsed
  obtain ⟨_, _, isRdn, _, same⟩ := mapM_cons_eq_some.mp parsed
  obtain ⟨rfl, -⟩ := List.cons.inj same
  obtain ⟨piece, pieces, splitPlus⟩ :=
    List.exists_cons_of_ne_nil (List.splitOn_ne_nil (Token.raw plus) part)
  obtain ⟨single, more, partEq, moreCases⟩ := splitOn_head splitPlus
  rw [decodeRdn, splitPlus] at isRdn
  obtain ⟨_, _, isAttribute, _, sameHead⟩ := mapM_cons_eq_some.mp isRdn
  obtain ⟨rfl, -⟩ := List.cons.inj sameHead
  obtain ⟨untyped, value, pieceEq, decoded⟩ := decodeAttribute_spec isAttribute
  rw [pieceEq] at partEq single
  rw [partEq, List.append_assoc, List.append_assoc] at whole
  obtain ⟨atEquals, typed, readEquals⟩ := lex_eq_append whole
  rw [flatMap_source_map_raw] at typed
  obtain ⟨text, isEquals, lexText⟩ := lex_eq_cons readEquals
  exact ⟨text, value, more, back,
    { string_eq := by rw [typed, isEquals]; rfl
      untyped
      lex_text := lexText
      tokens_eq := by rw [first, partEq]
      separated := by rw [first]; exact separated
      single
      more_cases := moreCases
      back_cases := backCases
      decoded }⟩

section Text

variable {string : CString} {assertion : AttributeTypeAndValue} {text : CString}
  {value more back : List Token} (leftmost : Leftmost string assertion text value more back)
include leftmost

theorem Leftmost.comma_notMem : .raw comma ∉ value := by
  intro member
  apply leftmost.separated
  rw [leftmost.tokens_eq]
  exact List.mem_append_left _ (List.mem_append_right _ (List.mem_cons_of_mem _ member))

theorem Leftmost.dropWhile_tokens :
    ((leftmostTokens string).dropWhile (· != .raw equals)).tail = value ++ more := by
  have typed : ∀ token ∈ assertion.type.map Token.raw, (token != .raw equals) = true := by
    intro token member
    obtain ⟨char, inType, rfl⟩ := List.mem_map.mp member
    simpa using fun same : char = equals => leftmost.untyped (same ▸ inType)
  rw [leftmost.tokens_eq, List.append_assoc, List.dropWhile_append_of_pos typed]
  simp

theorem Leftmost.writtenPlainly_iff :
    WrittenPlainly string ↔
      more = [] ∧ (∀ token ∈ value, token.literal.isSome = true) ∧
        value.head? ≠ some (.raw sharp) := by
  have single := leftmost.single
  rw [WrittenPlainly, leftmost.dropWhile_tokens, leftmost.tokens_eq]
  rcases leftmost.more_cases with none | ⟨rest, some⟩
  · subst none
    have typed : ∀ token ∈ assertion.type.map Token.raw, token.literal.isSome = true := by
      intro token member
      obtain ⟨char, _, rfl⟩ := List.mem_map.mp member
      rfl
    simp only [List.append_nil, single, not_false_eq_true, true_and]
    refine and_congr_left fun _ => ?_
    simp only [List.mem_append, List.mem_cons]
    constructor
    · exact fun all token member => all token (.inr (.inr member))
    · intro all token member
      rcases member with inType | rfl | inValue
      · exact typed token inType
      · rfl
      · exact all token inValue
  · subst some
    simp

/-- Behind the value no text is left before the first comma just where the leftmost part
has no further attribute. -/
theorem Leftmost.takeWhile_rest {rest : CString} (lexRest : lex rest = more ++ back) :
    rest.takeWhile (· != comma) = [] ↔ more = [] := by
  rcases leftmost.more_cases with none | ⟨others, some⟩
  · subst none
    refine iff_of_true ?_ rfl
    rcases leftmost.back_cases with none | ⟨others, some⟩
    · subst none
      rw [eq_nil_of_lex lexRest]
      rfl
    · subst some
      obtain ⟨later, rfl, _⟩ := lex_eq_cons lexRest
      rfl
  · subst some
    obtain ⟨later, rfl, _⟩ := lex_eq_cons lexRest
    refine iff_of_false ?_ (List.cons_ne_nil _ _)
    rw [Token.source, List.singleton_append, List.takeWhile_cons_of_pos (by decide)]
    exact List.cons_ne_nil _ _

/-- Up to the first comma the text is the value exactly where it is written plainly. -/
theorem Leftmost.takeWhile_eq_iff :
    text.takeWhile (· != comma) = assertion.value.bytes ↔ WrittenPlainly string := by
  obtain ⟨rest, split, lexRest⟩ := lex_eq_append leftmost.lex_text
  obtain ⟨short, escaped⟩ := decodeValue_spec leftmost.decoded
  have source := length_le_source value
  have cut (bare : comma ∉ value.flatMap Token.source) :
      text.takeWhile (· != comma) =
        value.flatMap Token.source ++ rest.takeWhile (· != comma) := by
    rw [split, List.takeWhile_append_of_pos]
    intro char member
    simpa using fun same : char = comma => bare (same ▸ member)
  rw [leftmost.writtenPlainly_iff, ← leftmost.takeWhile_rest lexRest]
  constructor
  · intro same
    have bare : comma ∉ value.flatMap Token.source := by
      refine comma_notMem_source leftmost.comma_notMem fun isEscaped => ?_
      exact notMem_takeWhile_ne comma text (same ▸ escaped isEscaped)
    have lengths := congrArg List.length ((cut bare).symm.trans same)
    rw [List.length_append] at lengths
    rcases short with ⟨_, shorter⟩ | ⟨notSharp, read⟩
    · omega
    · have bounded := length_of_decodeString read
      refine ⟨List.eq_nil_of_length_eq_zero (by omega), ?_, notSharp⟩
      exact literal_of_length_source (by omega)
  · rintro ⟨ended, literal, notSharp⟩
    have bare : comma ∉ value.flatMap Token.source := by
      refine comma_notMem_source leftmost.comma_notMem fun isEscaped => ?_
      cases literal _ isEscaped
    rcases short with ⟨isSharp, _⟩ | ⟨_, read⟩
    · exact absurd isSharp notSharp
    · rw [eq_map_raw_of_literal literal] at read
      rw [cut bare, ended, List.append_nil, eq_of_decodeString_map_raw read]

end Text

end Sambervise.Ldap
