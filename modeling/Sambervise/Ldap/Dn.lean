import Sambervise.Text.CString

namespace Sambervise.Ldap

open Text

/-! Distinguished names in the string form of RFC 4514. A name is first read into
tokens, so that an escaped separator is never taken for a separator; the bytes
from 0x80 up are those of the UTF-8 sequences the grammar allows. -/

inductive Token where
  | raw (char : UInt8)
  | escaped (char : UInt8)
  deriving DecidableEq, Repr

def backslash : UInt8 := 0x5C
def comma : UInt8 := 0x2C
def plus : UInt8 := 0x2B
def equals : UInt8 := 0x3D
def sharp : UInt8 := 0x23
def blank : UInt8 := 0x20

def lex : CString → List Token
  | [] => []
  | [char] => [.raw char]
  | char :: next :: rest =>
      if char = backslash then .escaped next :: lex rest
      else .raw char :: lex (next :: rest)

/-- No backslash is left without the character it escapes. -/
def Closed : CString → Prop
  | [] => True
  | [char] => char ≠ backslash
  | char :: next :: rest =>
      if char = backslash then Closed rest else Closed (next :: rest)

inductive AttributeValue where
  | string (value : CString)
  | ber (encoding : List UInt8)
  deriving DecidableEq, Repr

def AttributeValue.bytes : AttributeValue → List UInt8
  | .string value => value
  | .ber encoding => encoding

structure AttributeTypeAndValue where
  type : CString
  value : AttributeValue
  deriving DecidableEq, Repr

abbrev RelativeDn := List AttributeTypeAndValue

abbrev DistinguishedName := List RelativeDn

/-! The grammar of section 3 -/

def hexDigit (char : UInt8) : Option UInt8 :=
  if asciiIsDigit char then some (char - 0x30)
  else if 0x41 ≤ char ∧ char ≤ 0x46 then some (char - 0x37)
  else if 0x61 ≤ char ∧ char ≤ 0x66 then some (char - 0x57)
  else none

def isKeystring : CString → Bool
  | [] => false
  | lead :: rest =>
      asciiIsAlpha lead &&
        rest.all fun char => asciiIsAlpha char || asciiIsDigit char || char == 0x2D

def isNumber : CString → Bool
  | [] => false
  | [digit] => asciiIsDigit digit
  | lead :: rest => asciiIsDigit lead && lead != 0x30 && rest.all asciiIsDigit

def isNumericoid (type : CString) : Bool :=
  let arcs := type.splitOn 0x2E
  2 ≤ arcs.length && arcs.all isNumber

/-- The characters that stand for themselves anywhere inside a string value. -/
def isStringChar (char : UInt8) : Bool :=
  !([0x00, 0x22, plus, comma, 0x3B, 0x3C, 0x3E, backslash].contains char)

/-- The characters that a backslash may stand before. -/
def isSpecial (char : UInt8) : Bool :=
  [backslash, 0x22, plus, comma, 0x3B, 0x3C, 0x3E, blank, sharp, equals].contains char

def decodeString : List Token → Option CString
  | [] => some []
  | .raw char :: rest =>
      if isStringChar char then (decodeString rest).map (char :: ·) else none
  | .escaped char :: rest =>
      if isSpecial char then (decodeString rest).map (char :: ·)
      else
        match hexDigit char, rest with
        | some high, .raw digit :: rest =>
            match hexDigit digit with
            | some low => (decodeString rest).map ((high * 0x10 + low) :: ·)
            | none => none
        | _, _ => none

def decodeHexstring : List Token → Option (List UInt8)
  | [] => some []
  | .raw first :: .raw second :: rest =>
      match hexDigit first, hexDigit second with
      | some high, some low =>
          (decodeHexstring rest).map ((high * 0x10 + low) :: ·)
      | _, _ => none
  | _ => none

def decodeValue (tokens : List Token) : Option AttributeValue :=
  if tokens.head? = some (.raw sharp) then
    if tokens.tail = [] then none
    else (decodeHexstring tokens.tail).map .ber
  else if tokens.head? = some (.raw blank) ∨ tokens.getLast? = some (.raw blank) then
    none
  else (decodeString tokens).map .string

def Token.literal : Token → Option UInt8
  | .raw char => some char
  | .escaped _ => none

def decodeType (tokens : List Token) : Option CString :=
  (tokens.mapM Token.literal).filter fun type => isKeystring type || isNumericoid type

def decodeAttribute (tokens : List Token) : Option AttributeTypeAndValue :=
  match tokens.dropWhile (· != .raw equals) with
  | [] => none
  | _ :: value =>
      (decodeType (tokens.takeWhile (· != .raw equals))).bind fun type =>
        (decodeValue value).map fun value => { type, value }

def decodeRdn (tokens : List Token) : Option RelativeDn :=
  (tokens.splitOn (.raw plus)).mapM decodeAttribute

def parseDn (string : CString) : Option DistinguishedName :=
  if string = [] then some []
  else ((lex string).splitOn (.raw comma)).mapM decodeRdn

/-- The values that RFC 4514 writes without any escape. -/
def needsNoEscaping (value : CString) : Bool :=
  value.all isStringChar && value.head? != some blank && value.head? != some sharp &&
    value.getLast? != some blank

example : parseDn (cstr "CN=Smith\\, John,OU=a\\2Bb,DC=x") =
    some [[⟨cstr "CN", .string (cstr "Smith, John")⟩],
      [⟨cstr "OU", .string (cstr "a+b")⟩], [⟨cstr "DC", .string (cstr "x")⟩]] := by
  decide

/-! Splitting a token list -/

theorem splitOn_append_of_notMem {α : Type*} [BEq α] [LawfulBEq α] {separator : α}
    {front : List α} (absent : separator ∉ front) (back : List α) :
    (front ++ back).splitOn separator =
      (back.splitOn separator).modifyHead (front ++ ·) := by
  induction front with
  | nil =>
      obtain ⟨first, rest, split⟩ :=
        List.exists_cons_of_ne_nil (List.splitOn_ne_nil separator back)
      simp [split]
  | cons head tail ih =>
      simp only [List.mem_cons, not_or] at absent
      obtain ⟨first, rest, split⟩ :=
        List.exists_cons_of_ne_nil (List.splitOn_ne_nil separator back)
      rw [List.cons_append, List.splitOn_cons_eq_if_modifyHead,
        if_neg (by simpa using fun same => absent.1 same.symm), ih absent.2, split]
      rfl

theorem eq_of_splitOn_singleton {α : Type*} [BEq α] [LawfulBEq α] {separator : α}
    {whole piece : List α} (single : whole.splitOn separator = [piece]) :
    piece = whole := by
  have joined : [separator].intercalate (whole.splitOn separator) = whole :=
    List.intercalate_splitOn separator
  rw [single] at joined
  simpa using joined

theorem length_of_mapM {α β : Type*} {decode : α → Option β} {inputs : List α}
    {outputs : List β} (decoded : inputs.mapM decode = some outputs) :
    outputs.length = inputs.length := by
  induction inputs generalizing outputs with
  | nil =>
      simp only [List.mapM_nil, Option.pure_def, Option.some.injEq] at decoded
      simp [← decoded]
  | cons input rest ih =>
      simp only [List.mapM_cons, Option.bind_eq_bind, Option.bind_eq_some_iff,
        Option.pure_def, Option.some.injEq] at decoded
      obtain ⟨_, _, tail, rest_decoded, rfl⟩ := decoded
      simp [ih rest_decoded]

theorem mapM_cons_eq_some {α β : Type*} {decode : α → Option β} {input : α}
    {inputs : List α} {outputs : List β} :
    (input :: inputs).mapM decode = some outputs ↔
      ∃ output rest, decode input = some output ∧ inputs.mapM decode = some rest ∧
        outputs = output :: rest := by
  simp only [List.mapM_cons, Option.bind_eq_bind, Option.bind_eq_some_iff,
    Option.pure_def, Option.some.injEq]
  constructor
  · intro both
    obtain ⟨output, decoded, rest, others, rfl⟩ := both
    exact ⟨output, rest, decoded, others, rfl⟩
  · intro both
    obtain ⟨output, rest, decoded, others, rfl⟩ := both
    exact ⟨output, decoded, rest, others, rfl⟩

/-! Reading into tokens -/

theorem lex_cons {char : UInt8} (plain : char ≠ backslash) (rest : CString) :
    lex (char :: rest) = .raw char :: lex rest := by
  cases rest with
  | nil => rfl
  | cons next rest => rw [lex, if_neg plain]

theorem lex_append {front : CString} (closed : Closed front) (back : CString) :
    lex (front ++ back) = lex front ++ lex back := by
  fun_induction lex front with
  | case1 => rfl
  | case2 char =>
      cases back with
      | nil => rfl
      | cons next rest =>
          have plain : char ≠ backslash := closed
          simp [lex, plain]
  | case3 next rest ih =>
      simp only [Closed, if_true] at closed
      simp [lex, ih closed]
  | case4 char next rest plain ih =>
      simp only [Closed, if_neg plain] at closed
      have later := ih closed
      simp only [List.cons_append] at later
      simp [lex, plain, later]

theorem lex_of_notMem {string : CString} (absent : backslash ∉ string) :
    lex string = string.map .raw := by
  fun_induction lex string with
  | case1 => rfl
  | case2 char => rfl
  | case3 next rest => simp at absent
  | case4 char next rest plain ih =>
      simp only [List.mem_cons, not_or] at absent
      rw [ih (by simpa using absent.2)]
      rfl

theorem closed_of_notMem {string : CString} (absent : backslash ∉ string) :
    Closed string := by
  fun_induction Closed string with
  | case1 => trivial
  | case2 char => exact fun same => absent (by simp [same])
  | case3 next rest => simp at absent
  | case4 char next rest plain ih =>
      exact ih fun later => absent (List.mem_cons_of_mem _ later)

theorem open_concat {string : CString} (dangling : ¬ Closed string) :
    ∃ front, string = front ++ [backslash] ∧ Closed front := by
  fun_induction Closed string with
  | case1 => exact absurd trivial dangling
  | case2 char =>
      simp only [ne_eq, not_not] at dangling
      exact ⟨[], by simp [dangling], trivial⟩
  | case3 next rest ih =>
      obtain ⟨front, split, closed⟩ := ih dangling
      exact ⟨backslash :: next :: front, by simp [split], by simpa [Closed] using closed⟩
  | case4 char next rest plain ih =>
      obtain ⟨front, split, closed⟩ := ih dangling
      refine ⟨char :: front, by simp [split], ?_⟩
      cases front with
      | nil => exact plain
      | cons head tail =>
          simp only [List.cons_append, List.cons.injEq] at split
          rw [split.1] at ih dangling
          simpa [Closed, plain] using closed

theorem lex_open_append {front : CString} (closed : Closed front) (char : UInt8)
    (back : CString) :
    lex (front ++ backslash :: char :: back) = lex front ++ .escaped char :: lex back := by
  rw [lex_append closed]
  simp [lex]

theorem length_lex_le (string : CString) : (lex string).length ≤ string.length := by
  fun_induction lex string with
  | case1 => exact Nat.le_refl 0
  | case2 char => exact Nat.le_refl 1
  | case3 next rest ih =>
      simp only [List.length_cons]
      omega
  | case4 char next rest plain ih =>
      simp only [List.length_cons] at ih ⊢
      omega

/-! String values -/

theorem length_of_decodeString {tokens : List Token} {value : CString}
    (decoded : decodeString tokens = some value) : value.length ≤ tokens.length := by
  fun_induction decodeString tokens generalizing value with
  | case1 =>
      simp only [Option.some.injEq] at decoded
      simp [← decoded]
  | case2 char rest plain ih | case4 char rest special ih =>
      simp only [Option.map_eq_some_iff] at decoded
      obtain ⟨tail, later, rfl⟩ := decoded
      simpa using ih later
  | case5 char special high digit tail first low second ih =>
      simp only [Option.map_eq_some_iff] at decoded
      obtain ⟨tail', later, rfl⟩ := decoded
      have := ih later
      simp only [List.length_cons]
      omega
  | case3 | case6 | case7 => cases decoded

theorem all_isStringChar_of_decodeString {string : CString}
    (decoded : decodeString (lex string) = some string) :
    string.all isStringChar = true := by
  fun_induction lex string with
  | case1 => rfl
  | case2 char =>
      by_cases plain : isStringChar char = true
      · simp [plain]
      · simp [decodeString, plain] at decoded
  | case3 next rest ih =>
      have short := length_of_decodeString decoded
      have := length_lex_le rest
      simp only [List.length_cons] at short
      omega
  | case4 char next rest plain ih =>
      by_cases stringChar : isStringChar char = true
      · simp only [decodeString, stringChar, if_true, Option.map_eq_some_iff,
          List.cons.injEq] at decoded
        obtain ⟨tail, later, _, same⟩ := decoded
        rw [same] at later
        have := ih later
        simp_all
      · simp [decodeString, stringChar] at decoded

theorem decodeString_map_raw {string : CString}
    (plain : string.all isStringChar = true) :
    decodeString (string.map .raw) = some string := by
  induction string with
  | nil => rfl
  | cons char rest ih =>
      simp only [List.all_cons, Bool.and_eq_true] at plain
      simp [decodeString, plain.1, ih plain.2]

theorem needsNoEscaping_iff {value : CString} :
    needsNoEscaping value = true ↔
      value.all isStringChar = true ∧ value.head? ≠ some blank ∧
        value.head? ≠ some sharp ∧ value.getLast? ≠ some blank := by
  simp [needsNoEscaping, and_assoc]

theorem notMem_of_all_isStringChar {value : CString} {char : UInt8}
    (plain : value.all isStringChar = true) (reserved : isStringChar char = false) :
    char ∉ value := by
  intro member
  have := List.all_eq_true.mp plain char member
  rw [reserved] at this
  cases this

theorem separators_notMem_of_plain {value : CString}
    (plain : needsNoEscaping value = true) :
    backslash ∉ value ∧ comma ∉ value ∧ plus ∉ value := by
  have chars := (needsNoEscaping_iff.mp plain).1
  refine ⟨?_, ?_, ?_⟩
  · exact notMem_of_all_isStringChar chars (by decide)
  · exact notMem_of_all_isStringChar chars (by decide)
  · exact notMem_of_all_isStringChar chars (by decide)

theorem decodeValue_of_needsNoEscaping {value : CString}
    (plain : needsNoEscaping value = true) :
    decodeValue (lex value) = some (.string value) := by
  obtain ⟨chars, noBlank, noSharp, noTrailing⟩ := needsNoEscaping_iff.mp plain
  rw [lex_of_notMem (notMem_of_all_isStringChar chars (by decide))]
  simp [decodeValue, decodeString_map_raw chars, noBlank, noSharp, noTrailing]

theorem decodeValue_string {tokens : List Token} {value : CString}
    (decoded : decodeValue tokens = some (.string value)) :
    decodeString tokens = some value ∧ tokens.head? ≠ some (.raw sharp) ∧
      tokens.head? ≠ some (.raw blank) ∧ tokens.getLast? ≠ some (.raw blank) := by
  unfold decodeValue at decoded
  split at decoded
  · split at decoded
    · cases decoded
    · simp at decoded
  next notSharp =>
    split at decoded
    · cases decoded
    next notBlank =>
      simp only [not_or] at notBlank
      simp only [Option.map_eq_some_iff, AttributeValue.string.injEq,
        exists_eq_right] at decoded
      exact ⟨decoded, notSharp, notBlank.1, notBlank.2⟩

theorem decodeValue_lex_iff {value : CString} :
    decodeValue (lex value) = some (.string value) ↔ needsNoEscaping value = true := by
  constructor
  · intro decoded
    obtain ⟨text, notSharp, notBlank, notTrailing⟩ := decodeValue_string decoded
    have chars := all_isStringChar_of_decodeString text
    rw [lex_of_notMem (notMem_of_all_isStringChar chars (by decide))]
      at notSharp notBlank notTrailing
    exact needsNoEscaping_iff.mpr ⟨chars, by simpa using notBlank,
      by simpa using notSharp, by simpa using notTrailing⟩
  · exact decodeValue_of_needsNoEscaping

/-- The characters a token was read from. -/
def Token.source : Token → CString
  | .raw char => [char]
  | .escaped char => [backslash, char]

theorem flatMap_source_lex {string : CString} (closed : Closed string) :
    (lex string).flatMap Token.source = string := by
  fun_induction lex string with
  | case1 => rfl
  | case2 char => rfl
  | case3 next rest ih =>
      simp only [Closed, if_true] at closed
      simp [Token.source, ih closed]
  | case4 char next rest plain ih =>
      simp only [Closed, if_neg plain] at closed
      simp [Token.source, ih closed]

/-- One character is read off the front of what is left to match, and the characters
it was read from come after it. -/
theorem shift_pending {char : UInt8} {value pending source back : CString}
    (same : char :: value = pending ++ (source ++ back)) (nonempty : source ≠ [])
    (noComma : comma ∉ pending) (noSeparator : comma ∉ source) :
    ∃ later, comma ∉ later ∧ value = later ++ back := by
  cases pending with
  | nil =>
      obtain ⟨first, rest, rfl⟩ := List.exists_cons_of_ne_nil nonempty
      simp only [List.nil_append, List.cons_append, List.cons.injEq] at same
      exact ⟨rest, fun member => noSeparator (List.mem_cons_of_mem first member), same.2⟩
  | cons first rest =>
      simp only [List.cons_append, List.cons.injEq] at same
      refine ⟨rest ++ source, ?_, by simp [same.2]⟩
      simp only [List.mem_append, not_or]
      exact ⟨fun member => noComma (List.mem_cons_of_mem first member), noSeparator⟩

theorem decodeString_special {char : UInt8} (special : isSpecial char = true)
    (rest : List Token) :
    decodeString (.escaped char :: rest) = (decodeString rest).map (char :: ·) := by
  conv_lhs => unfold decodeString
  exact if_pos special

theorem decodeString_hex {char digit high low : UInt8} (ordinary : ¬ isSpecial char = true)
    (first : hexDigit char = some high) (second : hexDigit digit = some low)
    (rest : List Token) :
    decodeString (.escaped char :: .raw digit :: rest) =
      (decodeString rest).map ((high * 0x10 + low) :: ·) := by
  conv_lhs => unfold decodeString
  rw [if_neg ordinary]
  simp only [first, second]

theorem decodeString_ordinary {char : UInt8} (ordinary : ¬ isSpecial char = true)
    {rest : List Token} {value : CString}
    (decoded : decodeString (.escaped char :: rest) = some value) :
    ∃ high digit low tail, hexDigit char = some high ∧ rest = .raw digit :: tail ∧
      hexDigit digit = some low := by
  unfold decodeString at decoded
  rw [if_neg ordinary] at decoded
  split at decoded
  next high digit tail first =>
    split at decoded
    next low second =>
      exact ⟨high, digit, low, tail, first, rfl, second⟩
    · cases decoded
  · cases decoded

theorem comma_cons_ne {pending back value : CString} (noComma : comma ∉ pending) :
    comma :: value ≠ pending ++ backslash :: back := by
  cases pending with
  | nil => exact fun same => absurd (List.cons.inj same).1 (by decide)
  | cons first rest =>
      exact fun same => noComma (List.mem_cons.mpr (.inl (List.cons.inj same).1))

/-- Reading on past a backslash that takes the comma after it never gives the text back:
what is still pending has no comma. -/
theorem decodeString_dangling (tokens more : List Token) {pending : CString}
    (noComma : comma ∉ pending) :
    decodeString (tokens ++ .escaped comma :: more) ≠
      some (pending ++ (tokens.flatMap Token.source ++ [backslash])) := by
  intro decoded
  fun_induction decodeString tokens generalizing pending with
  | case1 =>
      rw [List.nil_append, decodeString_special (by decide), Option.map_eq_some_iff] at decoded
      obtain ⟨value, _, same⟩ := decoded
      exact comma_cons_ne noComma same
  | case2 char rest plain ih =>
      simp only [List.cons_append, decodeString, plain, if_true,
        Option.map_eq_some_iff] at decoded
      obtain ⟨value, later, same⟩ := decoded
      have bare : comma ∉ [char] := by
        simp only [List.mem_singleton]
        intro equal
        subst equal
        exact absurd plain (by decide)
      rw [List.flatMap_cons, List.append_assoc] at same
      obtain ⟨pending, noComma, rfl⟩ := shift_pending same (by simp [Token.source]) noComma bare
      exact ih noComma later
  | case3 char rest notPlain =>
      simp [decodeString, notPlain] at decoded
  | case4 char rest special ih =>
      rw [List.cons_append, decodeString_special special, Option.map_eq_some_iff] at decoded
      obtain ⟨value, later, same⟩ := decoded
      rw [List.flatMap_cons, List.append_assoc] at same
      by_cases escapesComma : char = comma
      · subst escapesComma
        exact comma_cons_ne noComma same
      · have bare : comma ∉ [backslash, char] := by
          simp only [List.mem_cons, List.not_mem_nil, or_false, not_or]
          exact ⟨by decide, fun same => escapesComma same.symm⟩
        obtain ⟨pending, noComma, rfl⟩ :=
          shift_pending same (by simp [Token.source]) noComma bare
        exact ih noComma later
  | case5 char special high digit tail first low second ih =>
      rw [List.cons_append, List.cons_append, decodeString_hex special first second,
        Option.map_eq_some_iff] at decoded
      obtain ⟨value, later, same⟩ := decoded
      have bare : comma ∉ [backslash, char, digit] := by
        simp only [List.mem_cons, List.not_mem_nil, or_false, not_or]
        refine ⟨by decide, ?_, ?_⟩
        · intro equal
          subst equal
          exact special (by decide)
        · intro equal
          subst equal
          rw [show hexDigit comma = none by decide] at second
          cases second
      have shifted : (high * 0x10 + low) :: value =
          pending ++ ([backslash, char, digit] ++
            (tail.flatMap Token.source ++ [backslash])) := same
      obtain ⟨pending, noComma, rfl⟩ := shift_pending shifted (by simp) noComma bare
      exact ih noComma later
  | case6 char special high digit tail first second =>
      obtain ⟨_, _, low, _, _, same, found⟩ := decodeString_ordinary special decoded
      rw [(Token.raw.inj (List.cons.inj same).1).symm, second] at found
      cases found
  | case7 char rest special notHex =>
      obtain ⟨high, digit, low, tail, first, same, _⟩ := decodeString_ordinary special decoded
      cases rest with
      | nil => cases (List.cons.inj same).1
      | cons token rest =>
          obtain ⟨rfl, -⟩ := List.cons.inj same
          exact notHex high digit rest first rfl

/-! Relative names -/

theorem notMem_of_isKeystring {type : CString} {char : UInt8}
    (keystring : isKeystring type = true)
    (reserved : (asciiIsAlpha char || asciiIsDigit char || char == 0x2D) = false) :
    char ∉ type := by
  cases type with
  | nil => simp
  | cons lead rest =>
      simp only [isKeystring, Bool.and_eq_true, List.all_eq_true] at keystring
      intro member
      rcases List.mem_cons.mp member with rfl | later
      · simp [keystring.1] at reserved
      · have := keystring.2 char later
        rw [reserved] at this
        cases this

theorem decodeType_map_raw {type : CString} (keystring : isKeystring type = true) :
    decodeType (type.map .raw) = some type := by
  have literal : (type.map Token.raw).mapM Token.literal = some type := by
    clear keystring
    induction type with
    | nil => rfl
    | cons char rest ih =>
        exact mapM_cons_eq_some.mpr ⟨char, rest, rfl, ih, rfl⟩
  simp [decodeType, literal, keystring]

theorem decodeAttribute_keystring {type : CString}
    (keystring : isKeystring type = true) (value : List Token) :
    decodeAttribute (type.map .raw ++ .raw equals :: value) =
      (decodeValue value).map ({ type, value := · }) := by
  have absent : equals ∉ type := notMem_of_isKeystring keystring (by decide)
  have all : ∀ token ∈ type.map Token.raw, (token != .raw equals) = true := by
    intro token member
    obtain ⟨char, inType, rfl⟩ := List.mem_map.mp member
    simpa using fun same : char = equals => absent (same ▸ inType)
  rw [decodeAttribute, List.dropWhile_append_of_pos all,
    List.takeWhile_append_of_pos all]
  simp [decodeType_map_raw keystring]

theorem decodeAttribute_of_decodeRdn {tokens : List Token}
    {assertion : AttributeTypeAndValue}
    (decoded : decodeRdn tokens = some [assertion]) :
    decodeAttribute tokens = some assertion := by
  have count := length_of_mapM decoded
  obtain ⟨piece, single⟩ := List.length_eq_one_iff.mp count.symm
  rw [decodeRdn, single] at decoded
  obtain ⟨_, _, first, _, same⟩ := mapM_cons_eq_some.mp decoded
  rw [eq_of_splitOn_singleton single] at first
  simp only [List.cons.injEq] at same
  rw [first, same.1]

theorem decodeRdn_of_notMem {tokens : List Token} (absent : .raw plus ∉ tokens) :
    decodeRdn tokens = (decodeAttribute tokens).map ([·]) := by
  rw [decodeRdn, List.splitOn_eq_singleton absent]
  cases found : decodeAttribute tokens with
  | none => simp [found]
  | some assertion => simp [found]

theorem decodeRdn_nil : decodeRdn [] = none := by decide

/-! Names made of a leftmost part and a parent -/

theorem parseDn_of_ne_nil {string : CString} (nonempty : string ≠ []) :
    parseDn string = ((lex string).splitOn (.raw comma)).mapM decodeRdn := by
  rw [parseDn, if_neg nonempty]

theorem length_of_parseDn {string : CString} {dn : DistinguishedName}
    (nonempty : string ≠ []) (parsed : parseDn string = some dn) :
    ((lex string).splitOn (.raw comma)).length = dn.length := by
  rw [parseDn_of_ne_nil nonempty] at parsed
  exact (length_of_mapM parsed).symm

section Child

variable {type container : CString} {parent : DistinguishedName}

def stem (type : CString) : List Token := type.map .raw ++ [.raw equals]

theorem comma_notMem_stem (keystring : isKeystring type = true) :
    .raw comma ∉ stem type := by
  have absent : comma ∉ type := notMem_of_isKeystring keystring (by decide)
  simpa [stem] using ⟨absent, by decide⟩

theorem plus_notMem_stem (keystring : isKeystring type = true) : .raw plus ∉ stem type := by
  have absent : plus ∉ type := notMem_of_isKeystring keystring (by decide)
  simpa [stem] using ⟨absent, by decide⟩

theorem lex_stem_append (keystring : isKeystring type = true) (rest : CString) :
    lex (type ++ equals :: rest) = stem type ++ lex rest := by
  have bare : backslash ∉ type ++ [equals] := by
    simp only [List.mem_append, List.mem_singleton, not_or]
    exact ⟨notMem_of_isKeystring keystring (by decide), by decide⟩
  rw [show type ++ equals :: rest = (type ++ [equals]) ++ rest by simp,
    lex_append (closed_of_notMem bare), lex_of_notMem bare]
  simp [stem]

theorem decodeAttribute_stem (keystring : isKeystring type = true)
    (value : List Token) :
    decodeAttribute (stem type ++ value) =
      (decodeValue value).map ({ type, value := · }) := by
  rw [stem, List.append_assoc]
  exact decodeAttribute_keystring keystring value

theorem decodeValue_of_decodeRdn (keystring : isKeystring type = true)
    {tokens : List Token} {value : AttributeValue}
    (decoded : decodeRdn (stem type ++ tokens) = some [{ type, value }]) :
    decodeValue tokens = some value := by
  have single := decodeAttribute_of_decodeRdn decoded
  rw [decodeAttribute_stem keystring, Option.map_eq_some_iff] at single
  obtain ⟨found, decodes, same⟩ := single
  simp only [AttributeTypeAndValue.mk.injEq, true_and] at same
  rw [decodes, same]

/-- A name that begins with `type=` has a value of this type first, whatever follows. -/
theorem type_of_parseDn (keystring : isKeystring type = true) {text : CString}
    {assertion : AttributeTypeAndValue} {others : RelativeDn}
    (parsed : parseDn (type ++ equals :: text) = some ((assertion :: others) :: parent)) :
    assertion.type = type := by
  rw [parseDn_of_ne_nil (by simp), lex_stem_append keystring] at parsed
  obtain ⟨piece, pieces, split⟩ :=
    List.exists_cons_of_ne_nil (List.splitOn_ne_nil (Token.raw comma) (lex text))
  rw [splitOn_append_of_notMem (comma_notMem_stem keystring), split,
    List.modifyHead_cons] at parsed
  obtain ⟨_, _, rdn, _, same⟩ := mapM_cons_eq_some.mp parsed
  obtain ⟨rfl, -⟩ := List.cons.inj same
  obtain ⟨first, rest, splitRdn⟩ :=
    List.exists_cons_of_ne_nil (List.splitOn_ne_nil (Token.raw plus) piece)
  rw [decodeRdn, splitOn_append_of_notMem (plus_notMem_stem keystring), splitRdn,
    List.modifyHead_cons] at rdn
  obtain ⟨_, _, typed, _, same⟩ := mapM_cons_eq_some.mp rdn
  obtain ⟨rfl, -⟩ := List.cons.inj same
  rw [decodeAttribute_stem keystring, Option.map_eq_some_iff] at typed
  obtain ⟨value, _, rfl⟩ := typed
  rfl

theorem comma_notMem_plain (keystring : isKeystring type = true) {name : CString}
    (plain : needsNoEscaping name = true) : .raw comma ∉ stem type ++ lex name := by
  obtain ⟨bare, noComma, _⟩ := separators_notMem_of_plain plain
  simpa [lex_of_notMem bare] using ⟨comma_notMem_stem keystring, noComma⟩

theorem decodeRdn_plain (keystring : isKeystring type = true) {name : CString}
    (plain : needsNoEscaping name = true) :
    decodeRdn (stem type ++ lex name) = some [{ type, value := .string name }] := by
  obtain ⟨bare, _, noPlus⟩ := separators_notMem_of_plain plain
  have absent : .raw plus ∉ stem type ++ lex name := by
    simpa [lex_of_notMem bare] using ⟨plus_notMem_stem keystring, noPlus⟩
  rw [decodeRdn_of_notMem absent, decodeAttribute_stem keystring,
    decodeValue_of_needsNoEscaping plain]
  rfl

/-- The leftmost part ends within the text, and is too short for all of it. -/
theorem decodeRdn_separated (keystring : isKeystring type = true) {name : CString}
    {front back : List Token} (short : front.length ≤ name.length)
    (separated : .raw comma ∈ front) {piece : List Token} {pieces : List (List Token)}
    (split : (stem type ++ (front ++ back)).splitOn (.raw comma) = piece :: pieces) :
    decodeRdn piece ≠ some [{ type, value := .string name }] := by
  obtain ⟨before, after, rfl, absent⟩ := List.eq_append_cons_of_mem separated
  rw [List.append_assoc, List.cons_append, ← List.append_assoc,
    List.splitOn_append_cons_self_of_not_mem] at split
  · rw [← (List.cons.inj split).1]
    intro child
    have text := (decodeValue_string (decodeValue_of_decodeRdn keystring child)).1
    have decoded := length_of_decodeString text
    simp only [List.length_append, List.length_cons] at short
    omega
  · simpa using ⟨comma_notMem_stem keystring, absent⟩

/-- A text that needs an escape is never the value of the leftmost part that it is put
into, whatever follows. -/
theorem plain_of_child (keystring : isKeystring type = true) {name : CString}
    (parsed : parseDn (type ++ equals :: name ++ comma :: container) =
      some ([{ type, value := .string name }] :: parent)) :
    needsNoEscaping name = true := by
  rw [parseDn_of_ne_nil (by simp), List.append_assoc, List.cons_append,
    lex_stem_append keystring] at parsed
  obtain ⟨piece, pieces, split⟩ := List.exists_cons_of_ne_nil
    (List.splitOn_ne_nil (Token.raw comma) (stem type ++ lex (name ++ comma :: container)))
  rw [split] at parsed
  obtain ⟨_, _, child, _, same⟩ := mapM_cons_eq_some.mp parsed
  obtain ⟨rfl, -⟩ := List.cons.inj same
  by_cases closed : Closed name
  · rw [lex_append closed, lex_cons (by decide : comma ≠ backslash)] at split
    by_cases separated : Token.raw comma ∈ lex name
    · exact absurd child (decodeRdn_separated keystring (length_lex_le name) separated split)
    · rw [← List.append_assoc, List.splitOn_append_cons_self_of_not_mem] at split
      · rw [← (List.cons.inj split).1] at child
        exact decodeValue_lex_iff.mp (decodeValue_of_decodeRdn keystring child)
      · simpa using ⟨comma_notMem_stem keystring, separated⟩
  · -- the backslash at the end takes the comma that is to end the name
    obtain ⟨front, rfl, frontClosed⟩ := open_concat closed
    have short : (lex front).length ≤ (front ++ [backslash]).length :=
      (length_lex_le front).trans (by simp)
    rw [List.append_assoc, List.singleton_append, lex_open_append frontClosed] at split
    by_cases separated : Token.raw comma ∈ lex front
    · exact absurd child (decodeRdn_separated keystring short separated split)
    · obtain ⟨first, rest, pieces⟩ := List.exists_cons_of_ne_nil
        (List.splitOn_ne_nil (Token.raw comma) (lex container))
      rw [show stem type ++ (lex front ++ .escaped comma :: lex container) =
          (stem type ++ lex front ++ [.escaped comma]) ++ lex container by simp,
        splitOn_append_of_notMem, pieces, List.modifyHead_cons] at split
      · rw [← (List.cons.inj split).1, List.append_assoc, List.append_assoc,
          List.singleton_append] at child
        have text := (decodeValue_string (decodeValue_of_decodeRdn keystring child)).1
        have dangling := @decodeString_dangling (lex front) first [] List.not_mem_nil
        rw [flatMap_source_lex frontClosed] at dangling
        exact absurd text dangling
      · simpa using ⟨comma_notMem_stem keystring, separated⟩

/-- Prefixing `type=name` to the text of a parent names the child `name` under
that parent exactly where the name needs no escaping. -/
theorem parseDn_child_iff (keystring : isKeystring type = true)
    (nonempty : container ≠ []) (parsed : parseDn container = some parent)
    (name : CString) :
    parseDn (type ++ equals :: name ++ comma :: container) =
        some ([{ type, value := .string name }] :: parent) ↔
      needsNoEscaping name = true := by
  refine ⟨plain_of_child keystring, ?_⟩
  intro plain
  have closed := closed_of_notMem (separators_notMem_of_plain plain).1
  rw [parseDn_of_ne_nil (by simp), List.append_assoc, List.cons_append,
    lex_stem_append keystring, lex_append closed, lex_cons (by decide : comma ≠ backslash),
    ← List.append_assoc,
    List.splitOn_append_cons_self_of_not_mem (comma_notMem_plain keystring plain)]
  rw [parseDn_of_ne_nil nonempty] at parsed
  exact mapM_cons_eq_some.mpr ⟨_, _, decodeRdn_plain keystring plain, parsed, rfl⟩

end Child

end Sambervise.Ldap
