import Mathlib.Data.List.DropRight

namespace Sambervise.Text

/-! C strings as the bytes before their terminator, with the GLib functions on
them that split, trim and join. -/

abbrev CString := List UInt8

def cstr (text : String) : CString := text.toUTF8.data.toList

/-- What a C function sees of the bytes behind a `char *`. -/
def untilNul (bytes : List UInt8) : CString := bytes.takeWhile (· ≠ 0)

theorem untilNul_of_notMem {bytes : List UInt8} (whole : 0 ∉ bytes) :
    untilNul bytes = bytes := by
  apply List.takeWhile_eq_self_iff.mpr
  intro byte member
  have nonzero : byte ≠ 0 := fun zero => whole (zero ▸ member)
  simpa using nonzero

/-- `g_ascii_isspace`: space, tab, line feed, form feed and carriage return. -/
def asciiIsSpace (char : UInt8) : Bool :=
  char == 0x20 || char == 0x09 || char == 0x0A || char == 0x0C || char == 0x0D

def asciiIsAlpha (char : UInt8) : Bool :=
  (0x41 ≤ char && char ≤ 0x5A) || (0x61 ≤ char && char ≤ 0x7A)

def asciiIsDigit (char : UInt8) : Bool := 0x30 ≤ char && char ≤ 0x39

def asciiToLower (char : UInt8) : UInt8 :=
  if 0x41 ≤ char ∧ char ≤ 0x5A then char + 0x20 else char

def asciiStrdown (string : CString) : CString := string.map asciiToLower

/-- `strchr`: the string from the first such byte on, empty for NULL. -/
def strchr (char : UInt8) (string : CString) : CString := string.dropWhile (· != char)

def strchug (string : CString) : CString := string.dropWhile asciiIsSpace

def strchomp (string : CString) : CString := string.rdropWhile asciiIsSpace

def strstrip (string : CString) : CString := strchomp (strchug string)

/-- `g_strsplit` with a delimiter of one byte and no limit: the empty string has
no pieces. -/
def strsplit (delimiter : UInt8) (string : CString) : List CString :=
  if string = [] then [] else string.splitOn delimiter

def strjoinv (separator : CString) (strings : List CString) : CString :=
  separator.intercalate strings

/-! Scanning -/

theorem takeWhile_of_strchr_nil {char : UInt8} {string : CString}
    (absent : strchr char string = []) : string.takeWhile (· != char) = string := by
  have cut := List.takeWhile_append_dropWhile (p := (· != char)) (l := string)
  rwa [show string.dropWhile (· != char) = [] from absent, List.append_nil] at cut

theorem takeWhile_append_strchr {char : UInt8} {string : CString}
    (present : strchr char string ≠ []) :
    string.takeWhile (· != char) ++ char :: (strchr char string).tail = string := by
  obtain ⟨found, after, split⟩ := List.exists_cons_of_ne_nil present
  have isChar : found = char := by
    have first := List.head?_dropWhile_not (· != char) string
    rw [show string.dropWhile (· != char) = found :: after from split] at first
    simpa using first
  rw [split, List.tail_cons, ← isChar, ← split, isChar]
  exact List.takeWhile_append_dropWhile

theorem length_tail_strchr {char : UInt8} {string : CString}
    (present : strchr char string ≠ []) :
    (strchr char string).tail.length < string.length := by
  have lengths := congrArg List.length (takeWhile_append_strchr present)
  rw [List.length_append, List.length_cons] at lengths
  omega

theorem notMem_takeWhile_ne (char : UInt8) (string : CString) :
    char ∉ string.takeWhile (· != char) := by
  intro member
  simpa using List.mem_takeWhile_imp member

/-! Trimming -/

theorem strchug_prefix {string trimmed : CString}
    (keeps : trimmed <+: strchug string) : strchug trimmed = trimmed := by
  cases trimmed with
  | nil => rfl
  | cons char rest =>
      obtain ⟨after, split⟩ := keeps
      have hard : ¬ asciiIsSpace char := by
        have first := List.head?_dropWhile_not asciiIsSpace string
        rw [show string.dropWhile asciiIsSpace = char :: (rest ++ after) from
          split.symm] at first
        simpa using first
      exact List.dropWhile_cons_of_neg hard

theorem strstrip_idem (string : CString) :
    strstrip (strstrip string) = strstrip string := by
  have chugged : strchug (strstrip string) = strstrip string :=
    strchug_prefix (List.rdropWhile_prefix asciiIsSpace _)
  calc
    strstrip (strstrip string) = strchomp (strstrip string) := by
      rw [strstrip, chugged]
    _ = strstrip string := List.rdropWhile_idempotent asciiIsSpace _

theorem strstrip_cons_space {char : UInt8} (space : asciiIsSpace char = true)
    (string : CString) : strstrip (char :: string) = strstrip string := by
  rw [strstrip, strstrip, strchug, List.dropWhile_cons_of_pos space]
  rfl

theorem strstrip_subset (string : CString) : strstrip string ⊆ string := by
  intro char member
  have inChug : char ∈ strchug string := (List.rdropWhile_prefix _ _).subset member
  exact (List.dropWhile_sublist _).subset inChug

/-! Separated lists: the trimmed non-blank pieces between the separators. -/

section Fields

variable (delimiter : UInt8)

def fields (string : CString) : List CString :=
  ((string.splitOn delimiter).map strstrip).filter (· ≠ [])

def PlainField (string : CString) : Prop :=
  string ≠ [] ∧ delimiter ∉ string ∧ strstrip string = string

instance (string : CString) : Decidable (PlainField delimiter string) :=
  inferInstanceAs (Decidable (_ ∧ _ ∧ _))

variable {delimiter}

@[simp] theorem fields_nil : fields delimiter [] = [] := by
  simp [fields, strstrip, strchug, strchomp]

theorem fields_strsplit (string : CString) :
    ((strsplit delimiter string).map strstrip).filter (· ≠ []) =
      fields delimiter string := by
  by_cases empty : string = []
  · rw [empty, fields_nil]
    rfl
  · rw [strsplit, if_neg empty, fields]

theorem fields_append_cons (before after : CString) :
    fields delimiter (before ++ delimiter :: after) =
      fields delimiter before ++ fields delimiter after := by
  simp only [fields, List.splitOn_append_cons_self, List.map_append,
    List.filter_append]

theorem fields_cons_space {char : UInt8} (space : asciiIsSpace char = true)
    (different : char ≠ delimiter) (string : CString) :
    fields delimiter (char :: string) = fields delimiter string := by
  obtain ⟨first, rest, split⟩ :=
    List.exists_cons_of_ne_nil (List.splitOn_ne_nil delimiter string)
  have skips : (char :: string).splitOn delimiter = (char :: first) :: rest := by
    rw [List.splitOn_cons_eq_if_modifyHead, split,
      if_neg (by simpa using different)]
    rfl
  simp only [fields, skips, split, List.map_cons, strstrip_cons_space space]

theorem notMem_of_mem_splitOn {string piece : CString}
    (member : piece ∈ string.splitOn delimiter) : delimiter ∉ piece := by
  induction string generalizing piece with
  | nil =>
      simp only [List.splitOn_nil, List.mem_singleton] at member
      simp [member]
  | cons char rest ih =>
      rw [List.splitOn_cons_eq_if_modifyHead] at member
      split at member
      · rcases List.mem_cons.mp member with rfl | later
        · simp
        · exact ih later
      next different =>
        obtain ⟨first, pieces, split⟩ :=
          List.exists_cons_of_ne_nil (List.splitOn_ne_nil delimiter rest)
        rw [split, List.modifyHead_cons] at member
        rcases List.mem_cons.mp member with rfl | later
        · have inFirst := ih (split ▸ List.mem_cons_self)
          simp only [List.mem_cons, not_or]
          exact ⟨fun same => different (by simp [same]), inFirst⟩
        · exact ih (split ▸ List.mem_cons_of_mem first later)

theorem plainField_of_mem_fields {string field : CString}
    (member : field ∈ fields delimiter string) : PlainField delimiter field := by
  obtain ⟨mapped, nonempty⟩ := List.mem_filter.mp member
  obtain ⟨piece, inSplit, rfl⟩ := List.mem_map.mp mapped
  refine ⟨by simpa using nonempty, ?_, strstrip_idem piece⟩
  exact fun inField => notMem_of_mem_splitOn inSplit (strstrip_subset piece inField)

theorem fields_of_plainField {field : CString} (plain : PlainField delimiter field) :
    fields delimiter field = [field] := by
  obtain ⟨nonempty, absent, trimmed⟩ := plain
  simp [fields, List.splitOn_eq_singleton absent, trimmed, nonempty]

theorem flatMap_fields_of_plain {values : List CString}
    (plain : ∀ value ∈ values, PlainField delimiter value) :
    values.flatMap (fields delimiter) = values := by
  induction values with
  | nil => rfl
  | cons value rest ih =>
      rw [List.flatMap_cons, fields_of_plainField (plain value List.mem_cons_self),
        ih fun value member => plain value (List.mem_cons_of_mem _ member)]
      rfl

/-- Joining with the delimiter and blanks behind it keeps the fields of every string. -/
theorem fields_strjoinv {blanks : CString}
    (skipped : ∀ char ∈ blanks, asciiIsSpace char = true ∧ char ≠ delimiter)
    (strings : List CString) :
    fields delimiter (strjoinv (delimiter :: blanks) strings) =
      strings.flatMap (fields delimiter) := by
  have skips (string : CString) :
      fields delimiter (blanks ++ string) = fields delimiter string := by
    induction blanks with
    | nil => rfl
    | cons char rest ih =>
        obtain ⟨space, different⟩ := skipped char List.mem_cons_self
        rw [List.cons_append, fields_cons_space space different,
          ih fun other member => skipped other (List.mem_cons_of_mem char member)]
  induction strings with
  | nil => simp [strjoinv]
  | cons first rest ih =>
      cases rest with
      | nil => simp [strjoinv]
      | cons second rest =>
          have joined : strjoinv (delimiter :: blanks) (first :: second :: rest) =
              first ++ delimiter ::
                (blanks ++ strjoinv (delimiter :: blanks) (second :: rest)) := by
            simp [strjoinv, List.intercalate_cons_cons]
          rw [joined, fields_append_cons, skips, ih]
          rfl

section Cut

variable {P : CString → Prop}
  (cut : ∀ before char after, asciiIsSpace char = true ∨ char = delimiter →
    P (before ++ char :: after) → P before ∧ P after)
include cut

theorem strstrip_of_cut {string : CString} (holds : P string) : P (strstrip string) := by
  have chugged : P (strchug string) := by
    induction string with
    | nil => exact holds
    | cons char rest ih =>
        cases space : asciiIsSpace char with
        | true =>
            rw [strchug, List.dropWhile_cons_of_pos space]
            exact ih (cut [] char rest (.inl space) holds).2
        | false =>
            rw [strchug, List.dropWhile_cons_of_neg (by simp [space])]
            exact holds
  rw [strstrip]
  generalize strchug string = trimmed at chugged ⊢
  induction trimmed using List.reverseRecOn with
  | nil => exact chugged
  | append_singleton rest char ih =>
      cases space : asciiIsSpace char with
      | true =>
          rw [strchomp, List.rdropWhile_concat_pos _ _ _ space]
          exact ih (cut rest char [] (.inl space) chugged).1
      | false =>
          rw [strchomp, List.rdropWhile_concat_neg _ _ _ (by simp [space])]
          exact chugged

theorem splitOn_of_cut {string : CString} (holds : P string) :
    ∀ piece ∈ string.splitOn delimiter, P piece := by
  induction size : string.length using Nat.strong_induction_on generalizing string with
  | _ size ih =>
      intro piece member
      by_cases inside : delimiter ∈ string
      · obtain ⟨before, after, split⟩ := List.append_of_mem inside
        rw [split, List.splitOn_append_cons_self] at member
        rw [split] at holds
        have halves := cut before delimiter after (.inr rfl) holds
        have shorter : string.length = before.length + (after.length + 1) := by
          rw [split, List.length_append, List.length_cons]
        rcases List.mem_append.mp member with inBefore | inAfter
        · exact ih before.length (by omega) halves.1 rfl piece inBefore
        · exact ih after.length (by omega) halves.2 rfl piece inAfter
      · rw [List.splitOn_eq_singleton inside, List.mem_singleton] at member
        rw [member]
        exact holds

/-- What passes to both sides of every byte a string is cut at passes to its fields. -/
theorem fields_of_cut {string : CString} (holds : P string) :
    ∀ field ∈ fields delimiter string, P field := by
  intro field member
  obtain ⟨mapped, -⟩ := List.mem_filter.mp member
  obtain ⟨piece, inSplit, rfl⟩ := List.mem_map.mp mapped
  exact strstrip_of_cut cut (splitOn_of_cut cut holds piece inSplit)

end Cut

end Fields

end Sambervise.Text
