import Sambervise.Text.Trim

namespace Sambervise.Text

/-! The words of a string, which blanks separate -/

def words (string : CString) : List CString :=
  (string.splitOnP asciiIsSpace).filter (· ≠ [])

@[simp] theorem words_nil : words [] = [] := rfl

theorem words_append_space (before : CString) {char : UInt8}
    (space : asciiIsSpace char = true) (after : CString) :
    words (before ++ char :: after) = words before ++ words after := by
  rw [words, List.splitOnP_append_cons before after space, List.filter_append]
  rfl

theorem words_of_hard {word : CString} (nonempty : word ≠ [])
    (hard : ∀ char ∈ word, asciiIsSpace char = false) : words word = [word] := by
  rw [words, List.splitOnP_eq_singleton hard]
  simp [nonempty]

theorem words_cons_space {char : UInt8} (space : asciiIsSpace char = true)
    (string : CString) : words (char :: string) = words string :=
  words_append_space [] space string

theorem words_blank_append {before : CString} (blank : Blank before) (string : CString) :
    words (before ++ string) = words string := by
  induction before with
  | nil => rfl
  | cons char rest ih =>
      rw [List.cons_append, words_cons_space (blank char List.mem_cons_self),
        ih fun other member => blank other (List.mem_cons_of_mem char member)]

theorem words_append_blank {after : CString} (blank : Blank after) (string : CString) :
    words (string ++ after) = words string := by
  cases after with
  | nil => rw [List.append_nil]
  | cons char rest =>
      have none := words_blank_append
        (fun other member => blank other (List.mem_cons_of_mem char member) : Blank rest) []
      rw [List.append_nil] at none
      rw [words_append_space string (blank char List.mem_cons_self), none, words_nil,
        List.append_nil]

theorem words_strstrip (string : CString) : words (strstrip string) = words string := by
  obtain ⟨-, before, after, blankBefore, blankAfter, split⟩ := trims_strstrip string
  rw [List.append_assoc] at split
  conv_rhs => rw [split, words_blank_append blankBefore, words_append_blank blankAfter]

def firstWord (string : CString) : CString := string.takeWhile fun char => !asciiIsSpace char

theorem firstWord_hard (string : CString) :
    ∀ char ∈ firstWord string, asciiIsSpace char = false := by
  intro char member
  simpa using List.mem_takeWhile_imp member

/-- What follows the first word begins with a blank. -/
theorem dropWhile_firstWord (string : CString) :
    (string.dropWhile fun char => !asciiIsSpace char) = [] ∨
      ∃ char rest, (string.dropWhile fun char => !asciiIsSpace char) = char :: rest ∧
        asciiIsSpace char = true := by
  cases split : string.dropWhile fun char => !asciiIsSpace char with
  | nil => exact .inl rfl
  | cons char rest =>
      have first := List.head?_dropWhile_not (fun char => !asciiIsSpace char) string
      rw [split] at first
      exact .inr ⟨char, rest, rfl, by simpa using first⟩

theorem words_of_firstWord {string : CString} (starts : firstWord string ≠ []) :
    ∃ others, words string = firstWord string :: others := by
  have single := words_of_hard starts (firstWord_hard string)
  have whole : firstWord string ++ (string.dropWhile fun char => !asciiIsSpace char) = string :=
    List.takeWhile_append_dropWhile
  rcases dropWhile_firstWord string with none | ⟨char, rest, split, space⟩
  · rw [none, List.append_nil] at whole
    rw [whole] at single
    exact ⟨[], by rw [single, whole]⟩
  · rw [split] at whole
    have spaced := words_append_space (firstWord string) space rest
    rw [whole, single] at spaced
    exact ⟨words rest, spaced⟩

theorem hard_of_mem_splitOnP {string piece : CString}
    (member : piece ∈ string.splitOnP asciiIsSpace) :
    ∀ char ∈ piece, asciiIsSpace char = false := by
  induction string generalizing piece with
  | nil =>
      rw [List.splitOnP_nil, List.mem_singleton] at member
      simp [member]
  | cons char rest ih =>
      rw [List.splitOnP_cons_eq_if_modifyHead] at member
      split at member
      · rcases List.mem_cons.mp member with rfl | later
        · simp
        · exact ih later
      next hard =>
        obtain ⟨first, pieces, split⟩ :=
          List.exists_cons_of_ne_nil (List.splitOnP_ne_nil asciiIsSpace rest)
        rw [split, List.modifyHead_cons] at member
        rcases List.mem_cons.mp member with rfl | later
        · intro other inPiece
          rcases List.mem_cons.mp inPiece with rfl | inFirst
          · exact eq_false_of_ne_true hard
          · exact ih (split ▸ List.mem_cons_self) other inFirst
        · exact ih (split ▸ List.mem_cons_of_mem first later)

theorem hard_of_mem_words {string word : CString} (member : word ∈ words string) :
    ∀ char ∈ word, asciiIsSpace char = false :=
  hard_of_mem_splitOnP (List.mem_filter.mp member).1

theorem firstWord_ne_nil_iff {string : CString} :
    firstWord string ≠ [] ↔ ∃ char ∈ string.head?, asciiIsSpace char = false := by
  cases string with
  | nil => simp [firstWord]
  | cons char rest =>
      cases space : asciiIsSpace char with
      | true => simp [firstWord, space]
      | false => simp [firstWord, space]

/-- Only a blank string has no words. -/
theorem words_eq_nil_iff (string : CString) : words string = [] ↔ Blank string := by
  constructor
  · intro none
    rw [← strstrip_eq_nil_iff]
    by_contra nonempty
    have starts : firstWord (strstrip string) ≠ [] := by
      obtain ⟨char, rest, split⟩ := List.exists_cons_of_ne_nil nonempty
      refine firstWord_ne_nil_iff.mpr ⟨char, by simp [split], ?_⟩
      exact (bare_strstrip string).1 char (by simp [split])
    obtain ⟨others, some⟩ := words_of_firstWord starts
    rw [words_strstrip, none] at some
    cases some
  · intro blank
    have swept := words_blank_append blank []
    rwa [List.append_nil] at swept

end Sambervise.Text
