import Mathlib.Data.List.Forall2
import Sambervise.Text.CString

namespace Sambervise.Text

/-! What trimming and splitting a string are for, apart from how the functions
scan it. -/

def Blank (string : CString) : Prop := ∀ char ∈ string, asciiIsSpace char = true

instance (string : CString) : Decidable (Blank string) :=
  inferInstanceAs (Decidable (∀ char ∈ string, asciiIsSpace char = true))

/-- A string with no blank at either end. -/
def Bare (string : CString) : Prop :=
  (∀ char ∈ string.head?, asciiIsSpace char = false) ∧
    ∀ char ∈ string.getLast?, asciiIsSpace char = false

/-- `trimmed` is `string` without the blanks around it. -/
def Trims (string trimmed : CString) : Prop :=
  Bare trimmed ∧
    ∃ before after, Blank before ∧ Blank after ∧ string = before ++ trimmed ++ after

theorem strchug_append_of_blank {before : CString} (blank : Blank before)
    (string : CString) : strchug (before ++ string) = strchug string := by
  induction before with
  | nil => rfl
  | cons char rest ih =>
      rw [List.cons_append, strchug,
        List.dropWhile_cons_of_pos (blank char List.mem_cons_self)]
      exact ih fun other member => blank other (List.mem_cons_of_mem char member)

theorem strchomp_append_of_blank {after : CString} (blank : Blank after)
    (string : CString) : strchomp (string ++ after) = strchomp string := by
  induction after using List.reverseRecOn with
  | nil => rw [List.append_nil]
  | append_singleton rest char ih =>
      have last : asciiIsSpace char = true :=
        blank char (List.mem_append_right rest List.mem_cons_self)
      rw [← List.append_assoc, strchomp, List.rdropWhile_concat_pos _ _ _ last]
      exact ih fun other member => blank other (List.mem_append_left [char] member)

theorem strchug_of_head {string : CString}
    (hard : ∀ char ∈ string.head?, asciiIsSpace char = false) :
    strchug string = string := by
  cases string with
  | nil => rfl
  | cons char rest =>
      have first := hard char rfl
      exact List.dropWhile_cons_of_neg (by simp [first])

theorem strchomp_of_last {string : CString}
    (hard : ∀ char ∈ string.getLast?, asciiIsSpace char = false) :
    strchomp string = string := by
  rw [strchomp, List.rdropWhile_eq_self_iff]
  intro nonempty
  simp [hard _ (List.getLast?_eq_some_getLast nonempty)]

theorem strstrip_of_bare {string : CString} (bare : Bare string) :
    strstrip string = string := by
  rw [strstrip, strchug_of_head bare.1, strchomp_of_last bare.2]

theorem bare_strstrip (string : CString) : Bare (strstrip string) := by
  constructor
  · intro char first
    have chugged : strchug (strstrip string) = strstrip string :=
      strchug_prefix (List.rdropWhile_prefix asciiIsSpace _)
    have hard := List.head?_dropWhile_not asciiIsSpace (strstrip string)
    rw [show (strstrip string).dropWhile asciiIsSpace = strstrip string from chugged,
      first] at hard
    simpa using hard
  · intro char last
    have nonempty : strstrip string ≠ [] := by
      intro empty
      simp [empty] at last
    have hard := List.rdropWhile_last_not asciiIsSpace (strchug string) nonempty
    rw [List.getLast?_eq_some_getLast nonempty] at last
    rw [← Option.some.inj last]
    exact eq_false_of_ne_true hard

theorem trims_strstrip (string : CString) : Trims string (strstrip string) := by
  refine ⟨bare_strstrip string, string.takeWhile asciiIsSpace,
    (strchug string).rtakeWhile asciiIsSpace, ?_, ?_, ?_⟩
  · intro char member
    exact List.mem_takeWhile_imp member
  · intro char member
    exact List.mem_rtakeWhile_imp member
  · rw [List.append_assoc, strstrip, strchomp, List.rdropWhile_append_rtakeWhile]
    exact List.takeWhile_append_dropWhile.symm

theorem trims_iff {string trimmed : CString} :
    Trims string trimmed ↔ trimmed = strstrip string := by
  constructor
  · rintro ⟨bare, before, after, blankBefore, blankAfter, rfl⟩
    rw [List.append_assoc, strstrip, strchug_append_of_blank blankBefore]
    by_cases empty : trimmed = []
    · rw [empty, List.nil_append]
      have swept := strchug_append_of_blank blankAfter []
      rw [List.append_nil] at swept
      rw [swept]
      rfl
    · have hard : ∀ char ∈ (trimmed ++ after).head?, asciiIsSpace char = false := by
        rw [List.head?_append_of_ne_nil _ empty]
        exact bare.1
      rw [strchug_of_head hard, strchomp_append_of_blank blankAfter,
        strchomp_of_last bare.2]
  · intro same
    rw [same]
    exact trims_strstrip string

theorem strstrip_eq_nil_iff (string : CString) : strstrip string = [] ↔ Blank string := by
  constructor
  · intro empty
    obtain ⟨-, before, after, blankBefore, blankAfter, split⟩ := trims_strstrip string
    rw [empty, List.append_nil] at split
    rw [split]
    intro char member
    rcases List.mem_append.mp member with inBefore | inAfter
    · exact blankBefore char inBefore
    · exact blankAfter char inAfter
  · intro blank
    have swept := strchug_append_of_blank blank []
    rw [List.append_nil] at swept
    rw [strstrip, swept]
    rfl

/-! The pieces of a string -/

section Pieces

variable (delimiter : UInt8)

/-- `pieces` are what stands between the delimiters of `string`. -/
structure Pieces (string : CString) (pieces : List CString) : Prop where
  joined : [delimiter].intercalate pieces = string
  nonempty : pieces ≠ []
  whole : ∀ piece ∈ pieces, delimiter ∉ piece

/-- `tokens` are the pieces of `string` that are not blank, each trimmed, in order. -/
def Tokens (string : CString) (tokens : List CString) : Prop :=
  ∃ pieces, Pieces delimiter string pieces ∧
    List.Forall₂ Trims (pieces.filter fun piece => ¬ Blank piece) tokens

variable {delimiter}

theorem pieces_iff {string : CString} {pieces : List CString} :
    Pieces delimiter string pieces ↔ pieces = string.splitOn delimiter := by
  constructor
  · rintro ⟨joined, nonempty, whole⟩
    rw [← joined, List.splitOn_intercalate delimiter whole nonempty]
  · intro split
    rw [split]
    exact
      { joined := List.intercalate_splitOn delimiter
        nonempty := List.splitOn_ne_nil delimiter string
        whole := fun _ member => notMem_of_mem_splitOn member }

theorem forall₂_trims {strings trimmed : List CString} :
    List.Forall₂ Trims strings trimmed ↔ trimmed = strings.map strstrip := by
  rw [eq_comm, ← List.forall₂_eq_eq_eq, List.forall₂_map_left_iff]
  constructor
  · exact fun all => all.imp fun string trimmed trims => (trims_iff.mp trims).symm
  · exact fun all => all.imp fun string trimmed same => trims_iff.mpr same.symm

theorem tokens_iff {string : CString} {tokens : List CString} :
    Tokens delimiter string tokens ↔ tokens = fields delimiter string := by
  have kept : (fun piece : CString => decide (¬ Blank piece)) =
      fun piece => decide (strstrip piece ≠ []) := by
    funext piece
    exact decide_eq_decide.mpr (not_congr (strstrip_eq_nil_iff piece).symm)
  simp only [Tokens, pieces_iff, exists_eq_left, forall₂_trims, fields, kept,
    List.filter_map]
  rfl

theorem blank_append {before after : CString} :
    Blank (before ++ after) ↔ Blank before ∧ Blank after := by
  simp only [Blank, List.mem_append, or_imp, forall_and]

theorem blank_intercalate {pieces : List CString} (isSpace : asciiIsSpace delimiter = true)
    (blank : ∀ piece ∈ pieces, Blank piece) : Blank ([delimiter].intercalate pieces) := by
  have separator : Blank [delimiter] := by
    intro char member
    rw [List.mem_singleton.mp member]
    exact isSpace
  induction pieces with
  | nil => exact fun char member => absurd member List.not_mem_nil
  | cons first rest ih =>
      have later := ih fun piece member => blank piece (List.mem_cons_of_mem first member)
      cases rest with
      | nil => simpa using blank first List.mem_cons_self
      | cons second rest =>
          rw [List.intercalate_cons_cons, blank_append, blank_append]
          exact ⟨⟨blank first List.mem_cons_self, separator⟩, later⟩

/-- Where the delimiter is a blank too, only a blank string has no fields. -/
theorem fields_eq_nil_iff (isSpace : asciiIsSpace delimiter = true) (string : CString) :
    fields delimiter string = [] ↔ Blank string := by
  have pieces : fields delimiter string = [] ↔
      ∀ piece ∈ string.splitOn delimiter, Blank piece := by
    simp [fields, List.filter_eq_nil_iff, strstrip_eq_nil_iff]
  rw [pieces]
  constructor
  · intro blank
    rw [← @List.intercalate_splitOn _ string _ _ delimiter]
    exact blank_intercalate isSpace blank
  · intro blank
    refine @splitOn_of_cut delimiter _ ?_ _ blank
    intro before char after _ whole
    rw [blank_append, ← List.singleton_append, blank_append] at whole
    exact ⟨whole.1, whole.2.2⟩

end Pieces

end Sambervise.Text
