import Mathlib.Algebra.GroupWithZero.Nat
import Sambervise.Heap.Life
import Sambervise.Ldap.Dn
import Sambervise.Text.Words

namespace Sambervise.Ui

open Text Ldap Heap

/-! The domain that the connection dialog suggests, and the base DN it makes of it -/

def dot : UInt8 := 0x2E

def lineFeed : UInt8 := 0x0A

def isBlankOrTab (char : UInt8) : Bool := char == 0x20 || char == 0x09

def domainPrefix : CString := cstr "domain "

def searchPrefix : CString := cstr "search "

/-- `val`: what stands behind the keyword of a line, where that begins one. -/
def directiveValue (line : CString) : Option CString :=
  if domainPrefix <+: line then some (line.drop 7)
  else if searchPrefix <+: line then some (line.drop 7)
  else none

/-- The first piece of `g_strsplit_set`, NULL where it is empty. -/
def firstToken (val : CString) : Option CString :=
  let token := val.takeWhile fun char => !isBlankOrTab char
  if token = [] then none else some token

/-- The loop from the line `lines[i]` on, and the `g_strfreev` behind it; a use of the
array after it was freed has no result. -/
def detectLoop (lines : Life) : List CString → Option (Life × Option CString)
  | [] => do
      lines.use
      return (← lines.free, none)
  | line :: rest => do
      lines.use
      match directiveValue (strstrip line) with
      | none => detectLoop lines rest
      | some val =>
          let lines ← lines.free
          match firstToken val with
          | some domain => return (lines, some domain)
          | none => detectLoop lines rest

def hostDomain (hostname : Option CString) : Option CString :=
  match hostname with
  | none => none
  | some hostname =>
      let suffix := (strchr dot hostname).tail
      if suffix = [] then none else some suffix

/-- With what has become of the array of lines, should there have been one. -/
def detectLocalDomain (contents : Option (List UInt8)) (hostname : Option CString) :
    Option (Option Life × Option CString) :=
  match contents with
  | none => some (none, hostDomain hostname)
  | some contents => do
      let (lines, domain) ← detectLoop .alive (strsplit lineFeed (untilNul contents))
      return (some lines, domain.or (hostDomain hostname))

def domainToBaseDn (domain : Option CString) : Option CString :=
  match domain with
  | none => none
  | some domain =>
      if domain = [] then none
      else some (strjoinv [comma] ((strsplit dot domain).map (cstr "DC=" ++ ·)))

/-! What they are to say -/

def resolvLines (contents : Option (List UInt8)) : List CString :=
  (untilNul (contents.getD [])).splitOn lineFeed

/-- The first word behind the keyword of a directive. -/
def directiveWord (line : CString) : Option CString :=
  match words line with
  | keyword :: word :: _ =>
      if keyword = cstr "domain" ∨ keyword = cstr "search" then some word else none
  | _ => none

def localDomain (contents : Option (List UInt8)) (hostname : Option CString) :
    Option CString :=
  ((resolvLines contents).findSome? directiveWord).or (hostDomain hostname)

def labelsDn (domain : CString) : CString :=
  strjoinv [comma] (((domain.splitOn dot).filter (!·.isEmpty)).map (cstr "DC=" ++ ·))

/-- The array of lines is freed just once and not used any more then, and the domain and
its base DN are as they are to be. -/
def Detects (contents : Option (List UInt8)) (hostname : Option CString) : Prop :=
  ∃ domain, detectLocalDomain contents hostname = some (contents.map fun _ => .freed, domain) ∧
    domain = localDomain contents hostname ∧ domainToBaseDn domain = domain.map labelsDn

/-- One blank separates the value from the keyword, and its first word ends at a blank or
a tab or with the line. -/
def PlainValue (val : CString) : Prop :=
  firstWord val ≠ [] ∧
    ∀ char ∈ (val.dropWhile fun char => !asciiIsSpace char).head?, isBlankOrTab char = true

/-- The first line whose keyword a blank follows has a plain value and names the domain,
there being no such line the host name does; and no label of the domain is empty. -/
def PlainlyNamed (contents : Option (List UInt8)) (hostname : Option CString) : Prop :=
  (match (resolvLines contents).findSome? fun line => directiveValue (strstrip line) with
    | some val => PlainValue val ∧ localDomain contents hostname = some (firstWord val)
    | none => localDomain contents hostname = hostDomain hostname) ∧
    ∀ domain ∈ localDomain contents hostname, [] ∉ domain.splitOn dot

/-! The base DN -/

theorem length_strjoinv (separator : UInt8) (strings : List CString) :
    (strjoinv [separator] strings).length =
      (strings.map fun string => string.length + 1).sum - 1 := by
  induction strings with
  | nil => rfl
  | cons first rest ih =>
      cases rest with
      | nil => simp [strjoinv]
      | cons second rest =>
          rw [strjoinv, List.intercalate_cons_cons, List.length_append, List.length_append,
            ← strjoinv, ih]
          simp only [List.map_cons, List.sum_cons, List.length_cons, List.length_nil]
          omega

/-- The characters of `DC=label` and of the comma behind it, for all the labels. -/
def labelsLength (labels : List (List UInt8)) : Nat :=
  (labels.map fun label => label.length + 4).sum

theorem labelsLength_filter (labels : List (List UInt8)) :
    labelsLength (labels.filter (!·.isEmpty)) + 4 * labels.countP List.isEmpty =
      labelsLength labels := by
  induction labels with
  | nil => rfl
  | cons label rest ih =>
      have consed (first : CString) (others : List CString) :
          labelsLength (first :: others) = first.length + 4 + labelsLength others := rfl
      rw [consed, ← ih]
      by_cases empty : label = []
      · subst empty
        rw [List.filter_cons_of_neg (by simp), List.countP_cons_of_pos rfl, List.length_nil]
        omega
      · rw [List.filter_cons_of_pos (by simpa using empty),
          List.countP_cons_of_neg (by simpa using empty), consed]
        omega

theorem length_strjoinv_labels (labels : List CString) :
    (strjoinv [comma] (labels.map (cstr "DC=" ++ ·))).length = labelsLength labels - 1 := by
  have weight (label : CString) : (cstr "DC=" ++ label).length + 1 = label.length + 4 := by
    rw [List.length_append, show (cstr "DC=").length = 3 from rfl]
    omega
  rw [length_strjoinv, List.map_map, labelsLength]
  simp only [Function.comp_def, weight]

theorem domainToBaseDn_eq_iff {domain : CString} (nonempty : domain ≠ []) :
    domainToBaseDn (some domain) = some (labelsDn domain) ↔ [] ∉ domain.splitOn dot := by
  rw [domainToBaseDn, if_neg nonempty, strsplit, if_neg nonempty, Option.some.injEq, labelsDn]
  constructor
  · intro same empty
    have lengths := congrArg List.length same
    rw [length_strjoinv_labels, length_strjoinv_labels] at lengths
    have positive : 0 < (domain.splitOn dot).countP List.isEmpty :=
      List.countP_pos_iff.mpr ⟨[], empty, rfl⟩
    have sums := labelsLength_filter (domain.splitOn dot)
    omega
  · intro whole
    rw [List.filter_eq_self.mpr]
    intro label member
    simpa using fun empty : label = [] => whole (empty ▸ member)

/-! The token -/

theorem firstToken_eq_some_iff {val token : CString} :
    firstToken val = some token ↔
      token ≠ [] ∧ val.takeWhile (fun char => !isBlankOrTab char) = token := by
  unfold firstToken
  dsimp only
  split
  next empty =>
    simp [empty]
  next some =>
    rw [Option.some.injEq]
    constructor
    · intro same
      exact ⟨same ▸ some, same⟩
    · exact And.right

theorem isBlankOrTab_space {char : UInt8} (hard : asciiIsSpace char = false) :
    isBlankOrTab char = false := by
  simp only [asciiIsSpace, Bool.or_eq_false_iff] at hard
  simp [isBlankOrTab, hard.1.1.1.1, hard.1.1.1.2]

/-- Of a plain value the token is the first word. -/
theorem token_of_plain {val : CString} (plain : PlainValue val) :
    val.takeWhile (fun char => !isBlankOrTab char) = firstWord val := by
  have whole : firstWord val ++ (val.dropWhile fun char => !asciiIsSpace char) = val :=
    List.takeWhile_append_dropWhile
  have unblank : ∀ char ∈ firstWord val, (!isBlankOrTab char) = true := by
    intro char member
    rw [isBlankOrTab_space (firstWord_hard val char member)]
    rfl
  have ends := plain.2
  conv_lhs => rw [← whole, List.takeWhile_append_of_pos unblank]
  cases split : val.dropWhile fun char => !asciiIsSpace char with
  | nil => exact List.append_nil _
  | cons char rest =>
      rw [split] at ends
      rw [List.takeWhile_cons_of_neg (by simp [ends char rfl]), List.append_nil]

/-- The token is a word exactly where the value is plain. -/
theorem plainValue_iff {val : CString} :
    PlainValue val ↔
      ∃ token, firstToken val = some token ∧ ∀ char ∈ token, asciiIsSpace char = false := by
  constructor
  · intro plain
    refine ⟨firstWord val, firstToken_eq_some_iff.mpr ⟨plain.1, token_of_plain plain⟩, ?_⟩
    exact firstWord_hard val
  · rintro ⟨token, taken, hard⟩
    obtain ⟨nonempty, isToken⟩ := firstToken_eq_some_iff.mp taken
    have whole : token ++ (val.dropWhile fun char => !isBlankOrTab char) = val := by
      rw [← isToken]
      exact List.takeWhile_append_dropWhile
    have unspaced : ∀ char ∈ token, (!asciiIsSpace char) = true := by
      intro char member
      rw [hard char member]
      rfl
    have split : firstWord val = token ++
        firstWord (val.dropWhile fun char => !isBlankOrTab char) := by
      conv_lhs => rw [← whole]
      exact List.takeWhile_append_of_pos unspaced
    have rest : (val.dropWhile fun char => !asciiIsSpace char) =
        (val.dropWhile fun char => !isBlankOrTab char).dropWhile fun char =>
          !asciiIsSpace char := by
      conv_lhs => rw [← whole]
      exact List.dropWhile_append_of_pos unspaced
    refine ⟨by simp [split, nonempty], ?_⟩
    rw [rest]
    cases after : val.dropWhile fun char => !isBlankOrTab char with
    | nil => simp
    | cons char others =>
        have ends : isBlankOrTab char = true := by
          have first := List.head?_dropWhile_not (fun char => !isBlankOrTab char) val
          rw [after] at first
          simpa using first
        have space : asciiIsSpace char = true := by
          by_contra hard
          rw [isBlankOrTab_space (eq_false_of_ne_true hard)] at ends
          cases ends
        rw [List.dropWhile_cons_of_neg (by simp [space])]
        intro other same
        rw [← Option.some.inj same]
        exact ends

/-! The loop -/

/-- The loop looks at the first value only: with a token it frees the lines and is done,
and without one it goes on with the lines freed. -/
theorem detectLoop_alive (lines : List CString) :
    detectLoop .alive lines =
      match lines.findSome? fun line => directiveValue (strstrip line) with
      | none => some (.freed, none)
      | some val => (firstToken val).map fun domain => (.freed, some domain) := by
  induction lines with
  | nil => rfl
  | cons line rest ih =>
      rw [List.findSome?_cons]
      cases value : directiveValue (strstrip line) with
      | none =>
          simp only [detectLoop, value]
          exact ih
      | some val =>
          cases token : firstToken val with
          | some domain =>
              simp only [detectLoop, value, token]
              rfl
          | none =>
              simp only [detectLoop, value, token]
              cases rest with
              | nil | cons => rfl

theorem words_of_directiveValue {line val : CString}
    (value : directiveValue (strstrip line) = some val) :
    ∃ keyword, (keyword = cstr "domain" ∨ keyword = cstr "search") ∧
      words line = keyword :: words val ∧ ¬ Blank val := by
  have fromPrefix {keyword : CString} (single : words keyword = [keyword])
      (size : (keyword ++ [0x20]).length = 7) (starts : keyword ++ [0x20] <+: strstrip line) :
      words line = keyword :: words ((strstrip line).drop 7) ∧
        ¬ Blank ((strstrip line).drop 7) := by
    obtain ⟨rest, split⟩ := starts
    have dropped : (strstrip line).drop 7 = rest := by
      rw [← split, ← size, List.drop_left]
    rw [dropped, ← words_strstrip line, ← split, List.append_assoc, List.singleton_append,
      words_append_space keyword rfl rest, single]
    refine ⟨rfl, fun blank => ?_⟩
    have spaces : Blank (0x20 :: rest) := List.forall_mem_cons.mpr ⟨rfl, blank⟩
    have last := (bare_strstrip line).2
    rw [← split, List.append_assoc, List.singleton_append,
      List.getLast?_append_of_ne_nil _ (List.cons_ne_nil _ _)] at last
    have isLast := List.getLast?_eq_some_getLast (List.cons_ne_nil (0x20 : UInt8) rest)
    have hard := last _ isLast
    rw [spaces _ (List.mem_of_getLast? isLast)] at hard
    cases hard
  unfold directiveValue at value
  split at value
  next starts =>
    obtain rfl := Option.some.inj value
    exact ⟨cstr "domain", .inl rfl, fromPrefix (by decide) rfl starts⟩
  · split at value
    next starts =>
      obtain rfl := Option.some.inj value
      exact ⟨cstr "search", .inr rfl, fromPrefix (by decide) rfl starts⟩
    · cases value

section Results

variable {contents : Option (List UInt8)} {hostname : Option CString}

theorem findSome?_strsplit {β : Type} {f : CString → Option β} (skips : f [] = none)
    (string : CString) :
    (strsplit lineFeed string).findSome? f = (string.splitOn lineFeed).findSome? f := by
  unfold strsplit
  split
  next empty =>
    rw [empty, List.splitOn_nil, List.findSome?_cons, skips]
  · rfl

theorem detectLocalDomain_eq (contents : Option (List UInt8)) (hostname : Option CString) :
    detectLocalDomain contents hostname =
      match (resolvLines contents).findSome? fun line => directiveValue (strstrip line) with
      | none => some (contents.map fun _ => .freed, hostDomain hostname)
      | some val =>
          (firstToken val).map fun domain => (contents.map fun _ => .freed, some domain) := by
  cases contents with
  | none => rfl
  | some bytes =>
      have found := detectLoop_alive (strsplit lineFeed (untilNul bytes))
      rw [findSome?_strsplit rfl] at found
      simp only [detectLocalDomain, resolvLines, Option.getD_some]
      rw [found]
      cases ((untilNul bytes).splitOn lineFeed).findSome? fun line => directiveValue (strstrip line) with
      | none => rfl
      | some val =>
          dsimp only
          cases firstToken val with
          | none | some => rfl

theorem directiveWord_hard {line word : CString} (named : directiveWord line = some word) :
    ∀ char ∈ word, asciiIsSpace char = false := by
  unfold directiveWord at named
  split at named
  next keyword other rest split =>
    split at named
    · obtain rfl := Option.some.inj named
      have member : other ∈ words line := by
        rw [split]
        exact List.mem_cons_of_mem keyword List.mem_cons_self
      exact hard_of_mem_words member
    · cases named
  · cases named

/-- Behind a keyword and a blank stands a word, so that some directive names the domain. -/
theorem localDomain_of_directiveValue {val : CString}
    (value : ((resolvLines contents).findSome? fun line => directiveValue (strstrip line)) =
      some val) :
    ∃ word, localDomain contents hostname = some word ∧
      ∀ char ∈ word, asciiIsSpace char = false := by
  obtain ⟨line, inLines, isValue⟩ := List.exists_of_findSome?_eq_some value
  obtain ⟨keyword, isKeyword, split, some⟩ := words_of_directiveValue isValue
  obtain ⟨first, others, values⟩ :=
    List.exists_cons_of_ne_nil (mt (words_eq_nil_iff val).mp some)
  have named : directiveWord line = Option.some first := by
    rw [directiveWord, split, values]
    exact if_pos isKeyword
  cases found : (resolvLines contents).findSome? directiveWord with
  | none =>
      rw [List.findSome?_eq_none_iff.mp found line inLines] at named
      cases named
  | some word =>
      refine ⟨word, by rw [localDomain, found]; rfl, ?_⟩
      obtain ⟨other, _, isWord⟩ := List.exists_of_findSome?_eq_some found
      exact directiveWord_hard isWord

theorem domainToBaseDn_iff {domain : Option CString} (nonempty : ∀ name ∈ domain, name ≠ []) :
    domainToBaseDn domain = domain.map labelsDn ↔ ∀ name ∈ domain, [] ∉ name.splitOn dot := by
  cases domain with
  | none => simp [domainToBaseDn]
  | some name =>
      rw [Option.map_some, domainToBaseDn_eq_iff (nonempty name rfl)]
      simp

theorem hostDomain_ne_nil : ∀ name ∈ hostDomain hostname, name ≠ [] := by
  intro name named
  cases hostname with
  | none => cases named
  | some hostname =>
      simp only [hostDomain] at named
      split at named
      · cases named
      next nonempty =>
        exact Option.some.inj named ▸ nonempty

end Results

/-- The local domain is detected as it is to be, and the lines are freed just once and not
used any more then, exactly where it is named plainly. -/
theorem detects_iff (contents : Option (List UInt8)) (hostname : Option CString) :
    Detects contents hostname ↔ PlainlyNamed contents hostname := by
  unfold Detects PlainlyNamed
  rw [detectLocalDomain_eq]
  cases value : (resolvLines contents).findSome? fun line => directiveValue (strstrip line) with
  | none =>
      constructor
      · rintro ⟨domain, detected, isLocal, base⟩
        obtain rfl := (Prod.mk.inj (Option.some.inj detected)).2
        rw [domainToBaseDn_iff hostDomain_ne_nil, isLocal] at base
        exact ⟨isLocal.symm, base⟩
      · rintro ⟨isHost, whole⟩
        refine ⟨hostDomain hostname, rfl, isHost.symm, ?_⟩
        rw [domainToBaseDn_iff hostDomain_ne_nil, ← isHost]
        exact whole
  | some val =>
      constructor
      · rintro ⟨domain, detected, isLocal, base⟩
        obtain ⟨token, taken, same⟩ := Option.map_eq_some_iff.mp detected
        obtain rfl := (Prod.mk.inj same).2
        obtain ⟨word, named, hard⟩ := @localDomain_of_directiveValue contents hostname val value
        rw [named] at isLocal
        obtain rfl := Option.some.inj isLocal
        obtain ⟨nonempty, isToken⟩ := firstToken_eq_some_iff.mp taken
        have plain := plainValue_iff.mpr ⟨token, taken, hard⟩
        have isFirst : firstWord val = token := (token_of_plain plain).symm.trans isToken
        refine ⟨⟨plain, by rw [named, isFirst]⟩, ?_⟩
        rw [named]
        refine (domainToBaseDn_iff ?_).mp base
        intro name same
        exact Option.some.inj same ▸ nonempty
      · rintro ⟨⟨plain, named⟩, whole⟩
        have taken := firstToken_eq_some_iff.mpr ⟨plain.1, token_of_plain plain⟩
        refine ⟨some (firstWord val), ?_, named.symm, ?_⟩
        · dsimp only
          rw [taken]
          rfl
        · rw [named] at whole
          refine (domainToBaseDn_iff ?_).mpr whole
          intro name same
          exact Option.some.inj same ▸ plain.1

/-- Two blanks before the domain: the loop goes on over the lines it has freed. A search
list behind a tab is passed over, and a dot at the end gives an empty label. -/
theorem misread_domains :
    detectLocalDomain (some (cstr "domain  lab.example\n")) none = none ∧
      ¬ Detects (some (cstr "domain  lab.example\n")) none ∧
      detectLocalDomain (some (cstr "search\tlab.example\n")) none =
        some (some .freed, none) ∧
      localDomain (some (cstr "search\tlab.example\n")) none = some (cstr "lab.example") ∧
      domainToBaseDn (some (cstr "lab.")) = some (cstr "DC=lab,DC=") ∧
      labelsDn (cstr "lab.") = cstr "DC=lab" := by
  have used : detectLocalDomain (some (cstr "domain  lab.example\n")) none = none := by
    decide +kernel
  refine ⟨used, ?_, by decide +kernel, by decide +kernel, by decide +kernel, by decide +kernel⟩
  rintro ⟨domain, detected, _⟩
  rw [used] at detected
  cases detected

end Sambervise.Ui
