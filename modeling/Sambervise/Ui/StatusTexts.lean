import Sambervise.Backend.IdmapHints

namespace Sambervise.Ui

open Text Ldap Model Backend

/-! The labels of the bar below the window: the server, the identity that is bound, and
the id ranges -/

structure StatusBar where
  visible : Bool := false
  serverLabel : CString := []
  principalLabel : CString := []
  idmapLabel : CString := []
  deriving DecidableEq, Repr

namespace StatusBar

def serverText (host : Option CString) (port : GInt) : CString :=
  cstr "Server: " ++ host.getD (cstr "?") ++ cstr ":" ++ formatInt port.toInt

def bindText (profile : SbvProfile) : CString :=
  if orEmpty profile.bindDn = [] then cstr "(simple)" else orEmpty profile.bindDn

/-- `principal` is that of the default credential cache, where there is one. -/
def identityText (profile : SbvProfile) (principal : Option CString) : CString :=
  match profile.authType with
  | .kerberos =>
      match principal with
      | some principal => cstr "Authentication: Kerberos (" ++ (principal ++ cstr ")")
      | none => cstr "Authentication: Kerberos"
  | .simple => cstr "Bind DN: " ++ bindText profile

def pendingText : CString := cstr "UID/GID: …"

def sourceText (source : CString) : CString :=
  if source = [] then [] else cstr "   ·   " ++ source

def rangesText (hints : SbvIdmapHints) : CString :=
  cstr "UID " ++ (formatInt64 hints.uidMin ++ (cstr "–" ++ (formatInt64 hints.uidMax ++
    (cstr "   ·   GID " ++ (formatInt64 hints.gidMin ++ (cstr "–" ++
      (formatInt64 hints.gidMax ++ sourceText hints.source)))))))

/-! What the texts tell apart -/

/-- The label of the identity is the same for two profiles. -/
def SameIdentity (first second : SbvProfile) : Prop :=
  first.authType = second.authType ∧
    (first.authType = .simple → bindText first = bindText second)

def SameRanges (first second : SbvIdmapHints) : Prop :=
  first.uidMin = second.uidMin ∧ first.uidMax = second.uidMax ∧
    first.gidMin = second.gidMin ∧ first.gidMax = second.gidMax

theorem serverText_eq_iff (host : Option CString) {first second : GInt} :
    serverText host first = serverText host second ↔ first = second := by
  constructor
  · intro same
    exact BitVec.eq_of_toInt_eq (formatInt_injective (List.append_cancel_left same))
  · intro same
    rw [same]

theorem head_cstr {text : String} {char : UInt8} (starts : (cstr text).head? = some char)
    (rest : CString) : (cstr text ++ rest).head? = some char := by
  rw [List.head?_append, starts, Option.some_or]

theorem head_identityText (profile : SbvProfile) (principal : Option CString) :
    (identityText profile principal).head? =
      some (if profile.authType = .kerberos then 0x41 else 0x42) := by
  unfold identityText
  cases profile.authType with
  | kerberos =>
      cases principal with
      | none => exact (by decide : (cstr "Authentication: Kerberos").head? = some 0x41)
      | some principal => exact head_cstr (by decide) _
  | simple => exact head_cstr (by decide) _

theorem authType_of_identityText {first second : SbvProfile}
    {principal other : Option CString}
    (same : identityText first principal = identityText second other) :
    first.authType = second.authType := by
  have heads := congrArg List.head? same
  rw [head_identityText, head_identityText, Option.some_inj] at heads
  cases firstAuth : first.authType with
  | kerberos =>
      cases secondAuth : second.authType with
      | kerberos => rfl
      | simple => simp [firstAuth, secondAuth] at heads
  | simple =>
      cases secondAuth : second.authType with
      | kerberos => simp [firstAuth, secondAuth] at heads
      | simple => rfl

/-- Whatever the credential cache held when the two labels were made. -/
theorem identityText_iff {first second : SbvProfile} (principal : Option CString) :
    (∃ other, identityText first principal = identityText second other) ↔
      SameIdentity first second := by
  constructor
  · rintro ⟨other, same⟩
    have auth := authType_of_identityText same
    refine ⟨auth, fun simple => ?_⟩
    simp only [identityText, ← auth, simple] at same
    exact List.append_cancel_left same
  · intro same
    refine ⟨principal, ?_⟩
    simp only [identityText, ← same.1]
    cases simple : first.authType with
    | kerberos => rfl
    | simple => rw [same.2 simple]

@[simp] theorem sameRanges_merged_left {first second : SbvIdmapHints}
    {entry : Option Attributes} :
    SameRanges (first.merged entry) second ↔ SameRanges first second := by
  cases entry with
  | none | some => exact Iff.rfl

@[simp] theorem sameRanges_merged_right {first second : SbvIdmapHints}
    {entry : Option Attributes} :
    SameRanges first (second.merged entry) ↔ SameRanges first second := by
  cases entry with
  | none | some => exact Iff.rfl

theorem ends_cstr {text : String} {char : UInt8} (starts : (cstr text).head? = some char)
    (other : asciiIsDigit char = false) (rest : CString) :
    ∀ first ∈ (cstr text ++ rest).head?, asciiIsDigit first = false := by
  intro first starting
  rw [head_cstr starts, Option.mem_some_iff] at starting
  rwa [← starting]

theorem ends_sourceText (source : CString) :
    ∀ first ∈ (sourceText source).head?, asciiIsDigit first = false := by
  unfold sourceText
  split
  · exact nofun
  · exact @ends_cstr _ 0x20 (by decide) (by decide) source

theorem sameRanges_of_rangesText {first second : SbvIdmapHints}
    (same : rangesText first = rangesText second) : SameRanges first second := by
  have dash := @ends_cstr "–" 0xE2 (by decide) (by decide)
  have gap := @ends_cstr "   ·   GID " 0x20 (by decide) (by decide)
  have rest := List.append_cancel_left same
  obtain ⟨uidMin, rest⟩ := formatInt64_append_inj (dash _) (dash _) rest
  have rest := List.append_cancel_left rest
  obtain ⟨uidMax, rest⟩ := formatInt64_append_inj (gap _) (gap _) rest
  have rest := List.append_cancel_left rest
  obtain ⟨gidMin, rest⟩ := formatInt64_append_inj (dash _) (dash _) rest
  have rest := List.append_cancel_left rest
  obtain ⟨gidMax, -⟩ :=
    formatInt64_append_inj (ends_sourceText _) (ends_sourceText _) rest
  exact ⟨uidMin, uidMax, gidMin, gidMax⟩

theorem rangesText_eq_iff {first second : SbvIdmapHints}
    (source : first.source = second.source) :
    rangesText first = rangesText second ↔ SameRanges first second := by
  constructor
  · exact sameRanges_of_rangesText
  · rintro ⟨uidMin, uidMax, gidMin, gidMax⟩
    rw [rangesText, uidMin, uidMax, gidMin, gidMax, source, ← rangesText]

theorem source_merged {first second : SbvIdmapHints}
    (uid : first.nextUidHint = second.nextUidHint)
    (gid : first.nextGidHint = second.nextGidHint) (source : first.source = second.source)
    (entry : Option Attributes) :
    (first.merged entry).source = (second.merged entry).source := by
  cases entry with
  | none => exact source
  | some entry =>
      simp only [SbvIdmapHints.merged, Option.elim_some, SbvIdmapHints.withPublished, uid,
        gid, source]

/-- Whatever the server published when the two labels were made. -/
theorem rangesText_iff {first second : SbvProfile} (entry : Option Attributes) :
    (∃ other, rangesText ((sbvIdmapHintsFromProfile first).merged entry) =
        rangesText ((sbvIdmapHintsFromProfile second).merged other)) ↔
      SameRanges (sbvIdmapHintsFromProfile first) (sbvIdmapHintsFromProfile second) := by
  constructor
  · rintro ⟨other, same⟩
    have bounds := sameRanges_of_rangesText same
    rwa [sameRanges_merged_left, sameRanges_merged_right] at bounds
  · intro same
    refine ⟨entry, (rangesText_eq_iff ?_).mpr ?_⟩
    · apply source_merged
      · rfl
      · rfl
      · rfl
    · rwa [sameRanges_merged_left, sameRanges_merged_right]

end StatusBar

end Sambervise.Ui
