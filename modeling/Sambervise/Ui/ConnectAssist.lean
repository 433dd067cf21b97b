import Sambervise.Backend.IdmapHints
import Sambervise.Backend.Probe
import Sambervise.Transition.Partial
import Sambervise.Ui.EditUntouched
import Sambervise.Ui.LocalDomain

namespace Sambervise.Ui.ConnectDialog

open Text Ldap Model Backend Transition

/-! The connect dialog while it is open: what helps to fill its form, and how it ends. -/

/-! Finding domain controllers -/

/-- One SRV record. -/
structure DcTarget where
  hostname : CString
  port : BitVec 16
  deriving DecidableEq, Repr

/-- The targets in the order that the resolver gives them, or the text of its error. -/
abbrev Resolver := CString → Except CString (List DcTarget)

def lookupMsdcs (resolver : Resolver) (domain : CString) : Except CString (List DcTarget) :=
  match resolver (cstr "dc._msdcs." ++ domain) with
  | .ok (first :: rest) => .ok (first :: rest)
  | _ => resolver domain

def discoverThread (resolver : Resolver) (domain : CString) :
    Except CString (List DcTarget) :=
  match lookupMsdcs resolver domain with
  | .error text => .error text
  | .ok [] =>
      .error (cstr "No LDAP SRV records found for domain '" ++ domain ++ cstr "'")
  | .ok (first :: rest) => .ok (first :: rest)

/-! What a probe finds beside the RootDSE -/

/-- `fetch_idmap` with the entry that its search finds. -/
def fetchIdmap (profile : SbvProfile) (entry : Option Attributes) : SbvIdmapHints :=
  let hints := sbvIdmapHintsFromProfile profile
  if orEmpty profile.baseDn = [] then hints else hints.merged entry

structure ProbeReply where
  rootdse : List (CString × List CString)
  idmap : Option SbvIdmapHints
  bindError : Option GError

/-- `probeThread` with the part that asks for the id ranges. -/
def probeDc (replies : ProbeReplies) (entry : Option Attributes) (library : Libldap)
    (data : ProbeData) : Except GError ProbeReply :=
  (probeThread replies data library).1.map fun result =>
    { rootdse := result.rootdse
      idmap :=
        if replies.bindRc = ldapSuccess then data.bindProfile.map (fetchIdmap · entry)
        else none
      bindError := result.bindError }

/-! The form -/

inductive TextEntry where
  | name
  | host
  | baseDn
  | bindDn
  | password
  deriving DecidableEq, Repr

def Form.setText (d : Form) (text : CString) : TextEntry → Form
  | .name => { d with nameEntry := text }
  | .host => { d with hostEntry := text }
  | .baseDn => { d with baseDnEntry := text }
  | .bindDn => { d with bindDnEntry := text }
  | .password => { d with passwordEntry := text }

/-- The four spin buttons of the id ranges. -/
inductive Bound where
  | uidMin
  | uidMax
  | gidMin
  | gidMax
  deriving DecidableEq, Repr

def Bound.all : List Bound := [.uidMin, .uidMax, .gidMin, .gidMax]

def Form.spin (d : Form) : Bound → GInt64
  | .uidMin => d.uidMinSpin
  | .uidMax => d.uidMaxSpin
  | .gidMin => d.gidMinSpin
  | .gidMax => d.gidMaxSpin

def Form.setSpin (d : Form) (value : GInt64) : Bound → Form
  | .uidMin => { d with uidMinSpin := spinSetValue 0 2147483647 value }
  | .uidMax => { d with uidMaxSpin := spinSetValue 0 2147483647 value }
  | .gidMin => { d with gidMinSpin := spinSetValue 0 2147483647 value }
  | .gidMax => { d with gidMaxSpin := spinSetValue 0 2147483647 value }

def hintBound (hints : SbvIdmapHints) : Bound → GInt64
  | .uidMin => hints.uidMin
  | .uidMax => hints.uidMax
  | .gidMin => hints.gidMin
  | .gidMax => hints.gidMax

/-- The probe leaves a spin button alone that has a value. -/
def fills (hints : SbvIdmapHints) (d : Form) (bound : Bound) : Bool :=
  0 < (hintBound hints bound).toInt && d.spin bound == 0

def fillSpin (hints : SbvIdmapHints) (d : Form) (bound : Bound) : Form :=
  if fills hints d bound then d.setSpin (hintBound hints bound) bound else d

def fillSpins (hints : SbvIdmapHints) (d : Form) : Form :=
  Bound.all.foldl (fillSpin hints) d

def Form.setDc (d : Form) (target : DcTarget) : Form :=
  let d := { d with hostEntry := target.hostname }
  if target.port = 0 then d
  else { d with portSpin := spinSetValue 1 65535 (target.port.setWidth 32) }

def suggestBaseDn (domain : CString) (d : Form) : Form :=
  if d.baseDnEntry = [] then
    { d with baseDnEntry := (domainToBaseDn (some domain)).getD d.baseDnEntry }
  else d

/-- The form says enough to bind with. -/
def bindProfile (d : Form) : Option SbvProfile :=
  if d.baseDnEntry ≠ [] ∧ (d.simpleRadio → d.bindDnEntry ≠ [] ∧ d.passwordEntry ≠ []) then
    some (buildProfile d)
  else none

def probeData (d : Form) : ProbeData :=
  { host := some d.hostEntry
    port :=
      if 0 < d.portSpin.toInt then d.portSpin else if d.useLdapsCheck then 636 else 389
    useLdaps := d.useLdapsCheck
    useStarttls := d.useTlsCheck
    skipCert := d.skipCertCheck
    bindProfile := bindProfile d
    bindPassword :=
      (bindProfile d).bind fun _ => if d.simpleRadio then some d.passwordEntry else none }

/-! What the labels show -/

inductive Notice where
  | text (text : CString)
  | error (error : GError)
  /-- The error of the file operation. -/
  | file
  deriving DecidableEq, Repr

def rootDsePairs : List (String × String) :=
  [ ("dnsHostName", "DC Hostname"), ("defaultNamingContext", "Default NC"),
    ("domainFunctionality", "Domain Level"), ("forestFunctionality", "Forest Level"),
    ("domainControllerFunctionality", "DC Level"), ("supportedLDAPVersion", "LDAP Version"),
    ("supportedSASLMechanisms", "SASL Mechs") ]

def rootDseRows (rootdse : List (CString × List CString)) : List (CString × Notice) :=
  rootDsePairs.filterMap fun pair =>
    match rootdse.lookup (cstr pair.1) with
    | none | some [] => none
    | some values => some (cstr pair.2, .text (strjoinv (cstr ", ") values))

def hintRow (label : String) (hint : GInt64) : List (CString × Notice) :=
  if 0 ≤ hint.toInt then [(cstr label, .text (formatInt64 hint))] else []

def rangeText (min max : GInt64) : CString := formatInt64 min ++ cstr "–" ++ formatInt64 max

def idmapRows (hints : SbvIdmapHints) : List (CString × Notice) :=
  [ (cstr "UID range", .text (rangeText hints.uidMin hints.uidMax)),
    (cstr "GID range", .text (rangeText hints.gidMin hints.gidMax)) ] ++
    hintRow "Next UID hint" hints.nextUidHint ++ hintRow "Next GID hint" hints.nextGidHint ++
    [(cstr "Source", .text hints.source)]

def probeRenderResult (reply : ProbeReply) : List (CString × Notice) :=
  let summary := rootDseRows reply.rootdse
  (if summary = [] then [(cstr "Result", .text (cstr "Reachable, but RootDSE is empty."))]
    else summary) ++
    match reply.idmap, reply.bindError with
    | some hints, _ => idmapRows hints
    | none, some error => [(cstr "Idmap lookup", .error error)]
    | none, none => []

/-! The dialog -/

structure DialogData (kf : GKeyFile) where
  form : Form := {}
  domainEntry : CString := []
  /-- The buttons are sensitive. -/
  discoverBtn : Bool := true
  probeBtn : Bool := true
  /-- The rows of the list of domain controllers, and whether it is shown. -/
  dcList : List DcTarget := []
  dcScroll : Bool := false
  probeBox : List (CString × Notice) := []
  probeFrame : Bool := false
  posixExpander : Bool := false
  errorLabel : Option Notice := none
  busy : Bool := false
  editOnly : Bool := false
  originalName : Option CString := none
  profiles : Profiles kf
  /-- What is under way: the domain that is looked up, the probe, and the profile that is
  connected with. -/
  discovering : Option CString := none
  probing : Option ProbeData := none
  connecting : Option SbvProfile := none
  /-- The window is there, and the data with it. -/
  alive : Bool := true
  /-- The profiles that the callback was given. -/
  handedOn : List (Option SbvProfile) := []

variable {kf : GKeyFile}

namespace DialogData

def onDiscoverClicked (d : DialogData kf) : DialogData kf :=
  if d.discoverBtn = false then d
  else if d.domainEntry = [] then
    { d with errorLabel := some (.text (cstr "Enter a domain name first.")) }
  else
    { d with
      errorLabel := none
      discoverBtn := false
      form := suggestBaseDn d.domainEntry d.form
      discovering := some d.domainEntry }

/-- A single domain controller goes into the form at once. -/
def showTargets (d : DialogData kf) (targets : List DcTarget) : DialogData kf :=
  { d with
    errorLabel := none
    dcList := targets
    form :=
      match targets with
      | [only] => d.form.setDc only
      | _ => d.form
    dcScroll := 1 < targets.length }

def onDiscoverDone (d : DialogData kf) : Except CString (List DcTarget) → DialogData kf
  | .error text => { d with discoverBtn := true, errorLabel := some (.text text) }
  | .ok targets => { d with discoverBtn := true }.showTargets targets

def onDcRowActivated (d : DialogData kf) (index : Nat) : DialogData kf :=
  match d.dcList[index]? with
  | none => d
  | some target => { d with form := d.form.setDc target }

def onProbeClicked (d : DialogData kf) : DialogData kf :=
  if d.probeBtn = false then d
  else if d.form.hostEntry = [] then
    { d with errorLabel := some (.text (cstr "Enter a host first.")) }
  else
    { d with
      errorLabel := none
      probeBtn := false
      probing := some (probeData d.form) }

def onProbeDone (d : DialogData kf) : Except GError ProbeReply → DialogData kf
  | .error error =>
      { d with
        probeBtn := true
        probeBox := [(cstr "Probe failed", .error error)]
        probeFrame := true }
  | .ok reply =>
      let d := { d with probeBtn := true, probeBox := probeRenderResult reply, probeFrame := true }
      match reply.idmap with
      | none => d
      | some hints =>
          { d with
            form := fillSpins hints d.form
            posixExpander := d.posixExpander || Bound.all.any (fills hints d.form) }

/-- The label that a refused form gets; one about the ranges also shows them. -/
def refuse (d : DialogData kf) (text : CString) : DialogData kf :=
  { d with
    errorLabel := some (.text text)
    posixExpander :=
      d.posixExpander ||
        text == cstr "POSIX range max must be greater than or equal to min." }

def onConnectClicked (d : DialogData kf) : DialogData kf :=
  match validateInputs d.form true with
  | some text => d.refuse text
  | none =>
      { d with errorLabel := none, busy := true, connecting := some (buildProfile d.form) }

def onConnectDone (d : DialogData kf) (failure : Option GError) (writes : Bool) :
    DialogData kf :=
  match failure with
  | some error => { d with errorLabel := some (.error error), busy := false }
  | none =>
      let (saved, profiles) := ConnectDialog.onConnectDone d.form writes d.profiles
      { d with profiles, alive := false, handedOn := d.handedOn ++ [saved] }

def onSaveClicked (d : DialogData kf) (replies : SaveReplies) : DialogData kf :=
  let (saved, profiles) :=
    ConnectDialog.onSaveClicked d.originalName replies d.form d.profiles
  match saved with
  | .error (.label text) => { d with profiles }.refuse text
  | .error .file => { d with profiles, errorLabel := some .file }
  | .ok profile =>
      { d with profiles, alive := false, handedOn := d.handedOn ++ [some profile] }

/-- The handler that is connected to the button depends on the dialog's mode. -/
def onButtonClicked (d : DialogData kf) (replies : SaveReplies) : DialogData kf :=
  if d.busy then d
  else if d.editOnly then d.onSaveClicked replies
  else d.onConnectClicked

end DialogData

/-! Events -/

inductive Event where
  | typed (entry : TextEntry) (text : CString)
  | domainTyped (text : CString)
  | portSet (port : GInt)
  | authSet (simple : Bool)
  | tlsSet (active : Bool)
  | ldapsSet (active : Bool)
  | skipCertSet (active : Bool)
  | spinSet (bound : Bound) (value : GInt64)
  | dcActivated (index : Nat)
  | discoverClicked
  | probeClicked
  | buttonClicked (replies : SaveReplies)
  /-- The cancel button, or the window manager. -/
  | closed
  | discoverDone (resolver : Resolver)
  | probeDone (replies : ProbeReplies) (entry : Option Attributes) (library : Libldap)
  | connectDone (failure : Option GError) (writes : Bool)

/-- What the admin changes in the form: the host and the port only while they are
sensitive. -/
def Event.edit (busy : Bool) (d : Form) : Event → Form
  | .typed entry text => if busy = true ∧ entry = .host then d else d.setText text entry
  | .portSet port => if busy then d else { d with portSpin := spinSetValue 1 65535 port }
  | .authSet simple => { d with simpleRadio := simple }
  | .tlsSet active => { d with useTlsCheck := active }
  | .ldapsSet active => setUseLdaps (some onLdapsToggled) active d
  | .skipCertSet active => { d with skipCertCheck := active }
  | .spinSet bound value => d.setSpin value bound
  | _ => d

namespace DialogData

/-- A new connection: the domain is that of the machine, where it has one. -/
def new (profiles : Profiles kf) (domain : Option CString) : DialogData kf :=
  { profiles, domainEntry := orEmpty domain }

/-- A stored profile, to connect with it or only to edit it. -/
def opened (profiles : Profiles kf) (profile : SbvProfile) (editOnly : Bool) : DialogData kf :=
  { profiles
    editOnly
    originalName := if editOnly then profile.name else none
    form := populate profile
    posixExpander := (bounds profile).any fun bound => 0 < bound.2.toInt }

/-- What the admin does at the open dialog. -/
def act (d : DialogData kf) (event : Event) : DialogData kf :=
  match event with
  | .domainTyped text => { d with domainEntry := text }
  | .dcActivated index => d.onDcRowActivated index
  | .discoverClicked => d.onDiscoverClicked
  | .probeClicked => d.onProbeClicked
  | .buttonClicked replies => d.onButtonClicked replies
  | .closed => { d with alive := false }
  | event => { d with form := event.edit d.busy d.form }

/-- A completion for a dialog that is gone has no result. -/
def handle (d : DialogData kf) (event : Event) : Option (DialogData kf) :=
  match event with
  | .discoverDone resolver =>
      match d.discovering with
      | none => some d
      | some domain =>
          if d.alive then
            some ({ d with discovering := none }.onDiscoverDone (discoverThread resolver domain))
          else none
  | .probeDone replies entry library =>
      match d.probing with
      | none => some d
      | some data =>
          if d.alive then
            some ({ d with probing := none }.onProbeDone (probeDc replies entry library data))
          else none
  | .connectDone failure writes =>
      match d.connecting with
      | none => some d
      | some _ =>
          if d.alive then some ({ d with connecting := none }.onConnectDone failure writes)
          else none
  | event => some (if d.alive then d.act event else d)

def step : Option (DialogData kf) → Event → Option (DialogData kf) := attempt handle

end DialogData

end Sambervise.Ui.ConnectDialog
