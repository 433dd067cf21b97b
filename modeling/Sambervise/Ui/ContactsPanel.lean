import Sambervise.Backend.Contacts

namespace Sambervise.Ui

open Text Model Backend

/-! The form of the contacts panel. -/

namespace Contacts

inductive Entry where
  | cn
  | display
  | given
  | sn
  | description
  | mail
  | tel
  | mobile
  | fax
  | office
  | street
  | locality
  | state
  | postal
  | country
  deriving DecidableEq, Repr

/-- The entries of one line, and the text view of the proxy addresses. -/
structure Form where
  text : Entry → CString := fun _ => []
  proxy : CString := []

def newline : UInt8 := 0x0A

def strvToLines (v : Option (List CString)) : CString := strjoinv [newline] (v.getD [])

/-- The loop of `lines_to_strv` at `p`, with what it has put into `out`. -/
def linesToStrvLoop (p : CString) (out : List CString) : List CString :=
  if p = [] then out
  else
    let line := p.takeWhile (· != newline)
    let out :=
      if line = [] then out
      else if strstrip line = [] then out
      else out ++ [strstrip line]
    if strchr newline p = [] then out else linesToStrvLoop (strchr newline p).tail out
termination_by p.length
decreasing_by exact length_tail_strchr ‹_›

def linesToStrv (text : CString) : List CString := linesToStrvLoop text []

def loadContactIntoDetail (contact : SbvContact) : Form :=
  { text := fun
      | .cn => orEmpty contact.cn
      | .display => orEmpty contact.displayName
      | .given => orEmpty contact.givenName
      | .sn => orEmpty contact.sn
      | .description => orEmpty contact.description
      | .mail => orEmpty contact.mail
      | .tel => orEmpty contact.telephoneNumber
      | .mobile => orEmpty contact.mobile
      | .fax => orEmpty contact.fax
      | .office => orEmpty contact.office
      | .street => orEmpty contact.streetAddress
      | .locality => orEmpty contact.locality
      | .state => orEmpty contact.state
      | .postal => orEmpty contact.postalCode
      | .country => orEmpty contact.country
    proxy := strvToLines contact.proxyAddresses }

/-- What Save hands to the backend: of all the entries only an unchanged `cn` is left out. -/
def onSaveClicked (contact : SbvContact) (form : Form) : Contacts.UpdateData :=
  { dn := contact.dn
    cn := if form.text .cn = orEmpty contact.cn then none else some (form.text .cn)
    displayName := some (form.text .display)
    givenName := some (form.text .given)
    sn := some (form.text .sn)
    description := some (form.text .description)
    mail := some (form.text .mail)
    telephoneNumber := some (form.text .tel)
    mobile := some (form.text .mobile)
    fax := some (form.text .fax)
    office := some (form.text .office)
    streetAddress := some (form.text .street)
    locality := some (form.text .locality)
    state := some (form.text .state)
    postalCode := some (form.text .postal)
    country := some (form.text .country)
    proxyAddresses := some (linesToStrv form.proxy) }

end Contacts

end Sambervise.Ui
