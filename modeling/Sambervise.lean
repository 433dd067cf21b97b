import Sambervise.Backend.AccountControl
import Sambervise.Backend.ConnectAtomic
import Sambervise.Backend.CreateList
import Sambervise.Backend.Creation
import Sambervise.Backend.EnableFlags
import Sambervise.Backend.FailedTasks
import Sambervise.Backend.LockBalance
import Sambervise.Backend.Membership
import Sambervise.Backend.Probe
import Sambervise.Backend.ProfileHistory
import Sambervise.Backend.SavedListing
import Sambervise.Backend.UniqueIds
import Sambervise.Backend.TriState
import Sambervise.Ui.AcceptedRanges
import Sambervise.Ui.ActiveProfile
import Sambervise.Ui.BuiltinGuard
import Sambervise.Ui.ConnectContexts
import Sambervise.Ui.ContactsReload
import Sambervise.Ui.Contexts
import Sambervise.Ui.CreateContexts
import Sambervise.Ui.CreatedAsAsked
import Sambervise.Ui.Credentials
import Sambervise.Ui.DefaultNames
import Sambervise.Ui.DeleteConfirm
import Sambervise.Ui.DeleteTyped
import Sambervise.Ui.DnLabels
import Sambervise.Ui.EditUntouched
import Sambervise.Ui.EditorKeeps
import Sambervise.Ui.FailedSaves
import Sambervise.Ui.FilterSearch
import Sambervise.Ui.FormKeeps
import Sambervise.Ui.FullName
import Sambervise.Ui.GroupsAsked
import Sambervise.Ui.HintsCache
import Sambervise.Ui.LastActivated
import Sambervise.Ui.ListFilters
import Sambervise.Ui.LocalDomain
import Sambervise.Ui.PolicySave
import Sambervise.Ui.ProbedRanges
import Sambervise.Ui.ProxyLines
import Sambervise.Ui.ReadYourWrites
import Sambervise.Ui.References
import Sambervise.Ui.RfcSave
import Sambervise.Ui.SaveTarget
import Sambervise.Ui.SingleFlight
import Sambervise.Ui.SpnEditor
import Sambervise.Ui.StatusBar
import Sambervise.Ui.StatusTexts
import Sambervise.Ui.Suggest
import Sambervise.Ui.TreeContexts
import Sambervise.Ui.TreeLevels
import Sambervise.Ui.UsersSave
import Sambervise.Ui.ValueLists
