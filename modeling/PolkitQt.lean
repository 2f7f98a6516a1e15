import PolkitQt.Runs
import PolkitQt.HashTable
import PolkitQt.Subscriptions
import PolkitQt.Broadcast
import PolkitQt.RefCount
import PolkitQt.LabelledTrees
import PolkitQt.QtString
import PolkitQt.Polkit
import PolkitQt.Wrappers
import PolkitQt.Ownership
import PolkitQt.Leaks
import PolkitQt.Authority
import PolkitQt.AuthoritySystem
import PolkitQt.AuthorityResults
import PolkitQt.AuthorityCancel
import PolkitQt.AuthorityErrors
import PolkitQt.AuthorityGuards
import PolkitQt.AuthorityTwins
import PolkitQt.AuthorityAccessors
import PolkitQt.AuthoritySuccess
import PolkitQt.Seats
import PolkitQt.ListenerAdapter
import PolkitQt.AgentListener
import PolkitQt.AsyncResult
import PolkitQt.AgentSession
import PolkitQt.QtGui
import PolkitQt.Action
import PolkitQt.ActionVerdict
import PolkitQt.ActionDisplay
import PolkitQt.ActionSetters
import PolkitQt.ActionFamily
import PolkitQt.ActionButton
import PolkitQt.ButtonDisplay
import PolkitQt.ActionTexts
import PolkitQt.ButtonList
import PolkitQt.ButtonChecks
import PolkitQt.SetterChecks
import PolkitQt.ButtonReplace
import PolkitQt.QStringCodec
import PolkitQt.TextsSent
import PolkitQt.ObjectContents
import PolkitQt.SharedDetails
import PolkitQt.ProcessSubjects
import PolkitQt.SharedFields
import PolkitQt.ListenerRegistry
import PolkitQt.AgentDispatch
import PolkitQt.AgentAnswers
import PolkitQt.KListener
import PolkitQt.ActionPolicy
import PolkitQt.AuthorityProtocol
import PolkitQt.ButtonClicks
import PolkitQt.TextsReturned
import PolkitQt.ExampleHelper
