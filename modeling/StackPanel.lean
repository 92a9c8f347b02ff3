import StackPanel.Main
import StackPanel.Proofs.Action.Create
import StackPanel.Proofs.Session.Background
import StackPanel.Proofs.Session.Cursor
import StackPanel.Proofs.Session.Exclusion
import StackPanel.Proofs.Session.ListView
import StackPanel.Proofs.Session.OpenEdit
import StackPanel.Proofs.Action.StackTarget
import StackPanel.Proofs.Action.Headers
import StackPanel.Proofs.Session.Fields
import StackPanel.Proofs.Session.ApiKey
import StackPanel.Proofs.Screen.CardList
import StackPanel.Proofs.Session.Selection
import StackPanel.Proofs.Session.StackIds
import StackPanel.Proofs.Session.SavedFile
import StackPanel.Proofs.Action.OtherKey
import StackPanel.Proofs.Screen.KeyMask
import StackPanel.Proofs.Session.OtherKey
import StackPanel.Proofs.Panel.Store
import StackPanel.Proofs.Action.Course
import StackPanel.Proofs.Action.Failure
import StackPanel.Proofs.Action.Response
import StackPanel.Proofs.Terminal.Unsaved
import StackPanel.Proofs.Session.Unsaved
import StackPanel.Proofs.Terminal.Focus
import StackPanel.Proofs.Session.Consistent
import StackPanel.Proofs.CommandLine.Job
import StackPanel.Proofs.Stack.Listing
import StackPanel.Proofs.Stack.Timestamp
import StackPanel.Proofs.Stack.Memory
import StackPanel.Proofs.Service.Address
import StackPanel.Proofs.Stack.PortDisplay
import StackPanel.Proofs.Screen.CardColumns
import StackPanel.Proofs.Screen.CardScroll
import StackPanel.Proofs.Screen.EditCursor
import StackPanel.Proofs.Screen.Frame
