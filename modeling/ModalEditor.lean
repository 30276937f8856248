import ModalEditor.Main
import ModalEditor.Proofs.CommandLine.Transcript
import ModalEditor.Proofs.CommandLine.Typing
import ModalEditor.Proofs.Editor.Undo
import ModalEditor.Proofs.Session.InsertMode
import ModalEditor.Proofs.Files.Write
import ModalEditor.Proofs.Workspace.Action
import ModalEditor.Proofs.Workspace.Failure
import ModalEditor.Proofs.Workspace.Operation
import ModalEditor.Proofs.Command.Parse
import ModalEditor.Proofs.Workspace.Saving
import ModalEditor.Proofs.Workspace.Stack
import ModalEditor.Proofs.CommandLine.Event
import ModalEditor.Proofs.Plugin.Event
import ModalEditor.Proofs.CommandLine.Focus
import ModalEditor.Proofs.Plugin.BlockCursor
import ModalEditor.Proofs.Plugin.LeftBehind
import ModalEditor.Proofs.Session.Focus
import ModalEditor.Proofs.Editor.WellFormed
import ModalEditor.Proofs.Program.Session
import ModalEditor.Proofs.Session.Lines
import ModalEditor.Proofs.Workspace.Bare
import ModalEditor.Proofs.Session.Settings
import ModalEditor.Proofs.Motion.NextWord
import ModalEditor.Proofs.Motion.Sideways
import ModalEditor.Proofs.Editor.Opening
import ModalEditor.Proofs.Editor.Deletion
import ModalEditor.Proofs.Editor.Revert
import ModalEditor.Proofs.Motion.Counted
import ModalEditor.Proofs.Motion.Vertical
import ModalEditor.Proofs.Editor.WholeLines
import ModalEditor.Proofs.Key.Name
import ModalEditor.Proofs.Workspace.LineNumber
import ModalEditor.Proofs.Editor.Reversal
import ModalEditor.Proofs.Text.Monotone
import ModalEditor.Proofs.Motion.Tour
import ModalEditor.Proofs.Motion.Progress
import ModalEditor.Proofs.Key.Stability
import ModalEditor.Proofs.Motion.Sticky
import ModalEditor.Proofs.Editor.BoundedHistory
import ModalEditor.Proofs.SettingsFile.Load
